import Horoscope.Proofs.Term.Boundary
import Horoscope.Proofs.Term.Inert
import Horoscope.Proofs.Term.Written
import Horoscope.Wording.TimeClause

set_option autoImplicit false

namespace Horoscope

theorem inert_day (day : Date) : Inert (Date.write day) := by
  have closed := ascii_kind_property isFigure (fun c => !isOpener c) figure_ascii (by decide) _
    (Date.write_figures day)
  exact inert_of_chars _ closed

theorem inert_to : Inert " to ".toList := inert_of_parts _ (by decide)

namespace BirthRange

theorem inert_write (range : BirthRange) : Inert range.write :=
  inert_append _ _ (inert_append _ _ (inert_day _) inert_to) (inert_day _)

theorem write_open (range : BirthRange) : ')' ∉ range.write := by
  have apart : ∀ day : Date, ')' ∉ Date.write day := by
    intro day
    exact not_mem_of_all isFigure _ ')' (Date.write_figures day) rfl
  simp only [write, List.mem_append, not_or]
  exact ⟨⟨apart _, by decide⟩, apart _⟩

theorem write_marks (range : BirthRange) : range.write.all isClauseMark = true := by
  simp only [write, List.all_append, figures_marks _ (Date.write_figures _)]
  decide

end BirthRange

namespace TimeClause

theorem birth_clause_marks (ranges : List BirthRange) :
    ∃ tail, birthClause ranges = "DOB".toList ++ ' ' :: tail ∧ tail.all isClauseMark = true := by
  refine ⟨'(' :: (", ".toList.intercalate (ranges.map BirthRange.write) ++ [')']), rfl, ?_⟩
  have inside : (", ".toList.intercalate (ranges.map BirthRange.write)).all isClauseMark = true := by
    refine joined_all _ _ _ (by decide) fun item written => ?_
    obtain ⟨range, -, rfl⟩ := List.mem_map.mp written
    exact range.write_marks
  rw [List.all_cons, List.all_append, inside]
  decide

theorem birth_clause_parts (ranges : List BirthRange) :
    ∃ content, birthClause ranges = content ++ ')' :: [] ∧ ')' ∉ content := by
  refine ⟨_, rfl, ?_⟩
  intro member
  rcases List.mem_append.mp member with atFront | inList
  · revert atFront
    decide
  · rcases mem_joined _ _ _ inList with atMark | ⟨item, listed, inside⟩
    · revert atMark
      decide
    · obtain ⟨range, -, rfl⟩ := List.mem_map.mp listed
      exact range.write_open inside

theorem birth_clause_opens (ranges : List BirthRange) : Opens (birthClause ranges) := rfl

theorem inert_birth_clause (ranges : List BirthRange) : Inert (birthClause ranges) := by
  refine inert_append _ _ (inert_append _ _ (inert_of_chars _ (by decide)) ?_) (inert_of_chars _ (by decide))
  refine inert_intercalate _ _ (inert_of_chars _ (by decide)) ?_
  intro item listed
  obtain ⟨range, -, rfl⟩ := List.mem_map.mp listed
  exact range.inert_write

end TimeClause
end Horoscope
