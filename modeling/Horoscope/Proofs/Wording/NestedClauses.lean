import Horoscope.Proofs.Term.Places
import Horoscope.Proofs.Wording.ClosingClause

set_option autoImplicit false

namespace Horoscope

theorem Text.first_mark_unique (mark : Char) (a b c d : Text) (same : a ++ mark :: b = c ++ mark :: d)
    (apart : mark ∉ a) (otherApart : mark ∉ c) : b = d := by
  have rest := congrArg (List.dropWhile (· != mark)) same
  rw [(before_mark mark a b apart).2, (before_mark mark c d otherApart).2] at rest
  exact (List.cons.inj rest).2

namespace Term

def SameClause : Term → Term → Prop
  | ages _, ages _ | periods _, periods _ => True
  | _, _ => False

theorem SameClause.symm {t u : Term} (same : SameClause t u) : SameClause u t := by
  cases t <;> cases u <;> trivial

theorem read_ages_of_read (text rest : Text) (listed : List Nat) (found : read text = some (ages listed, rest)) :
    readAges text = some (ages listed, rest) := by
  obtain ⟨written, rfl⟩ := read_cut _ _ _ found
  exact (read_ages_some_iff _ _ _).mpr ⟨listed, written, rfl, rfl, (reads_iff _ _ _).mp found⟩

theorem read_ages_end (text rest : Text) (t : Term) (found : readAges text = some (t, rest)) :
    ∃ body, text = body ++ ')' :: rest ∧ ')' ∉ body := by
  obtain ⟨listed, written, rfl, rfl, name, gap, content, rfl, spelled, blank, inside, -⟩ :=
    (read_ages_some_iff _ _ _).mp found
  have letters := spells_all Char.isAlphanum _ name spelled lower_alphanumeric (by decide)
  have named : ')' ∉ name := not_mem_of_all Char.isAlphanum name ')' letters rfl
  have spaced : ')' ∉ gap := not_mem_of_all isBlank gap ')' blank rfl
  refine ⟨name ++ gap ++ '(' :: content, by simp, ?_⟩
  simp only [List.mem_append, List.mem_cons, not_or]
  exact ⟨⟨named, spaced⟩, by decide, inside⟩

-- What is left behind a clause begins with the inner clause still to come, or is left behind that one too.
def LeftBehind (after inner innerAfter : Text) : Prop := (∃ gap, after = gap ++ inner) ∨ after = innerAfter

theorem read_ages_inside (front rest after innerAfter : Text) (outer inner : Term)
    (found : readAges (front ++ rest) = some (outer, after))
    (foundInner : readAges rest = some (inner, innerAfter)) : LeftBehind after rest innerAfter := by
  obtain ⟨body, cut, apart⟩ := read_ages_end _ _ _ found
  by_cases closed : ')' ∈ front
  · obtain ⟨content, gap, rfl, contentApart⟩ := List.eq_append_cons_of_mem closed
    rw [List.append_assoc] at cut
    exact .inl ⟨gap, (Text.first_mark_unique _ _ _ _ _ cut contentApart apart).symm⟩
  · obtain ⟨innerBody, rfl, innerApart⟩ := read_ages_end _ _ _ foundInner
    rw [← List.append_assoc] at cut
    have unclosed : ')' ∉ front ++ innerBody := by
      rw [List.mem_append, not_or]
      exact ⟨closed, innerApart⟩
    exact .inr (Text.first_mark_unique _ _ _ _ _ cut unclosed apart).symm

theorem read_periods_inside (front rest after innerAfter : Text) (outer inner : Term) (nonempty : front ≠ [])
    (detached : Detached front) (found : readPeriods (front ++ rest) = some (outer, after))
    (foundInner : readPeriods rest = some (inner, innerAfter)) : LeftBehind after rest innerAfter := by
  obtain ⟨tail, ⟨opens, content, rfl, apart⟩, rfl⟩ := periods_clause_text _ _ _ foundInner
  rcases periods_before front nonempty detached with (unread | ⟨t, gap, settled⟩) | swallowed
  · rw [unread _ opens] at found
    cases found
  · rw [settled _ opens] at found
    cases found
    exact .inl ⟨gap, rfl⟩
  · -- A group of the outer clause is open, and both go on behind the parenthesis that closes it.
    obtain ⟨listed, read⟩ := swallowed content tail apart opens
    rw [read] at found
    cases found
    exact .inr rfl

theorem read_inside (front rest after innerAfter : Text) (outer inner : Term) (nonempty : front ≠ [])
    (detached : Detached front) (same : SameClause outer inner)
    (found : read (front ++ rest) = some (outer, after)) (foundInner : read rest = some (inner, innerAfter)) :
    LeftBehind after rest innerAfter := by
  cases outer with
  | ages listed =>
      cases inner with
      | ages innerListed =>
          exact read_ages_inside _ _ _ _ _ _ (read_ages_of_read _ _ _ found) (read_ages_of_read _ _ _ foundInner)
      | _ => cases same
  | periods listed =>
      cases inner with
      | periods innerListed =>
          exact read_periods_inside _ _ _ _ _ _ nonempty detached (read_periods_of_read _ _ _ found)
            (read_periods_of_read _ _ _ foundInner)
      | _ => cases same
  | inHouse | conjunct | notWith => cases same

end Term

theorem mention_lengths (text : Text) (m : Mention) (member : m ∈ mentions text) :
    m.start + Text.byteLength m.text = Text.byteLength text ∧
      m.stop + Text.byteLength m.after = Text.byteLength text := by
  obtain ⟨-, cut, -, written, whole, start, stop⟩ := mention_parts text m member
  have lengths := Text.byte_length_append m.before m.text
  have behind := Text.byte_length_append (m.before ++ written) m.after
  rw [List.append_assoc, ← whole] at behind
  rw [← cut] at lengths behind
  omega

theorem later_mention (text : Text) (m n : Mention) (member : m ∈ mentions text) (later : n ∈ mentions text)
    (ordered : m.start ≤ n.start) :
    ∃ front, n.before = m.before ++ front ∧ m.text = front ++ n.text := by
  obtain ⟨-, cut, -, -, -, start, -⟩ := mention_parts text m member
  obtain ⟨-, laterCut, -, -, -, laterStart, -⟩ := mention_parts text n later
  rw [cut] at laterCut
  rcases List.append_eq_append_iff.mp laterCut with ⟨front, before, rest⟩ | ⟨back, before, rest⟩
  · exact ⟨front, before, rest⟩
  · have lengths := Text.byte_length_append n.before back
    rw [← before] at lengths
    have empty : back = [] := by
      by_contra nonempty
      have positive := Text.byte_length_positive back nonempty
      omega
    subst empty
    exact ⟨[], by simpa using before.symm, by simpa using rest.symm⟩

theorem clause_left_behind (text : Text) (m n : Mention) (member : m ∈ mentions text)
    (later : n ∈ mentions text) (ordered : m.start ≤ n.start) (same : Term.SameClause m.term n.term) :
    Term.LeftBehind m.after n.text n.after := by
  obtain ⟨found, -⟩ := mention_parts text m member
  obtain ⟨laterFound, -, detached, -⟩ := mention_parts text n later
  obtain ⟨front, before, cut⟩ := later_mention text m n member later ordered
  rw [cut] at found
  by_cases empty : front = []
  · rw [empty, List.nil_append, laterFound] at found
    exact .inr (Prod.mk.inj (Option.some.inj found)).2.symm
  · rw [before] at detached
    exact Term.read_inside front n.text _ _ _ _ empty (detached_append _ _ detached) same found laterFound

theorem clause_ends (text : Text) (m n : Mention) (member : m ∈ mentions text) (later : n ∈ mentions text)
    (ordered : m.start ≤ n.start) (same : Term.SameClause m.term n.term) :
    m.stop ≤ n.start ∨ m.stop = n.stop := by
  obtain ⟨-, outerEnd⟩ := mention_lengths text m member
  obtain ⟨innerStart, innerEnd⟩ := mention_lengths text n later
  rcases clause_left_behind text m n member later ordered same with ⟨gap, after⟩ | after
  · have lengths := Text.byte_length_append gap n.text
    rw [← after] at lengths
    exact .inl (by omega)
  · rw [after] at outerEnd
    exact .inr (by omega)

theorem closing_stops (text : Text) (m n : Mention) (member : m ∈ mentions text) (later : n ∈ mentions text)
    (closing : ClosingMention text m) (laterClosing : ClosingMention text n) (ordered : m.start ≤ n.start) :
    m.stop = n.stop := by
  obtain ⟨⟨listed, periods⟩, blank⟩ := (closing_mention_iff text m member).mp closing
  obtain ⟨⟨laterListed, laterPeriods⟩, -⟩ := (closing_mention_iff text n later).mp laterClosing
  have same : Term.SameClause m.term n.term := by
    rw [periods, laterPeriods]
    trivial
  obtain ⟨-, outerEnd⟩ := mention_lengths text m member
  obtain ⟨-, innerEnd⟩ := mention_lengths text n later
  rcases clause_left_behind text m n member later ordered same with ⟨gap, after⟩ | after
  · obtain ⟨found, -⟩ := mention_parts text n later
    rw [laterPeriods] at found
    obtain ⟨tail, clause, -⟩ := Term.periods_clause_text _ _ _ (Term.read_periods_of_read _ _ _ found)
    rw [after, Term.clause_not_blank n.text tail clause gap] at blank
    cases blank
  · rw [after] at outerEnd
    omega

def EndsWith (text : Text) (m n : Mention) : Prop :=
  ∃ before lead written after, Slice text m.start m.stop before (lead ++ written) after ∧
    Slice text n.start n.stop (before ++ lead) written after

theorem closing_ends_with (text : Text) (m n : Mention) (member : m ∈ mentions text) (later : n ∈ mentions text)
    (closing : ClosingMention text m) (laterClosing : ClosingMention text n) (ordered : m.start ≤ n.start) :
    EndsWith text m n := by
  have stops := closing_stops text m n member later closing laterClosing ordered
  obtain ⟨-, -, -, -, -, start, -⟩ := mention_parts text m member
  obtain ⟨-, cut, -, written, whole, laterStart, laterStop⟩ := mention_parts text n later
  obtain ⟨front, before, -⟩ := later_mention text m n member later ordered
  rw [before] at cut laterStart laterStop
  rw [whole] at cut
  refine ⟨m.before, front, written, n.after, ⟨?_, start, ?_⟩, ?_, laterStart, laterStop⟩
  · rw [cut]
    simp
  · rw [stops, ← laterStop, List.append_assoc]
  · rw [cut]
    simp

structure Outermost (text : Text) (m : Mention) : Prop where
  mentioned : m ∈ mentions text
  closing : ClosingMention text m
  contains : ∀ n ∈ mentions text, ClosingMention text n → m.start ≤ n.start ∧ n.stop = m.stop

theorem first_closing_iff (text : Text) (m : Mention) : FirstClosing text m ↔ Outermost text m := by
  have increasing : (mentions text).Pairwise fun a b => a.start < b.start := mentions_from_ordered [] text
  apply Iff.intro
  · intro first
    have here := first_member text m first
    obtain ⟨closing, earlier, later, cut, unclosed⟩ := first
    refine ⟨here, closing, fun n member laterClosing => ?_⟩
    have ordered : m.start ≤ n.start := by
      have listed := member
      rw [cut] at increasing listed
      rcases List.mem_append.mp listed with before | behind
      · exact absurd laterClosing (unclosed n before)
      · rcases List.mem_cons.mp behind with rfl | after
        · exact Nat.le_refl _
        · exact Nat.le_of_lt ((List.pairwise_cons.mp (List.pairwise_append.mp increasing).2.1).1 n after)
    exact ⟨ordered, (closing_stops text m n here member closing laterClosing ordered).symm⟩
  · intro outermost
    obtain ⟨here, closing, contains⟩ := outermost
    obtain ⟨earlier, later, cut⟩ := List.append_of_mem here
    refine ⟨closing, earlier, later, cut, fun e before earlierClosing => ?_⟩
    have member : e ∈ mentions text := by
      rw [cut]
      exact List.mem_append_left _ before
    have beyond := (contains e member earlierClosing).1
    rw [cut] at increasing
    have begun := (List.pairwise_append.mp increasing).2.2 e before m List.mem_cons_self
    omega

namespace TimeClause

theorem clauses_never_cross (text : Text) :
    (∀ m ∈ mentions text, ∀ n ∈ mentions text, Term.SameClause m.term n.term →
      m.stop ≤ n.start ∨ n.stop ≤ m.start ∨ m.stop = n.stop) ∧
    (∀ m ∈ mentions text, ∀ n ∈ mentions text, ClosingMention text m → ClosingMention text n →
      m.stop = n.stop ∧ (EndsWith text m n ∨ EndsWith text n m)) ∧
    (∀ before listed, find? text = some (before, listed) ↔
      ∃ m, Outermost text m ∧ m.term = .periods listed ∧ m.before = before) ∧
    ∀ today, restate today text ≠ text → ∃ m listed, Outermost text m ∧ m.term = .periods listed ∧
      restate today text = m.before ++ birthClause (listed.filterMap (BirthRange.ofPeriod? today)) := by
  have found_iff : ∀ before listed, find? text = some (before, listed) ↔
      ∃ m, Outermost text m ∧ m.term = .periods listed ∧ m.before = before := by
    intro before listed
    simp only [find_some_iff, first_closing_iff]
  refine ⟨fun m member n later same => ?_, fun m member n later closing laterClosing => ?_, found_iff,
    fun today changed => ?_⟩
  · rcases Nat.le_total m.start n.start with ordered | ordered
    · rcases clause_ends text m n member later ordered same with apart | together
      · exact .inl apart
      · exact .inr (.inr together)
    · rcases clause_ends text n m later member ordered same.symm with apart | together
      · exact .inr (.inl apart)
      · exact .inr (.inr together.symm)
  · rcases Nat.le_total m.start n.start with ordered | ordered
    · exact ⟨closing_stops text m n member later closing laterClosing ordered,
        .inl (closing_ends_with text m n member later closing laterClosing ordered)⟩
    · exact ⟨(closing_stops text n m later member laterClosing closing ordered).symm,
        .inr (closing_ends_with text n m later member laterClosing closing ordered)⟩
  · cases found : find? text with
    | none => exact absurd (restate_of_none today text found) changed
    | some result =>
        obtain ⟨before, listed⟩ := result
        obtain ⟨m, outermost, periods, rfl⟩ := (found_iff before listed).mp found
        have whole := restate_of_some today text m.before listed found
        by_cases empty : listed.filterMap (BirthRange.ofPeriod? today) = []
        · rw [if_pos empty] at whole
          exact absurd whole changed
        · rw [if_neg empty] at whole
          exact ⟨m, listed, outermost, periods, whole⟩

-- The first group of one clause takes in the head of another, and the second group belongs to both.
def nestedClauses : Text := "mars in 3 AND TIME((TIME((soon) (2019-07-20 to 2024)) ".toList

def throughThisYear : List Period := [⟨⟨2019, 7, 20, by decide⟩, .withYear 2024⟩]

def earlySummer : Date := ⟨2024, 6, 2, by decide⟩

theorem nested_clauses_end_together :
    (∃ m ∈ mentions nestedClauses, ∃ n ∈ mentions nestedClauses, m.start = 14 ∧ n.start = 20 ∧
      Term.SameClause m.term n.term ∧ (m.stop ≤ n.start ∨ n.stop ≤ m.start ∨ m.stop = n.stop) ∧
      ClosingMention nestedClauses m ∧ ClosingMention nestedClauses n ∧
      (EndsWith nestedClauses m n ∨ EndsWith nestedClauses n m)) ∧
    restate earlySummer nestedClauses ≠ nestedClauses ∧
      ∃ m listed, Outermost nestedClauses m ∧ m.term = .periods listed ∧
        restate earlySummer nestedClauses =
          m.before ++ birthClause (listed.filterMap (BirthRange.ofPeriod? earlySummer)) := by
  obtain ⟨apart, together, -, outermost⟩ := clauses_never_cross nestedClauses
  have outer : ⟨.periods throughThisYear, 14, 53⟩ ∈ placedTerms nestedClauses := by decide +kernel
  have inner : ⟨.periods throughThisYear, 20, 53⟩ ∈ placedTerms nestedClauses := by decide +kernel
  obtain ⟨m, member, here⟩ := List.mem_map.mp outer
  obtain ⟨n, later, there⟩ := List.mem_map.mp inner
  obtain ⟨periods, start, stop⟩ := Placed.mk.inj here
  obtain ⟨laterPeriods, laterStart, laterStop⟩ := Placed.mk.inj there
  have reached : ReachesEnd nestedClauses 53 := ⟨nestedClauses.take 53, [' '], by decide, by decide, rfl⟩
  have closing : ClosingMention nestedClauses m := ⟨⟨_, periods⟩, by rwa [stop]⟩
  have laterClosing : ClosingMention nestedClauses n := ⟨⟨_, laterPeriods⟩, by rwa [laterStop]⟩
  have same : Term.SameClause m.term n.term := by
    rw [periods, laterPeriods]
    trivial
  have changed : restate earlySummer nestedClauses ≠ nestedClauses := by decide +kernel
  exact ⟨⟨m, member, n, later, start, laterStart, same, apart m member n later same, closing, laterClosing,
    (together m member n later closing laterClosing).2⟩, changed, outermost earlySummer changed⟩

end TimeClause
end Horoscope
