import Horoscope.Proofs.Text.Words
import Horoscope.Text.Search

set_option autoImplicit false

namespace Horoscope.Text

structure WholeWords (find : Option Char → Text → Option (Text × Text)) (wanted : Text → Bool) : Prop where
  apart : ∀ before c rest, isWordChar c = false ∨ before.any isWordChar = true → find before (c :: rest) = none
  word : ∀ before run rest, before.any isWordChar = false → run ≠ [] → run.all isWordChar = true →
    rest.head?.any isWordChar = false →
      find before (run ++ rest) = if wanted run then some (run, rest) else none

section Finder

variable {find : Option Char → Text → Option (Text × Text)} {wanted : Text → Bool}

theorem finds_skipped (c : Char) (front rest : Text) :
    findsFrom find (some c) front.length (front ++ rest) = findsFrom find (c :: front).getLast? 0 rest := by
  induction front generalizing c with
  | nil => rfl
  | cons d front ih => rw [List.cons_append, List.length_cons, findsFrom, ih, List.getLast?_cons_cons]

theorem finds_inside (whole : WholeWords find wanted) (c : Char) (front rest : Text)
    (all : (c :: front).all isWordChar = true) :
    findsFrom find (some c) 0 (front ++ rest) = findsFrom find (c :: front).getLast? 0 rest := by
  induction front generalizing c with
  | nil => rfl
  | cons d front ih =>
      rw [List.all_cons, Bool.and_eq_true] at all
      have nothing := whole.apart (some c) d (front ++ rest) (.inr all.1)
      rw [List.cons_append, findsFrom, nothing]
      dsimp only
      rw [ih d all.2, List.getLast?_cons_cons]

theorem finds_word (whole : WholeWords find wanted) (before : Option Char) (c : Char) (front rest : Text)
    (outside : before.any isWordChar = false) (all : (c :: front).all isWordChar = true)
    (ended : rest.head?.any isWordChar = false) :
    findsFrom find before 0 (c :: front ++ rest) =
      [c :: front].filter wanted ++ findsFrom find (c :: front).getLast? 0 rest := by
  have hit := whole.word before (c :: front) rest outside (List.cons_ne_nil c front) all ended
  rw [List.cons_append] at hit ⊢
  rw [findsFrom, hit]
  by_cases known : wanted (c :: front) = true
  · simp only [if_pos known]
    rw [List.length_append, Nat.add_sub_cancel, finds_skipped, List.filter_cons_of_pos known]
    rfl
  · simp only [if_neg known]
    rw [finds_inside whole c front rest all, List.filter_cons_of_neg known]
    rfl

theorem finds_from_words (whole : WholeWords find wanted) (before : Option Char) (text : Text)
    (outside : text.head?.any isWordChar = true → before.any isWordChar = false) :
    findsFrom find before 0 text = (words text).filter wanted := by
  induction length : text.length using Nat.strongRecOn generalizing before text with
  | ind n ih =>
      cases text with
      | nil => rfl
      | cons c tail =>
          rw [List.length_cons] at length
          cases word : isWordChar c with
          | false =>
              have nothing := whole.apart before c tail (.inl word)
              have later := ih tail.length (by omega) (some c) tail (fun _ => by simpa using word) rfl
              have gap := words_gap [c] tail (by simp [word])
              rw [findsFrom, nothing]
              dsimp only
              rw [later, ← gap, List.singleton_append]
          | true =>
              obtain ⟨cut, inside, ended⟩ := while_cut isWordChar tail
              generalize tail.takeWhile isWordChar = front at cut inside
              generalize tail.dropWhile isWordChar = rest at cut ended
              subst cut
              rw [List.length_append] at length
              have all : (c :: front).all isWordChar = true := by rw [List.all_cons, word, inside]; rfl
              have next : rest.head?.any isWordChar = true → (c :: front).getLast?.any isWordChar = false := by
                intro begun
                rw [ended] at begun
                cases begun
              have later := ih rest.length (by omega) (c :: front).getLast? rest next rfl
              have begun := outside (by simpa using word)
              rw [← List.cons_append, finds_word whole before c front rest begun all ended, later,
                words_word_append _ _ (List.cons_ne_nil _ _) all ended, ← List.filter_append,
                List.singleton_append]

theorem finds_words (whole : WholeWords find wanted) (text : Text) :
    finds find text = (words text).filter wanted :=
  finds_from_words whole none text fun _ => rfl

end Finder

end Horoscope.Text
