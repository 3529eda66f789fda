import Horoscope.Proofs.Text.Front
import Mathlib.Data.List.SplitBy

set_option autoImplicit false

namespace Horoscope.Text

def words (text : Text) : List Text :=
  (text.splitOnP fun c => !isWordChar c).filter fun word => !word.isEmpty

theorem words_break (a b : Text) (c : Char) (other : isWordChar c = false) :
    words (a ++ c :: b) = words a ++ words b := by
  have cut : (!isWordChar c) = true := by simp [other]
  rw [words, List.splitOnP_append_cons a b cut, List.filter_append]
  rfl

theorem words_gap (gap rest : Text) (none : gap.all (fun c => !isWordChar c) = true) :
    words (gap ++ rest) = words rest := by
  induction gap with
  | nil => rfl
  | cons c gap ih =>
      rw [List.all_cons, Bool.and_eq_true] at none
      have first := words_break [] (gap ++ rest) c (by simpa using none.1)
      rw [List.cons_append]
      exact first.trans (ih none.2)

theorem words_word (run : Text) (nonempty : run ≠ []) (all : run.all isWordChar = true) :
    words run = [run] := by
  have uncut : ∀ c ∈ run, (!isWordChar c) = false := by
    intro c member
    simp [List.all_eq_true.mp all c member]
  simp [words, List.splitOnP_eq_singleton uncut, nonempty]

theorem words_word_append (run rest : Text) (nonempty : run ≠ []) (all : run.all isWordChar = true)
    (ended : rest.head?.any isWordChar = false) : words (run ++ rest) = run :: words rest := by
  cases rest with
  | nil => rw [List.append_nil, words_word run nonempty all]; rfl
  | cons c rest =>
      have other : isWordChar c = false := by simpa using ended
      have gap := words_break [] rest c other
      rw [words_break run rest c other, words_word run nonempty all]
      exact congrArg (run :: ·) gap.symm

theorem run_member (text run : Text) (listed : run ∈ runs text) (c : Char) (member : c ∈ run) : c ∈ text := by
  rw [← List.flatten_splitBy (fun a b => isWordChar a == isWordChar b) text]
  exact List.mem_flatten_of_mem listed member

theorem runs_append (a b : Text)
    (apart : ∀ x ∈ a.getLast?, ∀ y ∈ b.head?, (isWordChar x == isWordChar y) = false) :
    runs (a ++ b) = runs a ++ runs b :=
  List.splitBy_append apart

theorem runs_alike (kind : Bool) (run : Text) (nonempty : run ≠ []) (alike : ∀ c ∈ run, isWordChar c = kind) :
    runs run = [run] := by
  refine List.splitBy_of_isChain nonempty (List.Pairwise.isChain ?_)
  refine List.pairwise_of_forall_mem_list fun a inA b inB => ?_
  rw [alike a inA, alike b inB, beq_self_eq_true]

theorem runs_word (run rest : Text) (nonempty : run ≠ []) (all : run.all isWordChar = true)
    (ended : rest.head?.any isWordChar = false) : runs (run ++ rest) = run :: runs rest := by
  rw [List.all_eq_true] at all
  have apart : ∀ x ∈ run.getLast?, ∀ y ∈ rest.head?, (isWordChar x == isWordChar y) = false := by
    intro x last y head
    have word := all x (List.mem_of_getLast? last)
    rw [Option.mem_def.mp head, Option.any_some] at ended
    rw [word, ended]
    rfl
  rw [runs_append run rest apart, runs_alike true run nonempty all, List.singleton_append]

theorem runs_first (c : Char) (tail : Text) :
    ∃ run rest, c :: tail = run ++ rest ∧ run ≠ [] ∧ (∀ d ∈ run, isWordChar d = isWordChar c) ∧
      rest.head?.any (fun d => isWordChar d == isWordChar c) = false ∧
        runs (c :: tail) = run :: runs rest := by
  obtain ⟨cut, alike, stopped⟩ := while_cut (fun d => isWordChar d == isWordChar c) tail
  generalize tail.takeWhile (fun d => isWordChar d == isWordChar c) = others at cut alike
  generalize tail.dropWhile (fun d => isWordChar d == isWordChar c) = rest at cut stopped
  subst cut
  have same : ∀ d ∈ c :: others, isWordChar d = isWordChar c := by
    intro d member
    rcases List.mem_cons.mp member with rfl | later
    · rfl
    · exact eq_of_beq (List.all_eq_true.mp alike d later)
  refine ⟨c :: others, rest, rfl, List.cons_ne_nil _ _, same, stopped, ?_⟩
  rw [← List.cons_append, runs_append, runs_alike _ _ (List.cons_ne_nil _ _) same]
  · rfl
  · intro x last y head
    rw [Option.mem_def.mp head] at stopped
    rw [same x (List.mem_of_getLast? last), Bool.beq_comm]
    exact stopped

-- The words are the runs of word characters. The induction goes from run to run.
theorem words_runs (text : Text) : words text = (runs text).filter fun run => run.head?.any isWordChar := by
  induction length : text.length using Nat.strongRecOn generalizing text with
  | ind n ih =>
      cases text with
      | nil => rfl
      | cons c tail =>
          obtain ⟨run, rest, cut, nonempty, alike, stopped, runs⟩ := runs_first c tail
          obtain ⟨d, others, rfl⟩ := List.exists_cons_of_ne_nil nonempty
          have head := alike d List.mem_cons_self
          rw [cut, List.length_append, List.length_cons] at length
          have later := ih rest.length (by omega) rest rfl
          rw [runs, cut, List.filter_cons, ← later, List.head?_cons, Option.any_some, head]
          by_cases word : isWordChar c = true
          · have all : (d :: others).all isWordChar = true := by
              rw [List.all_eq_true]
              intro e member
              rw [alike e member, word]
            have ended : rest.head?.any isWordChar = false := by simpa [word] using stopped
            rw [if_pos word, words_word_append _ _ nonempty all ended]
          · have none : (d :: others).all (fun e => !isWordChar e) = true := by
              rw [List.all_eq_true]
              intro e member
              rw [alike e member]
              simpa using word
            rw [if_neg word, words_gap _ _ none]

theorem runs_words {α : Type} (f : Text → Option α)
    (silent : ∀ c tail, isWordChar c = false → f (c :: tail) = none) (text : Text) :
    (runs text).filterMap f = (words text).filterMap f := by
  rw [words_runs, List.filterMap_filter]
  refine List.filterMap_congr fun run member => ?_
  obtain ⟨c, tail, rfl⟩ := List.exists_cons_of_ne_nil (List.ne_nil_of_mem_splitBy member)
  rw [List.head?_cons, Option.any_some]
  by_cases word : isWordChar c = true
  · rw [if_pos word]
  · rw [if_neg word, silent c tail (by simpa using word)]

structure Alternating (pieces : List Text) : Prop where
  filled : [] ∉ pieces
  alike : ∀ run ∈ pieces, ∀ c ∈ run, ∀ d ∈ run, isWordChar c = isWordChar d
  apart : pieces.IsChain fun a b => ∀ c ∈ a, ∀ d ∈ b, isWordChar c ≠ isWordChar d

theorem chain_alike (c : Char) (tail : Text)
    (chain : (c :: tail).IsChain fun a b => (isWordChar a == isWordChar b) = true) :
    ∀ d ∈ c :: tail, isWordChar d = isWordChar c := by
  induction tail generalizing c with
  | nil => simp
  | cons e tail ih =>
      obtain ⟨same, later⟩ := List.isChain_cons_cons.mp chain
      intro d member
      rcases List.mem_cons.mp member with rfl | behind
      · rfl
      · rw [ih e later d behind, eq_of_beq same]

theorem runs_iff (text : Text) (pieces : List Text) :
    runs text = pieces ↔ pieces.flatten = text ∧ Alternating pieces := by
  rw [runs, List.splitBy_eq_iff, eq_comm, and_congr_right]
  intro _
  apply Iff.intro
  · intro form
    obtain ⟨filled, chains, borders⟩ := form
    have alike : ∀ run ∈ pieces, ∀ c ∈ run, ∀ d ∈ run, isWordChar c = isWordChar d := by
      intro run listed c inC d inD
      obtain ⟨e, tail, rfl⟩ := List.exists_cons_of_ne_nil (List.ne_nil_of_mem inC)
      have kind := chain_alike e tail (chains _ listed)
      rw [kind c inC, kind d inD]
    refine ⟨filled, alike, borders.imp_of_mem_imp ?_⟩
    intro a b inA inB border c inC d inD
    obtain ⟨filledA, filledB, differs⟩ := border
    rw [alike a inA c inC _ (List.getLast_mem filledA), alike b inB d inD _ (List.head_mem filledB)]
    simpa using differs
  · intro form
    refine ⟨form.filled, fun run listed => ?_, form.apart.imp_of_mem_imp ?_⟩
    · refine List.Pairwise.isChain (List.pairwise_of_forall_mem_list fun c inC d inD => ?_)
      rw [form.alike run listed c inC d inD, beq_self_eq_true]
    · intro a b inA inB differ
      have filledA := ne_of_mem_of_not_mem inA form.filled
      have filledB := ne_of_mem_of_not_mem inB form.filled
      refine ⟨filledA, filledB, ?_⟩
      simpa using differ _ (List.getLast_mem filledA) _ (List.head_mem filledB)

theorem runs_alternate (text : Text) : (runs text).flatten = text ∧ Alternating (runs text) :=
  (runs_iff text (runs text)).mp rfl

end Horoscope.Text
