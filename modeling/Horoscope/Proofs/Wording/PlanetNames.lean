import Horoscope.Proofs.Term.PlanetNotation
import Horoscope.Proofs.Text.Words
import Horoscope.Wording.PlanetNames

set_option autoImplicit false

namespace Horoscope

def isPlanetInitial (c : Char) : Bool := Planet.all.any fun p => p.abbreviation.head? == some c.toLower

theorem planet_initial_word (c : Char) (initial : isPlanetInitial c = true) : isWordChar c = true := by
  apply alphanumeric_word
  rw [← lower_alphanumeric]
  obtain ⟨p, -, same⟩ := List.any_eq_true.mp initial
  have letter := p.abbreviation_letter
  rw [eq_of_beq same, Option.any_some] at letter
  exact letter

namespace PlanetNames

theorem of_abbreviation_spelled (word letters : Text) (spelled : Spells word letters) :
    Planet.ofAbbreviation? letters = Planet.ofAbbreviation? word := by
  have lower : word.map Char.toLower = letters.map Char.toLower := by
    rw [← spelled, List.map_map]
    exact List.map_congr_left fun c _ => lower_lower c
  simp only [Planet.ofAbbreviation?, Text.sameLetters, lower]

theorem same_letters_iff (p : Planet) (run : Text) :
    Text.sameLetters p.abbreviation run = true ↔ Spells p.abbreviation run := by
  have lower : p.abbreviation.map Char.toLower = p.abbreviation := by
    cases p <;> decide
  rw [Text.sameLetters, lower, beq_iff_eq, Spells, eq_comm]

theorem of_abbreviation_some_iff (run : Text) (p : Planet) :
    Planet.ofAbbreviation? run = some p ↔ Spells p.abbreviation run := by
  apply Iff.intro
  · intro found
    have same := List.find?_some found
    exact (same_letters_iff p run).mp same
  · intro spelled
    rw [of_abbreviation_spelled _ _ spelled, Planet.of_abbreviation_abbreviation]

theorem expand_run_abbreviation (p : Planet) (letters : Text) (spelled : Spells p.abbreviation letters) :
    expandRun letters = p.name := by
  rw [expandRun, (of_abbreviation_some_iff letters p).mpr spelled]

theorem expand_run_other (word letters : Text) (spelled : Spells word letters)
    (other : Planet.ofAbbreviation? word = none) : expandRun letters = letters := by
  rw [expandRun, of_abbreviation_spelled _ _ spelled, other]

theorem expand_run_foreign (c : Char) (tail : Text) (foreign : isPlanetInitial c = false) :
    expandRun (c :: tail) = c :: tail := by
  have none : Planet.ofAbbreviation? (c :: tail) = none := by
    rw [Option.eq_none_iff_forall_ne_some]
    intro p found
    rw [isPlanetInitial, List.any_eq_false] at foreign
    apply foreign p p.mem_all
    have spelled := (of_abbreviation_some_iff _ _).mp found
    rw [← spelled, List.map_cons, List.head?_cons, beq_self_eq_true]
  rw [expandRun, none]

theorem expand_append (a b : Text)
    (apart : ∀ x ∈ a.getLast?, ∀ y ∈ b.head?, (isWordChar x == isWordChar y) = false) :
    expand (a ++ b) = expand a ++ expand b := by
  rw [expand, Text.runs_append a b apart, List.flatMap_append]
  rfl

theorem expand_stretch (kind : Bool) (c : Char) (tail : Text)
    (all : ∀ d ∈ c :: tail, isWordChar d = kind) : expand (c :: tail) = expandRun (c :: tail) := by
  rw [expand, Text.runs_alike kind _ (List.cons_ne_nil _ _) all, List.flatMap_singleton]

theorem expand_word (run rest : Text) (nonempty : run ≠ []) (all : run.all isWordChar = true)
    (ended : rest.head?.any isWordChar = false) : expand (run ++ rest) = expandRun run ++ expand rest := by
  rw [expand, Text.runs_word run rest nonempty all ended, List.flatMap_cons]
  rfl

theorem expand_gap (gap rest : Text) (none : gap.all (fun c => !isWordChar c) = true)
    (word : rest.head?.all isWordChar = true) : expand (gap ++ rest) = gap ++ expand rest := by
  rw [List.all_eq_true] at none
  have others : ∀ c ∈ gap, isWordChar c = false := by
    intro c member
    simpa using none c member
  have apart : ∀ x ∈ gap.getLast?, ∀ y ∈ rest.head?, (isWordChar x == isWordChar y) = false := by
    intro x last y head
    rw [Option.mem_def.mp head, Option.all_some] at word
    rw [others x (List.mem_of_getLast? last), word]
    rfl
  rw [expand_append gap rest apart]
  cases gap with
  | nil => rfl
  | cons c tail =>
      have foreign : isPlanetInitial c = false := by
        cases initial : isPlanetInitial c with
        | false => rfl
        | true =>
            have joined := planet_initial_word c initial
            rw [others c List.mem_cons_self] at joined
            cases joined
      rw [expand_stretch false c tail others, expand_run_foreign c tail foreign]

theorem expand_cons (c : Char) (rest : Text) (other : isWordChar c = false) :
    expand (c :: rest) = c :: expand rest := by
  obtain ⟨cut, gap, stopped⟩ := while_cut (fun c => !isWordChar c) rest
  have word : (rest.dropWhile fun c => !isWordChar c).head?.all isWordChar = true := by
    cases head : (rest.dropWhile fun c => !isWordChar c).head? with
    | none => rfl
    | some d =>
        rw [head] at stopped
        simpa using stopped
  have wider : (c :: rest.takeWhile fun c => !isWordChar c).all (fun c => !isWordChar c) = true := by
    rw [List.all_cons, gap, other]
    rfl
  -- The gap after `c` is one run with `c` and one without it, and stays either way.
  conv => lhs; rw [cut, ← List.cons_append]
  conv => rhs; rw [cut]
  rw [expand_gap _ _ wider word, expand_gap _ _ gap word, List.cons_append]

theorem expand_between (text rest : Text) (none : ∀ c ∈ text, isWordChar c = false) :
    expand (text ++ rest) = text ++ expand rest := by
  induction text with
  | nil => rfl
  | cons c text ih =>
      rw [List.cons_append, expand_cons c _ (none c List.mem_cons_self),
        ih fun d member => none d (List.mem_cons_of_mem _ member), List.cons_append]

theorem expand_foreign_word (c : Char) (run rest : Text) (foreign : isPlanetInitial c = false)
    (all : (c :: run).all isWordChar = true) (ended : rest.head?.any isWordChar = false) :
    expand (c :: run ++ rest) = c :: run ++ expand rest := by
  rw [expand_word (c :: run) rest (List.cons_ne_nil _ _) all ended, expand_run_foreign c run foreign]

-- Text without a letter that planets begin with stays. The induction goes from run to run, since
-- a run is looked up as a whole.
theorem expand_foreign (text rest : Text) (foreign : text.all (fun c => !isPlanetInitial c) = true)
    (ended : rest.head?.any isWordChar = false) : expand (text ++ rest) = text ++ expand rest := by
  induction length : text.length using Nat.strongRecOn generalizing text with
  | ind n ih =>
      cases text with
      | nil => rfl
      | cons c tail =>
          simp only [List.all_cons, Bool.and_eq_true, Bool.not_eq_true'] at foreign
          by_cases word : isWordChar c = true
          · obtain ⟨run, others, rfl, all, stopped⟩ : ∃ run others, tail = run ++ others ∧
                run.all isWordChar = true ∧ others.head?.any isWordChar = false :=
              ⟨_, _, while_cut isWordChar tail⟩
            have whole : (c :: run).all isWordChar = true := by
              rw [List.all_cons, word, all]
              rfl
            have apart : (others ++ rest).head?.any isWordChar = false := by
              cases others with
              | nil => exact ended
              | cons d others => exact stopped
            rw [List.length_cons, List.length_append] at length
            rw [List.all_append, Bool.and_eq_true] at foreign
            have later := ih others.length (by omega) others foreign.2.2 rfl
            rw [← List.cons_append, List.append_assoc,
              expand_foreign_word c run (others ++ rest) foreign.1 whole apart, later, List.append_assoc]
          · rw [List.length_cons] at length
            have later := ih tail.length (by omega) tail foreign.2 rfl
            rw [List.cons_append, expand_cons c _ (by simpa using word), later, List.cons_append]

end PlanetNames
end Horoscope
