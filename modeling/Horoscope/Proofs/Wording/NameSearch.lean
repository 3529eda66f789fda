import Horoscope.Proofs.Term.Boundary
import Horoscope.Proofs.Wording.PlanetNames
import Horoscope.Wording.NameSearch

set_option autoImplicit false

namespace Horoscope

namespace NameSearch

def Caseless (word written : Text) : Prop :=
  List.Forall₂ (fun letter c => sameCaseless letter c = true) word written

theorem caseless_some_iff (word text written after : Text) :
    caseless word text = some (written, after) ↔ text = written ++ after ∧ Caseless word written := by
  induction word generalizing text written with
  | nil =>
      simp only [caseless, Option.some.injEq, Prod.mk.injEq, Caseless, List.forall₂_nil_left_iff]
      apply Iff.intro
      · intro form
        obtain ⟨rfl, rfl⟩ := form
        exact ⟨rfl, rfl⟩
      · intro form
        obtain ⟨rfl, rfl⟩ := form
        exact ⟨rfl, rfl⟩
  | cons k ks ih =>
      simp only [Caseless, List.forall₂_cons_left_iff]
      cases text with
      | nil =>
          apply Iff.intro
          · intro found
            cases found
          · intro form
            obtain ⟨cut, c, others, -, -, rfl⟩ := form
            cases cut
      | cons c tail =>
          by_cases same : sameCaseless k c = true
          · rw [caseless, if_pos same, Option.map_eq_some_iff]
            apply Iff.intro
            · intro form
              obtain ⟨⟨others, rest⟩, found, cut⟩ := form
              cases cut
              obtain ⟨rfl, alike⟩ := (ih _ _).mp found
              exact ⟨rfl, c, others, same, alike, rfl⟩
            · intro form
              obtain ⟨cut, d, others, -, alike, rfl⟩ := form
              obtain ⟨rfl, rfl⟩ := List.cons.inj cut
              exact ⟨(others, after), (ih _ _).mpr ⟨rfl, alike⟩, rfl⟩
          · rw [caseless, if_neg same]
            apply Iff.intro
            · intro found
              cases found
            · intro form
              obtain ⟨cut, d, others, sameHead, -, rfl⟩ := form
              obtain ⟨rfl, -⟩ := List.cons.inj cut
              exact absurd sameHead same

theorem same_caseless_word (letter c : Char) (plain : letter.isAlphanum = true)
    (same : sameCaseless letter c = true) : isWordChar c = true := by
  simp only [sameCaseless, Bool.or_eq_true, Bool.and_eq_true, beq_iff_eq] at same
  have beyond : ∀ n, c.toNat = n → Char.ofNat n = c := by
    rintro n rfl
    exact c.ofNat_toNat
  rcases same with (lower | ⟨-, long⟩) | ⟨-, kelvin⟩
  · apply alphanumeric_word
    rw [← lower_alphanumeric, lower]
    exact plain
  · rw [← beyond _ long]
    decide +kernel
  · rw [← beyond _ kelvin]
    decide +kernel

theorem caseless_all_word (word written : Text) (alike : Caseless word written)
    (plain : word.all Char.isAlphanum = true) : written.all isWordChar = true := by
  induction alike with
  | nil => rfl
  | cons same _ ih =>
      simp only [List.all_cons, Bool.and_eq_true] at plain ⊢
      exact ⟨same_caseless_word _ _ plain.1 same, ih plain.2⟩

theorem caseless_word (p : Planet) (written : Text) (alike : Caseless p.abbreviation written) :
    written ≠ [] ∧ written.all isWordChar = true := by
  obtain ⟨plain, nonempty, -⟩ := p.abbreviation_plain
  refine ⟨fun empty => ?_, caseless_all_word _ _ alike plain⟩
  have length := alike.length_eq
  rw [empty, List.length_nil, List.length_eq_zero_iff] at length
  exact nonempty length

theorem find_name_some_iff (before : Option Char) (text written after : Text) (p : Planet) :
    findName before text p = some (written, after) ↔
      text = written ++ after ∧ Caseless p.abbreviation written ∧ before.any isWordChar = false ∧
        after.head?.any isWordChar = false := by
  rw [findName, Option.filter_eq_some_iff, caseless_some_iff, and_assoc, and_congr_right]
  rintro rfl
  rw [and_congr_right]
  intro alike
  obtain ⟨nonempty, all⟩ := caseless_word p written alike
  have first : (written ++ after).head?.any isWordChar = true := by
    obtain ⟨c, tail, rfl⟩ := List.exists_cons_of_ne_nil nonempty
    rw [List.all_cons, Bool.and_eq_true] at all
    simpa using all.1
  have last : written.getLast?.any isWordChar = true := by
    rw [List.getLast?_eq_getLast_of_ne_nil nonempty, Option.any_some]
    exact List.all_eq_true.mp all _ (List.getLast_mem nonempty)
  dsimp only
  rw [boundary, boundary, first, last]
  cases before.any isWordChar <;> cases after.head?.any isWordChar <;> decide

theorem find_here_none (before : Option Char) (c : Char) (rest : Text)
    (apart : isWordChar c = false ∨ before.any isWordChar = true) : findHere before (c :: rest) = none := by
  rw [findHere, List.findSome?_eq_none_iff]
  intro p _
  rw [Option.eq_none_iff_forall_ne_some]
  rintro ⟨written, after⟩ found
  obtain ⟨cut, alike, outside, -⟩ := (find_name_some_iff _ _ _ _ _).mp found
  obtain ⟨nonempty, all⟩ := caseless_word p written alike
  obtain ⟨d, tail, rfl⟩ := List.exists_cons_of_ne_nil nonempty
  obtain ⟨rfl, -⟩ := List.cons.inj cut
  rw [List.all_cons, Bool.and_eq_true] at all
  rcases apart with gap | inside
  · rw [all.1] at gap
    cases gap
  · rw [inside] at outside
    cases outside

def named (run : Text) : Bool := Planet.all.any fun p => caseless p.abbreviation run == some (run, [])

theorem named_iff (run : Text) : named run = true ↔ ∃ p : Planet, Caseless p.abbreviation run := by
  have whole : ∀ p : Planet, (caseless p.abbreviation run == some (run, [])) = true ↔
      Caseless p.abbreviation run := by
    intro p
    rw [beq_iff_eq, caseless_some_iff, List.append_nil, and_iff_right rfl]
  simp only [named, List.any_eq_true, whole]
  apply Iff.intro
  · intro form
    obtain ⟨p, -, alike⟩ := form
    exact ⟨p, alike⟩
  · intro form
    obtain ⟨p, alike⟩ := form
    exact ⟨p, p.mem_all, alike⟩

theorem find_here_word (before : Option Char) (run rest : Text) (outside : before.any isWordChar = false)
    (all : run.all isWordChar = true) (ended : rest.head?.any isWordChar = false) :
    findHere before (run ++ rest) = if named run then some (run, rest) else none := by
  cases found : findHere before (run ++ rest) with
  | none =>
      rw [findHere, List.findSome?_eq_none_iff] at found
      have unnamed : named run ≠ true := by
        rw [Ne, named_iff]
        rintro ⟨p, alike⟩
        have hit := (find_name_some_iff _ _ _ _ _).mpr ⟨rfl, alike, outside, ended⟩
        rw [found p p.mem_all] at hit
        cases hit
      rw [if_neg unnamed]
  | some hit =>
      obtain ⟨written, after⟩ := hit
      obtain ⟨p, -, one⟩ := List.exists_of_findSome?_eq_some found
      obtain ⟨cut, alike, -, afterEnded⟩ := (find_name_some_iff _ _ _ _ _).mp one
      have word := (caseless_word p written alike).2
      obtain ⟨rfl, rfl⟩ := front_unique isWordChar run rest written after cut all ended word afterEnded
      rw [if_pos ((named_iff run).mpr ⟨p, alike⟩)]

theorem pieces_skipped (passed front rest : Text) :
    piecesFrom passed front.length (front ++ rest) = piecesFrom (front.reverse ++ passed) 0 rest := by
  induction front generalizing passed with
  | nil => rfl
  | cons c front ih =>
      rw [List.cons_append, List.length_cons, piecesFrom, ih, List.reverse_cons, List.append_assoc,
        List.singleton_append]

theorem pieces_kept (kind : Bool) (passed front rest : Text) (alike : ∀ c ∈ front, isWordChar c = kind)
    (apart : kind = false ∨ passed.head?.any isWordChar = true) :
    piecesFrom passed 0 (front ++ rest) =
      front.map .kept ++ piecesFrom (front.reverse ++ passed) 0 rest := by
  induction front generalizing passed with
  | nil => rfl
  | cons c front ih =>
      have head := alike c List.mem_cons_self
      have nothing := find_here_none passed.head? c (front ++ rest) (by rwa [head])
      have later := ih (c :: passed) (fun d member => alike d (List.mem_cons_of_mem c member))
        (by rw [List.head?_cons, Option.any_some, head]; cases kind <;> simp)
      rw [List.cons_append, piecesFrom, nothing]
      dsimp only
      rw [later, List.map_cons, List.cons_append, List.reverse_cons, List.append_assoc,
        List.singleton_append]

def runPieces (run : Text) : List Piece := if named run then [.found run] else run.map .kept

theorem named_head (c : Char) (tail : Text) (named : named (c :: tail) = true) : isWordChar c = true := by
  obtain ⟨p, alike⟩ := (named_iff _).mp named
  have all := (caseless_word p _ alike).2
  rw [List.all_cons, Bool.and_eq_true] at all
  exact all.1

theorem pieces_word (passed : Text) (c : Char) (tail rest : Text)
    (outside : passed.head?.any isWordChar = false) (all : ∀ d ∈ c :: tail, isWordChar d = true)
    (ended : rest.head?.any isWordChar = false) :
    piecesFrom passed 0 (c :: tail ++ rest) =
      runPieces (c :: tail) ++ piecesFrom ((c :: tail).reverse ++ passed) 0 rest := by
  have hit := find_here_word passed.head? (c :: tail) rest outside (List.all_eq_true.mpr all) ended
  have behind : (c :: tail).reverse ++ passed = tail.reverse ++ c :: passed := by simp
  rw [List.cons_append] at hit ⊢
  rw [piecesFrom, hit, runPieces, behind]
  by_cases known : named (c :: tail) = true
  · simp only [if_pos known]
    rw [List.length_append, Nat.add_sub_cancel, pieces_skipped, List.singleton_append]
  · have inside : ∀ d ∈ tail, isWordChar d = true := fun d member => all d (List.mem_cons_of_mem c member)
    simp only [if_neg known]
    rw [pieces_kept true (c :: passed) tail rest inside (.inr (by simpa using all c List.mem_cons_self)),
      List.map_cons, List.cons_append]

theorem pieces_gap (passed : Text) (c : Char) (tail rest : Text)
    (none : ∀ d ∈ c :: tail, isWordChar d = false) :
    piecesFrom passed 0 (c :: tail ++ rest) =
      runPieces (c :: tail) ++ piecesFrom ((c :: tail).reverse ++ passed) 0 rest := by
  have unnamed : named (c :: tail) ≠ true := by
    intro known
    have word := named_head c tail known
    rw [none c List.mem_cons_self] at word
    cases word
  rw [pieces_kept false passed (c :: tail) rest none (.inl rfl), runPieces, if_neg unnamed]

theorem pieces_run (passed : Text) (c : Char) (tail rest : Text)
    (alike : ∀ d ∈ c :: tail, isWordChar d = isWordChar c)
    (stopped : rest.head?.any (fun d => isWordChar d == isWordChar c) = false)
    (apart : isWordChar c = true → passed.head?.any isWordChar = false) :
    piecesFrom passed 0 (c :: tail ++ rest) =
      runPieces (c :: tail) ++ piecesFrom ((c :: tail).reverse ++ passed) 0 rest := by
  cases word : isWordChar c with
  | true =>
      simp only [word, beq_true] at alike stopped
      exact pieces_word passed c tail rest (apart word) alike stopped
  | false =>
      rw [word] at alike
      exact pieces_gap passed c tail rest alike

theorem reversed_head_kind (kind : Bool) (run passed : Text) (nonempty : run ≠ [])
    (alike : ∀ c ∈ run, isWordChar c = kind) : (run.reverse ++ passed).head?.any isWordChar = kind := by
  obtain ⟨c, before, same⟩ := List.exists_cons_of_ne_nil (List.reverse_ne_nil_iff.mpr nonempty)
  have member : c ∈ run := by
    rw [← List.mem_reverse, same]
    exact List.mem_cons_self
  rw [same, List.cons_append, List.head?_cons, Option.any_some, alike c member]

-- The search goes from run to run: where a word begins, no word is under way.
theorem pieces_runs (passed text : Text)
    (apart : text.head?.any isWordChar = true → passed.head?.any isWordChar = false) :
    piecesFrom passed 0 text = (Text.runs text).flatMap runPieces := by
  induction length : text.length using Nat.strongRecOn generalizing passed text with
  | ind n ih =>
      cases text with
      | nil => rfl
      | cons c tail =>
          obtain ⟨run, rest, cut, nonempty, alike, stopped, runs⟩ := Text.runs_first c tail
          obtain ⟨d, others, rfl⟩ := List.exists_cons_of_ne_nil nonempty
          rw [List.cons_append, List.cons.injEq] at cut
          obtain ⟨rfl, rfl⟩ := cut
          rw [List.length_cons, List.length_append] at length
          have next : rest.head?.any isWordChar = true →
              ((c :: others).reverse ++ passed).head?.any isWordChar = false := by
            rw [reversed_head_kind _ (c :: others) passed nonempty alike]
            cases rest with
            | nil => simp
            | cons e rest =>
                intro word
                rw [List.head?_cons, Option.any_some] at word stopped
                simpa [word] using stopped
          have later := ih rest.length (by omega) ((c :: others).reverse ++ passed) rest next rfl
          have first := pieces_run passed c others rest alike stopped (by simpa using apart)
          rw [List.cons_append] at first
          rw [runs, List.flatMap_cons, ← later, first]

theorem run_pieces_source (run : Text) : (runPieces run).flatMap Piece.source = run := by
  by_cases known : named run = true
  · rw [runPieces, if_pos known, List.flatMap_singleton, Piece.source]
  · rw [runPieces, if_neg known, List.flatMap_map]
    exact List.flatMap_singleton' run

theorem runs_pieces_source (text : Text) : ((Text.runs text).flatMap runPieces).flatMap Piece.source = text := by
  rw [List.flatMap_assoc]
  simp only [run_pieces_source]
  rw [List.flatMap_id', (Text.runs_alternate text).1]

-- What is spelled in ASCII is alike in all cases, so a run that is not found is not looked up.
theorem named_of_spelled (p : Planet) (run : Text) (spelled : Spells p.abbreviation run) : named run = true := by
  rw [named_iff]
  refine ⟨p, ?_⟩
  rw [← spelled, Caseless, List.forall₂_map_left_iff, List.forall₂_same]
  intro c _
  simp [sameCaseless]

theorem run_pieces_replaced (run : Text) : (runPieces run).flatMap Piece.replaced = PlanetNames.expandRun run := by
  by_cases known : named run = true
  · rw [runPieces, if_pos known, List.flatMap_singleton, Piece.replaced]
  · have unknown : Planet.ofAbbreviation? run = none := by
      rw [Option.eq_none_iff_forall_ne_some]
      intro p found
      exact known (named_of_spelled p run ((PlanetNames.of_abbreviation_some_iff run p).mp found))
    rw [runPieces, if_neg known, List.flatMap_map, PlanetNames.expandRun, unknown]
    exact List.flatMap_singleton' run

theorem pieces_eq_runs (text : Text) : pieces text = (Text.runs text).flatMap runPieces :=
  pieces_runs [] text fun _ => rfl

theorem substitute_eq_expand (text : Text) : substitute text = PlanetNames.expand text := by
  rw [substitute, pieces_eq_runs, List.flatMap_assoc, PlanetNames.expand]
  simp only [run_pieces_replaced]

end NameSearch
end Horoscope
