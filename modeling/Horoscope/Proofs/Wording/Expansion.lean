import Horoscope.Proofs.Wording.NameSearch

set_option autoImplicit false

namespace Horoscope

theorem Planet.name_word (p : Planet) : p.name ≠ [] ∧ p.name.all Char.isAlphanum = true := by
  cases p <;> decide

namespace PlanetNames

theorem expand_run_cases (run : Text) :
    (∃ p : Planet, Spells p.abbreviation run ∧ expandRun run = p.name) ∨
      (∀ p : Planet, ¬ Spells p.abbreviation run) ∧ expandRun run = run := by
  cases found : Planet.ofAbbreviation? run with
  | none =>
      refine .inr ⟨fun p spelled => ?_, by rw [expandRun, found]⟩
      rw [(of_abbreviation_some_iff run p).mpr spelled] at found
      cases found
  | some p => exact .inl ⟨p, (of_abbreviation_some_iff run p).mp found, by rw [expandRun, found]⟩

theorem expand_run_kind (kind : Bool) (run : Text) (nonempty : run ≠ [])
    (alike : ∀ c ∈ run, isWordChar c = kind) :
    expandRun run ≠ [] ∧ ∀ c ∈ expandRun run, isWordChar c = kind := by
  rcases expand_run_cases run with ⟨p, spelled, same⟩ | ⟨-, same⟩
  · rw [same]
    obtain ⟨c, tail, rfl⟩ := List.exists_cons_of_ne_nil nonempty
    have word := NameSearch.named_head c tail (NameSearch.named_of_spelled p _ spelled)
    rw [alike c List.mem_cons_self] at word
    refine ⟨p.name_word.1, fun d member => ?_⟩
    rw [word]
    exact alphanumeric_word d (List.all_eq_true.mp p.name_word.2 d member)
  · rw [same]
    exact ⟨nonempty, alike⟩

theorem expand_run_again (run : Text) : expandRun (expandRun run) = expandRun run := by
  rcases expand_run_cases run with ⟨p, -, same⟩ | ⟨-, same⟩
  · rw [same]
    cases p <;> decide
  · rw [same, same]

theorem expand_run_filled (run : Text) (nonempty : run ≠ [])
    (alike : ∀ c ∈ run, ∀ d ∈ run, isWordChar c = isWordChar d) :
    expandRun run ≠ [] ∧ ∀ c ∈ run, ∀ d ∈ expandRun run, isWordChar d = isWordChar c := by
  refine ⟨?_, fun c inside => ?_⟩
  · obtain ⟨c, tail, rfl⟩ := List.exists_cons_of_ne_nil nonempty
    exact (expand_run_kind _ _ nonempty fun d inside => alike d inside c List.mem_cons_self).1
  · exact (expand_run_kind (isWordChar c) run nonempty fun d listed => alike d listed c inside).2

theorem alternating_expanded (pieces : List Text) (cut : Text.Alternating pieces) :
    Text.Alternating (pieces.map expandRun) := by
  have filled : ∀ run ∈ pieces, run ≠ [] := fun run listed => ne_of_mem_of_not_mem listed cut.filled
  have kinds : ∀ run ∈ pieces, expandRun run ≠ [] ∧
      ∀ c ∈ run, ∀ d ∈ expandRun run, isWordChar d = isWordChar c :=
    fun run listed => expand_run_filled run (filled run listed) (cut.alike run listed)
  refine ⟨?_, ?_, ?_⟩
  · intro empty
    obtain ⟨run, listed, same⟩ := List.mem_map.mp empty
    exact (kinds run listed).1 same
  · intro expanded member c inC d inD
    obtain ⟨run, listed, rfl⟩ := List.mem_map.mp member
    obtain ⟨e, inside⟩ := List.exists_mem_of_ne_nil run (filled run listed)
    rw [(kinds run listed).2 e inside c inC, (kinds run listed).2 e inside d inD]
  · rw [List.isChain_map]
    refine cut.apart.imp_of_mem_imp fun a b inA inB differ c inC d inD => ?_
    obtain ⟨e, inside⟩ := List.exists_mem_of_ne_nil a (filled a inA)
    obtain ⟨f, insideNext⟩ := List.exists_mem_of_ne_nil b (filled b inB)
    rw [(kinds a inA).2 e inside c inC, (kinds b inB).2 f insideNext d inD]
    exact differ e inside f insideNext

theorem runs_expand (text : Text) : Text.runs (expand text) = (Text.runs text).map expandRun := by
  rw [Text.runs_iff]
  exact ⟨List.flatMap_def.symm, alternating_expanded _ (Text.runs_alternate text).2⟩

theorem words_expand (text : Text) : Text.words (expand text) = (Text.words text).map expandRun := by
  obtain ⟨-, cut⟩ := Text.runs_alternate text
  rw [Text.words_runs, Text.words_runs, runs_expand, List.filter_map]
  congr 1
  refine List.filter_congr fun run listed => ?_
  have nonempty := ne_of_mem_of_not_mem listed cut.filled
  obtain ⟨filled, kind⟩ := expand_run_filled run nonempty (cut.alike run listed)
  obtain ⟨c, tail, rfl⟩ := List.exists_cons_of_ne_nil nonempty
  obtain ⟨d, others, same⟩ := List.exists_cons_of_ne_nil filled
  rw [Function.comp_apply, same, List.head?_cons, List.head?_cons, Option.any_some, Option.any_some]
  exact kind c List.mem_cons_self d (by rw [same]; exact List.mem_cons_self)

theorem expand_expand (text : Text) : expand (expand text) = expand text := by
  rw [expand, runs_expand, List.flatMap_map, expand]
  simp only [expand_run_again]

theorem expand_run_spelled_out (p : Planet) (shortened : p ∈ [Planet.mercury, .jupiter, .venus, .saturn])
    (run : Text) : Text.sameLetters p.abbreviation (expandRun run) = false := by
  rcases expand_run_cases run with ⟨q, -, same⟩ | ⟨other, same⟩
  · have all : ∀ p ∈ [Planet.mercury, .jupiter, .venus, .saturn], ∀ q ∈ Planet.all,
        Text.sameLetters p.abbreviation q.name = false := by
      decide
    rw [same]
    exact all p shortened q q.mem_all
  · rw [same, Bool.eq_false_iff, Ne, same_letters_iff]
    exact other p

theorem expansion_word_by_word (text : Text) :
    (Text.runs text).flatten = text ∧ Text.Alternating (Text.runs text) ∧
    expand text = NameSearch.substitute text ∧
    NameSearch.substitute text = ((Text.runs text).map expandRun).flatten ∧
    (∀ run : Text,
      (∀ p : Planet, Text.sameLetters p.abbreviation run = true → expandRun run = p.name) ∧
      ((∀ p : Planet, Text.sameLetters p.abbreviation run = false) → expandRun run = run)) ∧
    Text.runs (expand text) = (Text.runs text).map expandRun ∧
    Text.words (expand text) = (Text.words text).map expandRun ∧
    expand (expand text) = expand text ∧
    (∀ word ∈ Text.words (expand text), ∀ p ∈ [Planet.mercury, .jupiter, .venus, .saturn],
      Text.sameLetters p.abbreviation word = false) := by
  obtain ⟨whole, cut⟩ := Text.runs_alternate text
  have found := NameSearch.substitute_eq_expand text
  refine ⟨whole, cut, found.symm, ?_, fun run => ⟨fun p same => ?_, fun other => ?_⟩, runs_expand text,
    words_expand text, expand_expand text, fun word listed p shortened => ?_⟩
  · rw [found, expand, List.flatMap_def]
  · exact expand_run_abbreviation p run ((same_letters_iff p run).mp same)
  · rcases expand_run_cases run with ⟨p, spelled, -⟩ | ⟨-, same⟩
    · have alike := (same_letters_iff p run).mpr spelled
      rw [other p] at alike
      cases alike
    · exact same
  · rw [words_expand] at listed
    obtain ⟨run, -, rfl⟩ := List.mem_map.mp listed
    exact expand_run_spelled_out p shortened run

example : expand "ſun mer_sat mer, SAT".toList = "ſun mer_sat Mercury, Saturn".toList := by
  decide +kernel

end PlanetNames
end Horoscope
