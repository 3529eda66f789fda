import Horoscope.Proofs.Wording.SentenceOperators
import Horoscope.Wording.RuleText

set_option autoImplicit false

namespace Horoscope

theorem last_solid (front tail : Text) (nonempty : tail ≠ []) (solid : tail.all (fun c => !isBlank c) = true) :
    (front ++ tail).getLast?.any isBlank = false := by
  rw [List.getLast?_append, List.getLast?_eq_some_getLast nonempty]
  simpa using List.all_eq_true.mp solid _ (List.getLast_mem nonempty)

theorem sighting_end (today : Date) (sighting : Sighting) (front : Text) :
    (front ++ sighting.write (Style.inWords today)).getLast?.any isBlank = false := by
  rw [sighting.write_parts, ← List.append_assoc]
  rcases sighting.last_cases with ⟨house, same⟩ | ⟨name, same⟩
  · rw [same]
    exact last_solid _ _ (Decimal.write_nonempty house)
      (ascii_kind_property _ _ digit_ascii (by decide) _ (Decimal.write_digits house))
  · rw [same]
    exact last_solid _ _ name.planet.name_solid.1 name.planet.name_solid.2

theorem body_end (today : Date) (body : Body) :
    (body.write (Style.inWords today)).getLast?.any isBlank = false := by
  obtain ⟨steps, ending⟩ := body
  cases ending with
  | operand last =>
      cases last with
      | bare sighting => exact sighting_end today sighting _
      | wrapped natal sighting => exact sighting_end today sighting _
      | ages listed =>
          have solid := ascii_kind_property isAgeMark (fun c => !isBlank c) age_mark_ascii
            (by decide) _ (Term.ages_marks listed)
          exact last_solid _ (Term.write (.ages listed)) (by simp [Term.write]) solid
  | clause clause =>
      change (Body.writeSteps _ steps ++ clause.inWords today).getLast?.any isBlank = false
      rcases clause.in_words_cases today with same | ⟨ranges, same⟩
      · rw [same, Term.write, ← List.append_assoc]
        exact last_solid _ [')'] (by simp) (by decide)
      · obtain ⟨content, closed, -⟩ := TimeClause.birth_clause_parts ranges
        rw [same, closed, ← List.append_assoc]
        exact last_solid _ [')'] (by simp) (by decide)

namespace Style

theorem capitalized_both (today : Date) :
    capitalized today (fun other => (false || other == .and) || other == .or) = inWords today := by
  have links : (capitalized today fun other => (false || other == .and) || other == .or).link =
      (inWords today).link := by
    funext link
    obtain ⟨operator, spelling, left, right⟩ := link
    cases operator <;> rfl
  simp only [capitalized, inWords] at links ⊢
  rw [links]
  rfl

end Style

namespace Sentence

theorem spaced_written (today : Date) (sentence : Sentence) :
    ∃ trail : Blanks,
      Tidy.spaceOr (Tidy.spaceAnd (Tidy.unwrap (PlanetNames.expand
        (TimeClause.restate today sentence.written)))) =
          write (Style.inWords today) { sentence with trail := trail } := by
  obtain ⟨trail, restated⟩ := restate_sentence today sentence
  have named := pass_sentence (PlanetNames.expand_pass today) (Style.restated_spaced today) rfl
    { sentence with trail := trail }
  have unwrapped := pass_sentence (Tidy.unwrap_pass today) (Style.named_spaced today) rfl
    { sentence with trail := trail }
  have spacedAnd := pass_sentence (Tidy.capitalize_pass .and today (fun _ => false) rfl)
    (Style.capitalized_spaced today _) rfl { sentence with trail := trail }
  have spacedOr := pass_sentence
    (Tidy.capitalize_pass .or today (fun other => false || other == .and) rfl)
    (Style.capitalized_spaced today _) rfl { sentence with trail := trail }
  -- Once both operators have had their pass, the style is that of the words.
  rw [Style.capitalized_both] at spacedOr
  refine ⟨trail, ?_⟩
  rw [restated, named, unwrapped]
  exact (congrArg Tidy.spaceOr spacedAnd).trans spacedOr

theorem core_solid (today : Date) (sentence : Sentence) :
    (core (Style.inWords today) sentence).head?.any isBlank = false ∧
      (core (Style.inWords today) sentence).getLast?.any isBlank = false := by
  obtain ⟨lead, body, trail⟩ := sentence
  cases body with
  | none => exact ⟨rfl, rfl⟩
  | some body =>
      have spaced := Style.capitalized_spaced today fun other => (false || other == .and) || other == .or
      rw [Style.capitalized_both] at spaced
      have begins := Body.begins spaced body []
      rw [List.append_nil] at begins
      exact ⟨begins.1, body_end today body⟩

end Sentence

example : wording ⟨2024, 6, 15, by decide⟩
    "Natal(mer in 12)   and TIME((2019-03-01 to 2021), (2024-01-01 to ))  ".toList =
      "Mercury in 12 AND DOB (2019-06-15 to 2022-06-15, 2024-06-15 to 2024-06-15)".toList := by
  rfl

end Horoscope
