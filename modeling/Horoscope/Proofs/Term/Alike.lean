import Horoscope.Matching
import Horoscope.Proofs.Term.Places
import Horoscope.Proofs.Text.Neutral

set_option autoImplicit false

namespace Horoscope

namespace Planet

theorem abbreviation_solid (p : Planet) : p.abbreviation.all (fun k => !isBlank k) = true := by
  cases p <;> decide

theorem read_name_neutral (p : Planet) (text : Text) :
    readName p (Text.neutral text) = (readName p text).map Text.neutral := by
  rw [readName, readName, Text.keyword_neutral _ text p.abbreviation_solid]
  cases Text.keyword p.abbreviation text with
  | none => rfl
  | some rest =>
      simp only [Option.map_some, bind, Option.bind_some, Text.at_word_end_neutral]
      split <;> rfl

theorem read_neutral (text : Text) :
    read (Text.neutral text) = (read text).map (Prod.map id Text.neutral) := by
  simp only [read, read_name_neutral, List.map_findSome?, Option.map_map, Function.comp_def, Prod.map, id]

end Planet

namespace Date

theorem read_figures_neutral (text : Text) :
    readFigures (Text.neutral text) = (readFigures text).map (Prod.map id Text.neutral) := by
  simp only [readFigures, bind, pure, Decimal.read_few_neutral, Text.symbol_neutral '-' _ (by decide),
    Option.bind_map, Option.map_bind, Function.comp_def, Prod.map, id, Option.map_some]

end Date

namespace PeriodEnd

theorem read_neutral (text : Text) :
    read (Text.neutral text) = (read text).map (Prod.map id Text.neutral) := by
  rw [read, read, Text.blanks_neutral]
  cases Text.blanks text with
  | none => rfl
  | some rest =>
      simp only [Option.map_some, Date.read_figures_neutral, Decimal.read_few_neutral]
      cases Date.readFigures rest with
      | some found =>
          simp only [Option.map_some, Prod.map, id, Option.map_map]
          rfl
      | none => cases Decimal.readFew 4 4 rest <;> rfl

end PeriodEnd

namespace Period

theorem of_content_neutral (content : Text) : ofContent? (Text.neutral content) = ofContent? content := by
  simp only [ofContent?, bind, Text.skip_blanks_neutral, Date.read_figures_neutral, Text.blanks_neutral,
    Text.keyword_neutral "to".toList _ (by decide), PeriodEnd.read_neutral, Option.bind_map,
    Function.comp_def, Prod.map, id, Text.all_blank_neutral]

end Period

namespace Text

theorem split_neutral (mark : Char) (singular : isSingular mark = true) (text : Text) :
    (neutral text).splitOn mark = (text.splitOn mark).map neutral := by
  induction text with
  | nil => simp [neutral, List.splitOn_nil]
  | cons c rest ih =>
      have same : (Horoscope.neutral c == mark) = (c == mark) := by
        simp only [beq_eq_decide, neutral_singular_iff mark c singular]
      rw [neutral_cons, List.splitOn_cons_eq_if_modifyHead, List.splitOn_cons_eq_if_modifyHead, same, ih]
      split
      · rfl
      · cases rest.splitOn mark <;> rfl

end Text

namespace Term

theorem ages_of_neutral (content : Text) : agesOf (Text.neutral content) = agesOf content := by
  have item : (fun item => (Decimal.read ageBound (Text.trim (Text.neutral item))).toOption) =
      fun item => (Decimal.read ageBound (Text.trim item)).toOption := by
    funext item
    rw [Text.trim_neutral, Decimal.read_neutral]
  rw [agesOf, Text.split_neutral '/' (by decide), List.mapM_map, Function.comp_def, item, agesOf]

theorem read_ages_neutral (text : Text) :
    readAges (Text.neutral text) = (readAges text).map (Prod.map id Text.neutral) := by
  simp only [readAges, bind, pure, Text.keyword_neutral "age".toList _ (by decide), Text.skip_blanks_neutral,
    Text.group_neutral, ages_of_neutral, Option.bind_map, Option.map_bind, Function.comp_def, Prod.map, id,
    Option.map_some]

theorem next_group_neutral (text : Text) :
    nextGroup (Text.neutral text) = (nextGroup text).map (Prod.map Text.neutral Text.neutral) := by
  simp only [nextGroup, Text.skip_blanks_neutral, Text.optional_symbol_neutral ',' _ (by decide),
    Text.group_neutral]

theorem groups_neutral (most : Nat) (text : Text) :
    groups most (Text.neutral text) = Prod.map (List.map Text.neutral) Text.neutral (groups most text) := by
  induction most generalizing text with
  | zero => rfl
  | succ most ih =>
      rw [groups, groups, next_group_neutral]
      cases nextGroup text with
      | none => rfl
      | some found => simp only [Option.map_some, Prod.map, ih, List.map_cons]

theorem read_periods_neutral (text : Text) :
    readPeriods (Text.neutral text) = (readPeriods text).map (Prod.map id Text.neutral) := by
  have contents : ∀ contents : List Text, (contents.map Text.neutral).filterMap Period.ofContent? =
      contents.filterMap Period.ofContent? := by
    intro contents
    simp only [List.filterMap_map, Function.comp_def, Period.of_content_neutral]
  have length : ∀ text : Text, (Text.neutral text).length = text.length := fun _ => List.length_map _
  simp only [readPeriods, bind, pure, Text.keyword_neutral "time".toList _ (by decide),
    Text.skip_blanks_neutral, Text.symbol_neutral '(' _ (by decide), Text.group_neutral, groups_neutral,
    length, Text.optional_symbol_neutral ')' _ (by decide), Option.bind_map, Option.map_bind,
    Function.comp_def, Prod.map, id, Option.map_some, ← List.map_cons, contents]

theorem read_lead_neutral (link text : Text) (solid : link.all (fun k => !isBlank k) = true) :
    readLead link (Text.neutral text) = (readLead link text).map (Prod.map id Text.neutral) := by
  simp only [readLead, bind, pure, Planet.read_neutral, Text.blanks_neutral, Text.keyword_neutral link _ solid,
    Option.bind_map, Option.map_bind, Function.comp_def, Prod.map, id, Option.map_some]

theorem read_pair_neutral (link text : Text) (term : Planet → Planet → Term)
    (solid : link.all (fun k => !isBlank k) = true) :
    readPair link term (Text.neutral text) = (readPair link term text).map (Prod.map id Text.neutral) := by
  simp only [read_pair_lead, read_lead_neutral link text solid, Planet.read_neutral, Option.bind_map,
    Option.map_bind, Option.map_map, Function.comp_def, Prod.map, id]

theorem read_house_neutral (text : Text) :
    readHouse (Text.neutral text) = (readHouse text).map (Prod.map id Text.neutral) := by
  rw [readHouse, readHouse, Decimal.read_few_neutral]
  cases Decimal.readFew 1 2 text with
  | none => rfl
  | some found =>
      simp only [Option.map_some, bind, Option.bind_some, Prod.map, id, Text.at_word_end_neutral]
      split <;> rfl

theorem read_in_house_neutral (text : Text) :
    readInHouse (Text.neutral text) = (readInHouse text).map (Prod.map id Text.neutral) := by
  simp only [read_in_house_lead, read_lead_neutral "in".toList text (by decide), read_house_neutral,
    Option.bind_map, Option.map_bind, Option.map_map, Function.comp_def, Prod.map, id]

theorem read_neutral (text : Text) :
    read (Text.neutral text) = (read text).map (Prod.map id Text.neutral) := by
  simp only [read, Option.orElse_eq_orElse, Option.orElse_eq_or, read_ages_neutral, read_periods_neutral,
    read_pair_neutral "conjunct".toList text _ (by decide), read_pair_neutral "not-with".toList text _ (by decide),
    read_in_house_neutral, Option.map_or]

end Term

theorem mention_at_neutral (passed : Text) (c : Char) (rest : Text) :
    (mentionAt? (Text.neutral passed) (neutral c) (Text.neutral rest)).map Mention.placed =
      (mentionAt? passed c rest).map Mention.placed := by
  have starts : startsWord (Text.neutral passed) (neutral c) = startsWord passed c := by
    rw [startsWord, startsWord, neutral_name, Text.head_neutral isNameChar neutral_name]
  have read := Term.read_neutral (c :: rest)
  rw [mention_at_placed, mention_at_placed, starts, ← Text.neutral_cons, read, Option.map_map]
  simp only [Function.comp_def, Prod.map, id, Text.byte_length_neutral]

theorem mentions_from_neutral (passed text : Text) :
    (mentionsFrom (Text.neutral passed) (Text.neutral text)).map Mention.placed =
      (mentionsFrom passed text).map Mention.placed := by
  induction text generalizing passed with
  | nil => rfl
  | cons c rest ih =>
      have later := ih (c :: passed)
      have here := mention_at_neutral passed c rest
      rw [Text.neutral_cons, mentionsFrom, mentionsFrom, List.map_append, List.map_append, ← Option.toList_map,
        ← Option.toList_map]
      exact congrArg₂ (fun first more => first.toList ++ more) here later

theorem placed_neutral (text : Text) : placedTerms (Text.neutral text) = placedTerms text :=
  mentions_from_neutral [] text

theorem alike_texts_mention_alike (a b : Text) (alike : List.Forall₂ Alike a b) :
    placedTerms a = placedTerms b ∧
      ∀ chart moment planet, holds (terms a) chart moment planet = holds (terms b) chart moment planet := by
  have same : placedTerms a = placedTerms b := by
    rw [← placed_neutral a, Text.alike_texts_neutral a b alike, placed_neutral]
  refine ⟨same, fun chart moment planet => ?_⟩
  rw [terms_placed, same, ← terms_placed]

theorem recased_clause_alike :
    List.Forall₂ Alike "Sun in\u20035 AND Time((2020-01-01\tTo 2021),(x) )".toList
        "sUN IN\u30005 and tIME((2020-01-01 tO\n2021),(X)\t)".toList ∧
      placedTerms "sUN IN\u30005 and tIME((2020-01-01 tO\n2021),(X)\t)".toList =
        [⟨.inHouse .sun 5, 0, 10⟩, ⟨.periods [⟨⟨2020, 1, 1, by decide⟩, .withYear 2021⟩], 15, 46⟩] := by
  have alike : List.Forall₂ Alike "Sun in\u20035 AND Time((2020-01-01\tTo 2021),(x) )".toList
      "sUN IN\u30005 and tIME((2020-01-01 tO\n2021),(X)\t)".toList := by
    simp [Alike]
    decide
  obtain ⟨same, -⟩ := alike_texts_mention_alike _ _ alike
  refine ⟨alike, ?_⟩
  rw [← same]
  decide +kernel

end Horoscope
