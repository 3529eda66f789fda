import Horoscope.Proofs.Text.Front
import Horoscope.Term.Reader

set_option autoImplicit false

namespace Horoscope

namespace Planet

theorem abbreviations_apart (p q : Planet) (nested : p.abbreviation <+: q.abbreviation) : p = q := by
  have all : ∀ p ∈ all, ∀ q ∈ Planet.all, p.abbreviation <+: q.abbreviation → p = q := by decide
  exact all p (mem_all p) q (mem_all q) nested

theorem abbreviation_letter (p : Planet) : p.abbreviation.head?.any Char.isAlphanum = true := by
  cases p <;> decide

theorem read_name_some_iff (p : Planet) (text rest : Text) :
    readName p text = some rest ↔
      ∃ written, text = written ++ rest ∧ Spells p.abbreviation written ∧
        Text.atWordEnd rest = true := by
  simp only [readName, bind, Option.bind_eq_some_iff, Text.keyword_some_iff]
  apply Iff.intro
  · intro form
    obtain ⟨tail, ⟨written, rfl, spelled⟩, read⟩ := form
    by_cases ended : Text.atWordEnd tail = true
    · rw [if_pos ended] at read
      cases read
      exact ⟨written, rfl, spelled, ended⟩
    · rw [if_neg ended] at read
      cases read
  · intro form
    obtain ⟨written, rfl, spelled, ended⟩ := form
    exact ⟨rest, ⟨written, rfl, spelled⟩, if_pos ended⟩

theorem read_name_unique (p q : Planet) (text restP restQ : Text)
    (first : readName p text = some restP) (second : readName q text = some restQ) : p = q := by
  obtain ⟨writtenP, cutP, spelledP, -⟩ := (read_name_some_iff _ _ _).mp first
  obtain ⟨writtenQ, cutQ, spelledQ, -⟩ := (read_name_some_iff _ _ _).mp second
  have keyP := (Text.keyword_some_iff _ _ _).mpr ⟨writtenP, cutP, spelledP⟩
  have keyQ := (Text.keyword_some_iff _ _ _).mpr ⟨writtenQ, cutQ, spelledQ⟩
  rcases Text.keywords_nested _ _ _ _ _ keyP keyQ with nested | nested
  · exact abbreviations_apart p q nested
  · exact (abbreviations_apart q p nested).symm

theorem read_eq_some_iff (p : Planet) (text rest : Text) :
    read text = some (p, rest) ↔ readName p text = some rest := by
  have sound : ∀ q other, read text = some (q, other) → readName q text = some other := by
    intro q other found
    obtain ⟨q', -, one⟩ := List.exists_of_findSome?_eq_some found
    obtain ⟨tail, named, same⟩ := Option.map_eq_some_iff.mp one
    cases same
    exact named
  refine ⟨sound p rest, fun named => ?_⟩
  have present : (read text).isSome = true := by
    rw [read, List.findSome?_isSome_iff]
    exact ⟨p, mem_all p, by rw [named]; rfl⟩
  -- No abbreviation begins with another, so the planet found is the one named.
  obtain ⟨⟨q, other⟩, found⟩ := Option.isSome_iff_exists.mp present
  have namedQ := sound q other found
  have same := read_name_unique p q text rest other named namedQ
  subst same
  rw [named] at namedQ
  cases namedQ
  exact found

theorem read_some_iff (p : Planet) (text rest : Text) :
    read text = some (p, rest) ↔
      ∃ written, text = written ++ rest ∧ Spells p.abbreviation written ∧
        Text.atWordEnd rest = true :=
  (read_eq_some_iff p text rest).trans (read_name_some_iff p text rest)

theorem read_append (p : Planet) (written rest : Text) (spelled : Spells p.abbreviation written)
    (ended : Text.atWordEnd rest = true) : read (written ++ rest) = some (p, rest) :=
  (read_some_iff _ _ _).mpr ⟨written, rfl, spelled, ended⟩

end Planet

def LeadNotation (link : Text) (planet : Planet) (written : Text) : Prop :=
  ∃ name gap word space, written = name ++ gap ++ word ++ space ∧
    Spells planet.abbreviation name ∧ Gap gap ∧ Spells link word ∧ Gap space

def PairNotation (link : Text) (a b : Planet) (written : Text) : Prop :=
  ∃ lead name, written = lead ++ name ∧ LeadNotation link a lead ∧ Spells b.abbreviation name

def HouseNotation (house : House) (figure : Text) : Prop :=
  figure.all Char.isDigit = true ∧ (figure.length = 1 ∨ figure.length = 2) ∧
    Decimal.value figure = house

def InHouseNotation (planet : Planet) (house : House) (written : Text) : Prop :=
  ∃ lead figure, written = lead ++ figure ∧ LeadNotation "in".toList planet lead ∧
    HouseNotation house figure

namespace Term

def readLead (link text : Text) : Option (Planet × Text) := do
  let (planet, rest) ← Planet.read text
  let rest ← Text.blanks rest
  let rest ← Text.keyword link rest
  let rest ← Text.blanks rest
  return (planet, rest)

theorem read_pair_lead (link : Text) (term : Planet → Planet → Term) (text : Text) :
    readPair link term text = (readLead link text).bind fun (a, rest) =>
      (Planet.read rest).map fun (b, rest) => (term a b, rest) := by
  simp only [readPair, readLead, bind, pure, Option.bind_assoc, Option.bind_some, Option.map_eq_bind]
  rfl

theorem read_in_house_lead (text : Text) :
    readInHouse text = (readLead "in".toList text).bind fun (planet, rest) =>
      (readHouse rest).map fun (house, rest) => (inHouse planet house, rest) := by
  simp only [readInHouse, readLead, bind, pure, Option.bind_assoc, Option.bind_some, Option.map_eq_bind]
  rfl

theorem read_lead_some_iff (link text rest : Text) (planet : Planet)
    (letter : link.head?.any Char.isAlphanum = true) :
    readLead link text = some (planet, rest) ↔
      ∃ lead, text = lead ++ rest ∧ LeadNotation link planet lead ∧ rest.head?.any isBlank = false := by
  apply Iff.intro
  · intro read
    simp only [readLead, bind, Option.bind_eq_some_iff, Prod.exists, Option.some.injEq, pure,
      Prod.mk.injEq] at read
    obtain ⟨planet, afterName, named, afterGap, gapRead, afterWord, wordRead, afterSpace, spaceRead, rfl,
      rfl⟩ := read
    obtain ⟨name, rfl, spelled, -⟩ := (Planet.read_some_iff _ _ _).mp named
    obtain ⟨gap, rfl, wide, -⟩ := (Text.blanks_some_iff _ _).mp gapRead
    obtain ⟨word, rfl, linked⟩ := (Text.keyword_some_iff _ _ _).mp wordRead
    obtain ⟨space, rfl, wideSpace, solid⟩ := (Text.blanks_some_iff _ _).mp spaceRead
    exact ⟨name ++ gap ++ word ++ space, by simp only [List.append_assoc],
      ⟨name, gap, word, space, rfl, spelled, wide, linked, wideSpace⟩, solid⟩
  · intro form
    obtain ⟨lead, rfl, ⟨name, gap, word, space, rfl, spelled, wide, linked, wideSpace⟩, solid⟩ := form
    simp only [List.append_assoc]
    rw [readLead, Planet.read_append planet name _ spelled (gap_ends_word _ _ wide)]
    simp only [bind, Option.bind_some]
    rw [Text.blanks_append gap _ wide (spells_solid _ _ _ linked letter)]
    simp only [Option.bind_some]
    rw [Text.keyword_append _ _ _ linked]
    simp only [Option.bind_some]
    rw [Text.blanks_append space rest wideSpace solid]
    rfl

theorem read_pair_some_iff (link : Text) (term : Planet → Planet → Term) (text rest : Text) (t : Term)
    (letter : link.head?.any Char.isAlphanum = true) :
    readPair link term text = some (t, rest) ↔
      ∃ a b written, t = term a b ∧ text = written ++ rest ∧ PairNotation link a b written ∧
        Text.atWordEnd rest = true := by
  rw [read_pair_lead]
  apply Iff.intro
  · intro read
    obtain ⟨⟨a, tail⟩, leadRead, named⟩ := Option.bind_eq_some_iff.mp read
    obtain ⟨⟨b, after⟩, nameRead, same⟩ := Option.map_eq_some_iff.mp named
    cases same
    obtain ⟨lead, rfl, leads, -⟩ := (read_lead_some_iff _ _ _ _ letter).mp leadRead
    obtain ⟨name, rfl, spelled, ended⟩ := (Planet.read_some_iff _ _ _).mp nameRead
    exact ⟨a, b, lead ++ name, rfl, by rw [List.append_assoc], ⟨lead, name, rfl, leads, spelled⟩, ended⟩
  · intro form
    obtain ⟨a, b, written, rfl, rfl, ⟨lead, name, rfl, leads, spelled⟩, ended⟩ := form
    have solid := spells_solid b.abbreviation name rest spelled b.abbreviation_letter
    have leadRead := (read_lead_some_iff _ _ _ _ letter).mpr ⟨lead, rfl, leads, solid⟩
    have nameRead := Planet.read_append b name rest spelled ended
    rw [List.append_assoc]
    exact Option.bind_eq_some_iff.mpr
      ⟨(a, name ++ rest), leadRead, Option.map_eq_some_iff.mpr ⟨(b, rest), nameRead, rfl⟩⟩

theorem read_house_some_iff (house : House) (text rest : Text) :
    readHouse text = some (house, rest) ↔
      ∃ figure, text = figure ++ rest ∧ HouseNotation house figure ∧ Text.atWordEnd rest = true := by
  apply Iff.intro
  · intro read
    simp only [readHouse, bind, Option.bind_eq_some_iff, Prod.exists] at read
    obtain ⟨n, tail, fewRead, ending⟩ := read
    by_cases ended : Text.atWordEnd tail = true
    · rw [if_pos ended] at ending
      cases ending
      obtain ⟨figure, rfl, ⟨all, bound, -⟩, enough, value⟩ :=
        (Decimal.read_few_some_iff _ _ _ _ _).mp fewRead
      exact ⟨figure, rfl, ⟨all, by omega, value⟩, ended⟩
    · rw [if_neg ended] at ending
      cases ending
  · intro form
    obtain ⟨figure, rfl, ⟨all, width, rfl⟩, ended⟩ := form
    have taken : Decimal.Stretch 2 figure rest :=
      ⟨all, by omega, .inr (word_end_stops_digits rest ended)⟩
    rw [readHouse, Decimal.read_few_append 1 2 figure rest taken (by omega)]
    simp [bind, ended]

theorem house_solid (house : House) (figure rest : Text) (written : HouseNotation house figure) :
    (figure ++ rest).head?.any isBlank = false := by
  obtain ⟨all, width, -⟩ := written
  apply digits_solid figure rest all
  intro same
  subst same
  simp at width

theorem read_in_house_some_iff (text rest : Text) (t : Term) :
    readInHouse text = some (t, rest) ↔
      ∃ planet house written, t = inHouse planet house ∧ text = written ++ rest ∧
        InHouseNotation planet house written ∧ Text.atWordEnd rest = true := by
  rw [read_in_house_lead]
  apply Iff.intro
  · intro read
    obtain ⟨⟨planet, tail⟩, leadRead, housed⟩ := Option.bind_eq_some_iff.mp read
    obtain ⟨⟨house, after⟩, houseRead, same⟩ := Option.map_eq_some_iff.mp housed
    cases same
    obtain ⟨lead, rfl, leads, -⟩ := (read_lead_some_iff _ _ _ _ (by decide)).mp leadRead
    obtain ⟨figure, rfl, form, ended⟩ := (read_house_some_iff _ _ _).mp houseRead
    exact ⟨planet, house, lead ++ figure, rfl, by rw [List.append_assoc], ⟨lead, figure, rfl, leads, form⟩,
      ended⟩
  · intro given
    obtain ⟨planet, house, written, rfl, rfl, ⟨lead, figure, rfl, leads, form⟩, ended⟩ := given
    have solid := house_solid house figure rest form
    have leadRead := (read_lead_some_iff _ _ _ _ (by decide)).mpr ⟨lead, rfl, leads, solid⟩
    have houseRead := (read_house_some_iff _ _ _).mpr ⟨figure, rfl, form, ended⟩
    rw [List.append_assoc]
    exact Option.bind_eq_some_iff.mpr
      ⟨(planet, figure ++ rest), leadRead, Option.map_eq_some_iff.mpr ⟨(house, rest), houseRead, rfl⟩⟩

end Term
end Horoscope
