import Horoscope.Proofs.Term.AgeNotation
import Horoscope.Proofs.Term.PlanetNotation
import Horoscope.Proofs.Term.TimeNotation

set_option autoImplicit false

namespace Horoscope.Term

def Reads : Term → Text → Text → Prop
  | ages listed, written, _ => AgeClause listed written
  | periods listed, written, after =>
      ∃ contents, LongestForm contents written after ∧ PeriodsListed contents listed
  | conjunct a b, written, after =>
      PairNotation "conjunct".toList a b written ∧ Text.atWordEnd after = true
  | notWith a b, written, after =>
      PairNotation "not-with".toList a b written ∧ Text.atWordEnd after = true
  | inHouse planet house, written, after =>
      InHouseNotation planet house written ∧ Text.atWordEnd after = true

theorem ages_keyword (text : Text) (result : Term × Text) (read : readAges text = some result) :
    ∃ rest, Text.keyword "age".toList text = some rest := by
  simp only [readAges, bind, Option.bind_eq_some_iff] at read
  obtain ⟨rest, found, -⟩ := read
  exact ⟨rest, found⟩

theorem periods_keyword (text : Text) (result : Term × Text) (read : readPeriods text = some result) :
    ∃ rest, Text.keyword "time".toList text = some rest := by
  simp only [readPeriods, bind, Option.bind_eq_some_iff] at read
  obtain ⟨rest, found, -⟩ := read
  exact ⟨rest, found⟩

theorem pair_lead (link : Text) (term : Planet → Planet → Term) (text : Text) (result : Term × Text)
    (read : readPair link term text = some result) : ∃ lead, readLead link text = some lead := by
  rw [read_pair_lead] at read
  obtain ⟨lead, found, -⟩ := Option.bind_eq_some_iff.mp read
  exact ⟨lead, found⟩

theorem in_house_lead (text : Text) (result : Term × Text) (read : readInHouse text = some result) :
    ∃ lead, readLead "in".toList text = some lead := by
  rw [read_in_house_lead] at read
  obtain ⟨lead, found, -⟩ := Option.bind_eq_some_iff.mp read
  exact ⟨lead, found⟩

theorem lead_parts (link text : Text) (result : Planet × Text) (read : readLead link text = some result) :
    ∃ planet afterName tail rest, Planet.read text = some (planet, afterName) ∧
      Text.blanks afterName = some tail ∧ Text.keyword link tail = some rest := by
  simp only [readLead, bind, Option.bind_eq_some_iff, Prod.exists] at read
  obtain ⟨planet, afterName, named, tail, gap, rest, found, -⟩ := read
  exact ⟨planet, afterName, tail, rest, named, gap, found⟩

theorem leads_nested (a b text : Text) (resultA resultB : Planet × Text)
    (first : readLead a text = some resultA) (second : readLead b text = some resultB) :
    a <+: b ∨ b <+: a := by
  obtain ⟨planetA, afterA, tailA, restA, namedA, gapA, foundA⟩ := lead_parts _ _ _ first
  obtain ⟨planetB, afterB, tailB, restB, namedB, gapB, foundB⟩ := lead_parts _ _ _ second
  rw [namedA] at namedB
  cases namedB
  rw [gapA] at gapB
  cases gapB
  exact Text.keywords_nested _ _ _ _ _ foundA foundB

theorem lead_no_keyword (word link text : Text) (result : Planet × Text)
    (read : readLead link text = some result)
    (apart : ∀ p ∈ Planet.all, ¬ (word <+: p.abbreviation ∨ p.abbreviation <+: word)) :
    Text.keyword word text = none := by
  obtain ⟨planet, afterName, -, -, named, -⟩ := lead_parts _ _ _ read
  obtain ⟨written, cut, spelled, -⟩ := (Planet.read_some_iff _ _ _).mp named
  have name := (Text.keyword_some_iff _ _ _).mpr ⟨written, cut, spelled⟩
  exact Text.keyword_apart _ _ _ _ name fun nested => apart planet planet.mem_all nested.symm

theorem ages_none (text : Text) (absent : Text.keyword "age".toList text = none) : readAges text = none := by
  rw [readAges, absent]
  rfl

theorem periods_none (text : Text) (absent : Text.keyword "time".toList text = none) :
    readPeriods text = none := by
  rw [readPeriods, absent]
  rfl

theorem pair_none (link other : Text) (term : Planet → Planet → Term) (text : Text) (result : Planet × Text)
    (lead : readLead other text = some result) (apart : ¬ (link <+: other ∨ other <+: link)) :
    readPair link term text = none := by
  rw [Option.eq_none_iff_forall_ne_some]
  intro pair read
  obtain ⟨own, ownLead⟩ := pair_lead _ _ _ _ read
  exact apart (leads_nested _ _ _ _ _ ownLead lead)

theorem lead_no_clause (link text : Text) (result : Planet × Text) (lead : readLead link text = some result) :
    readAges text = none ∧ readPeriods text = none :=
  ⟨ages_none text (lead_no_keyword _ _ _ _ lead (by decide)),
    periods_none text (lead_no_keyword _ _ _ _ lead (by decide))⟩

theorem read_some_iff (text : Text) (result : Term × Text) :
    read text = some result ↔
      readAges text = some result ∨ readPeriods text = some result ∨
        readPair "conjunct".toList conjunct text = some result ∨
          readPair "not-with".toList notWith text = some result ∨ readInHouse text = some result := by
  simp only [read, Option.orElse_eq_orElse, Option.orElse_eq_or, Option.or_eq_some_iff]
  apply Iff.intro
  · intro form
    rcases form with ages | ⟨-, periods | ⟨-, conjunct | ⟨-, notWith | ⟨-, inHouse⟩⟩⟩⟩
    · exact .inl ages
    · exact .inr (.inl periods)
    · exact .inr (.inr (.inl conjunct))
    · exact .inr (.inr (.inr (.inl notWith)))
    · exact .inr (.inr (.inr (.inr inHouse)))
  · intro form
    rcases form with ages | periods | conjunct | notWith | inHouse
    -- What is tried before the reader that succeeds reads nothing, as it asks for another word.
    · exact .inl ages
    · obtain ⟨rest, found⟩ := periods_keyword _ _ periods
      exact .inr ⟨ages_none text (Text.keyword_apart _ _ _ _ found (by decide)), .inl periods⟩
    · obtain ⟨result, lead⟩ := pair_lead _ _ _ _ conjunct
      obtain ⟨noAges, noPeriods⟩ := lead_no_clause _ _ _ lead
      exact .inr ⟨noAges, .inr ⟨noPeriods, .inl conjunct⟩⟩
    · obtain ⟨result, lead⟩ := pair_lead _ _ _ _ notWith
      obtain ⟨noAges, noPeriods⟩ := lead_no_clause _ _ _ lead
      exact .inr ⟨noAges, .inr ⟨noPeriods, .inr ⟨pair_none _ _ _ _ _ lead (by decide), .inl notWith⟩⟩⟩
    · obtain ⟨result, lead⟩ := in_house_lead _ _ inHouse
      obtain ⟨noAges, noPeriods⟩ := lead_no_clause _ _ _ lead
      exact .inr ⟨noAges, .inr ⟨noPeriods, .inr ⟨pair_none _ _ _ _ _ lead (by decide),
        .inr ⟨pair_none _ _ _ _ _ lead (by decide), inHouse⟩⟩⟩⟩

theorem no_lead (word link text after : Text) (found : Text.keyword word text = some after)
    (apart : ∀ p ∈ Planet.all, ¬ (word <+: p.abbreviation ∨ p.abbreviation <+: word)) :
    readLead link text = none := by
  rw [Option.eq_none_iff_forall_ne_some]
  intro result read
  rw [lead_no_keyword word link text result read apart] at found
  cases found

theorem read_ages_spelled (text after : Text) (found : Text.keyword "age".toList text = some after) :
    read text = readAges text := by
  have pairs := fun link => no_lead _ link text after found (by decide)
  have noPeriods := periods_none text (Text.keyword_apart _ _ _ _ found (by decide))
  simp [read, noPeriods, read_pair_lead, read_in_house_lead, pairs]

theorem read_periods_spelled (text after : Text) (found : Text.keyword "time".toList text = some after) :
    read text = readPeriods text := by
  have pairs := fun link => no_lead _ link text after found (by decide)
  have noAges := ages_none text (Text.keyword_apart _ _ _ _ found (by decide))
  simp [read, noAges, read_pair_lead, read_in_house_lead, pairs]

theorem reads_iff (t : Term) (written after : Text) :
    read (written ++ after) = some (t, after) ↔ Reads t written after := by
  have cancel : ∀ other : Text, written ++ after = other ++ after → written = other :=
    fun other same => List.append_cancel_right same
  rw [read_some_iff, read_ages_some_iff, read_pair_some_iff _ _ _ _ _ (by decide),
    read_pair_some_iff _ _ _ _ _ (by decide), read_in_house_some_iff]
  apply Iff.intro
  · intro given
    rcases given with ⟨listed, other, rfl, cut, form⟩ | read | ⟨a, b, other, rfl, cut, form⟩ | ⟨a, b,
      other, rfl, cut, form⟩ | ⟨planet, house, other, rfl, cut, form⟩
    · rw [cancel other cut]
      exact form
    · obtain ⟨contents, -, -, -, rfl⟩ := read_periods_form _ _ _ read
      exact (read_periods_longest _ _ _).mp read
    · rw [cancel other cut]
      exact form
    · rw [cancel other cut]
      exact form
    · rw [cancel other cut]
      exact form
  · intro form
    cases t with
    | ages listed => exact .inl ⟨listed, written, rfl, rfl, form⟩
    | periods listed => exact .inr (.inl ((read_periods_longest _ _ _).mpr form))
    | conjunct a b => exact .inr (.inr (.inl ⟨a, b, written, rfl, rfl, form⟩))
    | notWith a b => exact .inr (.inr (.inr (.inl ⟨a, b, written, rfl, rfl, form⟩)))
    | inHouse planet house => exact .inr (.inr (.inr (.inr ⟨planet, house, written, rfl, rfl, form⟩)))

theorem read_cut (text rest : Text) (t : Term) (found : read text = some (t, rest)) :
    ∃ written, text = written ++ rest := by
  rw [read_some_iff, read_ages_some_iff, read_pair_some_iff _ _ _ _ _ (by decide),
    read_pair_some_iff _ _ _ _ _ (by decide), read_in_house_some_iff] at found
  rcases found with ⟨-, written, -, cut, -⟩ | read | ⟨-, -, written, -, cut, -⟩ |
    ⟨-, -, written, -, cut, -⟩ | ⟨-, -, written, -, cut, -⟩
  · exact ⟨written, cut⟩
  · obtain ⟨-, written, cut, -⟩ := read_periods_form _ _ _ read
    exact ⟨written, cut⟩
  · exact ⟨written, cut⟩
  · exact ⟨written, cut⟩
  · exact ⟨written, cut⟩

theorem read_periods_of_read (text rest : Text) (listed : List Period)
    (found : read text = some (periods listed, rest)) : readPeriods text = some (periods listed, rest) := by
  obtain ⟨written, rfl⟩ := read_cut _ _ _ found
  exact (read_periods_longest _ _ _).mpr ((reads_iff _ _ _).mp found)

end Horoscope.Term
