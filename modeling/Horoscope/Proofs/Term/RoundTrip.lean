import Horoscope.Proofs.Term.Joined
import Horoscope.Proofs.Wording.BirthClause

set_option autoImplicit false

namespace Horoscope

namespace Term

-- What the notation has room for: houses of two digits, ages of 32 bits and years of four digits.
-- A clause names at least one age or period.
def Writable : Term → Prop
  | inHouse _ house => house ≤ 99
  | conjunct _ _ | notWith _ _ => True
  | ages listed => listed ≠ [] ∧ ∀ age ∈ listed, age < UInt32.size
  | periods listed => listed ≠ [] ∧ ∀ period ∈ listed, period.InFourDigits

end Term

theorem Planet.abbreviation_spelled (p : Planet) : Spells p.abbreviation p.abbreviation := by
  cases p <;> rfl

theorem house_written (house : House) (small : house ≤ 99) : HouseNotation house (Decimal.write house) := by
  have positive := List.length_pos_iff.mpr (Decimal.write_nonempty house)
  have short := Decimal.write_two house (Nat.lt_succ_of_le small)
  exact ⟨Decimal.write_digits house, by omega, Decimal.value_write house⟩

theorem lead_written (link : Text) (planet : Planet) (spelled : Spells link link) :
    LeadNotation link planet (planet.abbreviation ++ [' '] ++ link ++ [' ']) :=
  ⟨planet.abbreviation, [' '], link, [' '], rfl, planet.abbreviation_spelled, ⟨by simp, rfl⟩, spelled,
    ⟨by simp, rfl⟩⟩

theorem age_written (age : Nat) (small : age < UInt32.size) : AgeItem (Decimal.write age) age :=
  ⟨[], [], Decimal.write age, [], by simp, rfl, rfl, .inl rfl, Decimal.write_nonempty age,
    Decimal.write_digits age, Decimal.value_write age, small⟩

theorem ages_written (listed : List Nat) (nonempty : listed ≠ []) (small : ∀ age ∈ listed, age < UInt32.size) :
    AgesListed (['/'].intercalate (listed.map Decimal.write)) listed := by
  refine ⟨listed.map Decimal.write, by simpa using nonempty, rfl, fun item written => ?_, .inl ?_⟩
  · obtain ⟨age, -, rfl⟩ := List.mem_map.mp written
    exact not_mem_of_all Char.isDigit _ '/' (Decimal.write_digits age) rfl
  · rw [List.forall₂_map_left_iff, List.forall₂_same]
    exact fun age member => age_written age (small age member)

theorem ages_open (listed : List Nat) : ')' ∉ ['/'].intercalate (listed.map Decimal.write) := by
  intro member
  rcases mem_joined _ _ _ member with atMark | ⟨item, written, inside⟩
  · revert atMark
    decide
  · obtain ⟨age, -, rfl⟩ := List.mem_map.mp written
    exact not_mem_of_all Char.isDigit _ ')' (Decimal.write_digits age) rfl inside

namespace Term

theorem read_written (t : Term) (writable : t.Writable) : read (write t) = some (t, []) := by
  have ended : Text.atWordEnd [] = true := rfl
  have whole : read (write t ++ []) = some (t, []) := by
    cases t with
    | inHouse planet house =>
        refine (reads_iff _ _ _).mpr ⟨⟨_, Decimal.write house, ?_, lead_written "in".toList planet rfl,
          house_written house writable⟩, ended⟩
        simp [write]
    | conjunct a b =>
        refine (reads_iff _ _ _).mpr ⟨⟨_, b.abbreviation, ?_, lead_written "conjunct".toList a rfl,
          b.abbreviation_spelled⟩, ended⟩
        simp [write]
    | notWith a b =>
        refine (reads_iff _ _ _).mpr ⟨⟨_, b.abbreviation, ?_, lead_written "not-with".toList a rfl,
          b.abbreviation_spelled⟩, ended⟩
        simp [write]
    | ages listed =>
        refine (reads_iff _ _ _).mpr ⟨"AGE".toList, [], _, ?_, rfl, rfl, ages_open listed,
          ages_written listed writable.1 writable.2⟩
        simp [write]
    | periods listed => exact read_periods_written listed [] writable.1 writable.2
  rwa [List.append_nil] at whole

theorem reads_marked (t : Term) (written after : Text) (form : Reads t written after) :
    ∃ c ∈ written, c.isAlphanum = false := by
  have led : ∀ link planet lead, LeadNotation link planet lead → ∃ c ∈ lead, c.isAlphanum = false := by
    intro link planet lead leads
    obtain ⟨name, gap, word, space, rfl, -, ⟨nonempty, blank⟩, -⟩ := leads
    obtain ⟨c, others, rfl⟩ := List.exists_cons_of_ne_nil nonempty
    refine ⟨c, by simp, ?_⟩
    have apart := List.all_eq_true.mp blank c List.mem_cons_self
    cases plain : c.isAlphanum with
    | false => rfl
    | true =>
        rw [alphanumeric_not_blank c plain] at apart
        cases apart
  cases t with
  | ages listed =>
      obtain ⟨name, gap, content, rfl, -⟩ := form
      exact ⟨'(', by simp, rfl⟩
  | periods listed =>
      obtain ⟨contents, ⟨⟨name, gap, space, first, others, more, trail, close, rfl, -⟩, -⟩, -⟩ := form
      exact ⟨'(', by simp, rfl⟩
  | conjunct a b =>
      obtain ⟨⟨lead, name, rfl, leads, -⟩, -⟩ := form
      obtain ⟨c, member, other⟩ := led _ _ _ leads
      exact ⟨c, List.mem_append_left _ member, other⟩
  | notWith a b =>
      obtain ⟨⟨lead, name, rfl, leads, -⟩, -⟩ := form
      obtain ⟨c, member, other⟩ := led _ _ _ leads
      exact ⟨c, List.mem_append_left _ member, other⟩
  | inHouse planet house =>
      obtain ⟨⟨lead, figure, rfl, leads, -⟩, -⟩ := form
      obtain ⟨c, member, other⟩ := led _ _ _ leads
      exact ⟨c, List.mem_append_left _ member, other⟩

theorem unread_plain (text : Text) (plain : text.all Char.isAlphanum = true) : Text.Unread read text [] := by
  intro before c tail cut
  rw [List.append_nil, Option.eq_none_iff_forall_ne_some]
  intro result found
  obtain ⟨t, after⟩ := result
  obtain ⟨written, whole⟩ := read_cut _ _ _ found
  rw [whole] at found cut
  obtain ⟨d, member, other⟩ := reads_marked t written after ((reads_iff _ _ _).mp found)
  rw [List.all_eq_true.mp plain d (by simp [cut, member])] at other
  cases other

theorem unread_behind_name (p : Planet) (link last : Text)
    (apart : ∀ p ∈ Planet.all, partsThroughout (p.abbreviation.tail ++ link) = true)
    (plain : last.all Char.isAlphanum = true) :
    Text.Unread read (p.abbreviation ++ link ++ last).tail [] := by
  have nonempty : p.abbreviation ++ link ≠ [] := by
    have named := p.abbreviation_plain.2.1
    simp [named]
  rw [List.tail_append_of_ne_nil nonempty, List.tail_append_of_ne_nil p.abbreviation_plain.2.1]
  exact Text.unread_append _ _ _ (inert_of_parts _ (apart p p.mem_all) _) (unread_plain last plain)

theorem inert_number (n : Nat) : Inert (Decimal.write n) :=
  inert_of_chars _ (ascii_kind_property Char.isDigit (fun c => !isOpener c) digit_ascii (by decide) _
    (Decimal.write_digits n))

theorem inert_ages (listed : List Nat) : Inert (write (ages listed)).tail := by
  refine inert_append ("GE(".toList ++ _) [')'] (inert_append _ _ (inert_of_chars _ (by decide)) ?_)
    (inert_of_chars _ (by decide))
  refine inert_intercalate _ _ (inert_of_chars _ (by decide)) fun item written => ?_
  obtain ⟨age, -, rfl⟩ := List.mem_map.mp written
  exact inert_number age

theorem inert_period (period : Period) : Inert period.write := by
  have start : Inert ('(' :: Date.write period.start ++ " to ".toList) :=
    inert_append _ _ (inert_append ['('] _ (inert_of_chars _ (by decide)) (inert_day _)) inert_to
  have closing : Inert [')'] := inert_of_chars _ (by decide)
  cases bound : period.bound with
  | on day =>
      have whole := inert_append _ _ (inert_append _ _ start (inert_day day)) closing
      simpa [Period.write, PeriodEnd.write, bound] using whole
  | withYear year =>
      have figures := ascii_kind_property isFigure (fun c => !isOpener c) figure_ascii (by decide) _
        (Date.write_year_figures year)
      have whole := inert_append _ _ (inert_append _ _ start (inert_of_chars _ figures)) closing
      simpa [Period.write, PeriodEnd.write, bound] using whole
  | ongoing =>
      have whole := inert_append _ _ start closing
      simpa [Period.write, PeriodEnd.write, bound] using whole

theorem inert_periods (listed : List Period) : Inert (write (periods listed)).tail := by
  refine inert_append ("IME(".toList ++ _) [')'] (inert_append _ _ (inert_of_parts _ (by decide)) ?_)
    (inert_of_chars _ (by decide))
  refine inert_intercalate _ _ (inert_of_chars _ (by decide)) fun item written => ?_
  obtain ⟨period, -, rfl⟩ := List.mem_map.mp written
  exact inert_period period

theorem write_tail_unread (t : Term) : Text.Unread read (write t).tail [] := by
  have named := fun p : Planet => p.abbreviation_plain.1
  cases t with
  | inHouse planet house =>
      have digits : (Decimal.write house).all Char.isAlphanum = true :=
        ascii_kind_property Char.isDigit Char.isAlphanum digit_ascii (by decide) _ (Decimal.write_digits house)
      exact unread_behind_name planet " in ".toList _ (by decide) digits
  | conjunct a b => exact unread_behind_name a " conjunct ".toList _ (by decide) (named b)
  | notWith a b => exact unread_behind_name a " not-with ".toList _ (by decide) (named b)
  | ages listed => exact inert_ages listed []
  | periods listed => exact inert_periods listed []

theorem terms_write (t : Term) (writable : t.Writable) : terms (write t) = [t] := by
  have found := read_written t writable
  have form := (reads_iff t (write t) []).mp (by rw [List.append_nil, found])
  obtain ⟨c, tail, cut, name⟩ := reads_opening t _ _ form
  have unread := write_tail_unread t
  rw [cut] at found unread ⊢
  have first := (mention_at_some_iff [] c tail _).mpr ⟨(starts_word_iff [] c).mpr ⟨name, rfl⟩, t, [], found, rfl⟩
  rw [terms, mentions, mentionsFrom, first, mentions_from_unread [c] tail unread]
  rfl

theorem closed_write (t : Term) : Closed (write t) := by
  have named : ∀ p : Planet, '(' ∉ p.abbreviation := by
    intro p
    exact not_mem_of_all Char.isAlphanum _ '(' p.abbreviation_plain.1 rfl
  cases t with
  | inHouse planet house =>
      have digits := not_mem_of_all Char.isDigit _ '(' (Decimal.write_digits house) rfl
      exact closed_without _ (by simp [write, named, digits])
  | conjunct a b => exact closed_without _ (by simp [write, named])
  | notWith a b => exact closed_without _ (by simp [write, named])
  | ages listed => exact closed_ending _
  | periods listed => exact closed_ending _

end Term

theorem terms_write_condition (listed : List Term) (writable : ∀ t ∈ listed, t.Writable) :
    terms (writeCondition listed) = listed := by
  induction listed with
  | nil => rfl
  | cons t others ih =>
      have first := Term.terms_write t (writable t List.mem_cons_self)
      have later := ih fun other member => writable other (List.mem_cons_of_mem t member)
      cases others with
      | nil => simpa [writeCondition] using first
      | cons next others =>
          have joined := terms_joined .and (Term.write t) (writeCondition (next :: others))
            (Term.closed_write t)
          have whole : writeCondition (t :: next :: others) =
              Operator.and.join (Term.write t) (writeCondition (next :: others)) := by
            simp [writeCondition, Operator.join, Operator.capitals]
          rw [whole, joined, first, later]
          rfl

example : writeCondition [.inHouse .saturn 11, .ages [30, 31],
      .periods [⟨⟨2023, 5, 1, by decide⟩, .withYear 2024⟩, ⟨⟨2024, 1, 1, by decide⟩, .ongoing⟩]] =
    "sat in 11 AND AGE(30/31) AND TIME((2023-05-01 to 2024), (2024-01-01 to ))".toList := by
  rfl

def farthestTerms : List Term :=
  [.inHouse .rahu 99, .ages [4294967295, 0], .notWith .sun .sun,
    .periods [⟨⟨0, 2, 29, by decide⟩, .on ⟨9999, 12, 31, by decide⟩⟩, ⟨⟨2024, 1, 1, by decide⟩, .withYear 0⟩,
      ⟨⟨2024, 1, 1, by decide⟩, .ongoing⟩]]

theorem farthest_terms_read_back :
    (∀ t ∈ farthestTerms, t.Writable) ∧ terms (writeCondition farthestTerms) = farthestTerms := by
  have writable : ∀ t ∈ farthestTerms, t.Writable := by
    simp [farthestTerms, Term.Writable, Period.InFourDigits]
  exact ⟨writable, terms_write_condition farthestTerms writable⟩

end Horoscope
