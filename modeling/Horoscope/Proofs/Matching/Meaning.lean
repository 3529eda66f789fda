import Horoscope.Matching

set_option autoImplicit false

namespace Horoscope

namespace Term

def Favours (chart : Chart) (planet : Planet) : Term → Prop
  | inHouse p house => p = planet ∧ chart.house? planet = some house
  | conjunct a b => (planet = a ∨ planet = b) ∧
      ∃ house, chart.house? a = some house ∧ chart.house? b = some house
  | notWith a b => (planet = a ∨ planet = b) ∧
      ∃ first second, chart.house? a = some first ∧ chart.house? b = some second ∧ first ≠ second
  | ages _ | periods _ => False

def Admits (moment : Moment) : Term → Prop
  | ages listed => ∃ age ∈ listed, moment.age = (age : Int)
  | periods listed => ∃ period ∈ listed, ∃ last, period.bound.lastDay? moment.today = some last ∧
      period.start ≤ moment.today ∧ moment.today ≤ last
  | inHouse _ _ | conjunct _ _ | notWith _ _ => True

theorem favours_placed (chart : Chart) (planet : Planet) (t : Term) (favours : t.Favours chart planet) :
    ∃ house, chart.house? planet = some house := by
  cases t with
  | inHouse p house => exact ⟨house, favours.2⟩
  | conjunct a b =>
      obtain ⟨rfl | rfl, house, first, second⟩ := favours
      · exact ⟨house, first⟩
      · exact ⟨house, second⟩
  | notWith a b =>
      obtain ⟨rfl | rfl, first, second, placedA, placedB, -⟩ := favours
      · exact ⟨first, placedA⟩
      · exact ⟨second, placedB⟩
  | ages listed => cases favours
  | periods listed => cases favours

theorem partner_iff (chart : Chart) (a b planet : Planet) (house : House) (test : House → House → Bool)
    (symmetric : ∀ x y, test x y = test y x) (placed : chart.house? planet = some house) :
    ((partner? a b planet).bind chart.house?).any (test · house) = true ↔
      (planet = a ∨ planet = b) ∧
        ∃ first second, chart.house? a = some first ∧ chart.house? b = some second ∧
          test first second = true := by
  by_cases isFirst : a = planet
  · subst isFirst
    rw [partner?, if_pos rfl, Option.bind_some]
    cases other : chart.house? b <;> simp [placed, symmetric]
  · by_cases isSecond : b = planet
    · subst isSecond
      rw [partner?, if_neg isFirst, if_pos rfl, Option.bind_some]
      cases other : chart.house? a <;> simp [placed]
    · have neither : ¬ (planet = a ∨ planet = b) := by
        rintro (same | same)
        · exact isFirst same.symm
        · exact isSecond same.symm
      simp [partner?, isFirst, isSecond, neither]

theorem holds_for_conjunct (chart : Chart) (planet a b : Planet) (house : House) :
    (conjunct a b).holdsFor chart planet house =
      ((partner? a b planet).bind chart.house?).any (· == house) := by
  rw [holdsFor]
  cases (partner? a b planet).bind chart.house? <;> rfl

theorem holds_for_not_with (chart : Chart) (planet a b : Planet) (house : House) :
    (notWith a b).holdsFor chart planet house =
      ((partner? a b planet).bind chart.house?).any (· != house) := by
  rw [holdsFor]
  cases (partner? a b planet).bind chart.house? <;> rfl

theorem holds_for_iff (chart : Chart) (planet : Planet) (house : House) (t : Term)
    (placed : chart.house? planet = some house) :
    t.holdsFor chart planet house = true ↔ t.Favours chart planet := by
  cases t with
  | inHouse p h =>
      simp only [holdsFor, Favours, placed, Bool.and_eq_true, beq_iff_eq, Option.some.injEq]
      exact and_congr_right fun _ => eq_comm
  | conjunct a b =>
      have pair := partner_iff chart a b planet house (· == ·) (fun _ _ => Bool.beq_comm) placed
      rw [holds_for_conjunct, pair, Favours]
      simp only [beq_iff_eq]
      apply and_congr_right
      intro _
      apply Iff.intro
      · intro form
        obtain ⟨first, second, placedA, placedB, rfl⟩ := form
        exact ⟨first, placedA, placedB⟩
      · intro form
        obtain ⟨both, placedA, placedB⟩ := form
        exact ⟨both, both, placedA, placedB, rfl⟩
  | notWith a b =>
      have pair := partner_iff chart a b planet house (· != ·) (fun _ _ => bne_comm) placed
      rw [holds_for_not_with, pair, Favours]
      simp only [bne_iff_ne]
  | ages listed => simp [holdsFor, Favours]
  | periods listed => simp [holdsFor, Favours]

theorem holds_at_iff (moment : Moment) (t : Term) : t.holdsAt moment = true ↔ t.Admits moment := by
  cases t with
  | ages listed =>
      simp only [holdsAt, Admits, Bool.and_eq_true, decide_eq_true_eq, List.contains_iff_mem]
      apply Iff.intro
      · intro form
        obtain ⟨born, member⟩ := form
        exact ⟨_, member, (Int.toNat_of_nonneg born).symm⟩
      · intro form
        obtain ⟨age, member, same⟩ := form
        rw [same]
        exact ⟨Int.natCast_nonneg age, member⟩
  | periods listed => simp only [holdsAt, Admits, List.any_eq_true, Period.contains_iff]
  | inHouse p house => simp [holdsAt, Admits]
  | conjunct a b => simp [holdsAt, Admits]
  | notWith a b => simp [holdsAt, Admits]

end Term

structure Satisfied (condition : List Term) (chart : Chart) (moment : Moment) (planet : Planet) : Prop where
  placed : ∃ house, chart.house? planet = some house
  favoured : ∃ t ∈ condition, t.Favours chart planet
  admitted : ∀ t ∈ condition, t.Admits moment

theorem satisfied_iff (condition : List Term) (chart : Chart) (moment : Moment) (planet : Planet) :
    Satisfied condition chart moment planet ↔
      (∃ t ∈ condition, t.Favours chart planet) ∧ ∀ t ∈ condition, t.Admits moment := by
  apply Iff.intro
  · intro satisfied
    exact ⟨satisfied.favoured, satisfied.admitted⟩
  · intro form
    obtain ⟨⟨t, member, favours⟩, admitted⟩ := form
    exact ⟨t.favours_placed chart planet favours, ⟨t, member, favours⟩, admitted⟩

theorem holds_iff (condition : List Term) (chart : Chart) (moment : Moment) (planet : Planet) :
    holds condition chart moment planet = true ↔ Satisfied condition chart moment planet := by
  cases placed : chart.house? planet with
  | none =>
      rw [holds, placed]
      apply Iff.intro
      · intro nothing
        cases nothing
      · intro satisfied
        obtain ⟨house, found⟩ := satisfied.placed
        rw [placed] at found
        cases found
  | some house =>
      simp only [holds, placed, Bool.and_eq_true, List.any_eq_true, List.all_eq_true,
        Term.holds_for_iff chart planet house _ placed, Term.holds_at_iff]
      exact ⟨fun form => ⟨⟨house, placed⟩, form.1, form.2⟩,
        fun satisfied => ⟨satisfied.favoured, satisfied.admitted⟩⟩

end Horoscope
