import Horoscope.Proofs.Bank.Selection
import Mathlib.Data.List.Basic

set_option autoImplicit false

namespace Horoscope

namespace Term

def named : Term → List Planet
  | inHouse planet _ => [planet]
  | conjunct a b | notWith a b => [a, b]
  | ages _ | periods _ => []

def Pairs (planet other : Planet) : Term → Prop
  | conjunct a b | notWith a b => (a = planet ∧ b = other) ∨ (a = other ∧ b = planet)
  | inHouse _ _ | ages _ | periods _ => False

instance (planet other : Planet) : (t : Term) → Decidable (t.Pairs planet other)
  | conjunct _ _ | notWith _ _ => inferInstanceAs (Decidable (_ ∨ _))
  | inHouse _ _ | ages _ | periods _ => inferInstanceAs (Decidable False)

theorem favours_congr (first second : Chart) (planet : Planet) (t : Term)
    (agree : ∀ p ∈ t.named, first.house? p = second.house? p) :
    t.Favours first planet ↔ t.Favours second planet := by
  cases t with
  | inHouse p house =>
      have same := agree p List.mem_cons_self
      apply and_congr_right
      rintro rfl
      rw [same]
  | conjunct a b =>
      have sameA := agree a (by simp [named])
      have sameB := agree b (by simp [named])
      rw [Favours, Favours, sameA, sameB]
  | notWith a b =>
      have sameA := agree a (by simp [named])
      have sameB := agree b (by simp [named])
      rw [Favours, Favours, sameA, sameB]
  | ages listed => exact Iff.rfl
  | periods listed => exact Iff.rfl

theorem favours_named (chart : Chart) (planet : Planet) (t : Term) (favours : t.Favours chart planet) :
    ∀ p ∈ t.named, (∃ house, chart.house? p = some house) ∧ (p = planet ∨ t.Pairs planet p) := by
  cases t with
  | inHouse p house =>
      obtain ⟨rfl, placed⟩ := favours
      simp [named, placed]
  | conjunct a b =>
      obtain ⟨rfl | rfl, house, placedA, placedB⟩ := favours <;> simp [named, Pairs, placedA, placedB]
  | notWith a b =>
      obtain ⟨rfl | rfl, first, second, placedA, placedB, -⟩ := favours <;>
        simp [named, Pairs, placedA, placedB]
  | ages listed => cases favours
  | periods listed => cases favours

end Term

namespace Chart

def Within (smaller larger : Chart) : Prop := smaller.placements ⊆ larger.placements

def Added (smaller larger : Chart) (planet : Planet) : Prop :=
  smaller.house? planet = none ∧ larger.house? planet ≠ none

theorem within_iff (smaller larger : Chart) :
    smaller.Within larger ↔
      ∀ planet house, smaller.house? planet = some house → larger.house? planet = some house := by
  simp only [Within, List.subset_def, Prod.forall, mem_placements_iff]

theorem house_kept (smaller larger : Chart) (within : smaller.Within larger) (planet : Planet)
    (known : ¬ smaller.Added larger planet) : smaller.house? planet = larger.house? planet := by
  cases placed : smaller.house? planet with
  | none =>
      by_contra differs
      exact known ⟨placed, fun missing => differs missing.symm⟩
  | some house => exact ((within_iff smaller larger).mp within planet house placed).symm

theorem placed_known (smaller larger : Chart) (planet : Planet)
    (placed : ∃ house, smaller.house? planet = some house) : ¬ smaller.Added larger planet := by
  obtain ⟨house, found⟩ := placed
  rintro ⟨missing, -⟩
  rw [found] at missing
  cases missing

theorem house_beside (chart : Chart) (planet : Planet) (house : House) (p : Planet) (other : p ≠ planet) :
    (chart.place planet house).house? p = chart.house? p := if_neg other

theorem within_place (chart : Chart) (planet : Planet) (house : House) (free : chart.house? planet = none) :
    chart.Within (chart.place planet house) := by
  rw [within_iff]
  intro p h placed
  have other : p ≠ planet := by
    rintro rfl
    rw [free] at placed
    cases placed
  rw [house_beside chart planet house p other]
  exact placed

theorem added_place (chart : Chart) (planet : Planet) (house : House) (p : Planet)
    (added : chart.Added (chart.place planet house) p) : p = planet := by
  obtain ⟨missing, placed⟩ := added
  by_contra other
  rw [house_beside chart planet house p other] at placed
  exact placed missing

end Chart

section

variable (smaller larger : Chart) (within : smaller.Within larger)

include within

theorem favours_within (planet : Planet) (t : Term) (favours : t.Favours smaller planet) :
    t.Favours larger planet := by
  refine (t.favours_congr smaller larger planet fun p named => ?_).mp favours
  obtain ⟨placed, -⟩ := t.favours_named smaller planet favours p named
  exact smaller.house_kept larger within p (smaller.placed_known larger p placed)

theorem favours_unpaired (planet : Planet) (t : Term) (placed : ∃ house, smaller.house? planet = some house)
    (unpaired : ∀ other, smaller.Added larger other → ¬ t.Pairs planet other)
    (favours : t.Favours larger planet) : t.Favours smaller planet := by
  refine (t.favours_congr smaller larger planet fun p named => ?_).mpr favours
  apply smaller.house_kept larger within p
  intro added
  obtain ⟨-, rfl | pair⟩ := t.favours_named larger planet favours p named
  · exact smaller.placed_known larger p placed added
  · exact unpaired p added pair

theorem holds_within (condition : List Term) (moment : Moment) (planet : Planet)
    (holding : holds condition smaller moment planet = true) :
    holds condition larger moment planet = true := by
  rw [holds_iff, satisfied_iff] at holding ⊢
  obtain ⟨⟨t, member, favours⟩, admitted⟩ := holding
  exact ⟨⟨t, member, favours_within smaller larger within planet t favours⟩, admitted⟩

theorem holds_unpaired (condition : List Term) (moment : Moment) (planet : Planet)
    (placed : ∃ house, smaller.house? planet = some house)
    (unpaired : ∀ t ∈ condition, ∀ other, smaller.Added larger other → ¬ t.Pairs planet other) :
    holds condition smaller moment planet = holds condition larger moment planet := by
  rw [Bool.eq_iff_iff]
  refine ⟨holds_within smaller larger within condition moment planet, fun holding => ?_⟩
  rw [holds_iff, satisfied_iff] at holding ⊢
  obtain ⟨⟨t, member, favours⟩, admitted⟩ := holding
  have favoured := favours_unpaired smaller larger within planet t placed (unpaired t member) favours
  exact ⟨⟨t, member, favoured⟩, admitted⟩

theorem Bank.matching_within (bank : Bank) (moment : Moment) (planet : Planet) :
    (bank.matching smaller moment planet).Sublist (bank.matching larger moment planet) := by
  refine List.Sublist.map Row.id (List.monotone_filter_right _ fun row holding => ?_)
  exact holds_within smaller larger within _ moment planet holding

theorem Bank.matching_unpaired (bank : Bank) (moment : Moment) (planet : Planet)
    (placed : ∃ house, smaller.house? planet = some house)
    (unpaired : ∀ rule ∈ bank.rules, ∀ t ∈ terms rule.condition, ∀ other,
      smaller.Added larger other → ¬ t.Pairs planet other) :
    bank.matching smaller moment planet = bank.matching larger moment planet := by
  refine congrArg (List.map Row.id) (List.filter_congr fun row listed => ?_)
  exact holds_unpaired smaller larger within _ moment planet placed (unpaired row.rule (bank.rule_listed row listed))

end

namespace Bank

theorem matching_grows (bank : Bank) (chart : Chart) (moment : Moment) (planet : Planet) :
    (∀ larger, chart.Within larger →
      (bank.matching chart moment planet).Sublist (bank.matching larger moment planet)) ∧
    (∀ larger, chart.Within larger → (∃ house, chart.house? planet = some house) →
      (∀ rule ∈ bank.rules, ∀ t ∈ terms rule.condition, ∀ other,
        chart.Added larger other → ¬ t.Pairs planet other) →
      bank.matching chart moment planet = bank.matching larger moment planet) ∧
    ∀ other house, chart.house? other = none →
      (bank.matching chart moment planet).Sublist
          (bank.matching (chart.place other house) moment planet) ∧
      ((∃ house, chart.house? planet = some house) →
        (∀ rule ∈ bank.rules, ∀ t ∈ terms rule.condition, ¬ t.Pairs planet other) →
        bank.matching chart moment planet = bank.matching (chart.place other house) moment planet) := by
  refine ⟨fun larger within => bank.matching_within chart larger within moment planet,
    fun larger within => bank.matching_unpaired chart larger within moment planet,
    fun other house free => ?_⟩
  have within := chart.within_place other house free
  refine ⟨bank.matching_within chart _ within moment planet, fun placed unpaired => ?_⟩
  refine bank.matching_unpaired chart _ within moment planet placed fun rule listed t member p added => ?_
  rw [chart.added_place other house p added]
  exact unpaired rule listed t member

def marsBesideSun : Bank :=
  ⟨[⟨"moon in 4 OR sun in 7".toList, []⟩, ⟨"sun not-with mars".toList, []⟩, ⟨"mars in 3".toList, []⟩]⟩

def sunAndMoon : Chart := .ofPlacements ⟨1972, 11, 3, by decide⟩ [(.sun, 7), (.moon, 4)]

def springDay : Moment := sunAndMoon.momentOn ⟨2025, 4, 7, by decide⟩

theorem mars_brings_sun :
    sunAndMoon.Within (sunAndMoon.place .mars 3) ∧ sunAndMoon.Added (sunAndMoon.place .mars 3) .mars ∧
      marsBesideSun.matching sunAndMoon springDay .sun = [2] ∧
      marsBesideSun.matching (sunAndMoon.place .mars 3) springDay .sun = [2, 3] ∧
      marsBesideSun.matching (sunAndMoon.place .mars 3) springDay .moon = [2] := by
  have within := sunAndMoon.within_place .mars 3 rfl
  obtain ⟨-, unpaired, -⟩ :=
    marsBesideSun.matching_grows sunAndMoon springDay .moon
  have same := unpaired (sunAndMoon.place .mars 3) within ⟨4, rfl⟩ (by
    intro rule listed t member other added
    rw [sunAndMoon.added_place .mars 3 other added]
    revert rule listed t member
    decide +kernel)
  refine ⟨within, ⟨rfl, by decide⟩, by decide +kernel, by decide +kernel, ?_⟩
  rw [← same]
  decide +kernel

end Bank
end Horoscope
