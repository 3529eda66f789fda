import Horoscope.Proofs.Bank.Rows
import Horoscope.Proofs.Matching.Meaning

set_option autoImplicit false

namespace Horoscope

namespace Bank

theorem matching_numbered (rules : List Rule) (chart : Chart) (moment : Moment) (planet : Planet) :
    matching ⟨rules⟩ chart moment planet =
      ((rules.zipIdx firstId).filter fun numbered => numbered.1.holds chart moment planet).map Prod.snd := by
  rw [matching, rows, List.filter_map, List.map_map]
  rfl

theorem mem_matching_iff (rules : List Rule) (chart : Chart) (moment : Moment) (planet : Planet) (id : Nat) :
    id ∈ matching ⟨rules⟩ chart moment planet ↔
      firstId ≤ id ∧ ∃ rule, rules[id - firstId]? = some rule ∧ rule.holds chart moment planet = true := by
  rw [matching_numbered, List.mem_map]
  apply Iff.intro
  · intro form
    obtain ⟨⟨rule, number⟩, kept, rfl⟩ := form
    obtain ⟨listed, holding⟩ := List.mem_filter.mp kept
    obtain ⟨least, found⟩ := List.mk_mem_zipIdx_iff_le_and_getElem?_sub.mp listed
    exact ⟨least, rule, found, holding⟩
  · intro form
    obtain ⟨least, rule, found, holding⟩ := form
    exact ⟨(rule, id), List.mem_filter.mpr
      ⟨List.mk_mem_zipIdx_iff_le_and_getElem?_sub.mpr ⟨least, found⟩, holding⟩, rfl⟩

theorem row_matching_iff (rules : List Rule) (chart : Chart) (moment : Moment) (planet : Planet)
    (index : Nat) :
    index + 2 ∈ matching ⟨rules⟩ chart moment planet ↔
      ∃ condition, rules[index]?.map Rule.condition = some condition ∧
        Horoscope.holds (terms condition) chart moment planet = true := by
  simp only [mem_matching_iff, firstId, Nat.le_add_left, true_and, Nat.add_sub_cancel,
    Option.map_eq_some_iff]
  apply Iff.intro
  · intro form
    obtain ⟨rule, found, holding⟩ := form
    exact ⟨rule.condition, ⟨rule, found, rfl⟩, holding⟩
  · intro form
    obtain ⟨condition, ⟨rule, found, rfl⟩, holding⟩ := form
    exact ⟨rule, found, holding⟩

theorem matching_ascending (rules : List Rule) (chart : Chart) (moment : Moment) (planet : Planet) :
    (matching ⟨rules⟩ chart moment planet).Pairwise (· < ·) := by
  rw [matching]
  exact (rows_ascending ⟨rules⟩).sublist (List.filter_sublist.map Row.id)

theorem matching_append (rules others : List Rule) (chart : Chart) (moment : Moment) (planet : Planet) :
    matching ⟨rules ++ others⟩ chart moment planet =
      matching ⟨rules⟩ chart moment planet ++
        (matching ⟨others⟩ chart moment planet).map (· + rules.length) := by
  simp only [matching_numbered]
  rw [List.zipIdx_append, Nat.add_comm firstId, ← List.map_snd_add_zipIdx_eq_zipIdx, List.filter_append,
    List.map_append, List.filter_map, List.map_map, List.map_map]
  rfl

end Bank

namespace RandomSource

variable {σ : Type} [RandomSource σ]

def DrawnFrom {α : Type} (options : List α) (drawn : Option α) : Prop :=
  (options = [] ∧ drawn = none) ∨ ∃ x ∈ options, drawn = some x

theorem place_below (length attempts : Nat) (positive : 0 < length) (source : σ) :
    (place length attempts source).1 < length := by
  -- The high half of a word scaled to the length, whichever word is accepted.
  have scaled : ∀ word : UInt32, word.toNat * length / UInt32.size < length := by
    intro word
    refine Nat.div_lt_of_lt_mul ?_
    exact Nat.mul_lt_mul_of_pos_right word.toNat_lt positive
  induction attempts generalizing source with
  | zero => exact scaled _
  | succ attempts ih =>
      rw [place]
      by_cases accepted : (next source).1.toNat * length % UInt32.size ≤ zone length
      · simpa only [if_pos accepted] using scaled _
      · simpa only [if_neg accepted] using ih _

theorem drawn_from {α : Type} (options : List α) (source : σ) :
    DrawnFrom options (draw options source).1 := by
  cases options with
  | nil => exact .inl ⟨rfl, rfl⟩
  | cons first others =>
      have below := place_below (first :: others).length attempts (by simp) source
      have found := List.getElem?_eq_getElem below
      exact .inr ⟨_, List.getElem_mem below, found⟩

end RandomSource

namespace Chart

theorem mem_placements_iff (chart : Chart) (planet : Planet) (house : House) :
    (planet, house) ∈ chart.placements ↔ chart.house? planet = some house := by
  rw [placements, List.mem_filterMap]
  apply Iff.intro
  · intro form
    obtain ⟨p, -, placed⟩ := form
    obtain ⟨h, found, same⟩ := Option.map_eq_some_iff.mp placed
    cases same
    exact found
  · intro found
    exact ⟨planet, planet.mem_all, by rw [found]; rfl⟩

def RowsForSome (chart : Chart) (bank : Bank) (moment : Moment) (found : List Nat) : Prop :=
  ((∀ planet, chart.house? planet = none) ∧ found = []) ∨
    ∃ planet house, chart.house? planet = some house ∧ found = bank.matching chart moment planet

theorem rows_for_drawn (chart : Chart) (bank : Bank) (moment : Moment) (drawn : Option (Planet × House))
    (placed : RandomSource.DrawnFrom chart.placements drawn) :
    chart.RowsForSome bank moment (bank.matchingPlacement chart moment drawn) := by
  rcases placed with ⟨empty, rfl⟩ | ⟨⟨planet, house⟩, listed, rfl⟩
  · refine .inl ⟨fun planet => ?_, rfl⟩
    rw [Option.eq_none_iff_forall_ne_some]
    intro house found
    have listed := (chart.mem_placements_iff planet house).mpr found
    rw [empty] at listed
    cases listed
  · exact .inr ⟨planet, house, (chart.mem_placements_iff planet house).mp listed, rfl⟩

end Chart

structure RowsJudged (rules : List Rule) (chart : Chart) (moment : Moment) (planet : Planet) : Prop where
  selected : ∀ id, id ∈ Bank.matching ⟨rules⟩ chart moment planet ↔
    (2 ≤ id ∧ id ≤ rules.length + 1) ∧
      ∃ rule, rules[id - 2]? = some rule ∧ Satisfied (terms rule.condition) chart moment planet
  ascending : (Bank.matching ⟨rules⟩ chart moment planet).Pairwise (· < ·)
  appended : ∀ others, Bank.matching ⟨rules ++ others⟩ chart moment planet =
    Bank.matching ⟨rules⟩ chart moment planet ++
      (Bank.matching ⟨others⟩ chart moment planet).map (· + rules.length)
  alone : ∀ (others : List Rule) (index : Nat),
    rules[index]?.map Rule.condition = others[index]?.map Rule.condition →
      (index + 2 ∈ Bank.matching ⟨rules⟩ chart moment planet ↔
        index + 2 ∈ Bank.matching ⟨others⟩ chart moment planet)

theorem matching_exact (rules : List Rule) (chart : Chart) (moment : Moment) :
    (∀ planet, RowsJudged rules chart moment planet) ∧
    (∀ drawn, RandomSource.DrawnFrom chart.placements drawn →
      chart.RowsForSome ⟨rules⟩ moment (Bank.matchingPlacement ⟨rules⟩ chart moment drawn)) ∧
    ∀ (σ : Type) [RandomSource σ] (source : σ),
      chart.RowsForSome ⟨rules⟩ moment (Bank.matchingDrawn ⟨rules⟩ chart moment source).1 := by
  refine ⟨fun planet => ⟨fun id => ?_, ?_, fun others => ?_, fun others index same => ?_⟩,
    chart.rows_for_drawn ⟨rules⟩ moment, fun σ _ source => ?_⟩
  · rw [Bank.mem_matching_iff]
    simp only [Rule.holds, holds_iff, Bank.firstId]
    apply Iff.intro
    · intro form
      obtain ⟨least, rule, found, satisfied⟩ := form
      obtain ⟨bound, -⟩ := List.getElem?_eq_some_iff.mp found
      exact ⟨⟨least, by omega⟩, rule, found, satisfied⟩
    · intro form
      obtain ⟨⟨least, -⟩, rule, found, satisfied⟩ := form
      exact ⟨least, rule, found, satisfied⟩
  · exact Bank.matching_ascending rules chart moment planet
  · exact Bank.matching_append rules others chart moment planet
  · rw [Bank.row_matching_iff, Bank.row_matching_iff, same]
  · exact chart.rows_for_drawn ⟨rules⟩ moment _ (RandomSource.drawn_from chart.placements source)

end Horoscope
