import Horoscope.Proofs.Matching.Meaning

set_option autoImplicit false

namespace Horoscope

namespace Term

def turned : Term → Term
  | conjunct a b => conjunct b a
  | notWith a b => notWith b a
  | inHouse planet house => inHouse planet house
  | ages listed => ages listed
  | periods listed => periods listed

theorem favours_turned (chart : Chart) (planet : Planet) (t : Term) :
    t.turned.Favours chart planet ↔ t.Favours chart planet := by
  cases t with
  | inHouse p house => exact Iff.rfl
  | conjunct a b =>
      refine and_congr Or.comm (exists_congr fun house => ?_)
      exact And.comm
  | notWith a b =>
      refine and_congr Or.comm ?_
      apply Iff.intro
      · intro form
        obtain ⟨second, first, placedB, placedA, apart⟩ := form
        exact ⟨first, second, placedA, placedB, apart.symm⟩
      · intro form
        obtain ⟨first, second, placedA, placedB, apart⟩ := form
        exact ⟨second, first, placedB, placedA, apart.symm⟩
  | ages listed => exact Iff.rfl
  | periods listed => exact Iff.rfl

theorem admits_turned (moment : Moment) (t : Term) : t.turned.Admits moment ↔ t.Admits moment := by
  cases t <;> exact Iff.rfl

def OnlyBetween (a b : Planet) : Term → Prop
  | inHouse _ _ => False
  | conjunct p q | notWith p q => (p = a ∧ q = b) ∨ (p = b ∧ q = a)
  | ages _ | periods _ => True

theorem between_either {a b p q : Planet} (between : (p = a ∧ q = b) ∨ (p = b ∧ q = a)) :
    (a = p ∨ a = q) ↔ (b = p ∨ b = q) := by
  rcases between with ⟨rfl, rfl⟩ | ⟨rfl, rfl⟩ <;> simp

theorem favours_between (chart : Chart) (a b : Planet) (t : Term) (between : t.OnlyBetween a b) :
    t.Favours chart a ↔ t.Favours chart b := by
  cases t with
  | inHouse planet house => cases between
  | conjunct p q => exact and_congr_left fun _ => between_either between
  | notWith p q => exact and_congr_left fun _ => between_either between
  | ages listed => exact Iff.rfl
  | periods listed => exact Iff.rfl

end Term

-- Terms put in another order, said once more or with a pair turned, and any number of such changes
-- made or undone one after the other.
inductive Rearranged : List Term → List Term → Prop
  | reordered {first second : List Term} (order : first.Perm second) : Rearranged first second
  | repeated {condition : List Term} {t : Term} (member : t ∈ condition) :
      Rearranged condition (t :: condition)
  | turned (before : List Term) (t : Term) (others : List Term) :
      Rearranged (before ++ t :: others) (before ++ t.turned :: others)
  | undone {first second : List Term} (change : Rearranged first second) : Rearranged second first
  | followed {first second third : List Term} (change : Rearranged first second)
      (next : Rearranged second third) : Rearranged first third

-- No change brings a property in or takes it away, if the property overlooks which planet comes first.
theorem rearranged_some_iff (first second : List Term) (rearranged : Rearranged first second)
    (property : Term → Prop) (overlooks : ∀ t : Term, property t.turned ↔ property t) :
    (∃ t ∈ first, property t) ↔ ∃ t ∈ second, property t := by
  induction rearranged with
  | reordered order =>
      apply exists_congr
      intro t
      rw [order.mem_iff]
  | repeated member =>
      simp only [List.mem_cons, exists_eq_or_imp]
      apply Iff.intro
      · exact .inr
      · rintro (here | there)
        · exact ⟨_, member, here⟩
        · exact there
  | turned before t others =>
      simp only [List.mem_append, List.mem_cons, or_and_right, exists_or, exists_eq_left, overlooks]
  | undone _ ih => exact ih.symm
  | followed _ _ first second => exact first.trans second

theorem rearranged_satisfied (first second : List Term) (rearranged : Rearranged first second)
    (chart : Chart) (moment : Moment) (planet : Planet) :
    Satisfied first chart moment planet ↔ Satisfied second chart moment planet := by
  have favoured := rearranged_some_iff first second rearranged (Term.Favours chart planet)
    (Term.favours_turned chart planet)
  have refused := rearranged_some_iff first second rearranged (fun t => ¬ t.Admits moment)
    fun t => not_congr (Term.admits_turned moment t)
  have admitted := not_congr refused
  simp only [not_exists, not_and, Classical.not_not] at admitted
  rw [satisfied_iff, satisfied_iff, favoured, admitted]

theorem rearranged_holds (first second : List Term) (rearranged : Rearranged first second) (chart : Chart)
    (moment : Moment) (planet : Planet) :
    holds first chart moment planet = holds second chart moment planet := by
  rw [Bool.eq_iff_iff, holds_iff, holds_iff]
  exact rearranged_satisfied first second rearranged chart moment planet

theorem holds_between (condition : List Term) (chart : Chart) (moment : Moment) (a b : Planet)
    (between : ∀ t ∈ condition, t.OnlyBetween a b) :
    holds condition chart moment a = holds condition chart moment b := by
  rw [Bool.eq_iff_iff, holds_iff, holds_iff, satisfied_iff, satisfied_iff]
  apply and_congr_left
  intro _
  apply exists_congr
  intro t
  exact and_congr_right fun member => Term.favours_between chart a b t (between t member)

theorem holds_alone_iff (t : Term) (chart : Chart) (moment : Moment) (planet : Planet)
    (timeless : t.Admits moment) : holds [t] chart moment planet = true ↔ t.Favours chart planet := by
  rw [holds_iff, satisfied_iff]
  simp [timeless]

structure PairDecided (chart : Chart) (moment : Moment) (a b planet : Planet) : Prop where
  placed : (∃ first second, chart.house? a = some first ∧ chart.house? b = some second) →
    holds [.conjunct a b] chart moment planet = !holds [.notWith a b] chart moment planet
  missing : chart.house? a = none ∨ chart.house? b = none →
    holds [.conjunct a b] chart moment planet = false ∧ holds [.notWith a b] chart moment planet = false

theorem pair_decided (chart : Chart) (moment : Moment) (a b planet : Planet) (named : planet = a ∨ planet = b) :
    PairDecided chart moment a b planet := by
  have together := holds_alone_iff (.conjunct a b) chart moment planet trivial
  have apart := holds_alone_iff (.notWith a b) chart moment planet trivial
  constructor
  · intro placed
    obtain ⟨first, second, placedA, placedB⟩ := placed
    rw [Bool.eq_iff_iff, Bool.not_eq_true', ← Bool.not_eq_true, together, apart]
    simp only [Term.Favours, named, placedA, placedB, true_and]
    simp [eq_comm]
  · intro missing
    rw [← Bool.not_eq_true, ← Bool.not_eq_true, together, apart]
    rcases missing with missing | missing <;> simp [Term.Favours, missing]

theorem pairs_symmetric (chart : Chart) (moment : Moment) :
    (∀ (first second : List Term) (planet : Planet), Rearranged first second →
      holds first chart moment planet = holds second chart moment planet) ∧
    (∀ (condition : List Term) (a b : Planet), (∀ t ∈ condition, t.OnlyBetween a b) →
      holds condition chart moment a = holds condition chart moment b) ∧
    ∀ a b planet : Planet, planet = a ∨ planet = b → PairDecided chart moment a b planet :=
  ⟨fun first second planet rearranged => rearranged_holds first second rearranged chart moment planet,
    fun condition a b between => holds_between condition chart moment a b between,
    fun a b planet named => pair_decided chart moment a b planet named⟩

def sunWithMoon : Chart := .ofPlacements ⟨1988, 2, 29, by decide⟩ [(.sun, 7), (.moon, 7)]

def thirtyFive : Moment := sunWithMoon.momentOn ⟨2023, 3, 1, by decide⟩

theorem sun_and_moon_symmetric :
    Rearranged [.ages [35], .conjunct .sun .moon] [.ages [35], .ages [35], .conjunct .moon .sun] ∧
      (∀ t ∈ [Term.ages [35], .conjunct .sun .moon], t.OnlyBetween .sun .moon) ∧
      sunWithMoon.house? .mars = none ∧
      holds [.ages [35], .ages [35], .conjunct .moon .sun] sunWithMoon thirtyFive .sun = true ∧
      holds [.ages [35], .conjunct .sun .moon] sunWithMoon thirtyFive .moon = true ∧
      holds [.notWith .sun .moon] sunWithMoon thirtyFive .moon = false ∧
      holds [.notWith .moon .mars] sunWithMoon thirtyFive .moon = false := by
  obtain ⟨arranged, sides, decided⟩ := pairs_symmetric sunWithMoon thirtyFive
  have turned : Rearranged [.ages [35], .conjunct .sun .moon] [.ages [35], .conjunct .moon .sun] :=
    .turned [.ages [35]] (.conjunct .sun .moon) []
  have change := turned.followed (.repeated (t := .ages [35]) List.mem_cons_self)
  have between : ∀ t ∈ [Term.ages [35], .conjunct .sun .moon], t.OnlyBetween .sun .moon := by
    simp [Term.OnlyBetween]
  have forSun : holds [.ages [35], .conjunct .sun .moon] sunWithMoon thirtyFive .sun = true := by decide
  have one := (decided .sun .moon .moon (.inr rfl)).placed ⟨7, 7, rfl, rfl⟩
  have neither := (decided .moon .mars .moon (.inl rfl)).missing (.inr rfl)
  refine ⟨change, between, rfl, ?_, ?_, ?_, neither.2⟩
  · exact (arranged _ _ .sun change).symm.trans forSun
  · exact (sides _ .sun .moon between).symm.trans forSun
  · have together : holds [.conjunct .sun .moon] sunWithMoon thirtyFive .moon = true := by decide
    rw [together] at one
    exact (Bool.not_eq_true' _).mp one.symm

end Horoscope
