import Horoscope.Proofs.Matching.Meaning
import Horoscope.Proofs.Term.Joined

set_option autoImplicit false

namespace Horoscope

theorem satisfied_append_iff (first second : List Term) (chart : Chart) (moment : Moment)
    (planet : Planet) :
    Satisfied (first ++ second) chart moment planet ↔
      ((∃ t ∈ first, t.Favours chart planet) ∨ ∃ t ∈ second, t.Favours chart planet) ∧
        (∀ t ∈ first, t.Admits moment) ∧ ∀ t ∈ second, t.Admits moment := by
  simp only [satisfied_iff, List.mem_append, or_and_right, exists_or, or_imp, forall_and]

theorem joined_conditions (a b : Text) (closed : Closed a) (operator : Operator) :
    terms (operator.join a b) = terms a ++ terms b ∧
    (∀ chart moment planet, holds (terms (operator.join a b)) chart moment planet = true ↔
      ((∃ t ∈ terms a, t.Favours chart planet) ∨ ∃ t ∈ terms b, t.Favours chart planet) ∧
        (∀ t ∈ terms a, t.Admits moment) ∧ ∀ t ∈ terms b, t.Admits moment) ∧
    (∀ chart moment planet, holds (terms a) chart moment planet = true →
      holds (terms b) chart moment planet = true →
        holds (terms (operator.join a b)) chart moment planet = true) ∧
    ∀ (other : Operator) (chart : Chart) (moment : Moment) (planet : Planet),
      holds (terms (other.join a b)) chart moment planet =
        holds (terms (operator.join a b)) chart moment planet := by
  have joined := fun operator : Operator => terms_joined operator a b closed
  refine ⟨joined operator, fun chart moment planet => ?_, fun chart moment planet first second => ?_,
    fun other chart moment planet => ?_⟩
  · rw [holds_iff, joined, satisfied_append_iff]
  · rw [holds_iff] at first second
    rw [holds_iff, joined, satisfied_append_iff]
    exact ⟨.inl first.favoured, first.admitted, second.admitted⟩
  · rw [joined, joined]

theorem joined_ages_and_planets :
    Closed "AGE(3x) TIME( (2020-01-01 to ) sun conjunct moon".toList ∧
      terms (Operator.or.join "AGE(3x) TIME( (2020-01-01 to ) sun conjunct moon".toList
          "in 1 mars in 12".toList) =
        [.ages [], .periods [⟨⟨2020, 1, 1, by decide⟩, .ongoing⟩], .conjunct .sun .moon,
          .inHouse .mars 12] :=
  ⟨by decide, ((joined_conditions _ "in 1 mars in 12".toList (by decide) .or).1).trans (by decide +kernel)⟩

end Horoscope
