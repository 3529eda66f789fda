import Mathlib.Data.List.Forall2

set_option autoImplicit false

namespace Horoscope

theorem bind_ok_iff {ε α β : Type} (x : Except ε α) (f : α → Except ε β) (result : β) :
    (x >>= f) = .ok result ↔ ∃ a, x = .ok a ∧ f a = .ok result := by
  cases x with
  | error e => simp [bind, Except.bind]
  | ok a => simp [bind, Except.bind]

theorem results_some_iff {α β : Type} (f : α → Option β) (items : List α) (results : List β) :
    items.mapM f = some results ↔ List.Forall₂ (fun item result => f item = some result) items results := by
  induction items generalizing results with
  | nil => simp [eq_comm]
  | cons item items ih =>
      simp only [List.mapM_cons, bind, pure, Option.bind_eq_some_iff, Option.some.injEq, ih,
        List.forall₂_cons_left_iff]
      apply Iff.intro
      · intro form
        obtain ⟨result, head, results, tail, rfl⟩ := form
        exact ⟨result, results, head, tail, rfl⟩
      · intro form
        obtain ⟨result, results, head, tail, rfl⟩ := form
        exact ⟨result, head, results, tail, rfl⟩

theorem results_none_iff {α β : Type} (f : α → Option β) (items : List α) :
    items.mapM f = none ↔ ∃ item ∈ items, f item = none := by
  induction items with
  | nil => simp
  | cons item items ih =>
      cases head : f item with
      | none => simp [head, bind]
      | some result => cases tail : items.mapM f <;> simp [head, tail, bind, pure, ← ih]

theorem results_at_iff {α β : Type} (f : α → Option β) (items : List α) (results : List β)
    (made : items.mapM f = some results) (k : Nat) (result : β) :
    results[k]? = some result ↔ ∃ item, items[k]? = some item ∧ f item = some result := by
  have pairs := (results_some_iff f items results).mp made
  have same : results.map some = items.map f := by
    rw [← List.forall₂_eq_eq_eq, List.forall₂_map_left_iff, List.forall₂_map_right_iff]
    exact pairs.flip.imp fun _ _ madeOfItem => madeOfItem.symm
  have samePlace : results[k]?.map some = items[k]?.map f := by
    rw [← List.getElem?_map, same, List.getElem?_map]
  rw [← Option.map_eq_some_iff, ← samePlace, Option.map_eq_some_iff]
  simp only [Option.some.injEq, exists_eq_right]

end Horoscope
