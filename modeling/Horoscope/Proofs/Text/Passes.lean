import Horoscope.Text.Replace

set_option autoImplicit false

namespace Horoscope.Text

variable {α : Type} {read : Text → Option α}

def Unread (read : Text → Option α) (text rest : Text) : Prop :=
  ∀ before c tail, text = before ++ c :: tail → read (c :: (tail ++ rest)) = none

theorem unread_nil (rest : Text) : Unread read [] rest := by
  intro before c tail cut
  cases before <;> cases cut

theorem unread_cons_iff (c : Char) (text rest : Text) :
    Unread read (c :: text) rest ↔ read (c :: (text ++ rest)) = none ∧ Unread read text rest := by
  apply Iff.intro
  · intro unread
    refine ⟨unread [] c text rfl, fun before d tail cut => ?_⟩
    exact unread (c :: before) d tail (by rw [cut]; rfl)
  · intro form before d tail cut
    obtain ⟨head, unread⟩ := form
    cases before with
    | nil =>
        cases cut
        exact head
    | cons b before =>
        cases cut
        exact unread before d tail rfl

theorem unread_append (a b rest : Text) (first : Unread read a (b ++ rest)) (second : Unread read b rest) :
    Unread read (a ++ b) rest := by
  induction a with
  | nil => exact second
  | cons c a ih =>
      obtain ⟨head, tail⟩ := (unread_cons_iff c a (b ++ rest)).mp first
      rw [← List.append_assoc] at head
      exact (unread_cons_iff c (a ++ b) rest).mpr ⟨head, ih tail⟩

theorem unread_of_chars (text rest : Text) (closed : ∀ c ∈ text, ∀ tail, read (c :: tail) = none) :
    Unread read text rest := by
  intro before c tail same
  subst same
  exact closed c (by simp) _

theorem intercalate_flat_map (mark item : Text) (items : List Text) :
    mark.intercalate (item :: items) = item ++ items.flatMap (mark ++ ·) := by
  induction items generalizing item with
  | nil => simp
  | cons next items ih =>
      rw [List.intercalate_cons_cons, ih, List.flatMap_cons]
      simp only [List.append_assoc]

theorem unread_flat_map (f : Text → Text) (items : List Text) (rest : Text)
    (unread : ∀ item ∈ items, ∀ rest, Unread read (f item) rest) : Unread read (items.flatMap f) rest := by
  induction items with
  | nil => exact unread_nil rest
  | cons item items ih =>
      rw [List.flatMap_cons]
      refine unread_append _ _ _ (unread item List.mem_cons_self _) (ih fun other listed => ?_)
      exact unread other (List.mem_cons_of_mem _ listed)

theorem unread_intercalate (mark : Text) (items : List Text) (rest : Text)
    (unreadItem : ∀ item ∈ items, ∀ rest, Unread read item rest)
    (unreadNext : ∀ item ∈ items, ∀ rest, Unread read (mark ++ item) rest) :
    Unread read (mark.intercalate items) rest := by
  cases items with
  | nil => exact unread_nil rest
  | cons item items =>
      rw [intercalate_flat_map]
      refine unread_append _ _ _ (unreadItem item List.mem_cons_self _) ?_
      exact unread_flat_map _ _ _ fun other listed => unreadNext other (List.mem_cons_of_mem _ listed)

theorem replace_all_skips (read : Text → Option (Text × Text)) (text rest : Text)
    (unread : Unread read text rest) : replaceAll read (text ++ rest) = text ++ replaceAll read rest := by
  induction text with
  | nil => rfl
  | cons c text ih =>
      obtain ⟨head, tail⟩ := (unread_cons_iff c text rest).mp unread
      rw [List.cons_append, replace_all_of_none head, ih tail, List.cons_append]

theorem replace_all_takes (read : Text → Option (Text × Text)) (written replacement after : Text)
    (nonempty : written ≠ []) (found : read (written ++ after) = some (replacement, after)) :
    replaceAll read (written ++ after) = replacement ++ replaceAll read after := by
  obtain ⟨c, taken, rfl⟩ := List.exists_cons_of_ne_nil nonempty
  exact replace_all_of_some found

end Horoscope.Text
