import Horoscope.Proofs.Wording.Tidy

set_option autoImplicit false

namespace Horoscope

def balancedFrom : Nat → Text → Bool
  | depth, [] => depth == 0
  | depth, c :: rest =>
    if c = '(' then balancedFrom (depth + 1) rest
    else if c = ')' then depth != 0 && balancedFrom (depth - 1) rest
    else balancedFrom depth rest

def Balanced (text : Text) : Prop := balancedFrom 0 text = true

instance (text : Text) : Decidable (Balanced text) := inferInstanceAs (Decidable (_ = true))

def Lacks (word text : Text) : Prop := ¬ word <:+: text.map Char.toLower

instance (word text : Text) : Decidable (Lacks word text) := inferInstanceAs (Decidable (¬ _))

theorem lacks_part (word text part : Text) (lacks : Lacks word text) (inside : part <:+: text) :
    Lacks word part :=
  fun found => lacks (found.trans (inside.map Char.toLower))

def closesAtEnd (text : Text) : Bool := (text.dropWhile (· != ')')).all (· == ')')

theorem push_back_iff (c : Char) (text : Text) : text ++ [c] = c :: text ↔ text.all (· == c) = true := by
  induction text with
  | nil => simp
  | cons d text ih =>
      by_cases same : d = c
      · subst same
        simpa using ih
      · simp [same]

theorem erase_closing_iff (text : Text) : (text ++ [')']).erase ')' = text ↔ closesAtEnd text = true := by
  induction text with
  | nil => simp [closesAtEnd]
  | cons c text ih =>
      by_cases same : c = ')'
      · subst same
        rw [List.cons_append, List.erase_cons_head, push_back_iff]
        simp [closesAtEnd]
      · have passed : closesAtEnd (c :: text) = closesAtEnd text := by simp [closesAtEnd, same]
        rw [List.cons_append, List.erase_cons_tail (by simpa using same), List.cons.injEq, passed, ih]
        simp

namespace Text

theorem unread_keyword (word front rest : Text) (lacks : Lacks word front)
    (apart : ∀ left right, left ++ right = word → left ≠ [] → right ≠ [] →
      ¬ right <+: rest.map Char.toLower) : Unread (keyword word) front rest := by
  intro before c tail cut
  rw [Option.eq_none_iff_forall_ne_some]
  intro after found
  obtain ⟨written, whole, rfl⟩ := (keyword_some_iff _ _ _).mp found
  rw [← List.cons_append] at whole
  have part : c :: tail <:+: front := ⟨before, [], by rw [cut, List.append_nil]⟩
  have lacking := lacks_part _ front (c :: tail) lacks part
  rcases List.append_eq_append_iff.mp whole with ⟨middle, rfl, rfl⟩ | ⟨middle, inside, -⟩
  · cases middle with
    | nil =>
        rw [List.append_nil] at lacking
        exact lacking (List.infix_refl _)
    | cons d middle =>
        refine apart ((c :: tail).map Char.toLower) ((d :: middle).map Char.toLower) ?_ (by simp)
          (by simp) ?_
        · rw [← List.map_append]
        · rw [List.map_append]
          exact List.prefix_append _ _
  · rw [inside, Lacks, List.map_append] at lacking
    exact lacking (List.prefix_append _ _).isInfix

end Text

namespace Tidy

theorem name_apart (left right : Text) (split : left ++ right = "natal".toList) (first : left ≠ [])
    (last : right ≠ []) : ¬ right <+: "natal".toList := by
  have ends : ∀ n ∈ List.range 5, n = 0 ∨ ¬ "natal".toList.drop n <+: "natal".toList := by decide
  have length := congrArg List.length split
  have later := List.length_pos_iff.mpr last
  have earlier := List.length_pos_iff.mpr first
  rw [List.length_append] at length
  have five : "natal".toList.length = 5 := rfl
  have remaining : right = "natal".toList.drop left.length := by rw [← split, List.drop_left]
  rw [remaining]
  exact (ends left.length (List.mem_range.mpr (by omega))).resolve_left (by omega)

theorem unread_lacking (front rest : Text) (lacks : Lacks "natal".toList front)
    (apart : ∀ left right, left ++ right = "natal".toList → left ≠ [] → right ≠ [] →
      ¬ right <+: rest.map Char.toLower) : Text.Unread readWrapper front rest :=
  fun before c tail cut => wrapper_none _ (Text.unread_keyword _ front rest lacks apart before c tail cut)

theorem unread_before_name (front letters rest : Text) (lacks : Lacks "natal".toList front)
    (spelled : Spells "natal".toList letters) : Text.Unread readWrapper front (letters ++ rest) := by
  apply unread_lacking front _ lacks
  intro left right split first last begins
  rw [List.map_append, spelled] at begins
  have shorter : right.length ≤ "natal".toList.length := by
    rw [← split, List.length_append]
    exact Nat.le_add_left _ _
  exact name_apart left right split first last
    (List.prefix_of_prefix_length_le begins (List.prefix_append _ _) shorter)

theorem unread_before_closing (front rest : Text) (lacks : Lacks "natal".toList front) :
    Text.Unread readWrapper front (')' :: rest) := by
  apply unread_lacking front _ lacks
  intro left right split first last begins
  obtain ⟨c, tail, rfl⟩ := List.exists_cons_of_ne_nil last
  rw [List.map_cons, List.cons_prefix_cons] at begins
  have member : c ∈ "natal".toList := by
    rw [← split]
    exact List.mem_append_right left List.mem_cons_self
  rw [begins.1] at member
  exact absurd member (by decide)

theorem unread_whole (text : Text) (lacks : Lacks "natal".toList text) :
    Text.Unread readWrapper text [] := by
  apply unread_lacking text _ lacks
  intro left right split first last begins
  exact last (List.prefix_nil.mp begins)

theorem unwrap_lacking (text : Text) (lacks : Lacks "natal".toList text) : unwrap text = text := by
  have skipped := Text.replace_all_skips readWrapper text [] (unread_whole text lacks)
  simpa [unwrap, Text.replace_all_nil] using skipped

theorem unwrap_closing (x b : Text) (inside : Lacks "natal".toList x) (behind : Lacks "natal".toList b) :
    unwrap (x ++ ')' :: b) = x ++ ')' :: b := by
  rw [unwrap, Text.replace_all_skips readWrapper x _ (unread_before_closing x b inside),
    Text.replace_all_of_none (wrapper_none_of_head ')' b (by decide)), ← unwrap, unwrap_lacking b behind]

theorem unwrap_taken (a letters gap inside rest : Text) (spelled : Spells "natal".toList letters)
    (blank : Text.allBlank gap = true) (nonempty : inside ≠ []) (unclosed : ')' ∉ inside)
    (lacks : Lacks "natal".toList a) :
    unwrap (a ++ (letters ++ (gap ++ '(' :: (inside ++ ')' :: rest)))) = a ++ (inside ++ unwrap rest) := by
  have found := wrapper_taken letters gap inside rest spelled blank nonempty unclosed
  have taken := Text.replace_all_takes readWrapper (letters ++ (gap ++ '(' :: (inside ++ [')']))) inside
    rest (by simp) (by simpa using found)
  have wrapped : letters ++ (gap ++ '(' :: (inside ++ [')'])) ++ rest =
      letters ++ (gap ++ '(' :: (inside ++ ')' :: rest)) := by
    simp
  rw [unwrap, Text.replace_all_skips readWrapper a _ (unread_before_name a letters _ lacks spelled),
    ← wrapped, taken]
  rfl

theorem balanced_opens (x inside rest : Text) (balanced : Balanced x) (cut : x = inside ++ ')' :: rest) :
    inside ≠ [] := by
  rintro rfl
  subst cut
  cases balanced

theorem unwrap_wrapper (a letters gap x b : Text) (spelled : Spells "natal".toList letters)
    (blank : Text.allBlank gap = true) (nonempty : x ≠ []) (balanced : Balanced x)
    (unnamed : Lacks "natal".toList (a ++ x ++ b)) :
    unwrap (a ++ (letters ++ (gap ++ '(' :: (x ++ ')' :: b)))) = a ++ (x ++ [')']).erase ')' ++ b := by
  have before := lacks_part _ _ a unnamed ⟨[], x ++ b, by simp⟩
  have behind := lacks_part _ _ b unnamed ⟨a ++ x, [], by simp⟩
  by_cases closed : ')' ∈ x
  · obtain ⟨inside, rest, cut, unclosed⟩ := List.eq_append_cons_of_mem closed
    have later := lacks_part _ _ rest unnamed ⟨a ++ inside ++ [')'], b, by simp [cut]⟩
    have opens := balanced_opens x inside rest balanced cut
    have taken := unwrap_taken a letters gap inside (rest ++ ')' :: b) spelled blank opens unclosed before
    have left : (x ++ [')']).erase ')' = inside ++ (rest ++ [')']) := by
      rw [cut, List.append_assoc, List.erase_append_right _ unclosed, List.cons_append,
        List.erase_cons_head]
    rw [unwrap_closing rest b later behind] at taken
    rw [left, cut]
    simpa using taken
  · have taken := unwrap_taken a letters gap x b spelled blank nonempty closed before
    have left : (x ++ [')']).erase ')' = x := by
      rw [List.erase_append_right _ closed, List.erase_cons_head, List.append_nil]
    rw [unwrap_lacking b behind] at taken
    simpa [left] using taken

-- A wrapper gives way to its content where nothing but closing parentheses stands behind the first of
-- them. Else the parenthesis of a group inside goes, and the wrapper's own closes that group.
theorem wrapper_loses_first_closing (a letters gap x b : Text) (spelled : Spells "natal".toList letters)
    (blank : Text.allBlank gap = true) (nonempty : x ≠ []) (balanced : Balanced x)
    (unnamed : Lacks "natal".toList (a ++ x ++ b)) :
    unwrap (a ++ (letters ++ (gap ++ '(' :: (x ++ ')' :: b)))) = a ++ (x ++ [')']).erase ')' ++ b ∧
    tidy (a ++ (letters ++ (gap ++ '(' :: (x ++ ')' :: b)))) =
      Text.trim (spaceOr (spaceAnd (a ++ (x ++ [')']).erase ')' ++ b))) ∧
    (unwrap (a ++ (letters ++ (gap ++ '(' :: (x ++ ')' :: b)))) = unwrap (a ++ x ++ b) ↔
      closesAtEnd x = true) ∧
    (closesAtEnd x = true →
      tidy (a ++ (letters ++ (gap ++ '(' :: (x ++ ')' :: b)))) = tidy (a ++ x ++ b)) := by
  have whole := unwrap_wrapper a letters gap x b spelled blank nonempty balanced unnamed
  have plain := unwrap_lacking (a ++ x ++ b) unnamed
  refine ⟨whole, ?_, ?_, fun closes => ?_⟩
  · rw [tidy, whole]
  · rw [whole, plain, ← erase_closing_iff]
    simp
  · rw [tidy, tidy, whole, plain, (erase_closing_iff x).mpr closes]

theorem two_sightings_unwrapped :
    Spells "natal".toList "Natal".toList ∧ Text.allBlank [' '] = true ∧
      Balanced "sun in 1 AND (AGE(30/31))".toList ∧
      Lacks "natal".toList ("mars in 4 OR ".toList ++ "sun in 1 AND (AGE(30/31))".toList ++ " ".toList) ∧
      tidy "mars in 4 OR Natal (sun in 1 AND (AGE(30/31))) ".toList =
        tidy "mars in 4 OR sun in 1 AND (AGE(30/31)) ".toList := by
  have spelled : Spells "natal".toList "Natal".toList := by
    unfold Spells
    decide
  have unnamed : Lacks "natal".toList
      ("mars in 4 OR ".toList ++ "sun in 1 AND (AGE(30/31))".toList ++ " ".toList) := by
    decide +kernel
  refine ⟨spelled, by decide, by decide, unnamed, ?_⟩
  exact (wrapper_loses_first_closing "mars in 4 OR ".toList "Natal".toList [' ']
    "sun in 1 AND (AGE(30/31))".toList " ".toList spelled (by decide) (by decide) (by decide)
    unnamed).2.2.2 (by decide)

theorem inner_group_torn :
    ¬ ∀ a x b : Text, x ≠ [] → Balanced x → Lacks "natal".toList a → Lacks "natal".toList x →
      Lacks "natal".toList b → Lacks "natal".toList (a ++ x ++ b) →
        tidy (a ++ "Natal(".toList ++ x ++ ')' :: b) = tidy (a ++ x ++ b) := by
  intro removed
  have same := removed [] "Sun in 1 AND AGE(30) AND Moon in 2".toList [] (by decide) (by decide)
    (by decide) (by decide +kernel) (by decide) (by decide +kernel)
  have torn : tidy "Natal(Sun in 1 AND AGE(30) AND Moon in 2)".toList =
      "Sun in 1 AND AGE(30 AND Moon in 2)".toList := by
    decide +kernel
  have kept : tidy "Sun in 1 AND AGE(30) AND Moon in 2".toList =
      "Sun in 1 AND AGE(30) AND Moon in 2".toList := by
    decide +kernel
  exact absurd (torn.symm.trans (same.trans kept)) (by decide)

end Tidy
end Horoscope
