import Horoscope.Proofs.Text.Front
import Mathlib.Data.List.Chain

set_option autoImplicit false

namespace Horoscope

structure Layout where
  lead : Text
  steps : List (Text × Text)
deriving DecidableEq

namespace Layout

def words (l : Layout) : List Text := l.steps.map Prod.fst

def gaps (l : Layout) : List Text := l.lead :: l.steps.map Prod.snd

def text (l : Layout) : Text := l.lead ++ l.steps.flatMap fun step => step.1 ++ step.2

structure Proper (l : Layout) : Prop where
  solid : ∀ word ∈ l.words, word ≠ [] ∧ word.all (fun c => !isBlank c) = true
  blank : ∀ gap ∈ l.gaps, Text.allBlank gap = true
  apart : l.steps.IsChain fun step _ => step.2 ≠ []

theorem proper_nil_iff (lead : Text) : Proper ⟨lead, []⟩ ↔ Text.allBlank lead = true := by
  apply Iff.intro
  · intro proper
    exact proper.blank lead List.mem_cons_self
  · intro blank
    exact ⟨by simp [words], by simpa [gaps] using blank, .nil⟩

theorem proper_cons_iff (lead word behind : Text) (more : List (Text × Text)) :
    Proper ⟨lead, (word, behind) :: more⟩ ↔
      Text.allBlank lead = true ∧ (word ≠ [] ∧ word.all (fun c => !isBlank c) = true) ∧
        (behind = [] → more = []) ∧ Proper ⟨behind, more⟩ := by
  have chain : ((word, behind) :: more).IsChain (fun step _ => step.2 ≠ []) ↔
      (behind = [] → more = []) ∧ more.IsChain fun step _ => step.2 ≠ [] := by
    cases more with
    | nil => simp
    | cons next others => simp [List.isChain_cons_cons]
  apply Iff.intro
  · intro proper
    obtain ⟨apart, further⟩ := chain.mp proper.apart
    refine ⟨proper.blank lead List.mem_cons_self, proper.solid word List.mem_cons_self, apart, ?_, ?_, further⟩
    · exact fun other member => proper.solid other (List.mem_cons_of_mem word member)
    · exact fun gap member => proper.blank gap (List.mem_cons_of_mem lead member)
  · intro form
    obtain ⟨blank, solid, apart, further⟩ := form
    refine ⟨?_, ?_, chain.mpr ⟨apart, further.apart⟩⟩
    · exact List.forall_mem_cons.mpr ⟨solid, further.solid⟩
    · exact List.forall_mem_cons.mpr ⟨blank, further.blank⟩

theorem proper_lead (l : Layout) (lead : Text) (blank : Text.allBlank lead = true) (proper : l.Proper) :
    Proper ⟨lead, l.steps⟩ := by
  refine ⟨proper.solid, List.forall_mem_cons.mpr ⟨blank, ?_⟩, proper.apart⟩
  exact fun gap member => proper.blank gap (List.mem_cons_of_mem l.lead member)

theorem text_cons (lead word behind : Text) (more : List (Text × Text)) :
    text ⟨lead, (word, behind) :: more⟩ = lead ++ (word ++ text ⟨behind, more⟩) := by
  simp [text]

theorem text_lead (lead : Text) (steps : List (Text × Text)) :
    text ⟨lead, steps⟩ = lead ++ text ⟨[], steps⟩ := rfl

theorem text_solid (lead : Text) (steps : List (Text × Text)) (proper : Proper ⟨lead, steps⟩) :
    (text ⟨[], steps⟩).head?.any isBlank = false := by
  cases steps with
  | nil => rfl
  | cons step more =>
      obtain ⟨word, behind⟩ := step
      obtain ⟨-, ⟨nonempty, solid⟩, -, -⟩ := (proper_cons_iff _ _ _ _).mp proper
      obtain ⟨c, tail, rfl⟩ := List.exists_cons_of_ne_nil nonempty
      rw [List.all_cons, Bool.and_eq_true] at solid
      simpa [text] using solid.1

def addBlank (c : Char) (l : Layout) : Layout := ⟨c :: l.lead, l.steps⟩

def addSolid (c : Char) : Layout → Layout
  | ⟨[], (word, behind) :: more⟩ => ⟨[], (c :: word, behind) :: more⟩
  | ⟨lead, steps⟩ => ⟨[], ([c], lead) :: steps⟩

def ofText : Text → Layout
  | [] => ⟨[], []⟩
  | c :: rest => if isBlank c then (ofText rest).addBlank c else (ofText rest).addSolid c

theorem add_blank_proper (c : Char) (l : Layout) (blank : isBlank c = true) (proper : l.Proper) :
    (l.addBlank c).text = c :: l.text ∧ (l.addBlank c).Proper := by
  have lead := proper.blank l.lead List.mem_cons_self
  refine ⟨rfl, l.proper_lead (c :: l.lead) ?_ proper⟩
  rw [Text.allBlank, List.all_cons, blank]
  exact lead

theorem add_solid_proper (c : Char) (l : Layout) (solid : isBlank c = false) (proper : l.Proper) :
    (l.addSolid c).text = c :: l.text ∧ (l.addSolid c).Proper := by
  obtain ⟨lead, steps⟩ := l
  cases lead with
  | nil =>
      cases steps with
      | nil =>
          refine ⟨rfl, (proper_cons_iff _ _ _ _).mpr ⟨rfl, ⟨List.cons_ne_nil _ _, ?_⟩, fun _ => rfl, proper⟩⟩
          simpa using solid
      | cons step more =>
          obtain ⟨word, behind⟩ := step
          obtain ⟨-, ⟨-, all⟩, apart, further⟩ := (proper_cons_iff _ _ _ _).mp proper
          refine ⟨rfl, (proper_cons_iff _ _ _ _).mpr ⟨rfl, ⟨List.cons_ne_nil _ _, ?_⟩, apart, further⟩⟩
          rw [List.all_cons, solid, all]
          rfl
  | cons d lead =>
      refine ⟨rfl, (proper_cons_iff _ _ _ _).mpr ⟨rfl, ⟨List.cons_ne_nil _ _, ?_⟩, fun none => ?_, proper⟩⟩
      · simpa using solid
      · cases none

theorem of_text_proper (text : Text) : (ofText text).text = text ∧ (ofText text).Proper := by
  induction text with
  | nil => exact ⟨rfl, (proper_nil_iff []).mpr rfl⟩
  | cons c rest ih =>
      obtain ⟨same, proper⟩ := ih
      cases blank : isBlank c with
      | true =>
          obtain ⟨whole, further⟩ := add_blank_proper c (ofText rest) blank proper
          rw [same] at whole
          simp only [ofText, if_pos blank]
          exact ⟨whole, further⟩
      | false =>
          obtain ⟨whole, further⟩ := add_solid_proper c (ofText rest) blank proper
          rw [same] at whole
          simp only [ofText, blank]
          exact ⟨whole, further⟩

theorem of_text_gap (gap rest : Text) (blank : Text.allBlank gap = true) :
    ofText (gap ++ rest) = ⟨gap ++ (ofText rest).lead, (ofText rest).steps⟩ := by
  induction gap with
  | nil => rfl
  | cons c gap ih =>
      rw [Text.allBlank, List.all_cons, Bool.and_eq_true] at blank
      rw [List.cons_append, ofText, if_pos blank.1, ih blank.2]
      rfl

theorem of_text_word (c : Char) (word rest behind : Text) (more : List (Text × Text))
    (solid : (c :: word).all (fun c => !isBlank c) = true) (read : ofText rest = ⟨behind, more⟩)
    (apart : behind = [] → more = []) : ofText (c :: word ++ rest) = ⟨[], (c :: word, behind) :: more⟩ := by
  induction word generalizing c with
  | nil =>
      have head : isBlank c ≠ true := by simpa using solid
      rw [List.singleton_append, ofText, if_neg head, read]
      cases behind with
      | nil =>
          rw [apart rfl]
          rfl
      | cons d behind => rfl
  | cons d word ih =>
      rw [List.all_cons, Bool.and_eq_true] at solid
      have head : isBlank c ≠ true := by simpa using solid.1
      rw [List.cons_append, ofText, if_neg head, ih d solid.2]
      rfl

theorem of_text_of_proper (lead : Text) (steps : List (Text × Text)) (proper : Proper ⟨lead, steps⟩) :
    ofText (text ⟨lead, steps⟩) = ⟨lead, steps⟩ := by
  induction steps generalizing lead with
  | nil =>
      have whole : text ⟨lead, []⟩ = lead ++ [] := rfl
      rw [whole, of_text_gap lead [] ((proper_nil_iff lead).mp proper), ofText, List.append_nil]
  | cons step more ih =>
      obtain ⟨word, behind⟩ := step
      obtain ⟨blank, ⟨nonempty, solid⟩, apart, further⟩ := (proper_cons_iff _ _ _ _).mp proper
      obtain ⟨c, tail, rfl⟩ := List.exists_cons_of_ne_nil nonempty
      rw [text_cons, of_text_gap lead _ blank, of_text_word c tail _ behind more solid (ih behind further) apart,
        List.append_nil]

theorem of_text_iff (text : Text) (l : Layout) : ofText text = l ↔ l.text = text ∧ l.Proper := by
  apply Iff.intro
  · rintro rfl
    exact of_text_proper text
  · intro form
    obtain ⟨rfl, proper⟩ := form
    exact of_text_of_proper l.lead l.steps proper

def bareEnd : List (Text × Text) → List (Text × Text)
  | [] => []
  | [(word, _)] => [(word, [])]
  | step :: next :: more => step :: bareEnd (next :: more)

def trimmed (l : Layout) : Layout := ⟨[], bareEnd l.steps⟩

theorem trimmed_words (l : Layout) : l.trimmed.words = l.words := by
  obtain ⟨lead, steps⟩ := l
  rw [trimmed, words, words]
  dsimp only
  induction steps with
  | nil => rfl
  | cons step more ih =>
      cases more with
      | nil => rfl
      | cons next others => rw [bareEnd, List.map_cons, List.map_cons, ih]

theorem trimmed_gap (l : Layout) (i : Nat) (next : Text) (listed : l.words[i + 1]? = some next) :
    l.trimmed.gaps[i + 1]? = l.gaps[i + 1]? := by
  obtain ⟨lead, steps⟩ := l
  rw [words] at listed
  rw [trimmed, gaps, gaps, List.getElem?_cons_succ, List.getElem?_cons_succ]
  dsimp only at listed ⊢
  induction steps generalizing i with
  | nil => cases listed
  | cons step more ih =>
      cases more with
      | nil => cases listed
      | cons other others =>
          cases i with
          | zero => rfl
          | succ i => exact ih i listed

theorem bare_end_proper (lead : Text) (steps : List (Text × Text)) (proper : Proper ⟨lead, steps⟩) :
    Proper ⟨lead, bareEnd steps⟩ := by
  induction steps generalizing lead with
  | nil => exact proper
  | cons step more ih =>
      obtain ⟨word, behind⟩ := step
      obtain ⟨blank, solid, apart, further⟩ := (proper_cons_iff _ _ _ _).mp proper
      cases more with
      | nil => exact (proper_cons_iff _ _ _ _).mpr ⟨blank, solid, fun _ => rfl, (proper_nil_iff []).mpr rfl⟩
      | cons next others =>
          refine (proper_cons_iff _ _ _ _).mpr ⟨blank, solid, fun touching => ?_, ih behind further⟩
          cases apart touching

theorem bare_end_text (lead : Text) (steps : List (Text × Text)) (proper : Proper ⟨lead, steps⟩) :
    ∃ right, Text.allBlank right = true ∧ text ⟨lead, steps⟩ = text ⟨lead, bareEnd steps⟩ ++ right := by
  induction steps generalizing lead with
  | nil => exact ⟨[], rfl, (List.append_nil _).symm⟩
  | cons step more ih =>
      obtain ⟨word, behind⟩ := step
      obtain ⟨-, -, -, further⟩ := (proper_cons_iff _ _ _ _).mp proper
      cases more with
      | nil => exact ⟨behind, (proper_nil_iff behind).mp further, by simp [text, bareEnd]⟩
      | cons next others =>
          obtain ⟨right, blank, cut⟩ := ih behind further
          refine ⟨right, blank, ?_⟩
          rw [text_cons, cut, bareEnd, text_cons]
          simp only [List.append_assoc]

theorem bare_end_last (lead : Text) (step : Text × Text) (more : List (Text × Text))
    (proper : Proper ⟨lead, step :: more⟩) :
    ∃ c, (text ⟨lead, bareEnd (step :: more)⟩).getLast? = some c ∧ isBlank c = false := by
  induction more generalizing lead step with
  | nil =>
      obtain ⟨word, behind⟩ := step
      obtain ⟨-, ⟨nonempty, solid⟩, -, -⟩ := (proper_cons_iff _ _ _ _).mp proper
      refine ⟨word.getLast nonempty, ?_, ?_⟩
      · simp [text, bareEnd, List.getLast?_append, List.getLast?_eq_getLast_of_ne_nil nonempty]
      · simpa using List.all_eq_true.mp solid _ (List.getLast_mem nonempty)
  | cons next others ih =>
      obtain ⟨word, behind⟩ := step
      obtain ⟨-, -, -, further⟩ := (proper_cons_iff _ _ _ _).mp proper
      obtain ⟨c, last, solid⟩ := ih behind next further
      refine ⟨c, ?_, solid⟩
      rw [bareEnd, text_cons, List.getLast?_append, List.getLast?_append, last]
      rfl

theorem trimmed_proper (l : Layout) (proper : l.Proper) : l.trimmed.Proper :=
  bare_end_proper [] l.steps (l.proper_lead [] rfl proper)

theorem trimmed_ends (l : Layout) (proper : l.Proper) :
    l.trimmed.text.head?.any isBlank = false ∧ l.trimmed.text.getLast?.any isBlank = false := by
  refine ⟨text_solid [] _ (l.trimmed_proper proper), ?_⟩
  obtain ⟨lead, steps⟩ := l
  cases steps with
  | nil => rfl
  | cons step more =>
      obtain ⟨c, last, solid⟩ := bare_end_last [] step more (proper_lead ⟨lead, step :: more⟩ [] rfl proper)
      rw [trimmed, last, Option.any_some]
      exact solid

theorem trim_text (l : Layout) (proper : l.Proper) : Text.trim l.text = l.trimmed.text := by
  obtain ⟨first, last⟩ := l.trimmed_ends proper
  obtain ⟨right, rightBlank, cut⟩ := bare_end_text l.lead l.steps proper
  have whole : l.text = l.lead ++ l.trimmed.text ++ right := cut
  rw [whole, Text.trim_between _ _ _ (proper.blank l.lead List.mem_cons_self) rightBlank first last]

end Layout
end Horoscope
