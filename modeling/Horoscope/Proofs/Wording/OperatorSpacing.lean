import Horoscope.Proofs.Text.Layout
import Horoscope.Proofs.Wording.SentenceOperators

set_option autoImplicit false

namespace Horoscope

theorem Operator.spelled_unique (op other : Operator) (letters : Text) (spelled : Spells op.word letters)
    (otherSpelled : Spells other.word letters) : op = other := by
  have same : op.word = other.word := spelled.symm.trans otherSpelled
  cases op <;> cases other
  · rfl
  · cases same
  · cases same
  · rfl

namespace Tidy

def spacedFrom (op : Operator) (lead : Text) : List (Text × Text) → Layout
  | [] => ⟨lead, []⟩
  | (word, behind) :: more =>
    if lead ≠ [] ∧ Spells op.word word ∧ behind ≠ [] then
      ⟨[' '], (op.capitals, [' ']) :: (spacedFrom op [] more).steps⟩
    else ⟨lead, (word, (spacedFrom op behind more).lead) :: (spacedFrom op behind more).steps⟩

theorem spaced_lead (op : Operator) (lead : Text) (steps : List (Text × Text)) :
    (spacedFrom op lead steps).lead = lead ∨ lead ≠ [] ∧ (spacedFrom op lead steps).lead = [' '] := by
  cases steps with
  | nil => exact .inl rfl
  | cons step more =>
      obtain ⟨word, behind⟩ := step
      by_cases taken : lead ≠ [] ∧ Spells op.word word ∧ behind ≠ []
      · rw [spacedFrom, if_pos taken]
        exact .inr ⟨taken.1, rfl⟩
      · rw [spacedFrom, if_neg taken]
        exact .inl rfl

theorem spaced_proper (op : Operator) (lead : Text) (steps : List (Text × Text))
    (proper : Layout.Proper ⟨lead, steps⟩) : (spacedFrom op lead steps).Proper := by
  induction steps generalizing lead with
  | nil => exact proper
  | cons step more ih =>
      obtain ⟨word, behind⟩ := step
      obtain ⟨blank, solid, apart, further⟩ := (Layout.proper_cons_iff _ _ _ _).mp proper
      by_cases taken : lead ≠ [] ∧ Spells op.word word ∧ behind ≠ []
      · have later := ih [] (Layout.proper_lead ⟨behind, more⟩ [] rfl further)
        have capitals : op.capitals ≠ [] ∧ op.capitals.all (fun c => !isBlank c) = true := by
          refine ⟨?_, op.word_solid _ op.capitals_spelled⟩
          cases op <;> exact List.cons_ne_nil _ _
        rw [spacedFrom, if_pos taken]
        refine (Layout.proper_cons_iff _ _ _ _).mpr ⟨rfl, capitals, fun none => ?_, ?_⟩
        · cases none
        · exact Layout.proper_lead _ [' '] rfl later
      · rw [spacedFrom, if_neg taken]
        refine (Layout.proper_cons_iff _ _ _ _).mpr ⟨blank, solid, fun none => ?_, ih behind further⟩
        rcases spaced_lead op behind more with same | ⟨-, single⟩
        · rw [apart (same.symm.trans none)]
          rfl
        · rw [single] at none
          cases none

theorem operator_none (op : Operator) (gap word behind rest : Text) (wide : Gap gap)
    (solid : word ≠ [] ∧ word.all (fun c => !isBlank c) = true) (blank : Text.allBlank behind = true)
    (apart : behind = [] → rest = []) (other : ¬ (Spells op.word word ∧ behind ≠ [])) :
    readOperator op.word op.capitals (gap ++ (word ++ (behind ++ rest))) = none := by
  have head : (word ++ (behind ++ rest)).head?.any isBlank = false := by
    obtain ⟨c, tail, rfl⟩ := List.exists_cons_of_ne_nil solid.1
    rw [List.all_cons, Bool.and_eq_true] at solid
    simpa using solid.2.1
  have ended : (behind ++ rest).head?.any (fun c => !isBlank c) = false := by
    by_cases last : behind = []
    · rw [last, apart last]
      rfl
    · exact gap_head behind rest ⟨last, blank⟩
  rw [readOperator, Text.blanks_append gap _ wide head]
  simp only [bind, Option.bind_some]
  cases found : Text.keyword op.word (word ++ (behind ++ rest)) with
  | none => rfl
  | some after =>
      obtain ⟨letters, cut, spelled⟩ := (Text.keyword_some_iff _ _ _).mp found
      simp only [Option.bind_some]
      cases closed : Text.blanks after with
      | none => rfl
      | some further =>
          obtain ⟨right, rfl, wideRight, -⟩ := (Text.blanks_some_iff _ _).mp closed
          obtain ⟨rfl, same⟩ := front_unique _ word (behind ++ rest) letters (right ++ further) cut solid.2 ended
            (op.word_solid letters spelled) (gap_head right further wideRight)
          refine absurd ⟨spelled, ?_⟩ other
          rintro rfl
          rw [apart rfl] at same
          exact wideRight.1 (List.append_eq_nil_iff.mp same.symm).1

theorem capitalize_taken (op : Operator) (lead word behind rest : Text) (wide : Gap lead)
    (spelled : Spells op.word word) (wideBehind : Gap behind) (solid : rest.head?.any isBlank = false) :
    capitalize op (lead ++ (word ++ (behind ++ rest))) =
      [' '] ++ (op.capitals ++ ([' '] ++ capitalize op rest)) := by
  have found := operator_taken op.word op.capitals lead word behind rest wide spelled wideBehind
    op.word_letter solid
  have nonempty : lead ++ word ++ behind ≠ [] := by simp [wide.1]
  have taking := Text.replace_all_takes _ (lead ++ word ++ behind) _ _ nonempty found
  rw [← List.append_assoc, ← List.append_assoc, capitalize, taking, ← capitalize]
  simp

theorem capitalize_untaken (op : Operator) (lead word behind rest : Text) (leadBlank : Text.allBlank lead = true)
    (solid : word ≠ [] ∧ word.all (fun c => !isBlank c) = true) (blank : Text.allBlank behind = true)
    (apart : behind = [] → rest = []) (untaken : ¬ (lead ≠ [] ∧ Spells op.word word ∧ behind ≠ [])) :
    capitalize op (lead ++ (word ++ (behind ++ rest))) = lead ++ (word ++ capitalize op (behind ++ rest)) := by
  have unread : Quiet op lead (word ++ (behind ++ rest)) := by
    intro before c tail cut
    have inLead : lead ≠ [] := by simp [cut]
    have wide : Gap (c :: tail) := by
      rw [cut, Text.all_blank_append, Bool.and_eq_true] at leadBlank
      exact ⟨List.cons_ne_nil c tail, leadBlank.2⟩
    exact operator_none op (c :: tail) word behind rest wide solid blank apart fun both => untaken ⟨inLead, both⟩
  rw [capitalize, Text.replace_all_skips _ lead _ unread,
    Text.replace_all_skips _ word _ (unread_solid _ _ word _ solid.2), ← capitalize]

theorem capitalize_text (op : Operator) (lead : Text) (steps : List (Text × Text))
    (proper : Layout.Proper ⟨lead, steps⟩) :
    capitalize op (Layout.text ⟨lead, steps⟩) = (spacedFrom op lead steps).text := by
  induction steps generalizing lead with
  | nil =>
      have absent : Text.keyword op.word [] = none := by cases op <;> rfl
      have blank := (Layout.proper_nil_iff lead).mp proper
      exact Text.replace_all_skips _ lead [] (unread_gap _ _ lead [] blank rfl absent)
  | cons step more ih =>
      obtain ⟨word, behind⟩ := step
      obtain ⟨blank, solid, apart, further⟩ := (Layout.proper_cons_iff _ _ _ _).mp proper
      have behindBlank := further.blank behind List.mem_cons_self
      rw [Layout.text_cons, Layout.text_lead behind]
      by_cases taken : lead ≠ [] ∧ Spells op.word word ∧ behind ≠ []
      · have later := ih [] (Layout.proper_lead ⟨behind, more⟩ [] rfl further)
        have unled : (spacedFrom op [] more).lead = [] := by
          rcases spaced_lead op [] more with same | ⟨filled, -⟩
          · exact same
          · exact absurd rfl filled
        rw [capitalize_taken op lead word behind _ ⟨taken.1, blank⟩ taken.2.1 ⟨taken.2.2, behindBlank⟩
            (Layout.text_solid behind more further),
          later, spacedFrom, if_pos taken, Layout.text_cons, Layout.text_lead [' '], Layout.text, unled]
        rfl
      · have ended : behind = [] → Layout.text ⟨[], more⟩ = [] := by
          intro last
          rw [apart last]
          rfl
        rw [capitalize_untaken op lead word behind _ blank solid behindBlank ended taken, ← Layout.text_lead,
          ih behind further, spacedFrom, if_neg taken, Layout.text_cons]

theorem spaced_size (op : Operator) (lead : Text) (steps : List (Text × Text)) :
    (spacedFrom op lead steps).words.length = steps.length := by
  induction steps generalizing lead with
  | nil => rfl
  | cons step more ih =>
      obtain ⟨word, behind⟩ := step
      rw [spacedFrom, List.length_cons]
      split
      · exact congrArg (· + 1) (ih [])
      · exact congrArg (· + 1) (ih behind)

theorem spaced_word (op : Operator) (lead : Text) (steps : List (Text × Text)) (i : Nat) (word : Text)
    (listed : (Layout.words ⟨lead, steps⟩)[i]? = some word) :
    (spacedFrom op lead steps).words[i]? = some word ∨
      Spells op.word word ∧ (spacedFrom op lead steps).words[i]? = some op.capitals := by
  induction steps generalizing lead i with
  | nil => cases listed
  | cons step more ih =>
      obtain ⟨first, behind⟩ := step
      by_cases taken : lead ≠ [] ∧ Spells op.word first ∧ behind ≠ []
      · rw [spacedFrom, if_pos taken]
        cases i with
        | zero =>
            cases listed
            exact .inr ⟨taken.2.1, rfl⟩
        | succ i => exact ih [] i listed
      · rw [spacedFrom, if_neg taken]
        cases i with
        | zero => exact .inl listed
        | succ i => exact ih behind i listed

theorem spaced_gap (op : Operator) (lead : Text) (steps : List (Text × Text)) (i : Nat) (left right : Text)
    (leftListed : (Layout.words ⟨lead, steps⟩)[i]? = some left)
    (rightListed : (Layout.words ⟨lead, steps⟩)[i + 1]? = some right)
    (leftOther : ¬ Spells op.word left) (rightOther : ¬ Spells op.word right) :
    (spacedFrom op lead steps).gaps[i + 1]? = (Layout.gaps ⟨lead, steps⟩)[i + 1]? := by
  induction steps generalizing lead i with
  | nil => cases leftListed
  | cons step more ih =>
      obtain ⟨first, behind⟩ := step
      by_cases taken : lead ≠ [] ∧ Spells op.word first ∧ behind ≠ []
      · rw [spacedFrom, if_pos taken]
        cases i with
        | zero =>
            cases leftListed
            exact absurd taken.2.1 leftOther
        | succ i => exact ih [] i leftListed rightListed
      · rw [spacedFrom, if_neg taken]
        cases i with
        | zero =>
            cases more with
            | nil => cases rightListed
            | cons next others =>
                cases rightListed
                have untaken : ¬ (behind ≠ [] ∧ Spells op.word next.1 ∧ next.2 ≠ []) :=
                  fun both => rightOther both.2.1
                rw [spacedFrom, if_neg untaken]
                rfl
        | succ i => exact ih behind i leftListed rightListed

theorem spaced_operator (op : Operator) (lead : Text) (steps : List (Text × Text))
    (proper : Layout.Proper ⟨lead, steps⟩) (i : Nat) (left word right : Text)
    (leftListed : (Layout.words ⟨lead, steps⟩)[i]? = some left)
    (listed : (Layout.words ⟨lead, steps⟩)[i + 1]? = some word)
    (rightListed : (Layout.words ⟨lead, steps⟩)[i + 2]? = some right) (spelled : Spells op.word word)
    (leftOther : ¬ Spells op.word left) :
    (spacedFrom op lead steps).words[i + 1]? = some op.capitals ∧
      (spacedFrom op lead steps).gaps[i + 1]? = some [' '] ∧
        (spacedFrom op lead steps).gaps[i + 2]? = some [' '] := by
  induction steps generalizing lead i with
  | nil => cases leftListed
  | cons step more ih =>
      obtain ⟨first, behind⟩ := step
      obtain ⟨-, -, apart, further⟩ := (Layout.proper_cons_iff _ _ _ _).mp proper
      by_cases taken : lead ≠ [] ∧ Spells op.word first ∧ behind ≠ []
      · rw [spacedFrom, if_pos taken]
        cases i with
        | zero =>
            cases leftListed
            exact absurd taken.2.1 leftOther
        | succ i =>
            exact ih [] (Layout.proper_lead ⟨behind, more⟩ [] rfl further) i leftListed listed rightListed
      · rw [spacedFrom, if_neg taken]
        cases i with
        | zero =>
            cases more with
            | nil => cases listed
            | cons next others =>
                obtain ⟨found, gap⟩ := next
                cases listed
                obtain ⟨-, -, apartNext, -⟩ := (Layout.proper_cons_iff _ _ _ _).mp further
                have takenNext : behind ≠ [] ∧ Spells op.word found ∧ gap ≠ [] := by
                  refine ⟨fun none => ?_, spelled, fun none => ?_⟩
                  · cases apart none
                  · rw [apartNext none] at rightListed
                    cases rightListed
                rw [spacedFrom, if_pos takenNext]
                exact ⟨rfl, rfl, rfl⟩
        | succ i => exact ih behind further i leftListed listed rightListed

def Spelled (ops : List Operator) (word : Text) : Prop := ∃ op ∈ ops, Spells op.word word

instance (ops : List Operator) (word : Text) : Decidable (Spelled ops word) :=
  inferInstanceAs (Decidable (∃ op ∈ ops, Spells op.word word))

theorem spelled_append (ops more : List Operator) (word : Text) :
    Spelled (ops ++ more) word ↔ Spelled ops word ∨ Spelled more word := by
  simp only [Spelled, List.mem_append, or_and_right, exists_or]

structure Spaced (ops : List Operator) (before after : Layout) : Prop where
  size : after.words.length = before.words.length
  words : ∀ (i : Nat) (word : Text), before.words[i]? = some word →
    after.words[i]? = some word ∨ ∃ op ∈ ops, Spells op.word word ∧ after.words[i]? = some op.capitals
  operators : ∀ (op : Operator) (i : Nat) (left word right : Text), before.words[i]? = some left →
    before.words[i + 1]? = some word → before.words[i + 2]? = some right → op ∈ ops → Spells op.word word →
      ¬ Spelled ops left → ¬ Spelled ops right →
        after.words[i + 1]? = some op.capitals ∧ after.gaps[i + 1]? = some [' '] ∧ after.gaps[i + 2]? = some [' ']
  others : ∀ (i : Nat) (left right : Text), before.words[i]? = some left → before.words[i + 1]? = some right →
    ¬ Spelled ops left → ¬ Spelled ops right → after.gaps[i + 1]? = before.gaps[i + 1]?

namespace Spaced

variable {ops : List Operator} {before after : Layout}

theorem kept (spaced : Spaced ops before after) (i : Nat) (word : Text)
    (listed : before.words[i]? = some word) (other : ¬ Spelled ops word) : after.words[i]? = some word := by
  rcases spaced.words i word listed with same | ⟨op, member, spelled, -⟩
  · exact same
  · exact absurd ⟨op, member, spelled⟩ other

theorem pass (op : Operator) (l : Layout) (proper : l.Proper) : Spaced [op] l (spacedFrom op l.lead l.steps) := by
  have mine : ∀ word, Spelled [op] word ↔ Spells op.word word := by
    intro word
    simp [Spelled]
  refine ⟨?_, fun i word listed => ?_, ?_, ?_⟩
  · rw [spaced_size, Layout.words, List.length_map]
  · rcases spaced_word op l.lead l.steps i word listed with same | ⟨spelled, capitals⟩
    · exact .inl same
    · exact .inr ⟨op, List.mem_singleton_self op, spelled, capitals⟩
  · intro other i left word right leftListed listed rightListed member spelled leftOther _
    obtain rfl := List.mem_singleton.mp member
    exact spaced_operator other l.lead l.steps proper i left word right leftListed listed rightListed spelled
      (fun spelledLeft => leftOther ((mine left).mpr spelledLeft))
  · intro i left right leftListed rightListed leftOther rightOther
    exact spaced_gap op l.lead l.steps i left right leftListed rightListed
      (fun spelledLeft => leftOther ((mine left).mpr spelledLeft))
      (fun spelledRight => rightOther ((mine right).mpr spelledRight))

-- Passes for different operators do not disturb each other: what one puts in capitals is no word of the other.
theorem append {middle : Layout} {more : List Operator} (first : Spaced ops before middle)
    (second : Spaced more middle after) (apart : ∀ op ∈ ops, op ∉ more) : Spaced (ops ++ more) before after := by
  have foreign : ∀ op ∈ ops, ∀ word, Spells op.word word → ¬ Spelled more word := by
    rintro op early word spelled ⟨other, late, otherSpelled⟩
    rw [op.spelled_unique other word spelled otherSpelled] at early
    exact apart other early late
  have capitalsKept : ∀ op ∈ ops, ¬ Spelled more op.capitals := fun op early =>
    foreign op early op.capitals op.capitals_spelled
  refine ⟨second.size.trans first.size, ?_, ?_, ?_⟩
  · intro i word listed
    rcases first.words i word listed with same | ⟨op, early, spelled, capitals⟩
    · rcases second.words i word same with kept | ⟨op, late, spelled, capitals⟩
      · exact .inl kept
      · exact .inr ⟨op, List.mem_append_right ops late, spelled, capitals⟩
    · have still := second.kept i op.capitals capitals (capitalsKept op early)
      exact .inr ⟨op, List.mem_append_left more early, spelled, still⟩
  · intro op i left word right leftListed listed rightListed member spelled leftOther rightOther
    rw [spelled_append, not_or] at leftOther rightOther
    have leftKept := first.kept i left leftListed leftOther.1
    have rightKept := first.kept (i + 2) right rightListed rightOther.1
    rcases List.mem_append.mp member with early | late
    · have silent := capitalsKept op early
      obtain ⟨capitals, gapBefore, gapBehind⟩ :=
        first.operators op i left word right leftListed listed rightListed early spelled leftOther.1 rightOther.1
      refine ⟨second.kept (i + 1) op.capitals capitals silent, ?_, ?_⟩
      · rw [second.others i left op.capitals leftKept capitals leftOther.2 silent, gapBefore]
      · rw [second.others (i + 1) op.capitals right capitals rightKept silent rightOther.2, gapBehind]
    · have plain : ¬ Spelled ops word := by
        rintro ⟨other, early, otherSpelled⟩
        exact foreign other early word otherSpelled ⟨op, late, spelled⟩
      exact second.operators op i left word right leftKept (first.kept (i + 1) word listed plain) rightKept late
        spelled leftOther.2 rightOther.2
  · intro i left right leftListed rightListed leftOther rightOther
    rw [spelled_append, not_or] at leftOther rightOther
    have leftKept := first.kept i left leftListed leftOther.1
    have rightKept := first.kept (i + 1) right rightListed rightOther.1
    rw [second.others i left right leftKept rightKept leftOther.2 rightOther.2,
      first.others i left right leftListed rightListed leftOther.1 rightOther.1]

theorem listed (spaced : Spaced ops before after) (i : Nat) (word : Text)
    (listed : before.words[i]? = some word) : ∃ written, after.words[i]? = some written := by
  rcases spaced.words i word listed with same | ⟨op, -, -, capitals⟩
  · exact ⟨word, same⟩
  · exact ⟨op.capitals, capitals⟩

theorem trimmed (spaced : Spaced ops before after) : Spaced ops before after.trimmed := by
  refine ⟨?_, ?_, ?_, ?_⟩
  · rw [after.trimmed_words]
    exact spaced.size
  · rw [after.trimmed_words]
    exact spaced.words
  · intro op i left word right leftListed listed rightListed member spelled leftOther rightOther
    obtain ⟨written, here⟩ := spaced.listed (i + 1) word listed
    obtain ⟨next, behind⟩ := spaced.listed (i + 2) right rightListed
    rw [after.trimmed_words, after.trimmed_gap i written here, after.trimmed_gap (i + 1) next behind]
    exact spaced.operators op i left word right leftListed listed rightListed member spelled leftOther rightOther
  · intro i left right leftListed rightListed leftOther rightOther
    obtain ⟨next, behind⟩ := spaced.listed (i + 1) right rightListed
    rw [after.trimmed_gap i next behind]
    exact spaced.others i left right leftListed rightListed leftOther rightOther

end Spaced

theorem operators_spaced (text : Text) :
    (∀ (whole : Text) (l : Layout), Layout.ofText whole = l ↔ l.text = whole ∧ l.Proper) ∧
    Spaced [.and, .or] (Layout.ofText text) (Layout.ofText (Text.trim (spaceOr (spaceAnd text)))) ∧
    (Text.trim (spaceOr (spaceAnd text))).head?.any isBlank = false ∧
    (Text.trim (spaceOr (spaceAnd text))).getLast?.any isBlank = false := by
  obtain ⟨whole, proper⟩ := Layout.of_text_proper text
  generalize Layout.ofText text = l at whole proper
  subst whole
  have properAnd := spaced_proper .and l.lead l.steps proper
  have properOr := spaced_proper .or _ _ properAnd
  have anded : spaceAnd l.text = (spacedFrom .and l.lead l.steps).text := capitalize_text .and _ _ proper
  have passed := (Spaced.pass .and l proper).append (Spaced.pass .or _ properAnd) (by decide)
  generalize spacedFrom .and l.lead l.steps = middle at *
  have ored : spaceOr middle.text = (spacedFrom .or middle.lead middle.steps).text :=
    capitalize_text .or _ _ properAnd
  generalize spacedFrom .or middle.lead middle.steps = last at *
  rw [anded, ored, last.trim_text properOr, (Layout.of_text_iff _ _).mpr ⟨rfl, last.trimmed_proper properOr⟩]
  exact ⟨Layout.of_text_iff, passed.trimmed, last.trimmed_ends properOr⟩

def crowdedOperators : Text := " Sun\u3000 aNd\tMars  oR \u2003or  Sandy \u00a0 x and".toList

def crowdedLayout : Layout := Layout.ofText crowdedOperators

def tidiedLayout : Layout := Layout.ofText (Text.trim (spaceOr (spaceAnd crowdedOperators)))

theorem crowded_operators_spaced :
    (crowdedLayout.words[0]? = some "Sun".toList ∧ crowdedLayout.words[1]? = some "aNd".toList ∧
      crowdedLayout.words[2]? = some "Mars".toList) ∧
    (tidiedLayout.words[1]? = some "AND".toList ∧ tidiedLayout.gaps[1]? = some [' '] ∧
      tidiedLayout.gaps[2]? = some [' ']) ∧
    crowdedLayout.gaps[6]? = some " \u00a0 ".toList ∧ tidiedLayout.gaps[6]? = crowdedLayout.gaps[6]? := by
  obtain ⟨-, spaced, -, -⟩ := operators_spaced crowdedOperators
  have capitals := spaced.operators .and 0 "Sun".toList "aNd".toList "Mars".toList rfl rfl rfl
    List.mem_cons_self rfl (by decide) (by decide)
  have kept := spaced.others 5 "Sandy".toList "x".toList rfl rfl (by decide) (by decide)
  exact ⟨⟨rfl, rfl, rfl⟩, capitals, rfl, kept⟩

end Tidy
end Horoscope
