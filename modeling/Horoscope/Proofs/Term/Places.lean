import Horoscope.Proofs.Term.Mentions

set_option autoImplicit false

namespace Horoscope

structure Placed where
  term : Term
  start : Nat
  stop : Nat
deriving DecidableEq

def Placed.shift (bytes : Nat) (p : Placed) : Placed := ⟨p.term, p.start + bytes, p.stop + bytes⟩

namespace Mention

def placed (m : Mention) : Placed := ⟨m.term, m.start, m.stop⟩

@[simp] theorem placed_term (m : Mention) : m.placed.term = m.term := rfl

@[simp] theorem placed_start (m : Mention) : m.placed.start = m.start := rfl

@[simp] theorem placed_stop (m : Mention) : m.placed.stop = m.stop := rfl

end Mention

def placedTerms (text : Text) : List Placed := (mentions text).map Mention.placed

theorem terms_placed (text : Text) : terms text = (placedTerms text).map Placed.term := by
  rw [terms, placedTerms, List.map_map]
  rfl

theorem mention_at_placed (passed : Text) (c : Char) (rest : Text) :
    (mentionAt? passed c rest).map Mention.placed =
      if startsWord passed c then
        (Term.read (c :: rest)).map fun (t, after) =>
          ⟨t, Text.byteLength passed,
            Text.byteLength passed + (Text.byteLength (c :: rest) - Text.byteLength after)⟩
      else none := by
  rw [mentionAt?]
  split
  · rw [Option.map_map]
    rfl
  · rfl

theorem mentions_from_shifted (passed other text : Text) (bytes : Nat)
    (same : passed.head?.any isNameChar = other.head?.any isNameChar)
    (length : Text.byteLength passed = Text.byteLength other + bytes) :
    (mentionsFrom passed text).map Mention.placed =
      (mentionsFrom other text).map fun m => m.placed.shift bytes := by
  induction text generalizing passed other with
  | nil => rfl
  | cons c rest ih =>
      have later := ih (c :: passed) (c :: other) rfl (by rw [Text.byteLength, Text.byteLength, length]; omega)
      have starts : startsWord passed c = startsWord other c := by rw [startsWord, startsWord, same]
      have here : (mentionAt? passed c rest).map Mention.placed =
          ((mentionAt? other c rest).map Mention.placed).map (Placed.shift bytes) := by
        rw [mention_at_placed, mention_at_placed, starts, length]
        split
        · rw [Option.map_map]
          refine congrArg (fun place => (Term.read (c :: rest)).map place) (funext fun found => ?_)
          simp only [Function.comp_apply, Placed.shift, Placed.mk.injEq, true_and]
          omega
        · rfl
      rw [mentionsFrom, mentionsFrom, List.map_append, List.map_append, later, ← Option.toList_map, here,
        ← Option.toList_map, Option.map_map]
      rfl

theorem mentions_behind (passed text : Text) (outside : passed.head?.any isNameChar = false) :
    (mentionsFrom passed text).map Mention.term = terms text := by
  have moved := mentions_from_shifted passed [] text (Text.byteLength passed) outside
    (by simp [Text.byteLength])
  have kept := congrArg (List.map Placed.term) moved
  rw [List.map_map, List.map_map] at kept
  exact kept

namespace Term

theorem reads_alone (t : Term) (written after : Text) (form : Reads t written after) :
    Reads t written [] := by
  cases t with
  | ages listed => exact form
  | periods listed =>
      obtain ⟨contents, ⟨shape, -⟩, listing⟩ := form
      -- Where the text ends with the clause, nothing longer can have its form.
      refine ⟨contents, ⟨shape, fun contents' written' after' cut _ => ?_⟩, listing⟩
      have lengths := congrArg List.length cut
      simp only [List.append_nil, List.length_append] at lengths
      omega
  | conjunct a b => exact ⟨form.1, rfl⟩
  | notWith a b => exact ⟨form.1, rfl⟩
  | inHouse planet house => exact ⟨form.1, rfl⟩

theorem read_alone (t : Term) (written after : Text) (found : read (written ++ after) = some (t, after)) :
    read written = some (t, []) := by
  have form := reads_alone t written after ((reads_iff t written after).mp found)
  simpa using (reads_iff t written []).mpr form

end Term

theorem placed_first (t : Term) (c : Char) (rest : Text) (name : isNameChar c = true)
    (found : Term.read (c :: rest) = some (t, [])) :
    (placedTerms (c :: rest)).head? = some ⟨t, 0, Text.byteLength (c :: rest)⟩ := by
  have here : mentionAt? [] c rest = some ⟨[], c :: rest, t, []⟩ := by
    rw [mention_at_some_iff, startsWord, name]
    exact ⟨rfl, t, [], found, rfl⟩
  rw [placedTerms, mentions, mentionsFrom, here]
  simp [Mention.placed, Mention.stop, Mention.start, Text.byteLength]

theorem placed_ordered (text : Text) : (placedTerms text).Pairwise fun p q => p.start < q.start := by
  rw [placedTerms, List.pairwise_map]
  exact mentions_from_ordered [] text

theorem placed_alone (text : Text) (p : Placed) (listed : p ∈ placedTerms text) :
    ∃ before written after, Slice text p.start p.stop before written after ∧ Detached before ∧
      written.head?.any isNameChar = true ∧ p.start < p.stop ∧ p.stop ≤ Text.byteLength text ∧
        (placedTerms written).head? = some ⟨p.term, 0, p.stop - p.start⟩ := by
  obtain ⟨m, member, rfl⟩ := List.mem_map.mp listed
  simp only [Mention.placed_start, Mention.placed_stop, Mention.placed_term]
  have mentioned : MentionedAt text m.start m.stop m.term := ⟨m, member, rfl, rfl, rfl⟩
  obtain ⟨before, written, after, slice, detached, form⟩ := (mentioned_at_iff _ _ _ _).mp mentioned
  obtain ⟨rfl, start, stop⟩ := slice
  obtain ⟨c, rest, rfl, name⟩ := reads_opening _ _ _ form
  have found := Term.read_alone _ _ _ ((Term.reads_iff _ _ _).mpr form)
  have first := placed_first m.term c rest name found
  have size := Text.byte_length_positive (c :: rest) (List.cons_ne_nil _ _)
  have lengths := Text.byte_length_append before (c :: rest)
  have whole := Text.byte_length_append (before ++ c :: rest) after
  have width : m.stop - m.start = Text.byteLength (c :: rest) := by omega
  rw [← width] at first
  exact ⟨before, c :: rest, after, ⟨rfl, start, stop⟩, detached, name, by omega, by omega, first⟩

theorem placed_behind (front text : Text) (detached : Detached front) :
    (placedTerms (front ++ text)).filter (fun p => Text.byteLength front ≤ p.start) =
      (placedTerms text).map (Placed.shift (Text.byteLength front)) := by
  have before : ((mentionsBefore [] front text).map Mention.placed).filter
      (fun p => Text.byteLength front ≤ p.start) = [] := by
    rw [List.filter_eq_nil_iff]
    intro p listed
    obtain ⟨m, member, rfl⟩ := List.mem_map.mp listed
    rw [decide_eq_true_iff, Nat.not_le]
    exact mentions_before_start front text m member
  have behind : ((mentionsFrom front.reverse text).map Mention.placed).filter
      (fun p => Text.byteLength front ≤ p.start) = (mentionsFrom front.reverse text).map Mention.placed := by
    rw [List.filter_eq_self]
    intro p listed
    obtain ⟨m, member, rfl⟩ := List.mem_map.mp listed
    have start := mentions_from_start front.reverse text m member
    rw [Text.byte_length_reverse] at start
    exact decide_eq_true start
  have moved := mentions_from_shifted front.reverse [] text (Text.byteLength front)
    (by rw [List.head?_reverse]; exact detached) (by simp [Text.byteLength, Text.byte_length_reverse])
  rw [placedTerms, mentions_split, List.map_append, List.filter_append, before, behind, moved, placedTerms,
    List.map_map]
  rfl

-- Terms are placed in order, each on a cut of the text that mentions it by itself; text in front that
-- ends outside a word moves what stands behind it and changes nothing else there.
theorem places_self_contained (text : Text) :
    ((placedTerms text).Pairwise fun p q => p.start < q.start) ∧
    (∀ p ∈ placedTerms text,
      ∃ before written after, Slice text p.start p.stop before written after ∧ Detached before ∧
        written.head?.any isNameChar = true ∧ p.start < p.stop ∧ p.stop ≤ Text.byteLength text ∧
          (placedTerms written).head? = some ⟨p.term, 0, p.stop - p.start⟩) ∧
    ∀ front, Detached front →
      (placedTerms (front ++ text)).filter (fun p => Text.byteLength front ≤ p.start) =
        (placedTerms text).map (Placed.shift (Text.byteLength front)) :=
  ⟨placed_ordered text, placed_alone text, fun front detached => placed_behind front text detached⟩

def sharedMoon : Text := "sun conjunct moon conjunct mars".toList

theorem shared_moon_places :
    (⟨.conjunct .moon .mars, 13, 31⟩ ∈ placedTerms sharedMoon ∧
      ∃ before written after, Slice sharedMoon 13 31 before written after ∧ Detached before ∧
        written.head?.any isNameChar = true ∧ 13 < 31 ∧ 31 ≤ Text.byteLength sharedMoon ∧
          (placedTerms written).head? = some ⟨.conjunct .moon .mars, 0, 18⟩) ∧
    Detached "né. ".toList ∧
      (placedTerms ("né. ".toList ++ sharedMoon)).filter (fun p => 5 ≤ p.start) =
        [⟨.conjunct .sun .moon, 5, 22⟩, ⟨.conjunct .moon .mars, 18, 36⟩] := by
  obtain ⟨-, alone, behind⟩ := places_self_contained sharedMoon
  have listed : ⟨.conjunct .moon .mars, 13, 31⟩ ∈ placedTerms sharedMoon := by decide
  have detached : Detached "né. ".toList := rfl
  exact ⟨⟨listed, alone _ listed⟩, detached, (behind _ detached).trans (by decide)⟩

end Horoscope
