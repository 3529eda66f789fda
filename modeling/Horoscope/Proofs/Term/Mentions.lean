import Horoscope.Proofs.Term.Reading
import Horoscope.Term.Mention

set_option autoImplicit false

namespace Horoscope

namespace Text

theorem byte_length_reverse (text : Text) : byteLength text.reverse = byteLength text := by
  induction text with
  | nil => rfl
  | cons c rest ih =>
      rw [List.reverse_cons, byte_length_append, ih]
      simp only [byteLength]
      omega

theorem byte_length_positive (text : Text) (nonempty : text ≠ []) : 0 < byteLength text := by
  obtain ⟨c, rest, rfl⟩ := List.exists_cons_of_ne_nil nonempty
  have size := Char.utf8Size_pos c
  rw [byteLength]
  omega

theorem byte_length_cut (a b front rest : Text) (same : a ++ b = front ++ rest)
    (length : byteLength a = byteLength front) : a = front ∧ b = rest := by
  rcases List.append_eq_append_iff.mp same with ⟨middle, rfl, rfl⟩ | ⟨middle, rfl, rfl⟩ <;>
    rw [byte_length_append] at length
  · cases middle with
    | nil => simp
    | cons c tail =>
        have positive := byte_length_positive (c :: tail) (List.cons_ne_nil _ _)
        omega
  · cases middle with
    | nil => simp
    | cons c tail =>
        have positive := byte_length_positive (c :: tail) (List.cons_ne_nil _ _)
        omega

end Text

def Detached (text : Text) : Prop := text.getLast?.any isNameChar = false

def MentionedAt (text : Text) (start stop : Nat) (t : Term) : Prop :=
  ∃ m ∈ mentions text, m.term = t ∧ m.start = start ∧ m.stop = stop

def Slice (text : Text) (start stop : Nat) (before written after : Text) : Prop :=
  text = before ++ written ++ after ∧ Text.byteLength before = start ∧
    Text.byteLength (before ++ written) = stop

theorem mention_at_some_iff (passed : Text) (c : Char) (rest : Text) (m : Mention) :
    mentionAt? passed c rest = some m ↔
      startsWord passed c = true ∧
        ∃ t after, Term.read (c :: rest) = some (t, after) ∧ m = ⟨passed, c :: rest, t, after⟩ := by
  by_cases opening : startsWord passed c = true
  · rw [mentionAt?, if_pos opening, Option.map_eq_some_iff]
    apply Iff.intro
    · intro form
      obtain ⟨⟨t, after⟩, found, rfl⟩ := form
      exact ⟨opening, t, after, found, rfl⟩
    · intro form
      obtain ⟨-, t, after, found, rfl⟩ := form
      exact ⟨(t, after), found, rfl⟩
  · rw [mentionAt?, if_neg opening]
    apply Iff.intro
    · intro nothing
      cases nothing
    · intro form
      obtain ⟨starts, -⟩ := form
      exact absurd starts opening

theorem mention_at_term (passed : Text) (c : Char) (rest : Text) :
    (mentionAt? passed c rest).map Mention.term =
      if startsWord passed c then (Term.read (c :: rest)).map Prod.fst else none := by
  by_cases starts : startsWord passed c = true
  · rw [mentionAt?, if_pos starts, if_pos starts]
    cases Term.read (c :: rest) <;> rfl
  · rw [mentionAt?, if_neg starts, if_neg starts]
    rfl

def mentionsBefore (passed : Text) : Text → Text → List Mention
  | [], _ => []
  | c :: front, rest =>
      (mentionAt? passed c (front ++ rest)).toList ++ mentionsBefore (c :: passed) front rest

theorem mentions_from_append (passed front rest : Text) :
    mentionsFrom passed (front ++ rest) =
      mentionsBefore passed front rest ++ mentionsFrom (front.reverse ++ passed) rest := by
  induction front generalizing passed with
  | nil => rfl
  | cons c front ih =>
      rw [List.cons_append, mentionsFrom, mentionsBefore, ih, List.append_assoc, List.reverse_cons,
        List.append_assoc, List.singleton_append]

theorem mentions_split (front rest : Text) :
    mentions (front ++ rest) = mentionsBefore [] front rest ++ mentionsFrom front.reverse rest := by
  rw [mentions, mentions_from_append, List.append_nil]

theorem mem_mentions_before_iff (passed front rest : Text) (m : Mention) :
    m ∈ mentionsBefore passed front rest ↔
      ∃ before c tail, front = before ++ c :: tail ∧
        mentionAt? (before.reverse ++ passed) c (tail ++ rest) = some m := by
  induction front generalizing passed with
  | nil => simp [mentionsBefore]
  | cons c front ih =>
      rw [mentionsBefore, List.mem_append, Option.mem_toList, ih]
      apply Iff.intro
      · intro form
        rcases form with here | ⟨before, d, tail, rfl, later⟩
        · exact ⟨[], c, front, rfl, here⟩
        · exact ⟨c :: before, d, tail, rfl, by simpa using later⟩
      · intro form
        obtain ⟨before, d, tail, cut, found⟩ := form
        cases before with
        | nil =>
            cases cut
            exact .inl found
        | cons b before =>
            cases cut
            exact .inr ⟨before, d, tail, rfl, by simpa using found⟩

theorem mem_mentions_from_iff (passed text : Text) (m : Mention) :
    m ∈ mentionsFrom passed text ↔
      ∃ before c rest, text = before ++ c :: rest ∧
        mentionAt? (before.reverse ++ passed) c rest = some m := by
  have whole := mentions_from_append passed text []
  simp only [List.append_nil, mentionsFrom] at whole
  simp only [whole, mem_mentions_before_iff, List.append_nil]

theorem starts_word_iff (before : Text) (c : Char) :
    startsWord before.reverse c = true ↔ isNameChar c = true ∧ Detached before := by
  simp [startsWord, Detached, List.head?_reverse]

theorem mem_mentions_iff (text : Text) (m : Mention) :
    m ∈ mentions text ↔
      ∃ before c rest t after, text = before ++ c :: rest ∧ isNameChar c = true ∧ Detached before ∧
        Term.read (c :: rest) = some (t, after) ∧ m = ⟨before.reverse, c :: rest, t, after⟩ := by
  simp only [mentions, mem_mentions_from_iff, List.append_nil, mention_at_some_iff, starts_word_iff]
  apply Iff.intro
  · intro form
    obtain ⟨before, c, rest, cut, ⟨name, detached⟩, t, after, found, same⟩ := form
    exact ⟨before, c, rest, t, after, cut, name, detached, found, same⟩
  · intro form
    obtain ⟨before, c, rest, t, after, cut, name, detached, found, same⟩ := form
    exact ⟨before, c, rest, cut, ⟨name, detached⟩, t, after, found, same⟩

theorem mention_at_start (passed : Text) (c : Char) (rest : Text) (m : Mention)
    (found : mentionAt? passed c rest = some m) : m.start = Text.byteLength passed := by
  obtain ⟨-, t, after, -, rfl⟩ := (mention_at_some_iff _ _ _ _).mp found
  rfl

theorem mentions_from_start (passed text : Text) (m : Mention) (member : m ∈ mentionsFrom passed text) :
    Text.byteLength passed ≤ m.start := by
  obtain ⟨before, c, rest, -, found⟩ := (mem_mentions_from_iff _ _ _).mp member
  rw [mention_at_start _ _ _ _ found, Text.byte_length_append]
  omega

theorem mentions_before_start (front rest : Text) (m : Mention)
    (member : m ∈ mentionsBefore [] front rest) : m.start < Text.byteLength front := by
  obtain ⟨before, c, tail, rfl, found⟩ := (mem_mentions_before_iff _ _ _ _).mp member
  have positive := Text.byte_length_positive (c :: tail) (List.cons_ne_nil _ _)
  rw [mention_at_start _ _ _ _ found, List.append_nil, Text.byte_length_reverse, Text.byte_length_append]
  omega

theorem mentions_from_ordered (passed text : Text) :
    (mentionsFrom passed text).Pairwise fun a b => a.start < b.start := by
  induction text generalizing passed with
  | nil => exact .nil
  | cons c rest ih =>
      rw [mentionsFrom]
      cases found : mentionAt? passed c rest with
      | none => exact ih (c :: passed)
      | some m =>
          refine .cons (fun later member => ?_) (ih (c :: passed))
          have start := mention_at_start _ _ _ _ found
          have beyond := mentions_from_start _ _ _ member
          have size := Char.utf8Size_pos c
          rw [Text.byteLength] at beyond
          omega

theorem spells_opening (word written rest : Text) (spelled : Spells word written)
    (letter : word.head?.any Char.isAlphanum = true) :
    ∃ c tail, written ++ rest = c :: tail ∧ isNameChar c = true := by
  rw [← spelled] at letter
  cases written with
  | nil => cases letter
  | cons c tail =>
      refine ⟨c, tail ++ rest, rfl, alphanumeric_name c ?_⟩
      rw [← lower_alphanumeric]
      simpa using letter

theorem lead_opening (link : Text) (planet : Planet) (lead rest : Text)
    (leads : LeadNotation link planet lead) :
    ∃ c tail, lead ++ rest = c :: tail ∧ isNameChar c = true := by
  obtain ⟨name, gap, word, space, rfl, spelled, -⟩ := leads
  simp only [List.append_assoc]
  exact spells_opening _ name _ spelled planet.abbreviation_letter

theorem reads_opening (t : Term) (written after : Text) (form : Term.Reads t written after) :
    ∃ c tail, written = c :: tail ∧ isNameChar c = true := by
  cases t with
  | ages listed =>
      obtain ⟨name, gap, content, rfl, spelled, -⟩ := form
      rw [List.append_assoc]
      exact spells_opening _ name _ spelled (by decide)
  | periods listed =>
      obtain ⟨contents, ⟨⟨name, gap, space, first, others, more, trail, close, rfl, -, spelled, -⟩, -⟩,
        -⟩ := form
      rw [List.append_assoc]
      exact spells_opening _ name _ spelled (by decide)
  | conjunct a b =>
      obtain ⟨⟨lead, name, rfl, leads, -⟩, -⟩ := form
      exact lead_opening _ a lead name leads
  | notWith a b =>
      obtain ⟨⟨lead, name, rfl, leads, -⟩, -⟩ := form
      exact lead_opening _ a lead name leads
  | inHouse planet house =>
      obtain ⟨⟨lead, figure, rfl, leads, -⟩, -⟩ := form
      exact lead_opening _ planet lead figure leads

theorem mention_parts (text : Text) (m : Mention) (member : m ∈ mentions text) :
    Term.read m.text = some (m.term, m.after) ∧ text = m.before ++ m.text ∧ Detached m.before ∧
      ∃ written, m.text = written ++ m.after ∧ Text.byteLength m.before = m.start ∧
        Text.byteLength (m.before ++ written) = m.stop := by
  obtain ⟨before, c, rest, t, after, cut, -, detached, found, rfl⟩ := (mem_mentions_iff _ _).mp member
  have reversed : Mention.before ⟨before.reverse, c :: rest, t, after⟩ = before := List.reverse_reverse _
  obtain ⟨written, whole⟩ := Term.read_cut _ _ _ found
  rw [reversed]
  refine ⟨found, cut, detached, written, whole, (Text.byte_length_reverse before).symm, ?_⟩
  simp only [Mention.stop, Mention.start, whole, Text.byte_length_reverse, Text.byte_length_append]
  omega

theorem mentioned_at_iff (text : Text) (start stop : Nat) (t : Term) :
    MentionedAt text start stop t ↔
      ∃ before written after, Slice text start stop before written after ∧ Detached before ∧
        Term.Reads t written after := by
  apply Iff.intro
  · intro given
    obtain ⟨m, member, rfl, rfl, rfl⟩ := given
    obtain ⟨found, cut, detached, written, whole, start, stop⟩ := mention_parts text m member
    rw [whole] at found cut
    exact ⟨m.before, written, m.after, ⟨by rw [List.append_assoc, ← cut], start, stop⟩, detached,
      (Term.reads_iff _ _ _).mp found⟩
  · intro given
    obtain ⟨before, written, after, ⟨rfl, rfl, rfl⟩, detached, form⟩ := given
    have found := (Term.reads_iff _ _ _).mpr form
    obtain ⟨c, tail, rfl, name⟩ := reads_opening _ _ _ form
    refine ⟨⟨before.reverse, c :: tail ++ after, t, after⟩, ?_, rfl, ?_, ?_⟩
    · exact (mem_mentions_iff _ _).mpr
        ⟨before, c, tail ++ after, t, after, by simp, name, detached, found, rfl⟩
    · exact Text.byte_length_reverse before
    · simp only [Mention.stop, Mention.start, Text.byte_length_reverse, Text.byte_length_append]
      omega

theorem mentioned_behind_iff (before tail : Text) (t : Term) (detached : Detached before) :
    (∃ stop, MentionedAt (before ++ tail) (Text.byteLength before) stop t) ↔
      ∃ after, Term.read tail = some (t, after) := by
  simp only [mentioned_at_iff]
  apply Iff.intro
  · intro given
    obtain ⟨stop, front, written, after, ⟨cut, length, -⟩, -, form⟩ := given
    rw [List.append_assoc] at cut
    obtain ⟨-, rfl⟩ := Text.byte_length_cut _ _ _ _ cut length.symm
    exact ⟨after, (Term.reads_iff _ _ _).mpr form⟩
  · intro given
    obtain ⟨after, found⟩ := given
    obtain ⟨written, rfl⟩ := Term.read_cut _ _ _ found
    exact ⟨_, before, written, after, ⟨(List.append_assoc _ _ _).symm, rfl, rfl⟩, detached,
      (Term.reads_iff _ _ _).mp found⟩

theorem mentioned_somewhere_iff (before tail : Text) (detached : Detached before) :
    (∃ stop t, MentionedAt (before ++ tail) (Text.byteLength before) stop t) ↔
      (Term.read tail).isSome = true := by
  rw [exists_comm]
  simp only [mentioned_behind_iff before tail _ detached, Option.isSome_iff_exists, Prod.exists]

theorem planet_mentions_exact (text : Text) (start stop : Nat) (p q : Planet) (house : House) :
    (MentionedAt text start stop (.inHouse p house) ↔
      ∃ before written after, Slice text start stop before written after ∧ Detached before ∧
        InHouseNotation p house written ∧ Text.atWordEnd after = true) ∧
    (MentionedAt text start stop (.conjunct p q) ↔
      ∃ before written after, Slice text start stop before written after ∧ Detached before ∧
        PairNotation "conjunct".toList p q written ∧ Text.atWordEnd after = true) ∧
    (MentionedAt text start stop (.notWith p q) ↔
      ∃ before written after, Slice text start stop before written after ∧ Detached before ∧
        PairNotation "not-with".toList p q written ∧ Text.atWordEnd after = true) :=
  ⟨mentioned_at_iff text start stop (.inHouse p house),
    mentioned_at_iff text start stop (.conjunct p q),
    mentioned_at_iff text start stop (.notWith p q)⟩

-- A clause of ages is mentioned exactly where it stands closed, a clause of periods where the
-- longest text of its form stands.
theorem clause_mentions_exact (text : Text) (start stop : Nat) (listed : List Nat)
    (periods : List Period) :
    (MentionedAt text start stop (.ages listed) ↔
      ∃ before written after, Slice text start stop before written after ∧ Detached before ∧
        AgeClause listed written) ∧
    (MentionedAt text start stop (.periods periods) ↔
      ∃ before written after, Slice text start stop before written after ∧ Detached before ∧
        ∃ contents, LongestForm contents written after ∧ PeriodsListed contents periods) :=
  ⟨mentioned_at_iff text start stop (.ages listed), mentioned_at_iff text start stop (.periods periods)⟩

end Horoscope
