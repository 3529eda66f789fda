import Horoscope.Proofs.Term.OpenClause
import Horoscope.Proofs.Wording.BirthClause

set_option autoImplicit false

namespace Horoscope

def ReachesEnd (text : Text) (stop : Nat) : Prop :=
  ∃ front blanks, text = front ++ blanks ∧ Text.byteLength front = stop ∧ Text.allBlank blanks = true

def ClosingMention (text : Text) (m : Mention) : Prop :=
  (∃ listed, m.term = .periods listed) ∧ ReachesEnd text m.stop

structure FirstClosing (text : Text) (m : Mention) : Prop where
  closing : ClosingMention text m
  leading : ∃ earlier later, mentions text = earlier ++ m :: later ∧
    ∀ e ∈ earlier, ¬ ClosingMention text e

namespace Term

def Closes (text : Text) : Prop :=
  ∃ listed after, read text = some (periods listed, after) ∧ Text.allBlank after = true

def ClauseText (text tail : Text) : Prop :=
  Opens text ∧ ∃ content, text = content ++ ')' :: tail ∧ ')' ∉ content

theorem clause_not_blank (text tail : Text) (clause : ClauseText text tail) (front : Text) :
    Text.allBlank (front ++ text) = false := by
  obtain ⟨-, content, rfl, -⟩ := clause
  have solid : isBlank ')' = false := by decide
  simp [Text.allBlank, solid]

theorem periods_clause_text (text rest : Text) (t : Term) (read : readPeriods text = some (t, rest)) :
    ∃ tail, ClauseText text tail ∧ rest = closeClause (allGroups tail).2 := by
  obtain ⟨name, gap, space, first, tail, rfl, spelled, gapBlank, spaceBlank, inside, rfl, -⟩ :=
    (read_periods_some_iff _ _ _).mp read
  have apart : ∀ blanks : Text, Text.allBlank blanks = true → ')' ∉ blanks := by
    intro blanks all
    exact not_mem_of_all isBlank blanks ')' all rfl
  have named : ')' ∉ name := by
    have letters := spells_all Char.isAlphanum _ name spelled lower_alphanumeric (by decide)
    exact not_mem_of_all Char.isAlphanum name ')' letters rfl
  refine ⟨tail, ⟨?_, name ++ gap ++ '(' :: (space ++ '(' :: first), by simp, ?_⟩, rfl⟩
  · obtain ⟨c, letters, rfl, lower, -⟩ := List.map_eq_cons_iff.mp spelled
    have initial : isInitial c = true := by
      rw [isInitial, lower]
      rfl
    simpa [Opens] using initial
  · simp only [List.mem_append, List.mem_cons, not_or]
    exact ⟨⟨named, apart gap gapBlank⟩, by decide, apart space spaceBlank, by decide, inside⟩

-- One clause in place of another changes nothing in the reading before it, unless the reading
-- takes the clause in and so reaches the end of the text itself.
theorem read_exchanged (front x y tail tailY : Text) (nonempty : front ≠ []) (detached : Detached front)
    (clauseX : ClauseText x tail) (clauseY : ClauseText y tailY)
    (closed : Text.allBlank (closeClause (allGroups tail).2) = true) :
    Closes (front ++ x) ∨
      ((read (front ++ y)).map Prod.fst = (read (front ++ x)).map Prod.fst ∧ ¬ Closes (front ++ y)) := by
  have solid := clause_not_blank y tailY clauseY
  obtain ⟨opensX, contentX, rfl, apartX⟩ := clauseX
  obtain ⟨opensY, contentY, rfl, apartY⟩ := clauseY
  rcases read_before front nonempty detached with settled | swallowed | swallowed
  · right
    rcases settled with unread | ⟨t, after, found⟩
    · refine ⟨by rw [unread _ opensX, unread _ opensY], ?_⟩
      intro form
      obtain ⟨listed, rest, read, -⟩ := form
      rw [unread _ opensY] at read
      cases read
    · refine ⟨by rw [found _ opensX, found _ opensY]; rfl, ?_⟩
      intro form
      obtain ⟨listed, rest, read, blank⟩ := form
      rw [found _ opensY] at read
      cases read
      rw [solid after] at blank
      cases blank
  · right
    obtain ⟨restX, foundX⟩ := swallowed contentX tail apartX opensX
    obtain ⟨restY, foundY⟩ := swallowed contentY tailY apartY opensY
    -- The list of ages is spoiled by either clause.
    refine ⟨by rw [foundX, foundY]; rfl, ?_⟩
    intro form
    obtain ⟨listed, rest, read, -⟩ := form
    rw [foundY] at read
    cases read
  · left
    obtain ⟨listed, found⟩ := swallowed contentX tail apartX opensX
    exact ⟨listed, _, found, closed⟩

end Term

theorem mentions_exchanged (passed front x y tail tailY : Text) (detached : Detached front)
    (clauseX : Term.ClauseText x tail) (clauseY : Term.ClauseText y tailY)
    (closed : Text.allBlank (Term.closeClause (Term.allGroups tail).2) = true)
    (unclosed : ∀ m ∈ mentionsBefore passed front x, ¬ Term.Closes m.text) :
    (mentionsBefore passed front y).map Mention.term = (mentionsBefore passed front x).map Mention.term ∧
      ∀ m ∈ mentionsBefore passed front y, ¬ Term.Closes m.text := by
  -- Place by place through the front. That nothing closes the text with `x` behind is what rules
  -- out a reading that takes the clause in, and it holds at every later place too.
  induction front generalizing passed with
  | nil => exact ⟨rfl, unclosed⟩
  | cons c front ih =>
      simp only [mentionsBefore, List.mem_append, Option.mem_toList] at unclosed ⊢
      obtain ⟨sameLater, unclosedLater⟩ := ih (c :: passed) (detached_append [c] front detached)
        fun m member => unclosed m (.inr member)
      have here : (mentionAt? passed c (front ++ y)).map Mention.term =
            (mentionAt? passed c (front ++ x)).map Mention.term ∧
          ∀ m, mentionAt? passed c (front ++ y) = some m → ¬ Term.Closes m.text := by
        rw [mention_at_term, mention_at_term]
        by_cases starts : startsWord passed c = true
        · rw [if_pos starts, if_pos starts]
          rcases Term.read_exchanged (c :: front) x y tail tailY (List.cons_ne_nil _ _) detached clauseX
            clauseY closed with closes | ⟨same, unclosedHere⟩
          · obtain ⟨listed, after, read, blank⟩ := closes
            have found := (mention_at_some_iff _ _ _ _).mpr ⟨starts, _, _, read, rfl⟩
            exact absurd ⟨listed, after, read, blank⟩ (unclosed _ (.inl found))
          · refine ⟨same, fun m found => ?_⟩
            obtain ⟨-, t, after, -, rfl⟩ := (mention_at_some_iff _ _ _ _).mp found
            exact unclosedHere
        · rw [if_neg starts, if_neg starts]
          refine ⟨rfl, fun m found => ?_⟩
          exact absurd ((mention_at_some_iff _ _ _ _).mp found).1 starts
      refine ⟨?_, ?_⟩
      · rw [List.map_append, List.map_append, sameLater, ← Option.toList_map, ← Option.toList_map, here.1]
      · intro m member
        rcases member with atFront | later
        · exact here.2 m atFront
        · exact unclosedLater m later

theorem closing_mention_iff (text : Text) (m : Mention) (member : m ∈ mentions text) :
    ClosingMention text m ↔ (∃ listed, m.term = .periods listed) ∧ Text.allBlank m.after = true := by
  obtain ⟨-, cut, -, written, whole, -, stop⟩ := mention_parts text m member
  rw [whole, ← List.append_assoc] at cut
  apply and_congr_right
  intro periods
  apply Iff.intro
  · intro form
    obtain ⟨front, blanks, same, length, blank⟩ := form
    rw [cut] at same
    obtain ⟨-, rfl⟩ := Text.byte_length_cut _ _ _ _ same (by rw [stop, length])
    exact blank
  · intro blank
    exact ⟨m.before ++ written, m.after, cut, stop, blank⟩

theorem closing_closes_iff (text : Text) (m : Mention) (member : m ∈ mentions text) :
    ClosingMention text m ↔ Term.Closes m.text := by
  obtain ⟨found, -⟩ := mention_parts text m member
  rw [closing_mention_iff text m member, Term.Closes, found]
  apply Iff.intro
  · intro form
    obtain ⟨⟨listed, periods⟩, blank⟩ := form
    exact ⟨listed, m.after, by rw [periods], blank⟩
  · intro form
    obtain ⟨listed, after, read, blank⟩ := form
    obtain ⟨periods, rfl⟩ := Prod.mk.inj (Option.some.inj read)
    exact ⟨⟨listed, periods⟩, blank⟩

theorem first_member (text : Text) (m : Mention) (first : FirstClosing text m) : m ∈ mentions text := by
  obtain ⟨-, earlier, later, cut, -⟩ := first
  simp [cut]

theorem mentions_started (front rest : Text) :
    (mentions (front ++ rest)).filter (fun m => decide (m.start < Text.byteLength front)) =
      mentionsBefore [] front rest := by
  rw [mentions_split, List.filter_append]
  have kept : (mentionsBefore [] front rest).filter (fun m => decide (m.start < Text.byteLength front)) =
      mentionsBefore [] front rest := by
    rw [List.filter_eq_self]
    intro m member
    exact decide_eq_true (mentions_before_start front rest m member)
  have gone : (mentionsFrom front.reverse rest).filter
      (fun m => decide (m.start < Text.byteLength front)) = [] := by
    rw [List.filter_eq_nil_iff]
    intro m member begins
    have start := mentions_from_start _ _ _ member
    rw [Text.byte_length_reverse] at start
    have less := of_decide_eq_true begins
    omega
  rw [kept, gone, List.append_nil]

theorem before_first_unclosed (text : Text) (m : Mention) (first : FirstClosing text m) :
    ∀ e ∈ mentionsBefore [] m.before m.text, ¬ Term.Closes e.text := by
  have here := first_member text m first
  obtain ⟨-, cut, -, -, -, start, -⟩ := mention_parts text m here
  obtain ⟨-, earlier, later, split, unclosed⟩ := first
  intro e began
  have less := mentions_before_start _ _ _ began
  have member : e ∈ mentions text := by
    rw [cut, mentions_split]
    exact List.mem_append_left _ began
  have ordered : (mentions text).Pairwise fun a b => a.start < b.start := mentions_from_ordered [] text
  rw [split] at member ordered
  rw [← closing_closes_iff text e (by rw [split]; exact member)]
  rcases List.mem_append.mp member with listed | listed
  · exact unclosed e listed
  · have after : m.start ≤ e.start := by
      rcases List.mem_cons.mp listed with rfl | behind
      · exact Nat.le_refl _
      · exact Nat.le_of_lt ((List.pairwise_cons.mp (List.pairwise_append.mp ordered).2.1).1 e behind)
    omega

namespace TimeClause

theorem closing_some_iff (m : Mention) (before : Text) (listed : List Period) :
    closing? m = some (before, listed) ↔
      m.term = .periods listed ∧ Text.allBlank m.after = true ∧ m.before = before := by
  rw [closing?]
  split
  · rename_i own periods
    by_cases blank : Text.allBlank m.after = true
    · rw [if_pos blank, periods]
      apply Iff.intro
      · intro found
        cases found
        exact ⟨rfl, blank, rfl⟩
      · intro form
        obtain ⟨⟨⟩, -, rfl⟩ := form
        rfl
    · rw [if_neg blank]
      apply Iff.intro
      · intro found
        cases found
      · intro form
        obtain ⟨-, closed, -⟩ := form
        exact absurd closed blank
  · rename_i other
    apply Iff.intro
    · intro found
      cases found
    · intro form
      obtain ⟨periods, -⟩ := form
      exact absurd periods (other listed)

theorem closing_none_iff (text : Text) (m : Mention) (member : m ∈ mentions text) :
    closing? m = none ↔ ¬ ClosingMention text m := by
  rw [closing_mention_iff text m member, Option.eq_none_iff_forall_ne_some]
  apply Iff.intro
  · intro unclosed form
    obtain ⟨⟨listed, periods⟩, blank⟩ := form
    exact unclosed (m.before, listed) ((closing_some_iff _ _ _).mpr ⟨periods, blank, rfl⟩)
  · intro unclosed result closing
    obtain ⟨before, listed⟩ := result
    obtain ⟨periods, blank, -⟩ := (closing_some_iff _ _ _).mp closing
    exact unclosed ⟨⟨listed, periods⟩, blank⟩

theorem find_none_iff (text : Text) :
    find? text = none ↔ ∀ m ∈ mentions text, ¬ ClosingMention text m := by
  rw [find?, List.findSome?_eq_none_iff]
  exact forall₂_congr (closing_none_iff text)

theorem find_some_iff (text before : Text) (listed : List Period) :
    find? text = some (before, listed) ↔
      ∃ m, FirstClosing text m ∧ m.term = .periods listed ∧ m.before = before := by
  rw [find?, List.findSome?_eq_some_iff]
  apply Iff.intro
  · intro form
    obtain ⟨earlier, m, later, cut, closing, unclosed⟩ := form
    have member : ∀ e ∈ earlier, e ∈ mentions text := by
      intro e here
      rw [cut]
      exact List.mem_append_left _ here
    have here : m ∈ mentions text := by simp [cut]
    obtain ⟨periods, blank, same⟩ := (closing_some_iff _ _ _).mp closing
    refine ⟨m, ⟨?_, earlier, later, cut, fun e listed => ?_⟩, periods, same⟩
    · exact (closing_mention_iff text m here).mpr ⟨⟨listed, periods⟩, blank⟩
    · exact (closing_none_iff text e (member e listed)).mp (unclosed e listed)
  · intro form
    obtain ⟨m, ⟨closing, earlier, later, cut, unclosed⟩, periods, same⟩ := form
    have member : ∀ e ∈ earlier, e ∈ mentions text := by
      intro e here
      rw [cut]
      exact List.mem_append_left _ here
    have here : m ∈ mentions text := by simp [cut]
    have blank := ((closing_mention_iff text m here).mp closing).2
    exact ⟨earlier, m, later, cut, (closing_some_iff _ _ _).mpr ⟨periods, blank, same⟩,
      fun e listed => (closing_none_iff text e (member e listed)).mpr (unclosed e listed)⟩

structure Restated (today : Date) (text output : Text) (m : Mention) : Prop where
  first : FirstClosing text m
  replaced : ∃ kept gone listed, text = kept ++ gone ∧ Text.byteLength kept = m.start ∧
    m.term = .periods listed ∧ listed.filterMap (BirthRange.ofPeriod? today) ≠ [] ∧
      output = kept ++ birthClause (listed.filterMap (BirthRange.ofPeriod? today))
  meaning : terms output =
    ((mentions text).filter fun e => decide (e.start < m.start)).map Mention.term
  unclosed : ∀ e ∈ mentions output, ¬ ClosingMention output e
  fixed : ∀ day, restate day output = output

theorem restate_of_none (today : Date) (text : Text) (unclosed : find? text = none) :
    restate today text = text := by
  rw [restate, unclosed]

theorem restate_of_some (today : Date) (text before : Text) (listed : List Period)
    (closed : find? text = some (before, listed)) :
    restate today text =
      if listed.filterMap (BirthRange.ofPeriod? today) = [] then text
      else before ++ birthClause (listed.filterMap (BirthRange.ofPeriod? today)) := by
  simp only [restate, closed]
  split
  · rename_i empty
    rw [if_pos empty]
  · rename_i ranges nonempty
    rw [if_neg nonempty]

theorem first_clause_text (text : Text) (m : Mention) (first : FirstClosing text m) :
    ∃ tail, Term.ClauseText m.text tail ∧
      Text.allBlank (Term.closeClause (Term.allGroups tail).2) = true := by
  obtain ⟨listed, after, read, blank⟩ :=
    (closing_closes_iff text m (first_member text m first)).mp first.closing
  obtain ⟨tail, clause, rfl⟩ :=
    Term.periods_clause_text _ _ _ (Term.read_periods_of_read _ _ _ read)
  exact ⟨tail, clause, blank⟩

theorem birth_clause_meaning (text : Text) (m : Mention) (first : FirstClosing text m)
    (ranges : List BirthRange) :
    terms (m.before ++ birthClause ranges) =
        ((mentions text).filter fun e => decide (e.start < m.start)).map Mention.term ∧
      ∀ e ∈ mentions (m.before ++ birthClause ranges),
        ¬ ClosingMention (m.before ++ birthClause ranges) e := by
  obtain ⟨-, cut, detached, -, -, start, -⟩ := mention_parts text m (first_member text m first)
  obtain ⟨tail, clause, closed⟩ := first_clause_text text m first
  have birth : Term.ClauseText (birthClause ranges) [] :=
    ⟨birth_clause_opens ranges, birth_clause_parts ranges⟩
  obtain ⟨same, unclosed⟩ := mentions_exchanged [] m.before m.text (birthClause ranges) tail [] detached
    clause birth closed (before_first_unclosed text m first)
  -- Terms that begin before the clause are exchanged one for one, and none begins in it.
  have nothing : mentionsFrom m.before.reverse (birthClause ranges) = [] :=
    mentions_from_inert _ _ (inert_birth_clause ranges)
  have whole : mentions (m.before ++ birthClause ranges) =
      mentionsBefore [] m.before (birthClause ranges) := by
    rw [mentions_split, nothing, List.append_nil]
  refine ⟨?_, ?_⟩
  · have began := mentions_started m.before m.text
    rw [start, ← cut] at began
    rw [terms, whole, same, began]
  · intro e member
    rw [closing_closes_iff _ e member]
    rw [whole] at member
    exact unclosed e member

theorem restate_exact (today : Date) (text : Text) :
    ((restate today text = text ∧ ∀ m listed, FirstClosing text m → m.term = .periods listed →
        listed.filterMap (BirthRange.ofPeriod? today) = []) ∨
      ∃ m, Restated today text (restate today text) m) ∧
    restate today (restate today text) = restate today text := by
  cases found : find? text with
  | none =>
      have same := restate_of_none today text found
      refine ⟨.inl ⟨same, fun m listed first => ?_⟩, by rw [same, same]⟩
      have closing := first.closing
      exact absurd closing ((find_none_iff text).mp found m (first_member text m first))
  | some result =>
      obtain ⟨before, listed⟩ := result
      have whole := restate_of_some today text before listed found
      obtain ⟨m, first, periods, rfl⟩ := (find_some_iff _ _ _).mp found
      by_cases empty : listed.filterMap (BirthRange.ofPeriod? today) = []
      · rw [if_pos empty] at whole
        refine ⟨.inl ⟨whole, fun other others firstOther periodsOther => ?_⟩, by rw [whole, whole]⟩
        have foundOther := (find_some_iff text other.before others).mpr ⟨other, firstOther, periodsOther, rfl⟩
        rw [found] at foundOther
        obtain ⟨-, rfl⟩ := Prod.mk.inj (Option.some.inj foundOther)
        exact empty
      · rw [if_neg empty] at whole
        obtain ⟨meaning, unclosed⟩ := birth_clause_meaning text m first
          (listed.filterMap (BirthRange.ofPeriod? today))
        obtain ⟨-, cut, -, -, -, start, -⟩ := mention_parts text m (first_member text m first)
        rw [← whole] at meaning unclosed
        have fixed : ∀ day, restate day (restate today text) = restate today text := fun day =>
          restate_of_none day _ ((find_none_iff _).mpr unclosed)
        exact ⟨.inr ⟨m, ⟨first, ⟨m.before, m.text, listed, cut, start, periods, empty, whole⟩, meaning,
          unclosed, fixed⟩⟩, fixed today⟩

end TimeClause
end Horoscope
