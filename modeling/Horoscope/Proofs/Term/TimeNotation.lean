import Horoscope.Proofs.Term.PeriodNotation

set_option autoImplicit false

namespace Horoscope

inductive Groups : List Text → Text → Prop
  | nil : Groups [] []
  | cons (gap comma space content : Text) (contents : List Text) (more : Text) :
      Text.allBlank gap = true → (comma = [] ∨ comma = [',']) → Text.allBlank space = true →
        ')' ∉ content → Groups contents more →
          Groups (content :: contents) (gap ++ comma ++ space ++ '(' :: (content ++ ')' :: more))

def TimeForm (contents : List Text) (written : Text) : Prop :=
  ∃ name gap space first others more trail close,
    written = name ++ gap ++ '(' :: (space ++ '(' :: (first ++ ')' :: (more ++ trail ++ close))) ∧
      contents = first :: others ∧ Spells "time".toList name ∧ Text.allBlank gap = true ∧
        Text.allBlank space = true ∧ ')' ∉ first ∧ Groups others more ∧ Text.allBlank trail = true ∧
          (close = [] ∨ close = [')'])

def LongestForm (contents : List Text) (written after : Text) : Prop :=
  TimeForm contents written ∧
    ∀ contents' written' after', written ++ after = written' ++ after' →
      TimeForm contents' written' → written'.length ≤ written.length

inductive PeriodsListed : List Text → List Period → Prop
  | nil : PeriodsListed [] []
  | kept (content : Text) (period : Period) (contents : List Text) (listed : List Period) :
      PeriodNotation content period → PeriodsListed contents listed →
        PeriodsListed (content :: contents) (period :: listed)
  | dropped (content : Text) (contents : List Text) (listed : List Period) :
      (∀ period, ¬ PeriodNotation content period) → PeriodsListed contents listed →
        PeriodsListed (content :: contents) listed

theorem periods_listed_iff (contents : List Text) (listed : List Period) :
    PeriodsListed contents listed ↔ contents.filterMap Period.ofContent? = listed := by
  apply Iff.intro
  · intro reading
    induction reading with
    | nil => rfl
    | kept content period contents listed form _ ih =>
        rw [List.filterMap_cons_some ((Period.of_content_some_iff _ _).mpr form), ih]
    | dropped content contents listed unreadable _ ih =>
        have none : Period.ofContent? content = none := by
          rw [Option.eq_none_iff_forall_ne_some]
          intro period read
          exact unreadable period ((Period.of_content_some_iff _ _).mp read)
        rw [List.filterMap_cons_none none, ih]
  · intro same
    subst same
    induction contents with
    | nil => exact .nil
    | cons content contents ih =>
        cases read : Period.ofContent? content with
        | none =>
            rw [List.filterMap_cons_none read]
            refine .dropped _ _ _ (fun period form => ?_) ih
            rw [(Period.of_content_some_iff _ _).mpr form] at read
            cases read
        | some period =>
            rw [List.filterMap_cons_some read]
            exact .kept _ _ _ _ ((Period.of_content_some_iff _ _).mp read) ih

namespace Term

theorem next_group_some_iff (text content rest : Text) :
    nextGroup text = some (content, rest) ↔
      ∃ gap comma space, text = gap ++ comma ++ space ++ '(' :: (content ++ ')' :: rest) ∧
        Text.allBlank gap = true ∧ (comma = [] ∨ comma = [',']) ∧ Text.allBlank space = true ∧
          ')' ∉ content := by
  rw [nextGroup, Text.group_some_iff]
  apply Iff.intro
  · intro form
    obtain ⟨opened, inside⟩ := form
    obtain ⟨gap, cut, gapBlank, -⟩ := Text.skip_blanks_cut text
    obtain ⟨comma, commaCut, single⟩ := Text.optional_symbol_cut ',' (Text.skipBlanks text)
    obtain ⟨space, spaceCut, spaceBlank, -⟩ :=
      Text.skip_blanks_cut (Text.optionalSymbol ',' (Text.skipBlanks text))
    refine ⟨gap, comma, space, ?_, gapBlank, single, spaceBlank, inside⟩
    rw [cut, commaCut, spaceCut, opened]
    simp only [List.append_assoc]
  · intro form
    obtain ⟨gap, comma, space, rfl, gapBlank, single, spaceBlank, inside⟩ := form
    refine ⟨?_, inside⟩
    have solid : Text.skipBlanks ('(' :: (content ++ ')' :: rest)) = '(' :: (content ++ ')' :: rest) :=
      Text.skip_blanks_fixed _ rfl
    simp only [List.append_assoc]
    rw [Text.skip_blanks_append gap _ gapBlank]
    rcases single with rfl | rfl
    · rw [List.nil_append, Text.skip_blanks_append space _ spaceBlank, solid,
        Text.optional_symbol_absent _ _ (by simp), solid]
    · rw [List.singleton_append, Text.skip_blanks_fixed (',' :: _) rfl, Text.optional_symbol_present,
        Text.skip_blanks_append space _ spaceBlank, solid]

theorem next_group_shorter (text content rest : Text) (found : nextGroup text = some (content, rest)) :
    rest.length < text.length := by
  obtain ⟨gap, comma, space, rfl, -⟩ := (next_group_some_iff _ _ _).mp found
  simp only [List.length_append, List.length_cons]
  omega

theorem next_group_skips (gap text : Text) (blank : Text.allBlank gap = true) :
    nextGroup (gap ++ text) = nextGroup text := by
  rw [nextGroup, nextGroup, Text.skip_blanks_append gap text blank]

-- Each group takes up room, so a bound that covers the text does not show.
theorem groups_bound (most least : Nat) (text : Text) (enough : text.length ≤ most)
    (other : text.length ≤ least) : groups most text = groups least text := by
  induction most generalizing least text with
  | zero =>
      cases List.eq_nil_of_length_eq_zero (Nat.le_zero.mp enough)
      cases least <;> rfl
  | succ most ih =>
      cases least with
      | zero =>
          cases List.eq_nil_of_length_eq_zero (Nat.le_zero.mp other)
          rfl
      | succ least =>
          cases found : nextGroup text with
          | none => simp only [groups, found]
          | some next =>
              obtain ⟨content, rest⟩ := next
              have shorter := next_group_shorter text content rest found
              simp only [groups, found, ih least rest (by omega) (by omega)]

def allGroups (text : Text) : List Text × Text := groups text.length text

theorem all_groups_none (text : Text) (ended : nextGroup text = none) : allGroups text = ([], text) := by
  rw [allGroups]
  cases text <;> simp [groups, ended]

theorem all_groups_some (text content rest : Text) (found : nextGroup text = some (content, rest)) :
    allGroups text = (content :: (allGroups rest).1, (allGroups rest).2) := by
  have shorter := next_group_shorter text content rest found
  obtain ⟨most, length⟩ : ∃ most, text.length = most + 1 := ⟨text.length - 1, by omega⟩
  rw [allGroups, length, groups, found]
  simp only [groups_bound most rest.length rest (by omega) (Nat.le_refl _), allGroups]

theorem all_groups_cut (text : Text) :
    ∃ written, text = written ++ (allGroups text).2 ∧ Groups (allGroups text).1 written := by
  -- By the length of the text: each group that is found leaves a shorter one.
  induction length : text.length using Nat.strongRecOn generalizing text with
  | ind n ih =>
      cases found : nextGroup text with
      | none =>
          rw [all_groups_none text found]
          exact ⟨[], rfl, .nil⟩
      | some next =>
          obtain ⟨content, rest⟩ := next
          have shorter := next_group_shorter text content rest found
          obtain ⟨more, cut, form⟩ := ih rest.length (by omega) rest rfl
          obtain ⟨gap, comma, space, whole, gapBlank, single, spaceBlank, inside⟩ :=
            (next_group_some_iff _ _ _).mp found
          rw [all_groups_some text content rest found]
          refine ⟨_, ?_, .cons gap comma space content _ more gapBlank single spaceBlank inside form⟩
          simp only [whole, List.append_assoc, List.cons_append]
          rw [← cut]

theorem all_groups_append (contents : List Text) (written after : Text) (form : Groups contents written) :
    allGroups (written ++ after) = (contents ++ (allGroups after).1, (allGroups after).2) := by
  induction form with
  | nil => rfl
  | cons gap comma space content contents more gapBlank single spaceBlank inside _ ih =>
      have found : nextGroup (gap ++ comma ++ space ++ '(' :: (content ++ ')' :: more) ++ after) =
          some (content, more ++ after) :=
        (next_group_some_iff _ _ _).mpr
          ⟨gap, comma, space, by simp, gapBlank, single, spaceBlank, inside⟩
      rw [all_groups_some _ _ _ found, ih]
      rfl

def closeClause (text : Text) : Text := Text.optionalSymbol ')' (Text.skipBlanks text)

theorem read_periods_some_iff (text rest : Text) (t : Term) :
    readPeriods text = some (t, rest) ↔
      ∃ name gap space first tail,
        text = name ++ gap ++ '(' :: (space ++ '(' :: (first ++ ')' :: tail)) ∧
          Spells "time".toList name ∧ Text.allBlank gap = true ∧ Text.allBlank space = true ∧
            ')' ∉ first ∧ rest = closeClause (allGroups tail).2 ∧
              t = periods ((first :: (allGroups tail).1).filterMap Period.ofContent?) := by
  apply Iff.intro
  · intro read
    simp only [readPeriods, bind, Option.bind_eq_some_iff, Prod.exists, Option.some.injEq, pure,
      Prod.mk.injEq] at read
    obtain ⟨afterName, nameRead, afterOpen, opened, first, tail, groupRead, rfl, rfl⟩ := read
    obtain ⟨name, rfl, spelled⟩ := (Text.keyword_some_iff _ _ _).mp nameRead
    obtain ⟨gap, cut, gapBlank, -⟩ := Text.skip_blanks_cut afterName
    obtain ⟨space, spaceCut, spaceBlank, -⟩ := Text.skip_blanks_cut afterOpen
    obtain ⟨grouped, inside⟩ := (Text.group_some_iff _ _ _).mp groupRead
    refine ⟨name, gap, space, first, tail, ?_, spelled, gapBlank, spaceBlank, inside, rfl, rfl⟩
    rw [cut, (Text.symbol_some_iff _ _ _).mp opened, spaceCut, grouped, List.append_assoc]
  · intro form
    obtain ⟨name, gap, space, first, tail, rfl, spelled, gapBlank, spaceBlank, inside, rfl, rfl⟩ := form
    have grouped := (Text.group_some_iff _ first tail).mpr ⟨rfl, inside⟩
    have opened := (Text.symbol_some_iff '(' _ (space ++ '(' :: (first ++ ')' :: tail))).mpr rfl
    rw [readPeriods, List.append_assoc, Text.keyword_append _ _ _ spelled]
    simp only [bind, Option.bind_some]
    rw [Text.skip_blanks_append gap _ gapBlank, Text.skip_blanks_fixed _ rfl, opened]
    simp only [Option.bind_some]
    rw [Text.skip_blanks_append space _ spaceBlank, Text.skip_blanks_fixed _ rfl, grouped]
    rfl

theorem close_clause_cut (text : Text) :
    ∃ trail close, text = trail ++ close ++ closeClause text ∧ Text.allBlank trail = true ∧
      (close = [] ∨ close = [')']) := by
  obtain ⟨trail, cut, blank, -⟩ := Text.skip_blanks_cut text
  obtain ⟨close, closeCut, single⟩ := Text.optional_symbol_cut ')' (Text.skipBlanks text)
  refine ⟨trail, close, ?_, blank, single⟩
  rw [closeClause, List.append_assoc, ← closeCut, ← cut]

theorem read_periods_form (text rest : Text) (t : Term) (read : readPeriods text = some (t, rest)) :
    ∃ contents written, text = written ++ rest ∧ TimeForm contents written ∧
      t = periods (contents.filterMap Period.ofContent?) := by
  obtain ⟨name, gap, space, first, tail, rfl, spelled, gapBlank, spaceBlank, inside, rfl, rfl⟩ :=
    (read_periods_some_iff _ _ _).mp read
  obtain ⟨more, moreCut, groups⟩ := all_groups_cut tail
  obtain ⟨trail, close, closeCut, trailBlank, single⟩ := close_clause_cut (allGroups tail).2
  refine ⟨_, _, ?_, ⟨name, gap, space, first, _, more, trail, close, rfl, rfl, spelled, gapBlank,
    spaceBlank, inside, groups, trailBlank, single⟩, rfl⟩
  have whole : tail = more ++ trail ++ close ++ closeClause (allGroups tail).2 := by
    simp only [List.append_assoc] at closeCut ⊢
    rw [← closeCut, ← moreCut]
  simp only [List.append_assoc, List.cons_append] at whole ⊢
  rw [← whole]

theorem all_groups_shorter (text : Text) : (allGroups text).2.length ≤ text.length := by
  obtain ⟨written, cut, -⟩ := all_groups_cut text
  have lengths := congrArg List.length cut
  rw [List.length_append] at lengths
  omega

theorem close_clause_shorter (text : Text) :
    closeClause text = text ∨ (closeClause text).length < text.length := by
  obtain ⟨trail, close, cut, -⟩ := close_clause_cut text
  by_cases nothing : trail ++ close = []
  · rw [nothing] at cut
    exact .inl cut.symm
  · have lengths := congrArg List.length cut
    have positive := List.length_pos_iff.mpr nothing
    rw [List.length_append] at lengths
    exact .inr (by omega)

-- From any end that a clause may have the reader comes at least as far, and further only for more
-- groups or for a better end.
theorem clause_end_reached (trail close after : Text) (trailBlank : Text.allBlank trail = true)
    (single : close = [] ∨ close = [')']) :
    ((allGroups (trail ++ (close ++ after))).1 = [] ∧
        closeClause (allGroups (trail ++ (close ++ after))).2 = after) ∨
      (closeClause (allGroups (trail ++ (close ++ after))).2).length < after.length := by
  rcases single with rfl | rfl
  · rw [List.nil_append]
    cases next : nextGroup after with
    | none =>
        have ended : nextGroup (trail ++ after) = none := by
          rw [next_group_skips trail after trailBlank, next]
        have closed : closeClause (trail ++ after) = closeClause after := by
          rw [closeClause, Text.skip_blanks_append trail after trailBlank, closeClause]
        rw [all_groups_none _ ended, closed]
        rcases close_clause_shorter after with same | shorter
        · exact .inl ⟨rfl, same⟩
        · exact .inr shorter
    | some group =>
        obtain ⟨content, tail⟩ := group
        have found : nextGroup (trail ++ after) = some (content, tail) := by
          rw [next_group_skips trail after trailBlank, next]
        rw [all_groups_some _ _ _ found]
        right
        have shorter := next_group_shorter after content tail next
        have further := all_groups_shorter tail
        rcases close_clause_shorter (allGroups tail).2 with same | less
        · rw [same]
          omega
        · exact Nat.lt_trans less (by omega)
  · -- Nothing is read past a parenthesis that closes the clause.
    have ended : nextGroup (trail ++ ([')'] ++ after)) = none := by
      rw [next_group_skips trail _ trailBlank]
      rfl
    rw [all_groups_none _ ended]
    refine .inl ⟨rfl, ?_⟩
    rw [closeClause, Text.skip_blanks_append trail _ trailBlank]
    rfl

theorem read_periods_reaches (contents : List Text) (written after : Text) (form : TimeForm contents written) :
    ∃ more rest, readPeriods (written ++ after) =
        some (periods ((contents ++ more).filterMap Period.ofContent?), rest) ∧
      ((more = [] ∧ rest = after) ∨ rest.length < after.length) := by
  obtain ⟨name, gap, space, first, others, more, trail, close, rfl, rfl, spelled, gapBlank, spaceBlank,
    inside, groups, trailBlank, single⟩ := form
  have read := (read_periods_some_iff _ _ _).mpr
    ⟨name, gap, space, first, more ++ (trail ++ (close ++ after)), rfl, spelled, gapBlank, spaceBlank, inside,
      rfl, rfl⟩
  rw [all_groups_append others more _ groups] at read
  exact ⟨_, _, by simpa using read, clause_end_reached trail close after trailBlank single⟩

theorem read_periods_longest (written after : Text) (listed : List Period) :
    readPeriods (written ++ after) = some (periods listed, after) ↔
      ∃ contents, LongestForm contents written after ∧ PeriodsListed contents listed := by
  apply Iff.intro
  · intro read
    obtain ⟨contents, whole, cut, form, same⟩ := read_periods_form _ _ _ read
    obtain rfl := List.append_cancel_right cut
    refine ⟨contents, ⟨form, ?_⟩, (periods_listed_iff _ _).mpr (periods.inj same).symm⟩
    -- The reader comes at least as far as any other text of the form, so none is longer.
    intro contents' written' after' otherCut otherForm
    obtain ⟨more, rest, otherRead, reach⟩ := read_periods_reaches contents' written' after' otherForm
    rw [← otherCut, read] at otherRead
    cases otherRead
    have lengths := congrArg List.length otherCut
    simp only [List.length_append] at lengths
    rcases reach with ⟨-, rfl⟩ | shorter <;> omega
  · intro given
    obtain ⟨contents, ⟨form, longest⟩, reading⟩ := given
    obtain ⟨more, rest, read, reach⟩ := read_periods_reaches contents written after form
    rcases reach with ⟨rfl, rfl⟩ | shorter
    · rw [List.append_nil, (periods_listed_iff _ _).mp reading] at read
      exact read
    · -- Had the reader gone further, what it took would be a longer text of the form.
      obtain ⟨contents', written', cut, form', -⟩ := read_periods_form _ _ _ read
      have bound := longest contents' written' rest cut form'
      have lengths := congrArg List.length cut
      simp only [List.length_append] at lengths
      omega

end Term
end Horoscope
