import Horoscope.Proofs.Term.Boundary

set_option autoImplicit false

namespace Horoscope

namespace Text

theorem group_opened (text : Text) :
    group text = (symbol '(' text).bind fun inside => group ('(' :: inside) := by
  cases opened : symbol '(' text with
  | none => simp [group, opened]
  | some inside =>
      obtain rfl := (symbol_some_iff _ _ _).mp opened
      rfl

theorem group_none_iff (inside : Text) : group ('(' :: inside) = none ↔ ')' ∉ inside := by
  apply Iff.intro
  · intro unread member
    obtain ⟨content, rest, rfl, apart⟩ := List.eq_append_cons_of_mem member
    rw [(group_some_iff _ content rest).mpr ⟨rfl, apart⟩] at unread
    cases unread
  · intro absent
    rw [Option.eq_none_iff_forall_ne_some]
    intro result read
    obtain ⟨content, rest⟩ := result
    obtain ⟨cut, -⟩ := (group_some_iff _ _ _).mp read
    rw [(List.cons.inj cut).2] at absent
    simp at absent

theorem group_is_some_iff (inside : Text) : (group ('(' :: inside)).isSome = true ↔ ')' ∈ inside := by
  rw [Option.isSome_iff_ne_none, ne_eq, group_none_iff, not_not]

theorem group_closed_append (inside content after rest : Text)
    (closed : group ('(' :: inside) = some (content, after)) :
    group ('(' :: (inside ++ rest)) = some (content, after ++ rest) := by
  obtain ⟨cut, apart⟩ := (group_some_iff _ _ _).mp closed
  rw [(List.cons.inj cut).2]
  exact (group_some_iff _ _ _).mpr ⟨by simp, apart⟩

theorem group_open_append (inside content tail : Text) (unclosed : ')' ∉ inside) (apart : ')' ∉ content) :
    group ('(' :: (inside ++ (content ++ ')' :: tail))) = some (inside ++ content, tail) := by
  refine (group_some_iff _ _ _).mpr ⟨by simp, ?_⟩
  rw [List.mem_append, not_or]
  exact ⟨unclosed, apart⟩

end Text

namespace Term

def Settled (read : Text → Option (Term × Text)) (front : Text) : Prop :=
  (∀ rest, Opens rest → read (front ++ rest) = none) ∨
    ∃ t after, ∀ rest, Opens rest → read (front ++ rest) = some (t, after ++ rest)

theorem settled_of_map (read : Text → Option (Term × Text)) (front : Text)
    (moved : ∀ rest, Opens rest → read (front ++ rest) =
      (read front).map fun (t, after) => (t, after ++ rest)) : Settled read front := by
  cases found : read front with
  | none =>
      refine .inl fun rest opens => ?_
      rw [moved rest opens, found]
      rfl
  | some result =>
      obtain ⟨t, after⟩ := result
      refine .inr ⟨t, after, fun rest opens => ?_⟩
      rw [moved rest opens, found]
      rfl

theorem settled_or (first second : Text → Option (Term × Text)) (front : Text)
    (settledFirst : Settled first front) (settledSecond : Settled second front) :
    Settled (fun text => first text <|> second text) front := by
  rcases settledFirst with none | ⟨t, after, found⟩
  · rcases settledSecond with noneSecond | ⟨t, after, found⟩
    · refine .inl fun rest opens => ?_
      simp only [none rest opens, noneSecond rest opens]
      rfl
    · refine .inr ⟨t, after, fun rest opens => ?_⟩
      simp only [none rest opens, found rest opens]
      rfl
  · refine .inr ⟨t, after, fun rest opens => ?_⟩
    simp only [found rest opens]
    rfl

def openGroup (text : Text) : Option Text :=
  Text.symbol '(' (Text.skipBlanks (Text.optionalSymbol ',' (Text.skipBlanks text)))

theorem next_group_opened (text : Text) :
    nextGroup text = (openGroup text).bind fun inside => Text.group ('(' :: inside) :=
  Text.group_opened _

theorem open_group_before (front rest : Text) (opens : Opens rest) :
    openGroup (front ++ rest) = (openGroup front).map (· ++ rest) := by
  rw [openGroup, Text.skip_blanks_before front rest opens,
    Text.optional_symbol_before ',' _ rest opens (by decide), Text.skip_blanks_before _ rest opens,
    Text.symbol_before '(' _ rest opens (by decide), openGroup]

theorem all_groups_before (front : Text) :
    (∃ contents after, ∀ rest, Opens rest → allGroups (front ++ rest) = (contents, after ++ rest)) ∨
      ∀ content tail, ')' ∉ content → Opens (content ++ ')' :: tail) →
        (allGroups (front ++ (content ++ ')' :: tail))).2 = (allGroups tail).2 := by
  -- By the length of the front, group by group: either a group is closed in what is left of it, or
  -- none begins, or the last one takes in all up to the next closing parenthesis.
  induction length : front.length using Nat.strongRecOn generalizing front with
  | ind n ih =>
      cases opened : openGroup front with
      | none =>
          refine .inl ⟨[], front, fun rest opens => all_groups_none _ ?_⟩
          rw [next_group_opened, open_group_before front rest opens, opened]
          rfl
      | some inside =>
          have next : ∀ rest, Opens rest →
              nextGroup (front ++ rest) = Text.group ('(' :: (inside ++ rest)) := by
            intro rest opens
            rw [next_group_opened, open_group_before front rest opens, opened]
            rfl
          cases closed : Text.group ('(' :: inside) with
          | none =>
              have unclosed := (Text.group_none_iff inside).mp closed
              refine .inr fun content tail apart opens => ?_
              have found := next _ opens
              rw [Text.group_open_append inside content tail unclosed apart] at found
              rw [all_groups_some _ _ _ found]
          | some result =>
              obtain ⟨first, after⟩ := result
              have found : ∀ rest, Opens rest → nextGroup (front ++ rest) = some (first, after ++ rest) := by
                intro rest opens
                rw [next rest opens, Text.group_closed_append _ _ _ rest closed]
              have here : nextGroup front = some (first, after) := by
                rw [next_group_opened, opened]
                exact closed
              have shorter := next_group_shorter _ _ _ here
              rcases ih after.length (by omega) after rfl with ⟨contents, last, settled⟩ | swallowed
              · refine .inl ⟨first :: contents, last, fun rest opens => ?_⟩
                rw [all_groups_some _ _ _ (found rest opens), settled rest opens]
              · refine .inr fun content tail apart opens => ?_
                rw [all_groups_some _ _ _ (found _ opens)]
                exact swallowed content tail apart opens

theorem close_clause_before (front rest : Text) (opens : Opens rest) :
    closeClause (front ++ rest) = closeClause front ++ rest := by
  rw [closeClause, Text.skip_blanks_before front rest opens,
    Text.optional_symbol_before ')' _ rest opens (by decide), closeClause]

def openAges (text : Text) : Option Text :=
  (Text.keyword "age".toList text).bind fun rest => Text.symbol '(' (Text.skipBlanks rest)

theorem read_ages_opened (text : Text) :
    readAges text = (openAges text).bind fun inside =>
      (Text.group ('(' :: inside)).map fun (content, rest) => (ages (agesOf content), rest) := by
  simp only [readAges, openAges, bind, pure, Option.bind_assoc, Option.map_eq_bind,
    Text.group_opened (Text.skipBlanks _)]
  rfl

theorem open_ages_before (front rest : Text) (detached : Detached front) (opens : Opens rest) :
    openAges (front ++ rest) = (openAges front).map (· ++ rest) := by
  rw [openAges, openAges,
    Text.keyword_before _ front rest false (by decide) (fun _ => rfl) detached opens]
  cases Text.keyword "age".toList front with
  | none => rfl
  | some after =>
      simp only [Option.map_some, Option.bind_some, Text.skip_blanks_before after rest opens,
        Text.symbol_before '(' _ rest opens (by decide)]

theorem ages_before (front : Text) (detached : Detached front) :
    Settled readAges front ∨
      ∀ content tail, ')' ∉ content → Opens (content ++ ')' :: tail) →
        readAges (front ++ (content ++ ')' :: tail)) = some (ages [], tail) := by
  cases opened : openAges front with
  | none =>
      refine .inl (.inl fun rest opens => ?_)
      rw [read_ages_opened, open_ages_before front rest detached opens, opened]
      rfl
  | some inside =>
      have read : ∀ rest, Opens rest → readAges (front ++ rest) =
          (Text.group ('(' :: (inside ++ rest))).map fun (content, rest) => (ages (agesOf content), rest) := by
        intro rest opens
        rw [read_ages_opened, open_ages_before front rest detached opens, opened]
        rfl
      cases closed : Text.group ('(' :: inside) with
      | some result =>
          obtain ⟨content, after⟩ := result
          refine .inl (.inr ⟨ages (agesOf content), after, fun rest opens => ?_⟩)
          rw [read rest opens, Text.group_closed_append _ _ _ rest closed]
          rfl
      | none =>
          have unclosed := (Text.group_none_iff inside).mp closed
          refine .inr fun content tail apart opens => ?_
          -- The list takes in the letter that the clause begins with, and no number has one.
          obtain ⟨c, others, cut, initial⟩ := opens_cases _ opens
          have member : c ∈ inside ++ content := by
            cases content with
            | nil =>
                obtain ⟨rfl, -⟩ := List.cons.inj cut
                cases initial
            | cons d content =>
                obtain ⟨rfl, -⟩ := List.cons.inj cut
                simp
          have foreign := initial_property
            (fun c => !decide (c = '/') && !(isBlank c || c == '+' || c.isDigit)) (by decide) c initial
          simp only [Bool.and_eq_true, Bool.not_eq_true', decide_eq_false_iff_not, Bool.or_eq_false_iff,
            beq_eq_false_iff_ne] at foreign
          have spoiled := ages_of_spoiled _ c member foreign.1 (by simp [foreign.2])
          rw [read _ opens, Text.group_open_append inside content tail unclosed apart]
          simp only [Option.map_some, spoiled]

def openPeriods (text : Text) : Option Text :=
  (Text.keyword "time".toList text).bind fun rest =>
    (Text.symbol '(' (Text.skipBlanks rest)).bind fun rest => Text.symbol '(' (Text.skipBlanks rest)

theorem read_periods_opened (text : Text) :
    readPeriods text = (openPeriods text).bind fun inside =>
      (Text.group ('(' :: inside)).map fun (first, rest) =>
        (periods ((first :: (allGroups rest).1).filterMap Period.ofContent?),
          closeClause (allGroups rest).2) := by
  simp only [readPeriods, openPeriods, bind, pure, Option.bind_assoc, Option.map_eq_bind,
    Text.group_opened (Text.skipBlanks _)]
  rfl

theorem open_periods_before (front rest : Text) (nonempty : front ≠ []) (detached : Detached front)
    (opens : Opens rest) : openPeriods (front ++ rest) = (openPeriods front).map (· ++ rest) := by
  rw [openPeriods, openPeriods,
    Text.keyword_before _ front rest true (by decide) (fun empty => absurd empty nonempty) detached
      opens]
  cases Text.keyword "time".toList front with
  | none => rfl
  | some after =>
      simp only [Option.map_some, Option.bind_some, Text.skip_blanks_before after rest opens,
        Text.symbol_before '(' _ rest opens (by decide)]
      cases Text.symbol '(' (Text.skipBlanks after) with
      | none => rfl
      | some after =>
          simp only [Option.map_some, Option.bind_some, Text.skip_blanks_before after rest opens,
            Text.symbol_before '(' _ rest opens (by decide)]

theorem periods_before (front : Text) (nonempty : front ≠ []) (detached : Detached front) :
    Settled readPeriods front ∨
      ∀ content tail, ')' ∉ content → Opens (content ++ ')' :: tail) →
        ∃ listed, readPeriods (front ++ (content ++ ')' :: tail)) =
          some (periods listed, closeClause (allGroups tail).2) := by
  cases opened : openPeriods front with
  | none =>
      refine .inl (.inl fun rest opens => ?_)
      rw [read_periods_opened, open_periods_before front rest nonempty detached opens, opened]
      rfl
  | some inside =>
      have read : ∀ rest, Opens rest → readPeriods (front ++ rest) =
          (Text.group ('(' :: (inside ++ rest))).map fun (first, rest) =>
            (periods ((first :: (allGroups rest).1).filterMap Period.ofContent?),
              closeClause (allGroups rest).2) := by
        intro rest opens
        rw [read_periods_opened, open_periods_before front rest nonempty detached opens, opened]
        rfl
      cases closed : Text.group ('(' :: inside) with
      | none =>
          have unclosed := (Text.group_none_iff inside).mp closed
          refine .inr fun content tail apart opens =>
            ⟨((inside ++ content) :: (allGroups tail).1).filterMap Period.ofContent?, ?_⟩
          rw [read _ opens, Text.group_open_append inside content tail unclosed apart]
          rfl
      | some result =>
          obtain ⟨first, after⟩ := result
          rcases all_groups_before after with ⟨contents, last, settled⟩ | swallowed
          · refine .inl (.inr ⟨periods ((first :: contents).filterMap Period.ofContent?), closeClause last,
              fun rest opens => ?_⟩)
            rw [read rest opens, Text.group_closed_append _ _ _ rest closed]
            simp only [Option.map_some, settled rest opens, close_clause_before last rest opens]
          · refine .inr fun content tail apart opens =>
              ⟨(first :: (allGroups (after ++ (content ++ ')' :: tail))).1).filterMap Period.ofContent?, ?_⟩
            rw [read _ opens, Text.group_closed_append _ _ _ _ closed]
            simp only [Option.map_some, swallowed content tail apart opens]

theorem read_before (front : Text) (nonempty : front ≠ []) (detached : Detached front) :
    Settled read front ∨
      (∀ content tail, ')' ∉ content → Opens (content ++ ')' :: tail) →
        ∃ after, read (front ++ (content ++ ')' :: tail)) = some (ages [], after)) ∨
      ∀ content tail, ')' ∉ content → Opens (content ++ ')' :: tail) →
        ∃ listed, read (front ++ (content ++ ')' :: tail)) =
          some (periods listed, closeClause (allGroups tail).2) := by
  rcases ages_before front detached with settledAges | swallowed
  -- The readers of planet terms stop before a clause, so they are settled in any case.
  · rcases periods_before front nonempty detached with settledPeriods | swallowed
    · refine .inl (settled_or _ _ _ settledAges (settled_or _ _ _ settledPeriods
        (settled_or _ _ _ ?_ (settled_or _ _ _ ?_ ?_))))
      · exact settled_of_map _ _ fun rest => read_pair_before _ _ front rest (by decide) detached
      · exact settled_of_map _ _ fun rest => read_pair_before _ _ front rest (by decide) detached
      · exact settled_of_map _ _ fun rest => read_in_house_before front rest detached
    · refine .inr (.inr fun content tail apart opens => ?_)
      obtain ⟨listed, found⟩ := swallowed content tail apart opens
      exact ⟨listed, (read_some_iff _ _).mpr (.inr (.inl found))⟩
  · refine .inr (.inl fun content tail apart opens => ⟨tail, ?_⟩)
    exact (read_some_iff _ _).mpr (.inl (swallowed content tail apart opens))

end Term
end Horoscope
