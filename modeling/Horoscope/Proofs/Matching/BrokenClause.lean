import Horoscope.Proofs.Matching.Meaning
import Horoscope.Proofs.Term.OpenClause

set_option autoImplicit false

namespace Horoscope

def ClauseAt (word text : Text) (start : Nat) (inside : Text) : Prop :=
  ∃ before name gap, text = before ++ (name ++ gap ++ '(' :: inside) ∧ Text.byteLength before = start ∧
    Detached before ∧ Spells word name ∧ Text.allBlank gap = true

def GroupFirst (inside : Text) : Prop :=
  ∃ space tail, inside = space ++ '(' :: tail ∧ Text.allBlank space = true ∧ ')' ∈ tail

def AgesInside (inside : Text) (t : Term) : Prop :=
  ∃ content rest listed, inside = content ++ ')' :: rest ∧ ')' ∉ content ∧ AgesListed content listed ∧
    t = .ages listed

def PeriodsAt (text : Text) (start : Nat) (t : Term) : Prop :=
  ∃ stop before written after contents listed, Slice text start stop before written after ∧
    LongestForm contents written after ∧ PeriodsListed contents listed ∧ t = .periods listed

structure ClauseCounts (text : Text) (start : Nat) (shaped : Prop) (listing : Term → Prop) : Prop where
  kept : (∃ stop t, MentionedAt text start stop t) ↔ shaped
  strict : ∀ stop t, MentionedAt text start stop t → listing t ∧
    ∀ chart moment planet, ¬ t.Admits moment → holds (terms text) chart moment planet = false

theorem mentioned_missed (text : Text) (start stop : Nat) (t : Term) (given : MentionedAt text start stop t)
    (chart : Chart) (moment : Moment) (planet : Planet) (missed : ¬ t.Admits moment) :
    holds (terms text) chart moment planet = false := by
  obtain ⟨m, member, rfl, -⟩ := given
  rw [Bool.eq_false_iff, ne_eq, holds_iff]
  intro satisfied
  exact missed (satisfied.admitted m.term (List.mem_map_of_mem member))

namespace Term

theorem opening_behind (word name gap inside : Text) (spelled : Spells word name)
    (blank : Text.allBlank gap = true) :
    ((Text.keyword word (name ++ gap ++ '(' :: inside)).bind fun rest =>
      Text.symbol '(' (Text.skipBlanks rest)) = some inside := by
  rw [List.append_assoc, Text.keyword_append _ _ _ spelled, Option.bind_some]
  exact (Text.opening_some_iff _ _).mpr ⟨gap, rfl, blank⟩

theorem read_ages_clause (name gap inside : Text) (spelled : Spells "age".toList name)
    (blank : Text.allBlank gap = true) :
    read (name ++ gap ++ '(' :: inside) =
      (Text.group ('(' :: inside)).map fun (content, rest) => (ages (agesOf content), rest) := by
  have opened : openAges (name ++ gap ++ '(' :: inside) = some inside :=
    opening_behind _ name gap inside spelled blank
  obtain ⟨after, found, -⟩ := Option.bind_eq_some_iff.mp opened
  rw [read_ages_spelled _ after found, read_ages_opened, opened, Option.bind_some]

theorem read_periods_clause (name gap inside : Text) (spelled : Spells "time".toList name)
    (blank : Text.allBlank gap = true) :
    (read (name ++ gap ++ '(' :: inside)).isSome = true ↔ GroupFirst inside := by
  have opening := opening_behind _ name gap inside spelled blank
  obtain ⟨after, found, -⟩ := Option.bind_eq_some_iff.mp opening
  have opened : openPeriods (name ++ gap ++ '(' :: inside) = Text.symbol '(' (Text.skipBlanks inside) := by
    rw [openPeriods, ← Option.bind_assoc, opening, Option.bind_some]
  rw [read_periods_spelled _ after found, read_periods_opened, opened]
  simp only [Option.isSome_bind, Option.isSome_map, Option.any_eq_true, Text.group_is_some_iff,
    Text.opening_some_iff]
  apply Iff.intro
  · intro form
    obtain ⟨tail, ⟨space, cut, blank⟩, closing⟩ := form
    exact ⟨space, tail, cut, blank, closing⟩
  · intro form
    obtain ⟨space, tail, cut, blank, closing⟩ := form
    exact ⟨tail, ⟨space, cut, blank⟩, closing⟩

end Term

theorem ages_clause_counts (text inside : Text) (start : Nat)
    (clause : ClauseAt "age".toList text start inside) :
    ClauseCounts text start (')' ∈ inside) (AgesInside inside) := by
  obtain ⟨before, name, gap, rfl, rfl, detached, spelled, blank⟩ := clause
  have read := Term.read_ages_clause name gap inside spelled blank
  refine ⟨?_, fun stop t given => ⟨?_, mentioned_missed _ _ _ _ given⟩⟩
  · rw [mentioned_somewhere_iff before _ detached, read, Option.isSome_map, Text.group_is_some_iff]
  · obtain ⟨after, found⟩ := (mentioned_behind_iff before _ t detached).mp ⟨stop, given⟩
    rw [read] at found
    obtain ⟨⟨content, rest⟩, grouped, same⟩ := Option.map_eq_some_iff.mp found
    obtain ⟨cut, apart⟩ := (Text.group_some_iff _ _ _).mp grouped
    obtain ⟨rfl, -⟩ := Prod.mk.inj same
    exact ⟨content, rest, Term.agesOf content, (List.cons.inj cut).2, apart,
      (Term.ages_of_iff _ _).mp rfl, rfl⟩

theorem periods_clause_counts (text inside : Text) (start : Nat)
    (clause : ClauseAt "time".toList text start inside) :
    ClauseCounts text start (GroupFirst inside) (PeriodsAt text start) := by
  obtain ⟨before, name, gap, rfl, rfl, detached, spelled, blank⟩ := clause
  refine ⟨?_, fun stop t given => ⟨?_, mentioned_missed _ _ _ _ given⟩⟩
  · rw [mentioned_somewhere_iff before _ detached, Term.read_periods_clause name gap inside spelled blank]
  · obtain ⟨rest, found⟩ := (mentioned_behind_iff before _ t detached).mp ⟨stop, given⟩
    have named : Text.keyword "time".toList (name ++ gap ++ '(' :: inside) = some (gap ++ '(' :: inside) := by
      rw [List.append_assoc, Text.keyword_append _ _ _ spelled]
    rw [Term.read_periods_spelled _ _ named] at found
    obtain ⟨others, -, -, -, rfl⟩ := Term.read_periods_form _ _ _ found
    obtain ⟨front, written, after, slice, -, contents, longest, listed⟩ :=
      (mentioned_at_iff _ _ _ _).mp given
    exact ⟨stop, front, written, after, contents, _, slice, longest, listed, rfl⟩

-- A clause counts where its parentheses are in place: a list of ages has to be closed, and periods
-- have to begin with a pair of parentheses of their own.
theorem opened_clauses_count (text inside : Text) (start : Nat) :
    (ClauseAt "age".toList text start inside →
      ClauseCounts text start (')' ∈ inside) (AgesInside inside)) ∧
    (ClauseAt "time".toList text start inside →
      ClauseCounts text start (GroupFirst inside) (PeriodsAt text start)) :=
  ⟨ages_clause_counts text inside start, periods_clause_counts text inside start⟩

theorem unread_period_counts :
    ClauseAt "time".toList "sun in 1 AND TIME ((soon)".toList 13 "(soon)".toList ∧
      ∃ stop t, MentionedAt "sun in 1 AND TIME ((soon)".toList 13 stop t := by
  have clause : ClauseAt "time".toList "sun in 1 AND TIME ((soon)".toList 13 "(soon)".toList :=
    ⟨"sun in 1 AND ".toList, "TIME".toList, [' '], rfl, rfl, rfl, rfl, rfl⟩
  exact ⟨clause, ((opened_clauses_count _ _ 13).2 clause).kept.mpr ⟨[], "soon)".toList, rfl, rfl, by decide⟩⟩

example : terms "sun in 1 AND AGE(30".toList = [.inHouse .sun 1] := by decide +kernel

def sunInFirst : Chart := .ofPlacements ⟨1990, 5, 15, by decide⟩ [(.sun, 1)]

theorem bare_period_lost :
    ClauseAt "time".toList "sun in 1 AND TIME(2020-01-01 to 2020-12-31)".toList 13
        "2020-01-01 to 2020-12-31)".toList ∧
      (∀ stop listed, ¬ MentionedAt "sun in 1 AND TIME(2020-01-01 to 2020-12-31)".toList 13 stop
        (.periods listed)) ∧
      holds (terms "sun in 1 AND TIME(2020-01-01 to 2020-12-31)".toList) sunInFirst
        (sunInFirst.momentOn ⟨2024, 6, 15, by decide⟩) .sun = true := by
  refine ⟨⟨"sun in 1 AND ".toList, "TIME".toList, [], rfl, rfl, rfl, rfl, rfl⟩,
    ?_, by decide +kernel⟩
  have only : (mentions "sun in 1 AND TIME(2020-01-01 to 2020-12-31)".toList).map Mention.start = [0] := by
    decide +kernel
  intro stop listed mentioned
  obtain ⟨m, member, -, start, -⟩ := mentioned
  have found := List.mem_map_of_mem (f := Mention.start) member
  rw [only, start] at found
  revert found
  decide

end Horoscope
