import Horoscope.Matching
import Horoscope.Proofs.Date.PeriodDays
import Horoscope.Proofs.Wording.ClosingClause

set_option autoImplicit false

namespace Horoscope

namespace Period

theorem last_day_near (period : Period) (today last : Date) (dated : period.InFourDigits)
    (resolved : period.bound.lastDay? today = some last) : last.year ≤ 9999 ∨ last = today := by
  obtain ⟨-, bounded⟩ := dated
  cases bound : period.bound with
  | on day =>
      rw [bound] at bounded resolved
      cases resolved
      exact .inl bounded.2
  | withYear year =>
      rw [bound, PeriodEnd.lastDay?] at resolved
      rw [bound] at bounded
      by_cases current : year = today.year
      · rw [if_pos current] at resolved
        cases resolved
        exact .inr rfl
      · rw [if_neg current] at resolved
        rw [(Date.of_ymd_some_iff.mp resolved).1]
        exact .inl bounded.2
  | ongoing =>
      rw [bound] at resolved
      cases resolved
      exact .inr rfl

end Period

namespace BirthRange

def Anchored (today first last : Date) : Prop :=
  today.IsLeapDay → isLeapYear (Date.anchorYear today first) = true ∧
    isLeapYear (Date.anchorYear today last) = true

-- Of a first day that is past and a last day to come, the older age is the one since the first.
theorem of_days_current (today first last : Date) (range : BirthRange) (past : first ≤ today)
    (coming : today ≤ last) :
    ofDays? today first last = some range ↔
      yearsAgo? today (Date.age first today) = some range.earliest ∧
        yearsAgo? today (Date.age last today) = some range.latest := by
  have before := Date.anchor_year_past today first past
  have after := Date.anchor_year_coming today last coming
  have older : Date.age last today ≤ Date.age first today := by
    unfold Date.anchorYear at before after
    omega
  rw [of_days_some_iff, Int.max_eq_left older, Int.min_eq_right older]

theorem current_exists_iff (today first last : Date) (past : first ≤ today) (coming : today ≤ last)
    (near : last.year ≤ 9999 ∨ last = today) :
    (∃ range, ofDays? today first last = some range) ↔ Anchored today first last := by
  have firstReal := first.real.1
  have todayReal := today.real.1
  have before := Date.anchor_year_past today first past
  have since := (Date.anchor_year_bounds today first).1
  have after := Date.anchor_year_coming today last coming
  have notBeyond : Date.anchorYear today last ≤ Date.lastYear := by
    rcases near with small | rfl
    · have bound := (Date.anchor_year_bounds today last).2
      have far : Date.lastYear = 262142 := rfl
      omega
    · rw [Date.anchor_year_self]
      exact todayReal.2
  have earliest : (∃ day, yearsAgo? today (Date.age first today) = some day) ↔
      (today.IsLeapDay → isLeapYear (Date.anchorYear today first) = true) := by
    rw [years_ago_exists_iff, Date.exists_in_year_iff]
    exact and_iff_right ⟨Int.le_trans firstReal.1 since, Int.le_trans before todayReal.2⟩
  have latest : (∃ day, yearsAgo? today (Date.age last today) = some day) ↔
      (today.IsLeapDay → isLeapYear (Date.anchorYear today last) = true) := by
    rw [years_ago_exists_iff, Date.exists_in_year_iff]
    exact and_iff_right ⟨Int.le_trans todayReal.1 after, notBeyond⟩
  rw [Anchored, forall_and, ← earliest, ← latest]
  apply Iff.intro
  · intro form
    obtain ⟨range, found⟩ := form
    obtain ⟨foundEarliest, foundLatest⟩ := (of_days_current today first last range past coming).mp found
    exact ⟨⟨_, foundEarliest⟩, ⟨_, foundLatest⟩⟩
  · intro form
    obtain ⟨⟨first, foundEarliest⟩, ⟨second, foundLatest⟩⟩ := form
    exact ⟨⟨first, second⟩, (of_days_current today _ last _ past coming).mpr ⟨foundEarliest, foundLatest⟩⟩

theorem years_ago_order (today day bound : Date) (found : yearsAgo? today (Date.age bound today) = some day) :
    (bound ≤ today → day ≤ today) ∧ (today ≤ bound → today ≤ day) ∧ (bound = today → day = today) := by
  obtain ⟨year, month, dayOfMonth⟩ := (years_ago_some_iff _ _ _).mp found
  have anchored : day.year = Date.anchorYear today bound := year
  have season : Date.seasonLE day today ∧ Date.seasonLE today day :=
    ⟨.inr ⟨month, Nat.le_of_eq dayOfMonth⟩, .inr ⟨month.symm, Nat.le_of_eq dayOfMonth.symm⟩⟩
  refine ⟨fun past => ?_, fun coming => ?_, fun same => ?_⟩
  · have before := Date.anchor_year_past today bound past
    rw [Date.le_iff, anchored]
    rcases Int.lt_or_eq_of_le before with less | same
    · exact .inl less
    · exact .inr ⟨same, season.1⟩
  · have after := Date.anchor_year_coming today bound coming
    rw [Date.le_iff, anchored]
    rcases Int.lt_or_eq_of_le after with less | same
    · exact .inl less
    · exact .inr ⟨same, season.2⟩
  · rw [same, Date.anchor_year_self] at anchored
    exact (Date.ext_iff day today).mpr ⟨anchored, month, dayOfMonth⟩

theorem current_brackets (today first last : Date) (range : BirthRange) (past : first ≤ today)
    (coming : today ≤ last) (found : ofDays? today first last = some range) :
    range.earliest ≤ today ∧ today ≤ range.latest ∧ (last = today → range.latest = today) := by
  obtain ⟨foundEarliest, foundLatest⟩ := (of_days_current today first last range past coming).mp found
  obtain ⟨before, -⟩ := years_ago_order today _ first foundEarliest
  obtain ⟨-, after, atEnd⟩ := years_ago_order today _ last foundLatest
  exact ⟨before past, after coming, atEnd⟩

theorem current_days (period : Period) (today : Date) (dated : period.InFourDigits)
    (current : period.contains today = true) :
    ∃ last, period.bound.lastDay? today = some last ∧
      ((∃ range, ofDays? today period.start last = some range) ↔ Anchored today period.start last) ∧
      ∀ range, ofDays? today period.start last = some range →
        range.earliest ≤ today ∧ today ≤ range.latest ∧
          (period.bound = .ongoing ∨ period.bound = .withYear today.year → range.latest = today) := by
  obtain ⟨last, resolved, past, coming⟩ := (period.contains_iff today).mp current
  have near := period.last_day_near today last dated resolved
  refine ⟨last, resolved, current_exists_iff _ _ _ past coming near, fun range given => ?_⟩
  obtain ⟨earlier, later, atEnd⟩ := current_brackets _ _ _ range past coming given
  refine ⟨earlier, later, fun reaching => atEnd ?_⟩
  rcases reaching with ongoing | thisYear
  · rw [ongoing] at resolved
    cases resolved
    rfl
  · rw [thisYear, PeriodEnd.lastDay?, if_pos rfl] at resolved
    cases resolved
    rfl

theorem current_range (period : Period) (today : Date) (dated : period.InFourDigits)
    (current : period.contains today = true) (common : ¬ today.IsLeapDay) :
    ∃ range, ofPeriod? today period = some range ∧ range.earliest ≤ today ∧ today ≤ range.latest := by
  obtain ⟨last, resolved, there, around⟩ := current_days period today dated current
  obtain ⟨range, given⟩ := there.mpr fun leapDay => absurd leapDay common
  obtain ⟨earlier, later, -⟩ := around range given
  refine ⟨range, ?_, earlier, later⟩
  rw [ofPeriod?, resolved]
  exact given

end BirthRange

namespace TimeClause

theorem found_in_four_digits (condition before : Text) (listed : List Period)
    (found : find? condition = some (before, listed)) : ∀ period ∈ listed, period.InFourDigits := by
  obtain ⟨m, first, term, -⟩ := (find_some_iff _ _ _).mp found
  obtain ⟨read, -⟩ := mention_parts condition m (first_member condition m first)
  rw [term] at read
  obtain ⟨contents, -, -, -, same⟩ := Term.read_periods_form _ _ _ (Term.read_periods_of_read _ _ _ read)
  obtain rfl := Term.periods.inj same
  intro period member
  obtain ⟨content, -, given⟩ := List.mem_filterMap.mp member
  exact Period.read_in_four_digits content period given

theorem found_mentioned (condition before : Text) (listed : List Period)
    (found : find? condition = some (before, listed)) : Term.periods listed ∈ terms condition := by
  obtain ⟨m, first, term, -⟩ := (find_some_iff _ _ _).mp found
  rw [← term]
  exact List.mem_map_of_mem (first_member condition m first)

theorem restate_changes (condition before : Text) (listed : List Period) (ranges : List BirthRange)
    (found : find? condition = some (before, listed)) : before ++ birthClause ranges ≠ condition := by
  obtain ⟨m, first, -, rfl⟩ := (find_some_iff _ _ _).mp found
  obtain ⟨-, unclosed⟩ := birth_clause_meaning condition m first ranges
  intro same
  rw [same] at unclosed
  exact unclosed m (first_member condition m first) first.closing

def midJune : Date := ⟨2024, 6, 15, by decide⟩

def threePeriods : List Period :=
  [⟨⟨2020, 1, 1, by decide⟩, .on ⟨2020, 12, 31, by decide⟩⟩, ⟨⟨2023, 5, 1, by decide⟩, .withYear 2024⟩,
    ⟨⟨2024, 3, 1, by decide⟩, .ongoing⟩]

end TimeClause
end Horoscope
