import Horoscope.Proofs.Term.Reading
import Horoscope.Proofs.Text.Passes
import Horoscope.Term.Writer

set_option autoImplicit false

namespace Horoscope

def isFigure (c : Char) : Bool := c.isDigit || c == '-' || c == '+'

def isClauseMark (c : Char) : Bool := isFigure c || " to(),".toList.contains c

theorem figure_ascii (c : Char) (figure : isFigure c = true) : c.toNat < 128 := by
  simp only [isFigure, Bool.or_eq_true, beq_iff_eq] at figure
  rcases figure with (digit | rfl) | rfl
  · exact digit_ascii c digit
  · decide
  · decide

theorem clause_mark_ascii (c : Char) (mark : isClauseMark c = true) : c.toNat < 128 := by
  rcases Bool.or_eq_true_iff.mp mark with figure | listed
  · exact figure_ascii c figure
  · have check : " to(),".toList.all (fun d => decide (d.toNat < 128)) = true := by decide
    exact of_decide_eq_true (List.all_eq_true.mp check c (List.contains_iff_mem.mp listed))

def isAgeMark (c : Char) : Bool := c.isDigit || "AGE(/)".toList.contains c

theorem age_mark_ascii (c : Char) (mark : isAgeMark c = true) : c.toNat < 128 := by
  rcases Bool.or_eq_true_iff.mp mark with digit | listed
  · exact digit_ascii c digit
  · have check : "AGE(/)".toList.all (fun d => decide (d.toNat < 128)) = true := by decide
    exact of_decide_eq_true (List.all_eq_true.mp check c (List.contains_iff_mem.mp listed))

theorem figures_marks (text : Text) (figures : text.all isFigure = true) : text.all isClauseMark = true := by
  rw [List.all_eq_true] at figures ⊢
  intro c member
  rw [isClauseMark, figures c member]
  rfl

namespace Decimal

theorem write_digits (n : Nat) : (write n).all Char.isDigit = true := by
  rw [List.all_eq_true]
  intro c member
  exact Nat.isDigit_of_mem_toDigits (by omega) (by omega) member

theorem write_nonempty (n : Nat) : write n ≠ [] := Nat.toDigits_ne_nil

theorem write_two (n : Nat) (small : n < 100) : (write n).length ≤ 2 :=
  (Nat.length_toDigits_le_iff (by omega) (by omega)).mpr small

theorem write_four (n : Nat) (small : n < 10000) : (write n).length ≤ 4 :=
  (Nat.length_toDigits_le_iff (by omega) (by omega)).mpr small

end Decimal

namespace Date

theorem padded_digits (width n : Nat) : (padded width n).all Char.isDigit = true := by
  rw [padded, List.leftpad, List.all_append, Decimal.write_digits, List.all_replicate]
  simp [show Char.isDigit '0' = true from rfl]

theorem padded_value (width n : Nat) : Decimal.value (padded width n) = n := by
  rw [padded, List.leftpad, Decimal.value, Nat.ofDigitChars_append, Nat.ofDigitChars_replicate_zero,
    Nat.mul_zero]
  exact Decimal.value_write n

theorem padded_length (width n : Nat) (fits : (Decimal.write n).length ≤ width) :
    (padded width n).length = width := by
  rw [padded, List.length_leftpad]
  omega

theorem digits_figures (text : Text) (digits : text.all Char.isDigit = true) : text.all isFigure = true := by
  rw [List.all_eq_true] at digits ⊢
  intro c member
  rw [isFigure, digits c member]
  rfl

theorem write_year_figures (year : Int) : (writeYear year).all isFigure = true := by
  rw [writeYear, List.all_append, digits_figures _ (padded_digits _ _), Bool.and_true]
  by_cases before : year < 0
  · rw [if_pos before]
    decide
  · by_cases beyond : 9999 < year
    · rw [if_neg before, if_pos beyond]
      decide
    · rw [if_neg before, if_neg beyond]
      rfl

theorem write_figures (day : Date) : (write day).all isFigure = true := by
  simp only [write, List.all_append, List.all_cons, write_year_figures, digits_figures _ (padded_digits _ _)]
  decide

theorem write_nonempty (day : Date) : write day ≠ [] := by
  simp [write]

theorem write_year_nonempty (year : Int) : writeYear year ≠ [] := by
  intro empty
  have unpadded := (List.append_eq_nil_iff.mp empty).2
  rw [padded, List.leftpad] at unpadded
  exact Decimal.write_nonempty _ (List.append_eq_nil_iff.mp unpadded).2

theorem year_written (year : Int) (least : 0 ≤ year) (most : year ≤ 9999) :
    writeYear year = padded 4 year.natAbs := by
  rw [writeYear, if_neg (by omega), if_neg (by omega), List.nil_append]

theorem year_form_written (year : Int) (least : 0 ≤ year) (most : year ≤ 9999) :
    YearNotation year (writeYear year) := by
  rw [year_written year least most]
  refine ⟨padded_digits _ _, padded_length _ _ (Decimal.write_four _ (by omega)), ?_⟩
  rw [padded_value]
  omega

theorem days_in_month_bound (year : Int) (month : Nat) : daysInMonth year month ≤ 31 := by
  cases leap : isLeapYear year <;> simp only [daysInMonth, leap] <;> split <;> decide

theorem day_form_written (day : Date) (least : 0 ≤ day.year) (most : day.year ≤ 9999) :
    DayNotation day (write day) := by
  obtain ⟨-, ⟨firstMonth, lastMonth⟩, firstDay, lastDay⟩ := day.real
  have short := days_in_month_bound day.year day.month
  have monthWidth := padded_length 2 day.month (Decimal.write_two _ (by omega))
  have dayWidth := padded_length 2 day.day (Decimal.write_two _ (by omega))
  refine ⟨day.year.natAbs, ⟨padded 4 day.year.natAbs, padded 2 day.month, padded 2 day.day, ?_, ?_, ?_, ?_⟩,
    by omega⟩
  · rw [write, year_written day.year least most]
    simp
  · exact ⟨padded_digits _ _, padded_length _ _ (Decimal.write_four _ (by omega)), padded_value _ _⟩
  · exact ⟨padded_digits _ _, by omega, padded_value _ _⟩
  · exact ⟨padded_digits _ _, by omega, padded_value _ _⟩

end Date

def Period.InFourDigits (period : Period) : Prop :=
  (0 ≤ period.start.year ∧ period.start.year ≤ 9999) ∧
    match period.bound with
    | .on day => 0 ≤ day.year ∧ day.year ≤ 9999
    | .withYear year => 0 ≤ year ∧ year ≤ 9999
    | .ongoing => True

theorem day_in_four_digits (day : Date) (written : Text) (form : DayNotation day written) :
    0 ≤ day.year ∧ day.year ≤ 9999 := by
  obtain ⟨year, ⟨years, -, -, -, ⟨all, width, value⟩, -⟩, same⟩ := form
  have bound := Decimal.value_bound years all
  rw [value, width] at bound
  omega

theorem year_in_four_digits (year : Int) (written : Text) (form : YearNotation year written) :
    0 ≤ year ∧ year ≤ 9999 := by
  obtain ⟨all, width, rfl⟩ := form
  have bound := Decimal.value_bound written all
  rw [width] at bound
  omega

namespace Period

theorem read_in_four_digits (content : Text) (period : Period) (read : ofContent? content = some period) :
    period.InFourDigits := by
  obtain ⟨-, first, -, -, ending, -, -, start, -, -, bound⟩ := (of_content_some_iff _ _).mp read
  refine ⟨day_in_four_digits _ first start, ?_⟩
  rcases bound with ⟨-, ongoing⟩ | ⟨-, figures, -, -, -, -, (⟨day, form, last⟩ | ⟨year, form, last⟩)⟩
  · rw [ongoing]
    trivial
  · rw [last]
    exact day_in_four_digits day figures form
  · rw [last]
    exact year_in_four_digits year figures form

def content (period : Period) : Text :=
  Date.write period.start ++ " to".toList ++ PeriodEnd.write period.bound

theorem write_content (period : Period) : write period = '(' :: (content period ++ [')']) := rfl

theorem bound_written (period : Period) (dated : period.InFourDigits) :
    BoundNotation period.bound (PeriodEnd.write period.bound) := by
  obtain ⟨-, boundDated⟩ := dated
  have single : Gap [' '] := ⟨by decide, by decide⟩
  cases bound : period.bound with
  | on day =>
      rw [bound] at boundDated
      refine .inr ⟨[' '], Date.write day, [], by simp [PeriodEnd.write], single, rfl, .inl ⟨day, ?_, rfl⟩⟩
      exact Date.day_form_written day boundDated.1 boundDated.2
  | withYear year =>
      rw [bound] at boundDated
      refine .inr ⟨[' '], Date.writeYear year, [], by simp [PeriodEnd.write], single, rfl,
        .inr ⟨year, ?_, rfl⟩⟩
      exact Date.year_form_written year boundDated.1 boundDated.2
  | ongoing => exact .inl ⟨by decide, rfl⟩

theorem content_written (period : Period) (dated : period.InFourDigits) :
    PeriodNotation (content period) period :=
  ⟨[], Date.write period.start, [' '], "to".toList, PeriodEnd.write period.bound, by simp [content], rfl,
    Date.day_form_written _ dated.1.1 dated.1.2, ⟨by decide, by decide⟩, rfl, bound_written period dated⟩

theorem bound_marks (bound : PeriodEnd) : (PeriodEnd.write bound).all isClauseMark = true := by
  cases bound with
  | on day =>
      rw [PeriodEnd.write, List.all_cons, figures_marks _ (Date.write_figures day)]
      decide
  | withYear year =>
      rw [PeriodEnd.write, List.all_cons, figures_marks _ (Date.write_year_figures year)]
      decide
  | ongoing => decide

theorem write_marks (period : Period) : (write period).all isClauseMark = true := by
  simp only [write_content, content, List.all_cons, List.all_append, bound_marks,
    figures_marks _ (Date.write_figures _)]
  decide

theorem content_open (period : Period) : ')' ∉ content period := by
  have apart : ∀ text : Text, text.all isFigure = true → ')' ∉ text := by
    intro text figures
    exact not_mem_of_all isFigure text ')' figures rfl
  have ending : ')' ∉ PeriodEnd.write period.bound := by
    cases period.bound with
    | on day => simpa [PeriodEnd.write] using apart _ (Date.write_figures day)
    | withYear year => simpa [PeriodEnd.write] using apart _ (Date.write_year_figures year)
    | ongoing => decide
  simp only [content, List.mem_append, not_or]
  exact ⟨⟨apart _ (Date.write_figures _), by decide⟩, ending⟩

end Period

namespace Term

theorem ages_marks (listed : List Nat) : (write (ages listed)).all isAgeMark = true := by
  have digits : ∀ n, (Decimal.write n).all isAgeMark = true := by
    intro n
    rw [List.all_eq_true]
    intro c member
    rw [isAgeMark, List.all_eq_true.mp (Decimal.write_digits n) c member]
    rfl
  have inside : (['/'].intercalate (listed.map Decimal.write)).all isAgeMark = true := by
    refine joined_all _ _ _ (by decide) fun item written => ?_
    obtain ⟨n, -, rfl⟩ := List.mem_map.mp written
    exact digits n
  rw [write, List.all_append, List.all_append, inside]
  decide

theorem groups_written (listed : List Period) :
    Groups (listed.map Period.content) (listed.flatMap fun period => ", ".toList ++ period.write) := by
  induction listed with
  | nil => exact .nil
  | cons period listed ih =>
      have next := Groups.cons [] [','] [' '] period.content _ _ rfl (.inr rfl) (by decide)
        period.content_open ih
      simpa [Period.write_content] using next

theorem contents_written (listed : List Period) (dated : ∀ period ∈ listed, period.InFourDigits) :
    (listed.map Period.content).filterMap Period.ofContent? = listed := by
  rw [List.filterMap_map]
  have read : ∀ period ∈ listed, (Period.ofContent? ∘ Period.content) period = some period := by
    intro period member
    exact (Period.of_content_some_iff _ _).mpr (period.content_written (dated period member))
  rw [List.filterMap_congr read, List.filterMap_some]

def furtherGroups (others : List Period) (rest : Text) : Text :=
  (others.flatMap fun period => ", ".toList ++ period.write) ++ ')' :: rest

theorem all_groups_further (others : List Period) (rest : Text) :
    allGroups (furtherGroups others rest) = (others.map Period.content, ')' :: rest) := by
  have unread : nextGroup (')' :: rest) = none := by
    simp [nextGroup, Text.skipBlanks, Text.optionalSymbol, Text.symbol, Text.group, isBlank]
  rw [furtherGroups, all_groups_append _ _ (')' :: rest) (groups_written others), all_groups_none _ unread,
    List.append_nil]

theorem periods_marks (listed : List Period) :
    ∃ tail, write (periods listed) = "TIME".toList ++ '(' :: tail ∧ tail.all isClauseMark = true := by
  refine ⟨", ".toList.intercalate (listed.map Period.write) ++ [')'], rfl, ?_⟩
  have inside : (", ".toList.intercalate (listed.map Period.write)).all isClauseMark = true := by
    refine joined_all _ _ _ (by decide) fun item written => ?_
    obtain ⟨period, -, rfl⟩ := List.mem_map.mp written
    exact period.write_marks
  rw [List.all_append, inside]
  decide

theorem read_periods_written (listed : List Period) (rest : Text) (nonempty : listed ≠ [])
    (dated : ∀ period ∈ listed, period.InFourDigits) :
    read (write (periods listed) ++ rest) = some (periods listed, rest) := by
  obtain ⟨first, others, rfl⟩ := List.exists_cons_of_ne_nil nonempty
  have contents := contents_written (first :: others) dated
  have closed : closeClause (')' :: rest) = rest := by
    rw [closeClause, Text.skip_blanks_fixed _ rfl, Text.optional_symbol_present]
  refine (read_some_iff _ _).mpr (.inr (.inl ((read_periods_some_iff _ _ _).mpr
    ⟨"TIME".toList, [], [], first.content, furtherGroups others rest, ?_, rfl, rfl, rfl, first.content_open,
      ?_, ?_⟩)))
  · rw [write, List.map_cons, Text.intercalate_flat_map, List.flatMap_map, Period.write_content]
    simp [furtherGroups]
  · rw [all_groups_further, closed]
  · rw [all_groups_further, ← List.map_cons, contents]

end Term
end Horoscope
