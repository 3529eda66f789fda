import Horoscope.Proofs.Bank.Rows
import Horoscope.Proofs.Text.Paragraphs
import Horoscope.Proofs.Wording.Ink

set_option autoImplicit false

namespace Horoscope

namespace Rule

variable (today : Date) (rule : Rule)

def conditionLine : Text := "Condition: ".toList ++ wording today rule.condition

def resultLine : Text := "Result: ".toList ++ rule.result

def block : Text := rule.conditionLine today ++ '\n' :: rule.resultLine

def Flat : Prop := '\n' ∉ rule.condition ∧ '\n' ∉ rule.result

instance : Decidable rule.Flat := inferInstanceAs (Decidable (_ ∧ _))

theorem text_lines :
    rule.text today = "Condition: ".toList ++ wording today rule.condition ++
      '\n' :: ("Result: ".toList ++ rule.result ++ ['\n']) := by
  have heading : "\nResult: ".toList = '\n' :: "Result: ".toList := by decide
  unfold text
  rw [heading]
  simp only [List.append_assoc, List.cons_append]

theorem text_block : rule.text today = rule.block today ++ ['\n'] := by
  unfold block conditionLine resultLine
  rw [text_lines]
  simp only [List.append_assoc, List.cons_append]

theorem result_line_written : Text.allBlank rule.resultLine = false := by
  have heading : Text.allBlank "Result: ".toList = false := by decide
  unfold resultLine
  rw [Text.all_blank_append, heading, Bool.false_and]

theorem text_written (rest : Text) : Text.allBlank (rule.text today ++ rest) = false := by
  have cut : rule.text today ++ rest =
      rule.conditionLine today ++ '\n' :: [] ++ (rule.resultLine ++ '\n' :: rest) := by
    rw [text_block, block]
    simp only [List.append_assoc, List.cons_append, List.nil_append]
  rw [cut, Text.all_blank_append _ (rule.resultLine ++ _), Text.all_blank_append rule.resultLine,
    result_line_written, Bool.false_and, Bool.and_false]

theorem trim_block :
    Text.trimEnd (rule.block today) = rule.conditionLine today ++ '\n' :: Text.trimEnd rule.resultLine := by
  rw [block, List.append_cons, Text.trim_end_behind _ _ rule.result_line_written, ← List.append_cons]

theorem condition_line_plain (flat : rule.Flat) : '\n' ∉ rule.conditionLine today := by
  unfold conditionLine
  rw [List.mem_append, not_or]
  exact ⟨by decide, wording_one_line today rule.condition flat.1⟩

theorem result_line_plain (flat : rule.Flat) : '\n' ∉ rule.resultLine := by
  unfold resultLine
  rw [List.mem_append, not_or]
  exact ⟨by decide, flat.2⟩

theorem result_end_plain (flat : rule.Flat) : '\n' ∉ Text.trimEnd rule.resultLine := by
  obtain ⟨blanks, -, cut⟩ := Text.trim_end_cut rule.resultLine
  intro broken
  apply rule.result_line_plain flat
  rw [cut]
  exact List.mem_append_left blanks broken

theorem result_end_nonempty : Text.trimEnd rule.resultLine ≠ [] := by
  intro empty
  have blank := (Text.trim_end_nil_iff _).mp empty
  rw [result_line_written] at blank
  cases blank

theorem result_line_nonempty : rule.resultLine ≠ [] := by
  intro empty
  apply rule.result_end_nonempty
  rw [empty]
  rfl

theorem block_unbroken (flat : rule.Flat) : Text.Unbroken (rule.block today) :=
  Text.unbroken_two_lines _ _ rule.result_line_nonempty (rule.condition_line_plain today flat)
    (rule.result_line_plain flat)

theorem block_end_unbroken (flat : rule.Flat) : Text.Unbroken (Text.trimEnd (rule.block today)) := by
  rw [trim_block]
  exact Text.unbroken_two_lines _ _ rule.result_end_nonempty (rule.condition_line_plain today flat)
    (rule.result_end_plain flat)

end Rule

namespace Bank

def rowsText (today : Date) (rows : List Row) : Text :=
  Text.trimEnd (['\n'].intercalate (rows.map fun row => row.rule.text today))

theorem joined_rows_written (today : Date) (row : Row) (rows : List Row) :
    Text.allBlank (['\n'].intercalate ((row :: rows).map fun row => row.rule.text today)) = false := by
  rw [List.map_cons, Text.intercalate_flat_map, row.rule.text_written]

theorem rows_text_last (today : Date) (row : Row) : rowsText today [row] = Text.trimEnd (row.rule.block today) := by
  rw [rowsText, List.map_singleton, List.intercalate_singleton, Rule.text_block]
  exact Text.trim_end_append _ _ rfl

theorem rows_text_cons (today : Date) (row next : Row) (rows : List Row) :
    rowsText today (row :: next :: rows) = row.rule.block today ++ '\n' :: '\n' :: rowsText today (next :: rows) := by
  have written := joined_rows_written today next rows
  rw [List.map_cons] at written
  rw [rowsText, List.map_cons, List.map_cons, List.intercalate_cons_cons, Text.trim_end_behind _ _ written,
    Rule.text_block]
  simp only [rowsText, List.map_cons, List.append_assoc, List.cons_append, List.nil_append]

theorem rows_text_nil_iff (today : Date) (rows : List Row) : rowsText today rows = [] ↔ rows = [] := by
  cases rows with
  | nil => exact iff_of_true rfl rfl
  | cons row rows =>
      refine iff_of_false (fun empty => ?_) (List.cons_ne_nil _ _)
      have blank := (Text.trim_end_nil_iff _).mp empty
      rw [joined_rows_written] at blank
      cases blank

theorem rows_text_paragraphs (today : Date) (earlier : List Row) (last : Row)
    (flat : ∀ row ∈ earlier ++ [last], row.rule.Flat) :
    Text.paragraphs (rowsText today (earlier ++ [last])) =
      earlier.map (fun row => row.rule.block today) ++ [Text.trimEnd (last.rule.block today)] := by
  induction earlier with
  | nil =>
      have lastFlat := flat last List.mem_cons_self
      rw [List.nil_append, rows_text_last, Text.paragraphs_last _ (last.rule.block_end_unbroken today lastFlat)]
      rfl
  | cons row earlier ih =>
      have rowFlat := flat row List.mem_cons_self
      have later := ih fun other listed => flat other (List.mem_cons_of_mem _ listed)
      obtain ⟨next, rows, behind⟩ := List.exists_cons_of_ne_nil (List.append_ne_nil_of_right_ne_nil earlier
        (List.cons_ne_nil last []))
      rw [List.cons_append, behind, rows_text_cons, ← behind,
        Text.paragraphs_first _ _ (row.rule.block_unbroken today rowFlat), later]
      rfl

theorem rows_of_ids (bank : Bank) (ids : List Nat) :
    ids.filterMap bank.row? = (ids.filter bank.hasRow).filterMap bank.row? := by
  rw [List.filterMap_filter]
  refine List.filterMap_congr fun id _ => ?_
  by_cases present : bank.hasRow id = true
  · rw [if_pos present]
  · rw [if_neg present]
    cases found : bank.row? id with
    | none => rfl
    | some row => exact absurd ((bank.has_row_iff id).mpr ⟨row, found⟩) present

theorem rule_text_splits (bank : Bank) (ids : List Nat) (today : Date)
    (flat : ∀ id ∈ ids, ∀ row, bank.row? id = some row → row.rule.Flat) :
    (bank.ruleText ids today = [] ↔ ∀ id ∈ ids, bank.row? id = none) ∧
    bank.ruleText ids today = bank.ruleText (ids.filter bank.hasRow) today ∧
    (ids.filterMap bank.row?).map Row.id = ids.filter bank.hasRow ∧
    ∀ earlier last, ids.filterMap bank.row? = earlier ++ [last] →
      Text.paragraphs (bank.ruleText ids today) =
        earlier.map (fun row => row.rule.block today) ++ [Text.trimEnd (last.rule.block today)] ∧
      (∀ row ∈ earlier, (row.rule.block today).splitOn '\n' =
        [row.rule.conditionLine today, row.rule.resultLine]) ∧
      (Text.trimEnd (last.rule.block today)).splitOn '\n' =
        [last.rule.conditionLine today, Text.trimEnd last.rule.resultLine] := by
  have whole : bank.ruleText ids today = rowsText today (ids.filterMap bank.row?) := rfl
  have present : bank.Addresses (ids.filter bank.hasRow) :=
    (bank.addresses_iff _).mpr fun id kept => (List.mem_filter.mp kept).2
  refine ⟨?_, ?_, ?_, fun earlier last rows => ?_⟩
  · rw [whole, rows_text_nil_iff, List.filterMap_eq_nil_iff]
  · rw [ruleText, rows_of_ids, ruleText]
  · rw [rows_of_ids, bank.addressed_rows _ present]
  · have rowsFlat : ∀ row ∈ earlier ++ [last], row.rule.Flat := by
      intro row listed
      rw [← rows] at listed
      obtain ⟨id, asked, found⟩ := List.mem_filterMap.mp listed
      exact flat id asked row found
    have lastFlat := rowsFlat last (List.mem_append_right _ List.mem_cons_self)
    refine ⟨?_, fun row listed => ?_, ?_⟩
    · rw [whole, rows, rows_text_paragraphs today earlier last rowsFlat]
    · have rowFlat := rowsFlat row (List.mem_append_left _ listed)
      exact Text.two_lines _ _ (row.rule.condition_line_plain today rowFlat) (row.rule.result_line_plain rowFlat)
    · rw [Rule.trim_block]
      exact Text.two_lines _ _ (last.rule.condition_line_plain today lastFlat) (last.rule.result_end_plain lastFlat)

def spokenAndBlank : Bank :=
  ⟨[⟨"mer in 1 and Natal(jup conj sat) ".toList, "Wealth. ".toList⟩, ⟨[], " \t".toList⟩]⟩

theorem blank_rule_splits :
    (∀ id ∈ [3, 0, 2, 9, 3], ∀ row, spokenAndBlank.row? id = some row → row.rule.Flat) ∧
      Text.paragraphs (spokenAndBlank.ruleText [3, 0, 2, 9, 3] ⟨2024, 6, 15, by decide⟩) =
        ["Condition: \nResult:  \t".toList,
          "Condition: Mercury in 1 AND Jupiter conj Saturn\nResult: Wealth. ".toList,
          "Condition: \nResult:".toList] := by
  have all : ∀ row ∈ spokenAndBlank.rows, row.rule.Flat := by decide
  have flat : ∀ id ∈ [3, 0, 2, 9, 3], ∀ row, spokenAndBlank.row? id = some row → row.rule.Flat :=
    fun id _ row found => all row ((spokenAndBlank.row_some_iff id row).mp found).1
  obtain ⟨-, -, -, split⟩ := rule_text_splits spokenAndBlank [3, 0, 2, 9, 3] ⟨2024, 6, 15, by decide⟩ flat
  obtain ⟨cut, -, -⟩ := split
    [⟨3, [], " \t".toList⟩, ⟨2, "mer in 1 and Natal(jup conj sat) ".toList, "Wealth. ".toList⟩]
    ⟨3, [], " \t".toList⟩ (by decide)
  refine ⟨flat, cut.trans ?_⟩
  decide +kernel

end Bank
end Horoscope
