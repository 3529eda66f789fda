import Horoscope.Table.Load
import Horoscope.Proofs.Results
import Mathlib.Data.List.Sort

set_option autoImplicit false

namespace Horoscope

section Ranks

variable {α : Type} (key : α → Int)

theorem none_below_first (first : α) (rest : List α) (least : ∀ other ∈ rest, key first < key other) :
    (first :: rest).countP (fun other => key other < key first) = 0 := by
  simp only [List.countP_eq_zero, List.mem_cons, decide_eq_true_eq, not_lt]
  rintro other (rfl | later)
  · exact Int.le_refl _
  · exact Int.le_of_lt (least other later)

theorem first_below_later (first item : α) (rest : List α) (least : ∀ other ∈ rest, key first < key other)
    (later : item ∈ rest) : (first :: rest).countP (fun other => key other < key item) =
      rest.countP (fun other => key other < key item) + 1 :=
  List.countP_cons_of_pos (decide_eq_true (least item later))

theorem at_rank_iff (items : List α) (ascending : items.Pairwise fun a b => key a < key b) (k : Nat) (item : α) :
    items[k]? = some item ↔ item ∈ items ∧ k = items.countP fun other => key other < key item := by
  induction items generalizing k with
  | nil => simp
  | cons first rest ih =>
      obtain ⟨least, restAscending⟩ := List.pairwise_cons.mp ascending
      have unpreceded := none_below_first key first rest least
      have preceded := first_below_later key first item rest least
      cases k with
      | zero =>
          rw [List.getElem?_cons_zero, Option.some.injEq]
          apply Iff.intro
          · rintro rfl
            exact ⟨List.mem_cons_self, unpreceded.symm⟩
          · rintro ⟨member, count⟩
            rcases List.mem_cons.mp member with rfl | later
            · rfl
            · rw [preceded later] at count
              omega
      | succ k =>
          rw [List.getElem?_cons_succ, ih restAscending]
          apply Iff.intro
          · rintro ⟨later, rfl⟩
            exact ⟨List.mem_cons_of_mem _ later, (preceded later).symm⟩
          · rintro ⟨member, count⟩
            rcases List.mem_cons.mp member with rfl | later
            · rw [unpreceded] at count
              omega
            · rw [preceded later] at count
              exact ⟨later, by omega⟩

end Ranks

namespace Cell

inductive Reads : Cell → Text → Prop
  | null : Reads null []
  | text (value : Text) : Reads (text value) value

theorem encoded_reads_iff (bytes : Bytes) (value : Text) : (encoded bytes).Reads value ↔ bytes = value.bytes := by
  apply Iff.intro
  · intro reads
    cases reads
    rfl
  · rintro rfl
    exact .text value

theorem as_text_iff (cell : Cell) (value : Text) : cell.asText? = some value ↔ cell.Reads value := by
  cases cell with
  | null =>
      apply Iff.intro
      · intro read
        cases read
        exact .null
      · intro reads
        cases reads
        rfl
  | encoded bytes => exact (Text.of_bytes_some_iff bytes value).trans (encoded_reads_iff bytes value).symm
  | integer _ => exact iff_of_false nofun nofun
  | real _ => exact iff_of_false nofun nofun
  | blob _ => exact iff_of_false nofun nofun

-- What the database calls the cell, whether or not its bytes are characters.
def TextOrNull : Cell → Prop
  | null | encoded _ => True
  | integer _ | real _ | blob _ => False

end Cell

namespace Table

def NameChar (c : Char) : Prop :=
  ('a' ≤ c ∧ c ≤ 'z') ∨ ('A' ≤ c ∧ c ≤ 'Z') ∨ ('0' ≤ c ∧ c ≤ '9') ∨ c = '_'

instance (c : Char) : Decidable (NameChar c) := inferInstanceAs (Decidable (_ ∨ _))

theorem name_char_iff (c : Char) : (c.isAlphanum || c == '_') = true ↔ NameChar c := by
  have between (least greatest : Char) :
      (decide (least.val ≤ c.val) && decide (c.val ≤ greatest.val)) = true ↔ least ≤ c ∧ c ≤ greatest := by
    rw [Bool.and_eq_true, decide_eq_true_iff, decide_eq_true_iff]
    exact Iff.rfl
  have upper : c.isUpper = true ↔ 'A' ≤ c ∧ c ≤ 'Z' := decide_eq_true_iff
  have lower : c.isLower = true ↔ 'a' ≤ c ∧ c ≤ 'z' := between 'a' 'z'
  have digit : c.isDigit = true ↔ '0' ≤ c ∧ c ≤ '9' := between '0' '9'
  change (((c.isUpper || c.isLower) || c.isDigit) || c == '_') = true ↔ _
  rw [Bool.or_eq_true, Bool.or_eq_true, Bool.or_eq_true, upper, lower, digit, beq_iff_eq, NameChar, or_assoc,
    or_assoc]
  exact or_left_comm

theorem is_plain_name_iff (name : Text) : isPlainName name = true ↔ name ≠ [] ∧ ∀ c ∈ name, NameChar c := by
  simp only [isPlainName, Bool.and_eq_true, Bool.not_eq_true', List.isEmpty_eq_false_iff, ne_eq,
    List.all_eq_true, name_char_iff]

def under (table : Table) (column : String) (cells : List Cell) : Cell :=
  ((table.column? column.toList).bind (cells[·]?)).getD .null

def Holds (table : Table) (number : Int) (condition result : Cell) : Prop :=
  ∃ cells, (number, cells) ∈ table.rows ∧
    table.under "Condition" cells = condition ∧ table.under "Result" cells = result

def Textual (table : Table) : Prop :=
  ∀ number condition result, table.Holds number condition result → condition.TextOrNull ∧ result.TextOrNull

-- Each of the cells is null, or a text in UTF-8.
def Readable (table : Table) : Prop :=
  ∀ number condition result, table.Holds number condition result →
    (∃ value, condition.Reads value) ∧ ∃ value, result.Reads value

def SameCells (table other : Table) : Prop :=
  ∀ number condition result, table.Holds number condition result ↔ other.Holds number condition result

def below (table : Table) (number : Int) : Nat := table.rows.countP fun row => row.1 < number

end Table

-- The query for the rules of this table is one that the database takes.
structure Selectable (db : Database) (name : Text) (table : Table) : Prop where
  plain : name ≠ [] ∧ ∀ c ∈ name, Table.NameChar c
  identifier : Table.isIdentifier name = true
  found : db.table? name = some table
  condition : (table.column? "Condition".toList).isSome
  result : (table.column? "Result".toList).isSome
  numbered : table.column? "rowid".toList = none
  distinct : (table.rows.map Prod.fst).Nodup

structure Loaded (table : Table) (bank : Bank) : Prop where
  size : bank.size = table.rows.length
  row_iff : ∀ id row, bank.row? id = some row ↔ row.id = id ∧ ∃ number condition result,
    table.Holds number condition result ∧ id = Bank.firstId + table.below number ∧
      condition.Reads row.rule.condition ∧ result.Reads row.rule.result

namespace Table

abbrev Entry := Int × Cell × Cell

def Entry.rule? (entry : Entry) : Option Rule := do
  return ⟨← entry.2.1.asText?, ← entry.2.2.asText?⟩

def entryOf (table : Table) (row : Int × List Cell) : Entry :=
  (row.1, table.under "Condition" row.2, table.under "Result" row.2)

def listing (table : Table) : List Entry := table.sortedRows.map table.entryOf

theorem entry_rule_iff (entry : Entry) (rule : Rule) :
    entry.rule? = some rule ↔ entry.2.1.Reads rule.condition ∧ entry.2.2.Reads rule.result := by
  obtain ⟨condition, result⟩ := rule
  simp only [Entry.rule?, ← Cell.as_text_iff, bind, Option.bind_eq_some_iff, pure, Option.some.injEq,
    Rule.mk.injEq]
  apply Iff.intro
  · rintro ⟨_, readCondition, _, readResult, rfl, rfl⟩
    exact ⟨readCondition, readResult⟩
  · rintro ⟨readCondition, readResult⟩
    exact ⟨condition, readCondition, result, readResult, rfl, rfl⟩

theorem entry_rule_none_iff (entry : Entry) :
    entry.rule? = none ↔ ¬ ((∃ value, entry.2.1.Reads value) ∧ ∃ value, entry.2.2.Reads value) := by
  simp only [Option.eq_none_iff_forall_ne_some, ne_eq, entry_rule_iff]
  apply Iff.intro
  · rintro unread ⟨⟨condition, readCondition⟩, result, readResult⟩
    exact unread ⟨condition, result⟩ ⟨readCondition, readResult⟩
  · rintro unread rule ⟨readCondition, readResult⟩
    exact unread ⟨⟨_, readCondition⟩, _, readResult⟩

theorem sorted_rows_perm (table : Table) : table.sortedRows.Perm table.rows := List.mergeSort_perm _ _

theorem holds_iff (table : Table) (entry : Entry) :
    table.Holds entry.1 entry.2.1 entry.2.2 ↔ entry ∈ table.rows.map table.entryOf := by
  obtain ⟨number, condition, result⟩ := entry
  simp only [Holds, List.mem_map, entryOf, Prod.mk.injEq]
  apply Iff.intro
  · rintro ⟨cells, member, underCondition, underResult⟩
    exact ⟨(number, cells), member, rfl, underCondition, underResult⟩
  · rintro ⟨⟨_, cells⟩, member, rfl, underCondition, underResult⟩
    exact ⟨cells, member, underCondition, underResult⟩

theorem mem_listing_iff (table : Table) (entry : Entry) :
    entry ∈ table.listing ↔ table.Holds entry.1 entry.2.1 entry.2.2 := by
  rw [holds_iff, listing, ((sorted_rows_perm table).map table.entryOf).mem_iff]

theorem listing_length (table : Table) : table.listing.length = table.rows.length := by
  rw [listing, List.length_map, (sorted_rows_perm table).length_eq]

theorem listing_below (table : Table) (number : Int) :
    table.listing.countP (fun entry => entry.1 < number) = table.below number := by
  rw [listing, List.countP_map, below, ← (sorted_rows_perm table).countP_eq]
  rfl

theorem listing_ascending (table : Table) (numbered : table.column? "rowid".toList = none)
    (distinct : (table.rows.map Prod.fst).Nodup) : table.listing.Pairwise fun a b => a.1 < b.1 := by
  have sorted : table.sortedRows.Pairwise fun a b => a.1 ≤ b.1 := by
    simp only [sortedRows, numbered]
    apply (List.pairwise_mergeSort _ _ table.rows).imp
    · intro a b le
      exact of_decide_eq_true le
    · intro a b c first second
      exact decide_eq_true (Int.le_trans (of_decide_eq_true first) (of_decide_eq_true second))
    · intro a b
      simp only [Cell.le, Bool.or_eq_true, decide_eq_true_eq]
      exact Int.le_total a.1 b.1
  have apart : table.sortedRows.Pairwise fun a b => a.1 ≠ b.1 :=
    List.pairwise_map.mp (((sorted_rows_perm table).map Prod.fst).nodup_iff.mpr distinct)
  rw [listing, List.pairwise_map]
  exact (sorted.and apart).imp fun both => lt_of_le_of_ne both.1 both.2

theorem listing_eq_of_same (table other : Table) (ascending : table.listing.Pairwise fun a b => a.1 < b.1)
    (otherAscending : other.listing.Pairwise fun a b => a.1 < b.1) (same : SameCells table other) :
    table.listing = other.listing := by
  have asymm : Std.Antisymm fun a b : Entry => a.1 < b.1 := ⟨fun a b ab ba => absurd ab (Int.lt_asymm ba)⟩
  have irrefl : Std.Irrefl fun a b : Entry => a.1 < b.1 := ⟨fun a => Int.lt_irrefl a.1⟩
  apply List.Pairwise.eq_of_mem_iff ascending otherAscending
  intro entry
  rw [mem_listing_iff, mem_listing_iff]
  exact same _ _ _

theorem readable_iff (table : Table) : table.Readable ↔ ∀ entry ∈ table.listing, entry.rule? ≠ none := by
  simp only [ne_eq, entry_rule_none_iff, not_not, mem_listing_iff]
  apply Iff.intro
  · intro readable entry holds
    exact readable _ _ _ holds
  · intro all number condition result holds
    exact all (number, condition, result) holds

end Table

namespace Selectable

variable {db : Database} {name : Text} {table : Table}

theorem ascending (taken : Selectable db name table) : table.listing.Pairwise fun a b => a.1 < b.1 :=
  table.listing_ascending taken.numbered taken.distinct

theorem load_eq (taken : Selectable db name table) :
    Bank.load db name = match table.listing.mapM Table.Entry.rule? with
      | some rules => .ok ⟨rules⟩
      | none => .error .unreadableRows := by
  obtain ⟨condition, atCondition⟩ := Option.isSome_iff_exists.mp taken.condition
  obtain ⟨result, atResult⟩ := Option.isSome_iff_exists.mp taken.result
  have perRow : (fun row : Int × List Cell => Table.ruleOf? condition result row.2) =
      Table.Entry.rule? ∘ table.entryOf := by
    funext row
    simp only [Table.ruleOf?, Table.textAt?, Table.Entry.rule?, Function.comp_apply, Table.entryOf, Table.under,
      atCondition, atResult, Option.bind_some]
  have renamed (column : Text) : ({ table with name := name } : Table).column? column = table.column? column := rfl
  have rows : ({ table with name := name } : Table).sortedRows = table.sortedRows := rfl
  rw [Bank.load, (Table.is_plain_name_iff name).mpr taken.plain, taken.identifier, taken.found]
  simp only [Bool.not_true, Bool.false_eq_true, if_false, Table.rules, renamed, rows, atCondition, atResult,
    perRow, ← List.mapM_map]
  change (match table.listing.mapM Table.Entry.rule? with
    | some rules => Except.ok rules
    | none => .error LoadError.unreadableRows).map Bank.mk = _
  cases table.listing.mapM Table.Entry.rule? <;> rfl

theorem load_readable (taken : Selectable db name table) (readable : table.Readable) :
    ∃ rules, table.listing.mapM Table.Entry.rule? = some rules ∧ Bank.load db name = .ok ⟨rules⟩ := by
  cases read : table.listing.mapM Table.Entry.rule? with
  | none =>
      obtain ⟨entry, member, unread⟩ := (results_none_iff _ _).mp read
      exact absurd unread (table.readable_iff.mp readable entry member)
  | some rules => exact ⟨rules, rfl, by rw [taken.load_eq, read]⟩

theorem load_not_readable (taken : Selectable db name table) (spoiled : ¬ table.Readable) :
    Bank.load db name = .error .unreadableRows := by
  rw [table.readable_iff] at spoiled
  push Not at spoiled
  rw [taken.load_eq, (results_none_iff _ _).mpr spoiled]

end Selectable

theorem Bank.row_at_iff (bank : Bank) (id : Nat) (row : Row) :
    bank.row? id = some row ↔ row.id = id ∧ ∃ k, id = firstId + k ∧ bank.rules[k]? = some row.rule := by
  obtain ⟨number, rule⟩ := row
  rw [Bank.row?]
  apply Iff.intro
  · intro found
    split at found
    · cases found
    · rename_i reached
      obtain ⟨held, atPlace, same⟩ := Option.map_eq_some_iff.mp found
      cases same
      exact ⟨rfl, id - firstId, by omega, atPlace⟩
  · rintro ⟨rfl, k, rfl, atPlace⟩
    have reached : ¬ firstId + k < firstId := by omega
    simp only [if_neg reached, Nat.add_sub_cancel_left, atPlace, Option.map_some]

theorem loaded_of_listing (table : Table) (ascending : table.listing.Pairwise fun a b => a.1 < b.1)
    (rules : List Rule) (read : table.listing.mapM Table.Entry.rule? = some rules) : Loaded table ⟨rules⟩ := by
  constructor
  · rw [← table.listing_length]
    exact ((results_some_iff _ _ _).mp read).length_eq.symm
  · intro id row
    rw [Bank.row_at_iff]
    apply and_congr_right
    rintro rfl
    simp only [results_at_iff _ _ _ read, at_rank_iff Prod.fst _ ascending, Table.mem_listing_iff, Table.listing_below,
      Table.entry_rule_iff]
    apply Iff.intro
    · rintro ⟨k, place, ⟨number, condition, result⟩, ⟨holds, rfl⟩, readCondition, readResult⟩
      exact ⟨number, condition, result, holds, place, readCondition, readResult⟩
    · rintro ⟨number, condition, result, holds, place, readCondition, readResult⟩
      exact ⟨_, place, (number, condition, result), ⟨holds, rfl⟩, readCondition, readResult⟩

theorem Table.rules_error (table : Table) (error : LoadError) (failed : table.rules = .error error) :
    error = .unreadableTable table.name ∨ error = .unreadableRows := by
  rw [Table.rules] at failed
  split at failed
  · split at failed <;> cases failed
    exact .inr rfl
  · cases failed
    exact .inl rfl

namespace Bank

theorem load_plain_error (db : Database) (name : Text) (error : LoadError)
    (plain : Table.isPlainName name = true) (failed : load db name = .error error) :
    error = .unreadableTable name ∨ error = .unreadableRows := by
  rw [load, plain, Bool.not_true, if_neg Bool.false_ne_true] at failed
  split at failed
  · cases failed
    exact .inl rfl
  · split at failed
    · cases failed
      exact .inl rfl
    · rename_i table found
      cases read : ({ table with name := name } : Table).rules with
      | ok rules =>
          rw [read] at failed
          cases failed
      | error cause =>
          rw [read] at failed
          cases failed
          exact Table.rules_error _ _ read

theorem load_invalid_name_iff (db : Database) (name : Text) :
    load db name = .error (.invalidName name) ↔ name = [] ∨ ∃ c ∈ name, ¬ Table.NameChar c := by
  have unfit : (name = [] ∨ ∃ c ∈ name, ¬ Table.NameChar c) ↔ ¬ Table.isPlainName name = true := by
    rw [Table.is_plain_name_iff]
    simp only [ne_eq, not_and_or, not_not, not_forall, exists_prop]
  rw [unfit]
  apply Iff.intro
  · intro rejected plain
    rcases load_plain_error db name _ plain rejected with same | same <;> cases same
  · intro unplain
    rw [load, Bool.eq_false_iff.mpr unplain]
    rfl

def shuffled : Table where
  name := "Rules".toList
  columns := ["note".toList, "RESULT".toList, "condition".toList]
  rows := [(7, [.integer 1, .null, .text "sun in 1".toList]), (-3, [.null, .text "first".toList]),
    (0, [.blob [], .text "second".toList, .text [] ])]

def ordered : Table where
  name := "rules_2".toList
  columns := ["Condition".toList, "Result".toList]
  rows := [(-3, [.null, .text "first".toList]), (0, [.text [], .text "second".toList]),
    (7, [.text "sun in 1".toList, .null])]

def spoiled : Table := { ordered with rows := ordered.rows ++ [(9, [.text "moon in 1".toList, .integer 5])] }

def strayByte : Table where
  name := "rules".toList
  columns := ["Condition".toList, "Result".toList]
  rows := [(1, [.encoded [0xFF], .text "lost".toList])]

end Bank
end Horoscope
