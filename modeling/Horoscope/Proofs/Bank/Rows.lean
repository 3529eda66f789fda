import Horoscope.Bank.Catalogue
import Horoscope.Bank.Matching
import Mathlib.Data.List.Nodup

set_option autoImplicit false

namespace Horoscope.Bank

theorem row_some_iff (bank : Bank) (id : Nat) (row : Row) :
    bank.row? id = some row ↔ row ∈ bank.rows ∧ row.id = id := by
  simp only [rows, List.mem_map, Prod.exists]
  apply Iff.intro
  · intro found
    by_cases below : id < firstId
    · rw [row?, if_pos below] at found
      cases found
    · rw [row?, if_neg below] at found
      obtain ⟨rule, here, rfl⟩ := Option.map_eq_some_iff.mp found
      exact ⟨⟨rule, id, List.mk_mem_zipIdx_iff_le_and_getElem?_sub.mpr ⟨by omega, here⟩, rfl⟩, rfl⟩
  · intro form
    obtain ⟨⟨rule, number, listed, rfl⟩, rfl⟩ := form
    obtain ⟨least, here⟩ := List.mk_mem_zipIdx_iff_le_and_getElem?_sub.mp listed
    rw [row?, if_neg (Nat.not_lt_of_le least), here]
    rfl

theorem has_row_iff (bank : Bank) (id : Nat) :
    bank.hasRow id = true ↔ ∃ row, bank.row? id = some row := by
  rw [← Option.isSome_iff_exists, row_is_some_iff]
  simp [hasRow]

theorem listed_row (bank : Bank) (row : Row) (listed : row ∈ bank.rows) : bank.hasRow row.id = true :=
  (bank.has_row_iff row.id).mpr ⟨row, (bank.row_some_iff row.id row).mpr ⟨listed, rfl⟩⟩

theorem rule_listed (bank : Bank) (row : Row) (listed : row ∈ bank.rows) : row.rule ∈ bank.rules := by
  obtain ⟨⟨rule, id⟩, numbered, rfl⟩ := List.mem_map.mp listed
  exact List.fst_mem_of_mem_zipIdx numbered

theorem rows_ascending (bank : Bank) : (bank.rows.map Row.id).Pairwise (· < ·) := by
  have numbers : bank.rows.map Row.id = (bank.rules.zipIdx firstId).map Prod.snd := by
    rw [rows, List.map_map]
    rfl
  rw [numbers, List.zipIdx_map_snd]
  exact List.pairwise_lt_range' 1

def Addresses (bank : Bank) (ids : List Nat) : Prop :=
  ∀ id ∈ ids, ∃ row, bank.row? id = some row ∧ row.id = id

theorem addresses_iff (bank : Bank) (ids : List Nat) :
    bank.Addresses ids ↔ ∀ id ∈ ids, bank.hasRow id = true := by
  apply forall₂_congr
  intro id listed
  rw [has_row_iff]
  apply exists_congr
  intro row
  exact and_iff_left_of_imp fun found => ((bank.row_some_iff id row).mp found).2

theorem addressed_rows (bank : Bank) (ids : List Nat) (addressed : bank.Addresses ids) :
    (ids.filterMap bank.row?).map Row.id = ids := by
  induction ids with
  | nil => rfl
  | cons id ids ih =>
      obtain ⟨row, found, same⟩ := addressed id List.mem_cons_self
      rw [List.filterMap_cons_some found, List.map_cons, same,
        ih fun other listed => addressed other (List.mem_cons_of_mem _ listed)]

theorem matching_addressed (bank : Bank) (chart : Chart) (moment : Moment) (planet : Planet) :
    bank.Addresses (bank.matching chart moment planet) := by
  rw [addresses_iff]
  intro id matched
  obtain ⟨row, kept, rfl⟩ := List.mem_map.mp matched
  exact bank.listed_row row (List.mem_filter.mp kept).1

theorem placement_addressed (bank : Bank) (chart : Chart) (moment : Moment)
    (chosen : Option (Planet × House)) : bank.Addresses (bank.matchingPlacement chart moment chosen) := by
  cases chosen with
  | none =>
      intro id listed
      cases listed
  | some placement => exact bank.matching_addressed chart moment placement.1

theorem ranked_addressed (bank : Bank) (answer : Text) : bank.Addresses (bank.rankedIds answer) := by
  rw [addresses_iff]
  intro id ranked
  exact (List.mem_filter.mp ranked).2

theorem mem_insert_id_iff (id other : Nat) (ids : List Nat) :
    other ∈ insertId id ids ↔ other = id ∨ other ∈ ids := by
  induction ids with
  | nil => simp [insertId]
  | cons first rest ih =>
      by_cases less : id < first
      · simp [insertId, less]
      · by_cases same : id = first
        · simp [insertId, same]
        · simp only [insertId, if_neg less, if_neg same, List.mem_cons, ih]
          exact or_left_comm

theorem insert_id_ascending (id : Nat) (ids : List Nat) (ascending : ids.Pairwise (· < ·)) :
    (insertId id ids).Pairwise (· < ·) := by
  induction ids with
  | nil => exact List.pairwise_singleton _ id
  | cons first rest ih =>
      obtain ⟨least, restAscending⟩ := List.pairwise_cons.mp ascending
      by_cases less : id < first
      · rw [insertId, if_pos less]
        refine List.pairwise_cons.mpr ⟨fun other listed => ?_, ascending⟩
        rcases List.mem_cons.mp listed with rfl | later
        · exact less
        · exact Nat.lt_trans less (least other later)
      · by_cases same : id = first
        · rw [insertId, if_neg less, if_pos same]
          exact ascending
        · rw [insertId, if_neg less, if_neg same]
          refine List.pairwise_cons.mpr ⟨fun other listed => ?_, ih restAscending⟩
          rcases (mem_insert_id_iff id other rest).mp listed with rfl | later
          · omega
          · exact least other later

theorem mem_union_ids_iff (matched ranked : List Nat) (id : Nat) :
    id ∈ unionIds matched ranked ↔ id ∈ matched ∨ id ∈ ranked := by
  rw [unionIds, ← List.mem_append]
  induction matched ++ ranked with
  | nil => rfl
  | cons first rest ih => rw [List.foldr_cons, mem_insert_id_iff, ih, List.mem_cons]

theorem union_ids_ascending (matched ranked : List Nat) : (unionIds matched ranked).Pairwise (· < ·) := by
  rw [unionIds]
  induction matched ++ ranked with
  | nil => exact .nil
  | cons first rest ih => exact insert_id_ascending first _ ih

theorem count_union_ids (matched ranked : List Nat) (id : Nat) :
    (unionIds matched ranked).count id = if id ∈ matched ∨ id ∈ ranked then 1 else 0 := by
  have once : (unionIds matched ranked).Nodup := (union_ids_ascending matched ranked).imp Nat.ne_of_lt
  simp only [once.count, mem_union_ids_iff]

theorem union_ids_addressed (bank : Bank) (matched ranked : List Nat)
    (matchedAddressed : bank.Addresses matched) (rankedAddressed : bank.Addresses ranked) :
    bank.Addresses (unionIds matched ranked) := by
  intro id united
  rcases (mem_union_ids_iff matched ranked id).mp united with inMatched | inRanked
  · exact matchedAddressed id inMatched
  · exact rankedAddressed id inRanked

end Horoscope.Bank
