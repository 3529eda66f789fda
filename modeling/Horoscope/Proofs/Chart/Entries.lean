import Horoscope.Chart
import Mathlib.Data.List.Forall2
import Mathlib.Data.List.Induction

set_option autoImplicit false

namespace Horoscope

theorem Planet.name_injective (p q : Planet) (same : p.name = q.name) : p = q := by
  have found := of_name_name p
  rw [same, of_name_name q] at found
  exact (Option.some.inj found).symm

theorem Planet.of_name_none (name : Text) (unknown : ∀ planet : Planet, name ≠ planet.name) :
    ofName? name = none := by
  rw [ofName?, List.find?_eq_none]
  intro planet _ same
  exact unknown planet (eq_of_beq same).symm

namespace Chart

def Places (entry : Text × Int) (planet : Planet) : Prop :=
  entry.1 = planet.name ∧ 1 ≤ entry.2 ∧ entry.2 ≤ 12

instance (entry : Text × Int) (planet : Planet) : Decidable (Places entry planet) :=
  inferInstanceAs (Decidable (_ ∧ _))

def MakesSense (entry : Text × Int) : Prop := ∃ planet, Places entry planet

instance (entry : Text × Int) : Decidable (MakesSense entry) :=
  decidable_of_iff (∃ planet ∈ Planet.all, Places entry planet)
    ⟨fun ⟨planet, _, places⟩ => ⟨planet, places⟩, fun ⟨planet, places⟩ => ⟨planet, planet.mem_all, places⟩⟩

def entryOf (placement : Planet × House) : Text × Int := (placement.1.name, placement.2)

inductive Reports : ChartWarning → Text × Int → Prop
  | unknownPlanet (name : Text) (house : Int) : (∀ planet : Planet, name ≠ planet.name) →
      Reports (.unknownPlanet name) (name, house)
  | houseOutOfRange (planet : Planet) (house : Int) : ¬ (1 ≤ house ∧ house ≤ 12) →
      Reports (.houseOutOfRange planet.name house) (planet.name, house)

theorem places_unique (entry : Text × Int) (p q : Planet) (first : Places entry p) (second : Places entry q) :
    p = q :=
  Planet.name_injective p q (first.1.symm.trans second.1)

theorem read_placement_ok (entry : Text × Int) (planet : Planet) (places : Places entry planet) :
    readPlacement entry = .ok (planet, entry.2.toNat) := by
  obtain ⟨name, house⟩ := entry
  obtain ⟨rfl, range⟩ := places
  simp only [readPlacement, Planet.of_name_name, if_pos range]

theorem read_placement_error (entry : Text × Int) (senseless : ¬ MakesSense entry) :
    ∃ warning, readPlacement entry = .error warning ∧ Reports warning entry := by
  obtain ⟨name, house⟩ := entry
  by_cases known : ∃ planet : Planet, name = planet.name
  · obtain ⟨planet, rfl⟩ := known
    have outside : ¬ (1 ≤ house ∧ house ≤ 12) := fun range => senseless ⟨planet, rfl, range⟩
    refine ⟨.houseOutOfRange planet.name house, ?_, .houseOutOfRange planet house outside⟩
    simp only [readPlacement, Planet.of_name_name, if_neg outside]
  · have unknown : ∀ planet : Planet, name ≠ planet.name := fun planet same => known ⟨planet, same⟩
    refine ⟨.unknownPlanet name, ?_, .unknownPlanet name house unknown⟩
    simp only [readPlacement, Planet.of_name_none name unknown]

theorem kept_entries (entries : List (Text × Int)) :
    (keptPlacements entries).map entryOf = entries.filter fun entry => MakesSense entry := by
  induction entries with
  | nil => rfl
  | cons entry entries ih =>
      rw [keptPlacements] at ih ⊢
      by_cases sense : MakesSense entry
      · obtain ⟨planet, places⟩ := id sense
        have read := read_placement_ok entry planet places
        have written : entryOf (planet, entry.2.toNat) = entry := by
          obtain ⟨name, least, -⟩ := places
          exact Prod.ext name.symm (Int.toNat_of_nonneg (by omega))
        rw [List.filterMap_cons_some (by rw [read]; rfl), List.map_cons, ih, written,
          List.filter_cons_of_pos (by simpa using sense)]
      · obtain ⟨warning, read, -⟩ := read_placement_error entry sense
        rw [List.filterMap_cons_none (by rw [read]; rfl), ih, List.filter_cons_of_neg (by simpa using sense)]

theorem reported_entries (entries : List (Text × Int)) :
    List.Forall₂ Reports (warnings entries) (entries.filter fun entry => ¬ MakesSense entry) := by
  induction entries with
  | nil => exact .nil
  | cons entry entries ih =>
      rw [warnings] at ih ⊢
      by_cases sense : MakesSense entry
      · obtain ⟨planet, places⟩ := id sense
        have read := read_placement_ok entry planet places
        rw [List.filterMap_cons_none (by rw [read]), List.filter_cons_of_neg (by simpa using sense)]
        exact ih
      · obtain ⟨warning, read, reports⟩ := read_placement_error entry sense
        rw [List.filterMap_cons_some (by rw [read]), List.filter_cons_of_pos (by simpa using sense)]
        exact .cons reports ih

theorem house_after_placement (birth : Date) (placements : List (Planet × House)) (p planet : Planet)
    (house : House) :
    (ofPlacements birth (placements ++ [(p, house)])).house? planet =
      if planet = p then some house else (ofPlacements birth placements).house? planet := by
  rw [ofPlacements, List.foldl_append]
  rfl

theorem house_after_entry (birth : Date) (entries : List (Text × Int)) (entry : Text × Int) (planet : Planet) :
    (ofPlacements birth (keptPlacements (entries ++ [entry]))).house? planet =
      if Places entry planet then some entry.2.toNat
      else (ofPlacements birth (keptPlacements entries)).house? planet := by
  have split : keptPlacements (entries ++ [entry]) = keptPlacements entries ++ keptPlacements [entry] :=
    List.filterMap_append
  rw [split]
  by_cases sense : MakesSense entry
  · obtain ⟨p, places⟩ := sense
    have kept : keptPlacements [entry] = [(p, entry.2.toNat)] := by
      rw [keptPlacements, List.filterMap_cons_some (by rw [read_placement_ok entry p places]; rfl)]
      rfl
    have same : planet = p ↔ Places entry planet :=
      ⟨fun same => same ▸ places, fun other => places_unique entry planet p other places⟩
    rw [kept, house_after_placement]
    simp only [same]
  · obtain ⟨warning, read, -⟩ := read_placement_error entry sense
    have kept : keptPlacements [entry] = [] := by
      rw [keptPlacements, List.filterMap_cons_none (by rw [read]; rfl)]
      rfl
    rw [kept, List.append_nil, if_neg fun places => sense ⟨planet, places⟩]

theorem house_of_entries (birth : Date) (entries : List (Text × Int)) (planet : Planet) :
    (ofPlacements birth (keptPlacements entries)).house? planet =
      (entries.filter fun entry => Places entry planet).getLast?.map fun entry => entry.2.toNat := by
  -- From the end of the list: the last entry places the planet, or it changes nothing for it.
  induction entries using List.reverseRecOn with
  | nil => rfl
  | append_singleton entries entry ih =>
      rw [house_after_entry, ih, List.filter_append, List.getLast?_append]
      by_cases places : Places entry planet
      · simp [places]
      · simp [places]

def LastPlaced (entries : List (Text × Int)) (planet : Planet) (house : Nat) : Prop :=
  ∃ earlier later, entries = earlier ++ (planet.name, (house : Int)) :: later ∧ (1 ≤ house ∧ house ≤ 12) ∧
    ∀ entry ∈ later, ¬ Places entry planet

theorem last_filtered_iff (entries : List (Text × Int)) (planet : Planet) (last : Text × Int) :
    (entries.filter fun entry => Places entry planet).getLast? = some last ↔
      ∃ earlier later, entries = earlier ++ last :: later ∧ Places last planet ∧
        ∀ entry ∈ later, ¬ Places entry planet := by
  rw [List.getLast?_filter, List.find?_eq_some_iff_append]
  apply Iff.intro
  · intro form
    obtain ⟨places, later, earlier, cut, others⟩ := form
    refine ⟨earlier.reverse, later.reverse, ?_, of_decide_eq_true places, fun entry member => ?_⟩
    · simpa using congrArg List.reverse cut
    · simpa using others entry (List.mem_reverse.mp member)
  · intro form
    obtain ⟨earlier, later, rfl, places, others⟩ := form
    refine ⟨decide_eq_true places, later.reverse, earlier.reverse, by simp, fun entry member => ?_⟩
    simpa using others entry (List.mem_reverse.mp member)

theorem house_some_iff (birth : Date) (entries : List (Text × Int)) (planet : Planet) (house : Nat) :
    (ofPlacements birth (keptPlacements entries)).house? planet = some house ↔
      LastPlaced entries planet house := by
  rw [house_of_entries, Option.map_eq_some_iff]
  simp only [last_filtered_iff]
  apply Iff.intro
  · intro form
    obtain ⟨⟨name, n⟩, ⟨earlier, later, rfl, ⟨rfl, least, most⟩, others⟩, rfl⟩ := form
    have same : ((n.toNat : Nat) : Int) = n := Int.toNat_of_nonneg (by dsimp only at least; omega)
    refine ⟨earlier, later, by rw [same], ?_, others⟩
    dsimp only at least most ⊢
    omega
  · intro form
    obtain ⟨earlier, later, rfl, ⟨least, most⟩, others⟩ := form
    refine ⟨_, ⟨earlier, later, rfl, ⟨rfl, ?_⟩, others⟩, Int.toNat_natCast house⟩
    dsimp only
    omega

theorem house_none_iff (birth : Date) (entries : List (Text × Int)) (planet : Planet) :
    (ofPlacements birth (keptPlacements entries)).house? planet = none ↔
      ∀ entry ∈ entries, ¬ Places entry planet := by
  rw [house_of_entries, Option.map_eq_none_iff, List.getLast?_eq_none_iff, List.filter_eq_nil_iff]
  simp only [decide_eq_true_eq]

theorem same_chart (first second : Chart) (birth : first.birth = second.birth)
    (houses : ∀ planet, first.house? planet = second.house? planet) : first = second := by
  cases first
  cases second
  cases birth
  exact congrArg (Chart.mk _) (funext houses)

theorem birth_of_placements (birth : Date) (placements : List (Planet × House)) :
    (ofPlacements birth placements).birth = birth := by
  induction placements using List.reverseRecOn with
  | nil => rfl
  | append_singleton placements placement ih =>
      rw [ofPlacements, List.foldl_append]
      exact ih

theorem chart_congr (birth : Date) (entries others : List (Text × Int))
    (same : ∀ planet, (others.filter fun entry => Places entry planet) =
      entries.filter fun entry => Places entry planet) :
    ofPlacements birth (keptPlacements others) = ofPlacements birth (keptPlacements entries) := by
  apply same_chart
  · rw [birth_of_placements, birth_of_placements]
  · intro planet
    rw [house_of_entries, house_of_entries, same]

theorem entries_congr (birth : Text) (entries others : List (Text × Int))
    (same : ∀ planet, (others.filter fun entry => Places entry planet) =
      entries.filter fun entry => Places entry planet) :
    ofEntries birth others = ofEntries birth entries := by
  rw [ofEntries, ofEntries]
  cases Date.readBirth birth with
  | error cause => rfl
  | ok day => exact congrArg Except.ok (chart_congr day entries others same)

def AlikePerPlanet (entries others : List (Text × Int)) : Prop :=
  ∀ planet : Planet, (others.filter fun entry => entry.1 = planet.name) =
    entries.filter fun entry => entry.1 = planet.name

theorem alike_swapped (front rest : List (Text × Int)) (a b : Text × Int) (different : a.1 ≠ b.1) :
    AlikePerPlanet (front ++ a :: b :: rest) (front ++ b :: a :: rest) := by
  intro planet
  rw [List.filter_append, List.filter_append]
  by_cases first : a.1 = planet.name
  · have second : b.1 ≠ planet.name := fun same => different (first.trans same.symm)
    simp [first, second]
  · simp [List.filter_cons, first]

theorem alike_places (entries others : List (Text × Int)) (alike : AlikePerPlanet entries others)
    (planet : Planet) : (others.filter fun entry => Places entry planet) =
      entries.filter fun entry => Places entry planet := by
  have narrowed := congrArg (List.filter fun entry => decide (1 ≤ entry.2 ∧ entry.2 ≤ 12)) (alike planet)
  simp only [List.filter_filter, ← Bool.decide_and] at narrowed
  simpa only [Places, and_comm] using narrowed

theorem sensible_places (entries : List (Text × Int)) (planet : Planet) :
    ((entries.filter fun entry => MakesSense entry).filter fun entry => Places entry planet) =
      entries.filter fun entry => Places entry planet := by
  rw [List.filter_filter]
  apply List.filter_congr
  intro entry _
  have sense : Places entry planet → MakesSense entry := fun places => ⟨planet, places⟩
  simp only [← Bool.decide_and, and_iff_left_of_imp sense]

def houseInByte? (n : Int) : Option House :=
  let byte? : Option UInt8 := if 0 ≤ n ∧ n < 256 then some (UInt8.ofNat n.toNat) else none
  (byte?.filter fun byte => decide (1 ≤ byte) && decide (byte ≤ 12)).map UInt8.toNat

theorem house_in_byte (n : Int) :
    houseInByte? n = if 1 ≤ n ∧ n ≤ 12 then some n.toNat else none := by
  by_cases fits : 0 ≤ n ∧ n < 256
  · have value : (UInt8.ofNat n.toNat).toNat = n.toNat := UInt8.toNat_ofNat_of_lt' (by simp [UInt8.size]; omega)
    have test : (decide (1 ≤ UInt8.ofNat n.toNat) && decide (UInt8.ofNat n.toNat ≤ 12)) =
        decide (1 ≤ n ∧ n ≤ 12) := by
      rw [← Bool.decide_and, decide_eq_decide, UInt8.le_iff_toNat_le, UInt8.le_iff_toNat_le, value]
      change 1 ≤ n.toNat ∧ n.toNat ≤ 12 ↔ 1 ≤ n ∧ n ≤ 12
      omega
    simp only [houseInByte?, if_pos fits, Option.filter_some, test, decide_eq_true_eq]
    split
    · rw [Option.map_some, value]
    · rfl
  · rw [houseInByte?, if_neg fits, if_neg (by omega)]
    rfl

theorem read_placement_in_byte (planet : Planet) (n : Int) :
    (readPlacement (planet.name, n)).toOption = (houseInByte? n).map fun house => (planet, house) := by
  rw [house_in_byte]
  by_cases range : 1 ≤ n ∧ n ≤ 12
  · rw [read_placement_ok _ planet ⟨rfl, range⟩, if_pos range]
    rfl
  · obtain ⟨warning, read, -⟩ := read_placement_error (planet.name, n) fun ⟨_, places⟩ => range places.2
    rw [read, if_neg range]
    rfl

structure Entered (entries : List (Text × Int)) (chart : Chart) : Prop where
  last : ∀ planet house, chart.house? planet = some house ↔ LastPlaced entries planet house
  absent : ∀ planet, chart.house? planet = none ↔ ∀ entry ∈ entries, ¬ Places entry planet
  twelve : ∀ (planet : Planet) (house : Nat), chart.house? planet = some house → 1 ≤ house ∧ house ≤ 12

theorem entered (birth : Date) (entries : List (Text × Int)) :
    Entered entries (ofPlacements birth (keptPlacements entries)) := by
  refine ⟨house_some_iff birth entries, house_none_iff birth entries, fun planet house found => ?_⟩
  obtain ⟨-, -, -, range, -⟩ := (house_some_iff birth entries planet house).mp found
  exact range

theorem of_entries_error_iff (birth : Text) (entries : List (Text × Int)) (error : BirthError) :
    ofEntries birth entries = .error error ↔
      ∃ cause, Date.readBirth birth = .error cause ∧ error = ⟨birth, cause⟩ := by
  rw [ofEntries]
  cases Date.readBirth birth with
  | ok day => simp
  | error cause => simp [eq_comm]

theorem chart_of_entries (birth : Text) (entries : List (Text × Int)) :
    (∀ error, ofEntries birth entries = .error error ↔
      ∃ cause, Date.readBirth birth = .error cause ∧ error = ⟨birth, cause⟩) ∧
    (∀ day, Date.readBirth birth = .ok day →
      ∃ chart, ofEntries birth entries = .ok chart ∧ chart.birth = day ∧ Entered entries chart) ∧
    (∀ planet n, (readPlacement (planet.name, n)).toOption =
      (houseInByte? n).map fun house => (planet, house)) ∧
    ((keptPlacements entries).map entryOf = entries.filter fun entry => MakesSense entry) ∧
    (List.Forall₂ Reports (warnings entries) (entries.filter fun entry => ¬ MakesSense entry)) ∧
    ofEntries birth (entries.filter fun entry => MakesSense entry) = ofEntries birth entries ∧
    ∀ others, AlikePerPlanet entries others → ofEntries birth others = ofEntries birth entries := by
  refine ⟨of_entries_error_iff birth entries, fun day read => ?_, read_placement_in_byte, kept_entries entries,
    reported_entries entries, entries_congr birth entries _ (sensible_places entries),
    fun others alike => entries_congr birth entries others (alike_places entries others alike)⟩
  refine ⟨_, ?_, birth_of_placements day _, entered day entries⟩
  rw [ofEntries, read]

def mixedEntries : List (Text × Int) :=
  [("Sun".toList, 3), ("Moon".toList, 12), ("Sun".toList, 257), ("Pluto".toList, 2), ("Sun".toList, -255),
    ("moon".toList, 5), ("Mars".toList, 0)]

def newYear : Date := ⟨2000, 1, 1, by decide⟩

theorem mixed_entries_read :
    Date.readBirth " 2000/01-1".toList = .ok newYear ∧
      AlikePerPlanet mixedEntries (("Moon".toList, 12) :: ("Sun".toList, 3) :: mixedEntries.drop 2) ∧
      ∃ chart, ofEntries " 2000/01-1".toList mixedEntries = .ok chart ∧
        ofEntries " 2000/01-1".toList (("Moon".toList, 12) :: ("Sun".toList, 3) :: mixedEntries.drop 2) =
          .ok chart ∧
        chart.house? .sun = some 3 ∧ chart.house? .moon = some 12 ∧ chart.house? .mars = none := by
  obtain ⟨-, read, -, -, -, -, reordered⟩ := chart_of_entries " 2000/01-1".toList mixedEntries
  have born : Date.readBirth " 2000/01-1".toList = .ok newYear := by decide +kernel
  have alike := alike_swapped [] (mixedEntries.drop 2) ("Sun".toList, 3) ("Moon".toList, 12) (by decide)
  obtain ⟨chart, found, -, entered⟩ := read newYear born
  refine ⟨born, alike, chart, found, (reordered _ alike).trans found, ?_, ?_, ?_⟩
  · exact (entered.last .sun 3).mpr ⟨[], mixedEntries.drop 1, rfl, by decide, by decide⟩
  · exact (entered.last .moon 12).mpr ⟨mixedEntries.take 1, mixedEntries.drop 2, rfl, by decide, by decide⟩
  · exact (entered.absent .mars).mpr (by decide)

end Chart
end Horoscope
