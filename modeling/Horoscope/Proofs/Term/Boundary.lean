import Horoscope.Proofs.Term.Mentions

set_option autoImplicit false

namespace Horoscope

def isInitial (c : Char) : Bool := c.toLower == 't' || c.toLower == 'd'

def Opens (text : Text) : Prop := text.head?.any isInitial = true

-- No part of the word that comes after anything but a name character begins like a clause.
def steady : Bool → Text → Bool
  | _, [] => true
  | inside, k :: ks => (inside || !isInitial k) && steady (isNameChar k) ks

theorem initial_cases (c : Char) (initial : isInitial c = true) : c ∈ ['t', 'T', 'd', 'D'] := by
  have plain : c.isAlphanum = true := by
    rw [← lower_alphanumeric]
    simp only [isInitial, Bool.or_eq_true, beq_iff_eq] at initial
    rcases initial with lower | lower <;> rw [lower] <;> decide
  have all := ascii_property (fun c => !isInitial c || decide (c ∈ ['t', 'T', 'd', 'D']))
    (by decide) c (alphanumeric_ascii c plain)
  simpa [initial] using all

theorem initial_property (p : Char → Bool) (all : ['t', 'T', 'd', 'D'].all p = true) (c : Char)
    (initial : isInitial c = true) : p c = true :=
  List.all_eq_true.mp all c (initial_cases c initial)

theorem opens_cases (text : Text) (opens : Opens text) :
    ∃ c tail, text = c :: tail ∧ isInitial c = true := by
  cases text with
  | nil => cases opens
  | cons c tail => exact ⟨c, tail, rfl, by simpa [Opens] using opens⟩

theorem opens_solid (p : Char → Bool) (text : Text) (opens : Opens text)
    (none : ['t', 'T', 'd', 'D'].all (fun c => !p c) = true) : text.head?.any p = false := by
  obtain ⟨c, tail, rfl, initial⟩ := opens_cases text opens
  simpa using initial_property (fun c => !p c) none c initial

theorem opens_other (wanted : Char) (text : Text) (opens : Opens text) (plain : isInitial wanted = false) :
    text.head? ≠ some wanted := by
  intro same
  rw [Opens, same, Option.any_some, plain] at opens
  cases opens

theorem lower_initial (c : Char) : isInitial c.toLower = isInitial c := by
  rcases lower_ascii c with ascii | same
  · exact eq_of_beq
      (ascii_property (fun c => isInitial c.toLower == isInitial c) (by decide) c ascii)
  · rw [same]

theorem detached_append (front rest : Text) (detached : Detached (front ++ rest)) : Detached rest := by
  cases rest with
  | nil => rfl
  | cons c tail =>
      rw [Detached, List.getLast?_append, List.getLast?_eq_some_getLast (List.cons_ne_nil c tail)] at detached
      rw [Detached, List.getLast?_eq_some_getLast (List.cons_ne_nil c tail)]
      exact detached

theorem detached_gap (text gap : Text) (wide : Gap gap) : Detached (text ++ gap) := by
  obtain ⟨nonempty, blank⟩ := wide
  have last := List.all_eq_true.mp blank _ (List.getLast_mem nonempty)
  rw [Detached, List.getLast?_append, List.getLast?_eq_some_getLast nonempty]
  exact blank_not_name _ last

theorem detached_not_name (front : Text) (c : Char) (detached : Detached (front ++ [c])) :
    isNameChar c = false := by
  simpa [Detached] using detached

theorem alphanumeric_attached (text : Text) (nonempty : text ≠ []) (all : text.all Char.isAlphanum = true)
    (detached : Detached text) : False := by
  rw [Detached, List.getLast?_eq_some_getLast nonempty] at detached
  have plain := List.all_eq_true.mp all _ (List.getLast_mem nonempty)
  rw [Option.any_some, alphanumeric_name _ plain] at detached
  cases detached

namespace Text

theorem keyword_before (word front rest : Text) (inside : Bool) (even : steady inside word = true)
    (apart : front = [] → inside = false) (detached : Detached front) (opens : Opens rest) :
    keyword word (front ++ rest) = (keyword word front).map (· ++ rest) := by
  -- A word that goes on beyond the front would go on with an initial, but after a name character
  -- the front is no place for a clause, and after any other `word` has no initial.
  induction word generalizing front inside with
  | nil => rfl
  | cons k ks ih =>
      simp only [steady, Bool.and_eq_true] at even
      cases front with
      | nil =>
          obtain ⟨c, tail, rfl, initial⟩ := opens_cases rest opens
          have different : c.toLower ≠ k := by
            intro equal
            subst equal
            rw [apart rfl, lower_initial, initial] at even
            simp at even
          simp [keyword, different]
      | cons c tail =>
          by_cases same : c.toLower = k
          · have tailDetached : Detached tail := detached_append [c] tail detached
            have tailApart : tail = [] → isNameChar k = false := by
              intro equal
              subst equal
              rw [← same, lower_name]
              exact detached_not_name [] c detached
            simp only [List.cons_append, keyword, if_pos same]
            exact ih tail (isNameChar k) even.2 tailApart tailDetached
          · simp [keyword, same]

theorem skip_blanks_before (front rest : Text) (opens : Opens rest) :
    skipBlanks (front ++ rest) = skipBlanks front ++ rest := by
  obtain ⟨gap, cut, blank, solid⟩ := skip_blanks_cut front
  have solidRest := opens_solid isBlank rest opens (by decide)
  conv => lhs; rw [cut]
  rw [List.append_assoc, skip_blanks_append gap _ blank]
  apply skip_blanks_fixed
  cases kept : skipBlanks front with
  | nil => exact solidRest
  | cons c tail =>
      rw [kept] at solid
      simpa using solid

theorem blanks_before (front rest : Text) (opens : Opens rest) :
    blanks (front ++ rest) = (blanks front).map (· ++ rest) := by
  cases front with
  | nil =>
      obtain ⟨c, tail, rfl, initial⟩ := opens_cases rest opens
      have solid : isBlank c = false := by simpa using opens_solid isBlank (c :: tail) opens (by decide)
      simp [blanks, solid]
  | cons c tail =>
      by_cases blank : isBlank c = true
      · simp [blanks, blank, skip_blanks_before tail rest opens]
      · simp [blanks, blank]

theorem symbol_before (wanted : Char) (front rest : Text) (opens : Opens rest)
    (plain : isInitial wanted = false) :
    symbol wanted (front ++ rest) = (symbol wanted front).map (· ++ rest) :=
  symbol_append wanted front rest (opens_other wanted rest opens plain)

theorem optional_symbol_before (wanted : Char) (front rest : Text) (opens : Opens rest)
    (plain : isInitial wanted = false) :
    optionalSymbol wanted (front ++ rest) = optionalSymbol wanted front ++ rest :=
  optional_symbol_append wanted front rest (opens_other wanted rest opens plain)

end Text

namespace Planet

theorem abbreviation_plain (p : Planet) :
    p.abbreviation.all Char.isAlphanum = true ∧ p.abbreviation ≠ [] ∧ steady false p.abbreviation = true := by
  have all : ∀ p ∈ all, p.abbreviation.all Char.isAlphanum = true ∧ p.abbreviation ≠ [] ∧
      steady false p.abbreviation = true := by decide
  exact all p (mem_all p)

theorem read_name_before (p : Planet) (front rest : Text) (detached : Detached front) (opens : Opens rest) :
    readName p (front ++ rest) = (readName p front).map (· ++ rest) := by
  obtain ⟨plain, nonempty, even⟩ := abbreviation_plain p
  have moved := Text.keyword_before p.abbreviation front rest false even (fun _ => rfl) detached opens
  cases found : Text.keyword p.abbreviation front with
  | none =>
      rw [found] at moved
      rw [readName, readName, moved, found]
      rfl
  | some after =>
      rw [found] at moved
      obtain ⟨written, rfl, spelled⟩ := (Text.keyword_some_iff _ _ _).mp found
      cases after with
      | nil =>
          have letters := spells_all Char.isAlphanum _ _ spelled lower_alphanumeric plain
          rw [List.append_nil] at detached
          exact (alphanumeric_attached written (spells_nonempty _ _ spelled nonempty) letters detached).elim
      | cons c tail =>
          have ending : Text.atWordEnd (c :: tail ++ rest) = Text.atWordEnd (c :: tail) := rfl
          rw [readName, readName, moved, found]
          simp only [Option.map_some, bind, Option.bind_some, ending]
          split <;> rfl

theorem read_before (front rest : Text) (detached : Detached front) (opens : Opens rest) :
    read (front ++ rest) = (read front).map fun (p, after) => (p, after ++ rest) := by
  simp only [read, read_name_before _ front rest detached opens, List.map_findSome?, Option.map_map,
    Function.comp_def]

end Planet

namespace Term

theorem read_house_before (front rest : Text) (detached : Detached front) (opens : Opens rest) :
    readHouse (front ++ rest) = (readHouse front).map fun (house, after) => (house, after ++ rest) := by
  have moved := Decimal.read_few_stopped 1 2 front rest (opens_solid Char.isDigit rest opens (by decide))
  cases found : Decimal.readFew 1 2 front with
  | none =>
      rw [found] at moved
      rw [readHouse, readHouse, moved, found]
      rfl
  | some result =>
      obtain ⟨house, after⟩ := result
      rw [found] at moved
      obtain ⟨digits, rfl, ⟨all, -⟩, enough, -⟩ := (Decimal.read_few_some_iff _ _ _ _ _).mp found
      cases after with
      | nil =>
          have nonempty : digits ≠ [] := by
            intro same
            subst same
            cases enough
          have plain : digits.all Char.isAlphanum = true := by
            rw [List.all_eq_true] at all ⊢
            exact fun c member => digit_alphanumeric c (all c member)
          rw [List.append_nil] at detached
          exact (alphanumeric_attached digits nonempty plain detached).elim
      | cons c tail =>
          have ending : Text.atWordEnd (c :: tail ++ rest) = Text.atWordEnd (c :: tail) := rfl
          rw [readHouse, readHouse, moved, found]
          simp only [Option.map_some, bind, Option.bind_some, ending]
          split <;> rfl

theorem read_lead_before (link front rest : Text) (even : steady false link = true)
    (detached : Detached front) (opens : Opens rest) :
    readLead link (front ++ rest) = (readLead link front).map fun (p, after) => (p, after ++ rest) := by
  rw [readLead, readLead, Planet.read_before front rest detached opens]
  cases named : Planet.read front with
  | none => rfl
  | some result =>
      obtain ⟨planet, afterName⟩ := result
      obtain ⟨name, rfl, -⟩ := (Planet.read_some_iff _ _ _).mp named
      simp only [Option.map_some, bind, Option.bind_some, Text.blanks_before afterName rest opens]
      cases gapRead : Text.blanks afterName with
      | none => rfl
      | some afterGap =>
          obtain ⟨gap, rfl, -⟩ := (Text.blanks_some_iff _ _).mp gapRead
          have apart : Detached afterGap := detached_append _ _ (detached_append _ _ detached)
          simp only [Option.map_some, Option.bind_some,
            Text.keyword_before link afterGap rest false even (fun _ => rfl) apart opens]
          cases Text.keyword link afterGap with
          | none => rfl
          | some afterWord =>
              simp only [Option.map_some, Option.bind_some, Text.blanks_before afterWord rest opens]
              cases Text.blanks afterWord <;> rfl

theorem read_lead_detached (link front after : Text) (planet : Planet) (detached : Detached front)
    (read : readLead link front = some (planet, after)) : Detached after := by
  simp only [readLead, bind, Option.bind_eq_some_iff, Prod.exists, Option.some.injEq, pure,
    Prod.mk.injEq] at read
  obtain ⟨first, afterName, named, afterGap, gapRead, afterWord, wordRead, afterSpace, spaceRead, -, rfl⟩ :=
    read
  obtain ⟨name, rfl, -⟩ := (Planet.read_some_iff _ _ _).mp named
  obtain ⟨gap, rfl, -⟩ := (Text.blanks_some_iff _ _).mp gapRead
  obtain ⟨word, rfl, -⟩ := (Text.keyword_some_iff _ _ _).mp wordRead
  obtain ⟨space, rfl, -⟩ := (Text.blanks_some_iff _ _).mp spaceRead
  exact detached_append _ _ (detached_append _ _ (detached_append _ _ (detached_append _ _ detached)))

theorem read_pair_before (link : Text) (term : Planet → Planet → Term) (front rest : Text)
    (even : steady false link = true) (detached : Detached front) (opens : Opens rest) :
    readPair link term (front ++ rest) =
      (readPair link term front).map fun (t, after) => (t, after ++ rest) := by
  rw [read_pair_lead, read_pair_lead, read_lead_before link front rest even detached opens]
  cases lead : readLead link front with
  | none => rfl
  | some result =>
      obtain ⟨planet, after⟩ := result
      have apart := read_lead_detached _ _ _ _ detached lead
      simp only [Option.map_some, Option.bind_some, Planet.read_before after rest apart opens]
      cases Planet.read after <;> rfl

theorem read_in_house_before (front rest : Text) (detached : Detached front) (opens : Opens rest) :
    readInHouse (front ++ rest) = (readInHouse front).map fun (t, after) => (t, after ++ rest) := by
  rw [read_in_house_lead, read_in_house_lead,
    read_lead_before "in".toList front rest (by decide) detached opens]
  cases lead : readLead "in".toList front with
  | none => rfl
  | some result =>
      obtain ⟨planet, after⟩ := result
      have apart := read_lead_detached _ _ _ _ detached lead
      simp only [Option.map_some, Option.bind_some, read_house_before after rest apart opens]
      cases readHouse after <;> rfl

end Term
end Horoscope
