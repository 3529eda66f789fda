import Horoscope.Proofs.Term.OpenClause

set_option autoImplicit false

namespace Horoscope

def Closed : Text → Prop
  | [] => True
  | c :: rest => (c = '(' → ')' ∈ rest) ∧ Closed rest

def decideClosed : (text : Text) → Decidable (Closed text)
  | [] => inferInstanceAs (Decidable True)
  | c :: rest =>
    have := decideClosed rest
    inferInstanceAs (Decidable ((c = '(' → ')' ∈ rest) ∧ Closed rest))

instance : DecidablePred Closed := decideClosed

theorem closed_behind (front rest : Text) (closed : Closed (front ++ rest)) : Closed rest := by
  induction front with
  | nil => exact closed
  | cons c front ih => exact ih closed.2

theorem closed_opened (front inside : Text) (closed : Closed (front ++ '(' :: inside)) : ')' ∈ inside :=
  (closed_behind front _ closed).1 rfl

theorem closed_without (text : Text) (none : '(' ∉ text) : Closed text := by
  induction text with
  | nil => trivial
  | cons c text ih =>
      rw [List.mem_cons, not_or] at none
      exact ⟨fun same => absurd same.symm none.1, ih none.2⟩

theorem closed_ending (text : Text) : Closed (text ++ [')']) := by
  induction text with
  | nil => exact closed_without _ (by decide)
  | cons c text ih => exact ⟨fun _ => by simp, ih⟩

def Resumes (text : Text) : Prop := text.head? = some 'A' ∨ text.head? = some 'O'

theorem resumes_cases (next : Text) (resumes : Resumes next) :
    ∃ c tail, next = c :: tail ∧ (c = 'A' ∨ c = 'O') := by
  cases next with
  | nil => rcases resumes with absent | absent <;> cases absent
  | cons c tail => exact ⟨c, tail, rfl, resumes.imp Option.some.inj Option.some.inj⟩

theorem resumes_solid (p : Char → Bool) (next : Text) (resumes : Resumes next) (a : p 'A' = false)
    (o : p 'O' = false) : next.head?.any p = false := by
  rcases resumes with head | head <;> rw [head] <;> assumption

namespace Text

variable {α : Type} {next : Text}

theorem keyword_linked (word front next : Text) (solid : ' ' ∉ word) :
    keyword word (front ++ ' ' :: next) = (keyword word front).map (· ++ ' ' :: next) := by
  induction word generalizing front with
  | nil => rfl
  | cons k ks ih =>
      rw [List.mem_cons, not_or] at solid
      cases front with
      | nil => simp [keyword, solid.1]
      | cons c front =>
          by_cases same : c.toLower = k
          · simpa [keyword, same] using ih front solid.2
          · simp [keyword, same]

def isForeign (word : Text) : Bool := word.head?.any fun k => k != 'a' && k != 'o'

theorem keyword_resumed (word : Text) (foreign : isForeign word = true) (resumes : Resumes next) :
    keyword word next = none := by
  obtain ⟨c, tail, rfl, letter⟩ := resumes_cases next resumes
  cases word with
  | nil => cases foreign
  | cons k ks =>
      simp only [isForeign, List.head?_cons, Option.any_some, Bool.and_eq_true, bne_iff_ne] at foreign
      apply keyword_other
      rcases letter with rfl | rfl
      · exact fun same => foreign.1 same.symm
      · exact fun same => foreign.2 same.symm

theorem skip_blanks_through (front : Text) (resumes : Resumes next) (blank : allBlank front = true) :
    skipBlanks (front ++ ' ' :: next) = next := by
  have solid := resumes_solid isBlank next resumes (by decide) (by decide)
  have space : allBlank (front ++ [' ']) = true := by
    rw [all_blank_append, blank]
    rfl
  have skipped := skip_blanks_append (front ++ [' ']) next space
  rwa [List.append_assoc, skip_blanks_fixed next solid] at skipped

theorem skip_blanks_within (front next : Text) (solid : allBlank front = false) :
    skipBlanks (front ++ ' ' :: next) = skipBlanks front ++ ' ' :: next := by
  induction front with
  | nil => cases solid
  | cons c front ih =>
      by_cases blank : isBlank c = true
      · have later : allBlank front = false := by simpa [allBlank, blank] using solid
        simpa [skipBlanks, blank] using ih later
      · simp [skipBlanks, blank]

theorem after_blanks_linked (read : Text → Option α) (extend : α → α) (front : Text)
    (resumes : Resumes next) (empty : read [] = none) (other : read next = none)
    (moved : ∀ front, read (front ++ ' ' :: next) = (read front).map extend) :
    read (skipBlanks (front ++ ' ' :: next)) = (read (skipBlanks front)).map extend := by
  cases blank : allBlank front with
  | true =>
      have gone := (skip_blanks_nil_iff front).mpr blank
      rw [skip_blanks_through front resumes blank, other, gone, empty]
      rfl
  | false => rw [skip_blanks_within front next blank, moved]

theorem blanks_linked (read : Text → Option α) (extend : α → α) (front : Text)
    (resumes : Resumes next) (empty : read [] = none) (other : read next = none)
    (moved : ∀ front, read (front ++ ' ' :: next) = (read front).map extend) :
    (blanks (front ++ ' ' :: next)).bind read = ((blanks front).bind read).map extend := by
  cases front with
  | nil =>
      have solid := resumes_solid isBlank next resumes (by decide) (by decide)
      have gap : blanks (' ' :: next) = some next :=
        blanks_append [' '] next ⟨by simp, rfl⟩ solid
      rw [List.nil_append, gap, Option.bind_some, other]
      rfl
  | cons c front =>
      by_cases blank : isBlank c = true
      · have moved := after_blanks_linked read extend front resumes empty other moved
        simpa [blanks, blank] using moved
      · simp [blanks, blank]

theorem opening_linked (wanted : Char) (front : Text) (resumes : Resumes next) (space : wanted ≠ ' ')
    (other : next.head? ≠ some wanted) :
    symbol wanted (skipBlanks (front ++ ' ' :: next)) =
      (symbol wanted (skipBlanks front)).map (· ++ ' ' :: next) := by
  have absent : symbol wanted next = none := by
    have moved := symbol_append wanted [] next other
    rwa [List.nil_append] at moved
  refine after_blanks_linked (symbol wanted) _ front resumes rfl absent fun front => ?_
  exact symbol_append wanted front _ (by simpa using space.symm)

theorem resumes_other (wanted : Char) (resumes : Resumes next) (a : 'A' ≠ wanted) (o : 'O' ≠ wanted) :
    next.head? ≠ some wanted := by
  rcases resumes with head | head <;> rw [head] <;> simpa

theorem word_end_linked (after next : Text) : atWordEnd (after ++ ' ' :: next) = atWordEnd after := by
  cases after with
  | nil =>
      have apart := blank_not_extending ' ' (by decide)
      simp [atWordEnd, apart]
  | cons c after => rfl

end Text

namespace Planet

variable {next : Text}

theorem abbreviation_linked (p : Planet) : ' ' ∉ p.abbreviation ∧ Text.isForeign p.abbreviation = true := by
  cases p <;> decide

theorem read_name_linked (p : Planet) (front next : Text) :
    readName p (front ++ ' ' :: next) = (readName p front).map (· ++ ' ' :: next) := by
  rw [readName, readName, Text.keyword_linked _ front next p.abbreviation_linked.1]
  cases Text.keyword p.abbreviation front with
  | none => rfl
  | some after =>
      simp only [Option.map_some, bind, Option.bind_some, Text.word_end_linked]
      split <;> rfl

theorem read_linked (front next : Text) :
    read (front ++ ' ' :: next) = (read front).map fun (p, after) => (p, after ++ ' ' :: next) := by
  simp only [read, read_name_linked _ front next, List.map_findSome?, Option.map_map, Function.comp_def]

theorem read_resumed (resumes : Resumes next) : read next = none := by
  rw [read, List.findSome?_eq_none_iff]
  intro p _
  rw [readName, Text.keyword_resumed _ p.abbreviation_linked.2 resumes]
  rfl

end Planet

namespace Term

variable {next : Text}

theorem read_house_linked (front next : Text) :
    readHouse (front ++ ' ' :: next) =
      (readHouse front).map fun (house, after) => (house, after ++ ' ' :: next) := by
  rw [readHouse, readHouse, Decimal.read_few_stopped 1 2 front (' ' :: next) rfl]
  cases Decimal.readFew 1 2 front with
  | none => rfl
  | some result =>
      simp only [Option.map_some, bind, Option.bind_some, Text.word_end_linked]
      split <;> rfl

theorem read_house_resumed (resumes : Resumes next) : readHouse next = none := by
  have stopped := resumes_solid Char.isDigit next resumes (by decide) (by decide)
  have few := Decimal.read_few_stopped 1 2 [] next stopped
  rw [List.nil_append] at few
  rw [readHouse, few]
  rfl

-- What is read behind a lead is read there as if the text ended, for a blank that only the operator
-- brings leads to nothing. The lead alone need not be the same: it takes that blank in.
theorem lead_linked {α : Type} (link : Text) (last : Text → Option (α × Text))
    (term : Planet → α → Term) (front : Text) (resumes : Resumes next) (solid : ' ' ∉ link)
    (foreign : Text.isForeign link = true) (empty : last [] = none) (other : last next = none)
    (moved : ∀ front, last (front ++ ' ' :: next) =
      (last front).map fun (found, after) => (found, after ++ ' ' :: next)) :
    ((readLead link (front ++ ' ' :: next)).bind fun (planet, rest) =>
        (last rest).map fun (found, rest) => (term planet found, rest)) =
      ((readLead link front).bind fun (planet, rest) =>
        (last rest).map fun (found, rest) => (term planet found, rest)).map
          fun (t, after) => (t, after ++ ' ' :: next) := by
  have stepwise (text : Text) : ((readLead link text).bind fun (planet, rest) =>
      (last rest).map fun (found, rest) => (term planet found, rest)) =
        (Planet.read text).bind fun (planet, rest) =>
          ((Text.blanks rest).bind (Text.keyword link)).bind fun rest =>
            ((Text.blanks rest).bind last).map fun (found, rest) => (term planet found, rest) := by
    simp only [readLead, bind, pure, Option.bind_assoc, Option.bind_some, Option.map_eq_bind]
  have linkEmpty : Text.keyword link [] = none := by
    cases link with
    | nil => cases foreign
    | cons k ks => rfl
  rw [stepwise, stepwise, Planet.read_linked]
  cases Planet.read front with
  | none => rfl
  | some named =>
      obtain ⟨planet, afterName⟩ := named
      have linked := Text.blanks_linked (Text.keyword link) (· ++ ' ' :: next) afterName resumes linkEmpty
        (Text.keyword_resumed link foreign resumes) fun front => Text.keyword_linked link front next solid
      simp only [Option.map_some, Option.bind_some, linked]
      cases (Text.blanks afterName).bind (Text.keyword link) with
      | none => rfl
      | some afterLink =>
          have lastLinked := Text.blanks_linked last _ afterLink resumes empty other moved
          simp only [Option.map_some, Option.bind_some, lastLinked]
          cases (Text.blanks afterLink).bind last <;> rfl

theorem read_pair_linked (link : Text) (term : Planet → Planet → Term) (front : Text)
    (resumes : Resumes next) (solid : ' ' ∉ link) (foreign : Text.isForeign link = true) :
    readPair link term (front ++ ' ' :: next) =
      (readPair link term front).map fun (t, after) => (t, after ++ ' ' :: next) := by
  simp only [read_pair_lead]
  exact lead_linked link Planet.read term front resumes solid foreign rfl
    (Planet.read_resumed resumes) fun front => Planet.read_linked front next

theorem read_in_house_linked (front : Text) (resumes : Resumes next) :
    readInHouse (front ++ ' ' :: next) =
      (readInHouse front).map fun (t, after) => (t, after ++ ' ' :: next) := by
  simp only [read_in_house_lead]
  exact lead_linked _ readHouse inHouse front resumes (by decide) (by decide) rfl
    (read_house_resumed resumes) fun front => read_house_linked front next

theorem open_group_cut (text inside : Text) (opened : openGroup text = some inside) :
    ∃ lead, text = lead ++ '(' :: inside := by
  obtain ⟨lead, cut, -⟩ := (Text.opening_some_iff _ _).mp opened
  obtain ⟨mark, comma, -⟩ := Text.optional_symbol_cut ',' (Text.skipBlanks text)
  obtain ⟨gap, whole, -⟩ := Text.skip_blanks_cut text
  refine ⟨gap ++ mark ++ lead, ?_⟩
  rw [List.append_assoc, ← cut, List.append_assoc, ← comma, ← whole]

theorem open_ages_cut (text inside : Text) (opened : openAges text = some inside) :
    ∃ lead, text = lead ++ '(' :: inside := by
  obtain ⟨rest, named, first⟩ := Option.bind_eq_some_iff.mp opened
  obtain ⟨name, rfl, -⟩ := (Text.keyword_some_iff _ _ _).mp named
  obtain ⟨lead, rfl, -⟩ := (Text.opening_some_iff _ _).mp first
  exact ⟨name ++ lead, by rw [List.append_assoc]⟩

theorem open_periods_cut (text inside : Text) (opened : openPeriods text = some inside) :
    ∃ lead, text = lead ++ '(' :: inside := by
  obtain ⟨afterName, named, later⟩ := Option.bind_eq_some_iff.mp opened
  obtain ⟨afterOpen, first, second⟩ := Option.bind_eq_some_iff.mp later
  obtain ⟨name, rfl, -⟩ := (Text.keyword_some_iff _ _ _).mp named
  obtain ⟨outer, rfl, -⟩ := (Text.opening_some_iff _ _).mp first
  obtain ⟨inner, rfl, -⟩ := (Text.opening_some_iff _ _).mp second
  exact ⟨name ++ (outer ++ '(' :: inner), by simp⟩

theorem group_linked (inside rest : Text) (closing : ')' ∈ inside) :
    Text.group ('(' :: (inside ++ rest)) =
      (Text.group ('(' :: inside)).map fun (content, after) => (content, after ++ rest) := by
  cases found : Text.group ('(' :: inside) with
  | none => exact absurd closing ((Text.group_none_iff inside).mp found)
  | some result => exact Text.group_closed_append _ _ _ rest found

theorem open_ages_linked (front : Text) (resumes : Resumes next) :
    openAges (front ++ ' ' :: next) = (openAges front).map (· ++ ' ' :: next) := by
  rw [openAges, openAges, Text.keyword_linked _ front next (by decide)]
  cases Text.keyword "age".toList front with
  | none => rfl
  | some after =>
      exact Text.opening_linked '(' after resumes (by decide)
        (Text.resumes_other '(' resumes (by decide) (by decide))

theorem open_periods_linked (front : Text) (resumes : Resumes next) :
    openPeriods (front ++ ' ' :: next) = (openPeriods front).map (· ++ ' ' :: next) := by
  have other := Text.resumes_other '(' resumes (by decide) (by decide)
  rw [openPeriods, openPeriods, Text.keyword_linked _ front next (by decide)]
  cases Text.keyword "time".toList front with
  | none => rfl
  | some after =>
      simp only [Option.map_some, Option.bind_some, Text.opening_linked '(' after resumes (by decide) other]
      cases Text.symbol '(' (Text.skipBlanks after) with
      | none => rfl
      | some after => exact Text.opening_linked '(' after resumes (by decide) other

theorem open_group_linked (front : Text) (resumes : Resumes next) :
    openGroup (front ++ ' ' :: next) = (openGroup front).map (· ++ ' ' :: next) := by
  have other := Text.resumes_other '(' resumes (by decide) (by decide)
  have noComma := Text.resumes_other ',' resumes (by decide) (by decide)
  have absent : Text.symbol '(' (Text.skipBlanks (Text.optionalSymbol ',' next)) = none := by
    have solid := resumes_solid isBlank next resumes (by decide) (by decide)
    rw [Text.optional_symbol_absent ',' next noComma, Text.skip_blanks_fixed next solid,
      Option.eq_none_iff_forall_ne_some]
    intro rest found
    exact other (by rw [(Text.symbol_some_iff _ _ _).mp found]; rfl)
  refine Text.after_blanks_linked (fun text => Text.symbol '(' (Text.skipBlanks (Text.optionalSymbol ',' text)))
    _ front resumes rfl absent fun front => ?_
  rw [Text.optional_symbol_append ',' front _ (by simp)]
  exact Text.opening_linked '(' _ resumes (by decide) other

theorem read_ages_linked (front : Text) (resumes : Resumes next) (closed : Closed front) :
    readAges (front ++ ' ' :: next) =
      (readAges front).map fun (t, after) => (t, after ++ ' ' :: next) := by
  rw [read_ages_opened, read_ages_opened, open_ages_linked front resumes]
  cases opened : openAges front with
  | none => rfl
  | some inside =>
      obtain ⟨lead, rfl⟩ := open_ages_cut _ _ opened
      simp only [Option.map_some, Option.bind_some, group_linked inside _ (closed_opened lead inside closed)]
      cases Text.group ('(' :: inside) <;> rfl

theorem all_groups_linked (front : Text) (resumes : Resumes next) (closed : Closed front) :
    allGroups (front ++ ' ' :: next) = ((allGroups front).1, (allGroups front).2 ++ ' ' :: next) := by
  -- By the length of the front, group by group: each that begins there is closed there.
  induction length : front.length using Nat.strongRecOn generalizing front with
  | ind n ih =>
      have moved := open_group_linked front resumes
      cases opened : openGroup front with
      | none =>
          rw [opened] at moved
          have ended : nextGroup front = none := by
            rw [next_group_opened, opened]
            rfl
          have endedLater : nextGroup (front ++ ' ' :: next) = none := by
            rw [next_group_opened, moved]
            rfl
          rw [all_groups_none _ ended, all_groups_none _ endedLater]
      | some inside =>
          rw [opened] at moved
          obtain ⟨lead, cut⟩ := open_group_cut _ _ opened
          rw [cut] at closed
          have closing := closed_opened lead inside closed
          obtain ⟨content, after, whole, apart⟩ := List.eq_append_cons_of_mem closing
          have grouped : Text.group ('(' :: inside) = some (content, after) :=
            (Text.group_some_iff _ _ _).mpr ⟨by rw [whole], apart⟩
          have here : nextGroup front = some (content, after) := by
            rw [next_group_opened, opened]
            exact grouped
          have later : nextGroup (front ++ ' ' :: next) = some (content, after ++ ' ' :: next) := by
            rw [next_group_opened, moved]
            exact Text.group_closed_append _ _ _ _ grouped
          have shorter := next_group_shorter _ _ _ here
          have closedAfter : Closed after := by
            rw [whole] at closed
            exact closed_behind (lead ++ '(' :: (content ++ [')'])) after (by simpa using closed)
          rw [all_groups_some _ _ _ here, all_groups_some _ _ _ later,
            ih after.length (by omega) after closedAfter rfl]

-- The clause may take the blank in, but it lists the same periods.
theorem read_periods_linked (front : Text) (resumes : Resumes next) (closed : Closed front) :
    (readPeriods (front ++ ' ' :: next)).map Prod.fst = (readPeriods front).map Prod.fst := by
  rw [read_periods_opened, read_periods_opened, open_periods_linked front resumes]
  cases opened : openPeriods front with
  | none => rfl
  | some inside =>
      obtain ⟨lead, rfl⟩ := open_periods_cut _ _ opened
      have closing := closed_opened lead inside closed
      simp only [Option.map_some, Option.bind_some, group_linked inside _ closing]
      cases found : Text.group ('(' :: inside) with
      | none => rfl
      | some result =>
          obtain ⟨first, rest⟩ := result
          obtain ⟨cut, -⟩ := (Text.group_some_iff _ _ _).mp found
          have closedRest : Closed rest := by
            rw [cut] at closed
            exact closed_behind (lead ++ '(' :: (first ++ [')'])) rest (by simpa using closed)
          simp only [Option.map_some, all_groups_linked rest resumes closedRest]

theorem read_linked (front : Text) (resumes : Resumes next) (closed : Closed front) :
    (read (front ++ ' ' :: next)).map Prod.fst = (read front).map Prod.fst := by
  have kept : ∀ result : Option (Term × Text),
      (result.map fun (t, after) => (t, after ++ ' ' :: next)).map Prod.fst = result.map Prod.fst := by
    intro result
    cases result <;> rfl
  simp only [read, Option.orElse_eq_orElse, Option.orElse_eq_or, Option.map_or,
    read_periods_linked front resumes closed]
  rw [read_ages_linked front resumes closed, read_pair_linked _ _ front resumes (by decide) (by decide),
    read_pair_linked _ _ front resumes (by decide) (by decide), read_in_house_linked front resumes,
    kept, kept, kept, kept]

end Term

end Horoscope
