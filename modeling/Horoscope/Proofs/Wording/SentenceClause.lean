import Horoscope.Proofs.Wording.ClosingClause
import Horoscope.Proofs.Wording.Sentence

set_option autoImplicit false

namespace Horoscope

theorem steady_mono (inside : Bool) (text : Text) (even : steady false text = true) :
    steady inside text = true := by
  cases text with
  | nil => rfl
  | cons c text =>
      simp only [steady, Bool.and_eq_true, Bool.or_eq_true] at even ⊢
      refine ⟨.inr ?_, even.2⟩
      simpa using even.1

theorem steady_append (inside : Bool) (a b : Text) (first : steady inside a = true)
    (second : steady false b = true) : steady inside (a ++ b) = true := by
  induction a generalizing inside with
  | nil => exact steady_mono inside b second
  | cons c a ih =>
      simp only [List.cons_append, steady, Bool.and_eq_true] at first ⊢
      exact ⟨first.1, ih _ first.2⟩

theorem steady_of_chars (inside : Bool) (text : Text) (none : text.all (fun c => !isInitial c) = true) :
    steady inside text = true := by
  induction text generalizing inside with
  | nil => rfl
  | cons c text ih =>
      simp only [List.all_cons, Bool.and_eq_true] at none
      simp only [steady, none.1, Bool.or_true, Bool.true_and]
      exact ih _ none.2

theorem steady_lower (inside : Bool) (text : Text) :
    steady inside (text.map Char.toLower) = steady inside text := by
  induction text generalizing inside with
  | nil => rfl
  | cons c text ih => rw [List.map_cons, steady, steady, lower_initial, lower_name, ih]

theorem steady_spelled (word letters : Text) (spelled : Spells word letters) (even : steady false word = true) :
    steady false letters = true := by
  rw [← spelled, steady_lower] at even
  exact even

theorem steady_blanks (blanks : Text) (blank : Text.allBlank blanks = true) : steady false blanks = true := by
  refine steady_of_chars false blanks (List.all_eq_true.mpr fun c member => ?_)
  exact blank_property (fun c => !isInitial c) (by decide) c (List.all_eq_true.mp blank c member)

theorem steady_kind (kind : Char → Bool) (ascii : ∀ c, kind c = true → c.toNat < 128)
    (plain : (List.range 128).all (fun n => !kind (Char.ofNat n) || !isInitial (Char.ofNat n)) = true)
    (text : Text) (all : text.all kind = true) : steady false text = true := by
  exact steady_of_chars false text (ascii_kind_property kind (fun c => !isInitial c) ascii plain text all)

theorem steady_no_periods (passed front rest : Text)
    (even : steady (passed.head?.any isNameChar) front = true) :
    ∀ m ∈ mentionsBefore passed front rest, ∀ listed, m.term ≠ .periods listed := by
  -- Character by character, as mentions are found; `steady` knows whether a word is under way.
  induction front generalizing passed with
  | nil => intro m member; cases member
  | cons c front ih =>
      simp only [steady, Bool.and_eq_true] at even
      intro m member listed periods
      rw [mentionsBefore, List.mem_append, Option.mem_toList] at member
      rcases member with here | later
      · obtain ⟨starts, t, after, read, rfl⟩ := (mention_at_some_iff _ _ _ _).mp here
        cases periods
        obtain ⟨tail, found⟩ := Term.periods_keyword _ _ (Term.read_periods_of_read _ _ _ read)
        have lower : c.toLower = 't' := by
          by_contra other
          have absent : Text.keyword "time".toList (c :: (front ++ rest)) = none :=
            Text.keyword_other _ _ _ _ other
          rw [absent] at found
          cases found
        simp only [startsWord, Bool.and_eq_true, Bool.not_eq_true'] at starts
        rw [starts.2, isInitial, lower] at even
        exact absurd even.1 (by decide)
      · exact ih (c :: passed) even.2 m later listed periods

namespace TimeClause

theorem no_periods_no_closing (found : List Mention) (other : ∀ m ∈ found, ∀ listed, m.term ≠ .periods listed) :
    found.findSome? closing? = none := by
  rw [List.findSome?_eq_none_iff]
  intro m member
  rw [Option.eq_none_iff_forall_ne_some]
  intro result closing
  obtain ⟨before, listed⟩ := result
  exact other m member listed ((closing_some_iff _ _ _).mp closing).1

theorem find_steady (text : Text) (even : steady false text = true) : find? text = none := by
  have whole : mentions text = mentionsBefore [] text [] := by
    have split := mentions_split text []
    simpa [mentionsFrom] using split
  rw [find?, whole]
  exact no_periods_no_closing _ (steady_no_periods [] text [] even)

theorem find_clause (front clause trail : Text) (c : Char) (listed : List Period)
    (even : steady false front = true) (detached : Detached front) (name : isNameChar c = true)
    (read : Term.read (c :: clause ++ trail) = some (.periods listed, trail))
    (blank : Text.allBlank trail = true) : find? (front ++ (c :: clause ++ trail)) = some (front, listed) := by
  have starts : startsWord front.reverse c = true := (starts_word_iff _ _).mpr ⟨name, detached⟩
  have found := (mention_at_some_iff front.reverse c (clause ++ trail) _).mpr ⟨starts, _, _, read, rfl⟩
  have closing : closing? ⟨front.reverse, c :: (clause ++ trail), .periods listed, trail⟩ =
      some (front, listed) :=
    (closing_some_iff _ _ _).mpr ⟨rfl, blank, List.reverse_reverse _⟩
  rw [find?, mentions_split, List.findSome?_append,
    no_periods_no_closing _ (steady_no_periods [] front _ even), Option.none_or, List.cons_append,
    mentionsFrom, found, Option.toList_some, List.singleton_append, List.findSome?_cons, closing]

end TimeClause

theorem steady_sighting (sighting : Sighting) : steady false (sighting.write Style.asWritten) = true := by
  have named : ∀ name : PlanetWord, steady false (Style.asWritten.planet name) = true := by
    intro name
    exact steady_spelled _ _ name.spelling.spelled name.planet.abbreviation_plain.2.2
  have linked : steady false (' ' :: sighting.link ++ [' ']) = true := by
    rcases sighting.link_cases with link | link | link <;> rw [link] <;> decide
  have last : steady false (sighting.last Style.asWritten) = true := by
    rcases sighting.last_cases with ⟨house, same⟩ | ⟨name, same⟩
    · rw [same]
      exact steady_kind _ digit_ascii (by decide) _ (Decimal.write_digits house)
    · rw [same]
      exact named name
  rw [sighting.write_parts]
  exact steady_append _ _ _ (steady_append _ _ _ (named sighting.first) linked) last

theorem steady_operand (operand : Operand) : steady false (operand.write Style.asWritten) = true := by
  cases operand with
  | bare sighting => exact steady_sighting sighting
  | wrapped natal sighting =>
      have word := steady_spelled _ _ natal.spelled (by decide)
      have inside := steady_append false ['('] _ (by decide)
        (steady_append _ _ [')'] (steady_sighting sighting) (by decide))
      exact steady_append _ _ _ word inside
  | ages listed =>
      exact steady_kind _ age_mark_ascii (by decide) _ (Term.ages_marks listed)

theorem steady_steps (steps : List (Operand × Link)) :
    steady false (Body.writeSteps Style.asWritten steps) = true := by
  induction steps with
  | nil => rfl
  | cons step steps ih =>
      obtain ⟨operand, link⟩ := step
      have word : steady false link.spelling.letters = true := by
        refine steady_spelled _ _ link.spelling.spelled ?_
        cases link.operator <;> decide
      have linked : steady false (Style.asWritten.link link) = true :=
        steady_append _ _ _ (steady_append _ _ _ (steady_blanks _ link.left.wide.2) word)
          (steady_blanks _ link.right.wide.2)
      exact steady_append _ _ _ (steady_append _ _ _ (steady_operand operand) linked) ih

theorem detached_steps (front : Text) (steps : List (Operand × Link)) (detached : Detached front) :
    Detached (front ++ Body.writeSteps Style.asWritten steps) := by
  induction steps generalizing front with
  | nil => simpa [Body.writeSteps] using detached
  | cons step steps ih =>
      obtain ⟨operand, link⟩ := step
      have here := detached_gap (front ++ operand.write Style.asWritten ++ link.left.text ++
        link.spelling.letters) link.right.text link.right.wide
      have later := ih _ here
      simpa [Body.writeSteps, Body.writeStep, Style.asWritten] using later

theorem detached_lead (lead : Blanks) : Detached lead.text := by
  by_cases empty : lead.text = []
  · rw [empty]
    rfl
  · simpa using detached_gap [] lead.text ⟨empty, lead.blank⟩

namespace Style

def restated (today : Date) : Style := { asWritten with clause := DatedClause.inWords today }

end Style

theorem Operand.write_congr (a b : Style) (planet : a.planet = b.planet) (wrap : a.wrap = b.wrap)
    (operand : Operand) : operand.write a = operand.write b := by
  have sightings : ∀ sighting : Sighting, sighting.write a = sighting.write b := by
    intro sighting
    cases sighting <;> simp only [Sighting.write, planet]
  cases operand <;> simp only [Operand.write, sightings, wrap]

theorem Body.write_steps_congr (a b : Style) (planet : a.planet = b.planet) (wrap : a.wrap = b.wrap)
    (link : a.link = b.link) (steps : List (Operand × Link)) : writeSteps a steps = writeSteps b steps := by
  have each : writeStep a = writeStep b := by
    funext step
    rw [writeStep, writeStep, Operand.write_congr a b planet wrap, link]
  rw [writeSteps, writeSteps, each]

theorem find_dated (lead trail : Blanks) (steps : List (Operand × Link)) (clause : DatedClause) :
    TimeClause.find? (lead.text ++ Body.writeSteps Style.asWritten steps ++
        (Term.write (.periods clause.listed) ++ trail.text)) =
      some (lead.text ++ Body.writeSteps Style.asWritten steps, clause.listed) := by
  have even := steady_append _ _ _ (steady_blanks lead.text lead.blank) (steady_steps steps)
  have read := Term.read_periods_written clause.listed trail.text clause.nonempty clause.dated
  obtain ⟨tail, cut, -⟩ := Term.periods_marks clause.listed
  rw [cut] at read ⊢
  exact TimeClause.find_clause _ _ _ 'T' _ even (detached_steps _ _ (detached_lead lead)) (by decide) read
    trail.blank

theorem restate_dated (today : Date) (lead trail : Blanks) (steps : List (Operand × Link))
    (clause : DatedClause) :
    ∃ blanks : Blanks,
      TimeClause.restate today (lead.text ++ Body.writeSteps Style.asWritten steps ++
          (Term.write (.periods clause.listed) ++ trail.text)) =
        lead.text ++ Body.writeSteps Style.asWritten steps ++ (clause.inWords today ++ blanks.text) := by
  have restated := TimeClause.restate_of_some today _ _ _ (find_dated lead trail steps clause)
  by_cases empty : clause.listed.filterMap (BirthRange.ofPeriod? today) = []
  · refine ⟨trail, ?_⟩
    rw [restated, if_pos empty, DatedClause.in_words_ranges, if_pos empty]
  · -- The clause goes with all that follows it, so no blanks are left behind the birth days.
    refine ⟨⟨[], rfl⟩, ?_⟩
    rw [restated, if_neg empty, DatedClause.in_words_ranges, if_neg empty, List.append_nil]

theorem restate_body (today : Date) (lead trail : Blanks) (body : Body) :
    ∃ blanks : Blanks,
      TimeClause.restate today (lead.text ++ body.write Style.asWritten ++ trail.text) =
        lead.text ++ body.write (Style.restated today) ++ blanks.text := by
  obtain ⟨steps, ending⟩ := body
  have same : Body.writeSteps (Style.restated today) steps = Body.writeSteps Style.asWritten steps :=
    Body.write_steps_congr _ _ rfl rfl rfl steps
  cases ending with
  | operand last =>
      have even := steady_append _ _ _ (steady_append _ _ _ (steady_blanks lead.text lead.blank)
        (steady_append _ _ _ (steady_steps steps) (steady_operand last)))
        (steady_blanks trail.text trail.blank)
      have lastSame : last.write (Style.restated today) = last.write Style.asWritten :=
        Operand.write_congr _ _ rfl rfl last
      refine ⟨trail, ?_⟩
      simp only [Body.write, Body.writeEnding, same, lastSame]
      exact TimeClause.restate_of_none today _ (TimeClause.find_steady _ even)
  | clause clause =>
      obtain ⟨blanks, restated⟩ := restate_dated today lead trail steps clause
      refine ⟨blanks, ?_⟩
      simp only [Body.write, same]
      simp only [List.append_assoc] at restated ⊢
      exact restated

theorem restate_sentence (today : Date) (sentence : Sentence) :
    ∃ trail : Blanks, TimeClause.restate today sentence.written =
      Sentence.write (Style.restated today) { sentence with trail := trail } := by
  obtain ⟨lead, body, trail⟩ := sentence
  cases body with
  | none =>
      have even := steady_append _ _ _ (steady_append _ _ [] (steady_blanks lead.text lead.blank) rfl)
        (steady_blanks trail.text trail.blank)
      exact ⟨trail, TimeClause.restate_of_none today _ (TimeClause.find_steady _ even)⟩
  | some body => exact restate_body today lead trail body

end Horoscope
