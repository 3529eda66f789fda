import Horoscope.Proofs.Wording.SentencePasses

set_option autoImplicit false

namespace Horoscope

namespace Operator

theorem keyword_other (op other : Operator) (different : other ≠ op) (letters rest : Text)
    (spelled : Spells other.word letters) : Text.keyword op.word (letters ++ rest) = none := by
  cases letters with
  | nil => cases other <;> cases spelled
  | cons c letters =>
      have head : other.word.head? = some c.toLower := by
        rw [← spelled]
        rfl
      cases op <;> cases other
      · exact absurd rfl different
      · refine Text.keyword_other _ _ _ _ ?_
        rw [← Option.some.inj head]
        decide
      · refine Text.keyword_other _ _ _ _ ?_
        rw [← Option.some.inj head]
        decide
      · exact absurd rfl different

theorem word_solid (op : Operator) (letters : Text) (spelled : Spells op.word letters) :
    letters.all (fun c => !isBlank c) = true := by
  have plain := spells_all Char.isAlphanum op.word letters spelled lower_alphanumeric
    (by cases op <;> decide)
  rw [List.all_eq_true] at plain ⊢
  intro c member
  rw [alphanumeric_not_blank c (plain c member)]
  rfl

theorem word_letter (op : Operator) : op.word.head?.any Char.isAlphanum = true := by
  cases op <;> decide

theorem capitals_spelled (op : Operator) : Spells op.word op.capitals := by
  cases op <;> rfl

end Operator

theorem Planet.name_solid (planet : Planet) :
    planet.name ≠ [] ∧ planet.name.all (fun c => !isBlank c) = true := by
  cases planet <;> decide

namespace Tidy

def capitalize (op : Operator) (text : Text) : Text :=
  Text.replaceAll (readOperator op.word op.capitals) text

-- The operator is not to be found in the text, whatever follows.
abbrev Quiet (op : Operator) (text rest : Text) : Prop :=
  Text.Unread (readOperator op.word op.capitals) text rest

theorem quiet_gap (op : Operator) (gap rest : Text) (blank : Text.allBlank gap = true)
    (begins : Begins rest) : Quiet op gap rest :=
  unread_gap _ _ gap rest blank begins.1 (begins.2 op)

theorem quiet_kind (op : Operator) (kind : Char → Bool) (ascii : ∀ c, kind c = true → c.toNat < 128)
    (plain : (List.range 128).all (fun n => !kind (Char.ofNat n) || !isBlank (Char.ofNat n)) = true)
    (text rest : Text) (all : text.all kind = true) : Quiet op text rest := by
  exact unread_solid _ _ text rest (ascii_kind_property kind (fun c => !isBlank c) ascii plain text all)

theorem quiet_figures (op : Operator) (text rest : Text) (figures : text.all isFigure = true) :
    Quiet op text rest :=
  quiet_kind op isFigure figure_ascii (by decide) text rest figures

theorem quiet_name (op : Operator) (planet : Planet) (rest : Text) : Quiet op planet.name rest :=
  unread_solid _ _ _ rest planet.name_solid.2

theorem quiet_between (op : Operator) (word rest : Text) (solid : word.all (fun c => !isBlank c) = true)
    (begins : Begins (word ++ ' ' :: rest)) (next : Begins rest) :
    Quiet op (' ' :: word ++ [' ']) rest := by
  have last : Quiet op [' '] rest := quiet_gap op [' '] rest (by decide) next
  have middle : Quiet op (word ++ [' ']) rest :=
    Text.unread_append _ _ _ (unread_solid _ _ word _ solid) last
  refine Text.unread_append [' '] _ rest (quiet_gap op [' '] _ (by decide) ?_) middle
  simpa using begins

theorem begins_figures (text rest : Text) (nonempty : text ≠ []) (figures : text.all isFigure = true) :
    Begins (text ++ rest) := by
  obtain ⟨c, tail, rfl⟩ := List.exists_cons_of_ne_nil nonempty
  have every := ascii_kind_property isFigure isPlainHead figure_ascii (by decide) _ figures
  rw [List.all_cons, Bool.and_eq_true] at every
  exact begins_of_head c _ every.1

theorem quiet_sighting (op : Operator) (style : Style) (planet : style.planet = fun name => name.planet.name)
    (sighting : Sighting) (rest : Text) : Quiet op (sighting.write style) rest := by
  have last : Quiet op (sighting.last style) rest ∧ Begins (sighting.last style ++ rest) := by
    rcases sighting.last_cases with ⟨house, same⟩ | ⟨name, same⟩
    · have digits := Date.digits_figures _ (Decimal.write_digits house)
      rw [same]
      exact ⟨quiet_figures op _ rest digits, begins_figures _ rest (Decimal.write_nonempty house) digits⟩
    · rw [same, planet]
      exact ⟨quiet_name op _ rest, begins_name _ rest⟩
  have linked : Quiet op (' ' :: sighting.link ++ [' ']) (sighting.last style ++ rest) := by
    rcases sighting.link_cases with link | link | link <;> rw [link] <;>
      exact quiet_between op _ _ (by decide) (begins_of_head _ _ (by decide)) last.2
  rw [sighting.write_parts, planet]
  exact Text.unread_append _ _ _ (Text.unread_append _ _ _ (quiet_name op _ _) linked) last.1

theorem quiet_operand (op : Operator) (today : Date) (done : Operator → Bool) (operand : Operand)
    (rest : Text) : Quiet op (operand.write (Style.capitalized today done)) rest := by
  cases operand with
  | bare sighting => exact quiet_sighting op _ rfl sighting rest
  | wrapped natal sighting => exact quiet_sighting op _ rfl sighting rest
  | ages listed =>
      exact quiet_kind op _ age_mark_ascii (by decide) _ rest (Term.ages_marks listed)

theorem quiet_link (op other : Operator) (different : other ≠ op) (left letters right rest : Text)
    (leftBlank : Text.allBlank left = true) (spelled : Spells other.word letters)
    (rightBlank : Text.allBlank right = true) (begins : Begins rest) :
    Quiet op (left ++ letters ++ right) rest := by
  refine Text.unread_append _ _ _ (Text.unread_append _ _ _ ?_ ?_) (quiet_gap op right rest rightBlank begins)
  · exact unread_gap _ _ left _ leftBlank (spells_solid _ letters _ spelled other.word_letter)
      (op.keyword_other other different letters _ spelled)
  · exact unread_solid _ _ letters _ (other.word_solid letters spelled)

theorem capitalize_link (op : Operator) (today : Date) (done : Operator → Bool) (undone : done op = false)
    (link : Link) (rest : Text) (begins : Begins rest) :
    capitalize op ((Style.capitalized today done).link link ++ rest) =
      (Style.capitalized today fun other => done other || other == op).link link ++ capitalize op rest := by
  obtain ⟨operator, spelling, left, right⟩ := link
  simp only [Style.capitalized, Style.asWritten]
  by_cases same : operator = op
  · subst same
    have nonempty : left.text ++ spelling.letters ++ right.text ≠ [] := by
      simp [left.wide.1]
    -- The link is still as it was written, and the reader takes it with all its blanks.
    have taken := operator_taken operator.word operator.capitals _ _ _ rest left.wide spelling.spelled
      right.wide operator.word_letter begins.1
    rw [undone, beq_self_eq_true]
    exact Text.replace_all_takes _ _ _ rest nonempty taken
  · -- The other operator stays, whether its own pass has been made or not.
    have kept : (done operator || operator == op) = done operator := by simp [same]
    rw [kept]
    apply Text.replace_all_skips
    by_cases capital : done operator = true
    · rw [if_pos capital]
      exact quiet_link op operator same [' '] operator.capitals [' '] rest (by decide)
        operator.capitals_spelled (by decide) begins
    · rw [if_neg capital]
      exact quiet_link op operator same _ _ _ rest left.wide.2 spelling.spelled right.wide.2 begins

theorem quiet_spaced (op : Operator) (figures rest : Text) (nonempty : figures ≠ [])
    (all : figures.all isFigure = true) : Quiet op (' ' :: figures) rest :=
  Text.unread_append [' '] figures rest
    (quiet_gap op [' '] _ (by decide) (begins_figures figures rest nonempty all))
    (quiet_figures op figures rest all)

theorem quiet_bound (op : Operator) (bound : PeriodEnd) (rest : Text) :
    Quiet op bound.write (')' :: rest) := by
  cases bound with
  | on day => exact quiet_spaced op _ _ (Date.write_nonempty day) (Date.write_figures day)
  | withYear year =>
      exact quiet_spaced op _ _ (Date.write_year_nonempty year) (Date.write_year_figures year)
  | ongoing => exact quiet_gap op [' '] _ (by decide) (begins_of_head ')' rest (by decide))

theorem quiet_period (op : Operator) (period : Period) (rest : Text) : Quiet op period.write rest := by
  have start : Quiet op (Date.write period.start ++ " to".toList)
      (PeriodEnd.write period.bound ++ ([')'] ++ rest)) := by
    refine Text.unread_append _ _ _ (quiet_figures op _ _ (Date.write_figures period.start)) ?_
    refine Text.unread_append [' '] "to".toList _ (quiet_gap op _ _ (by decide) ?_)
      (unread_solid _ _ _ _ (by decide))
    exact begins_of_head 't' _ (by decide)
  refine Text.unread_append ['('] (period.content ++ [')']) rest (unread_solid _ _ _ _ (by decide)) ?_
  refine Text.unread_append _ _ rest (Text.unread_append _ _ _ start ?_) (unread_solid _ _ _ _ (by decide))
  exact quiet_bound op period.bound rest

theorem quiet_range (op : Operator) (range : BirthRange) (rest : Text) : Quiet op range.write rest := by
  have latest := Date.write_figures range.latest
  refine Text.unread_append _ _ _ (Text.unread_append _ _ _ ?_ ?_) (quiet_figures op _ rest latest)
  · exact quiet_figures op _ _ (Date.write_figures range.earliest)
  · exact quiet_between op "to".toList _ (by decide)
      (begins_of_head 't' _ (by decide))
      (begins_figures _ rest (Date.write_nonempty _) latest)

theorem quiet_listed (op : Operator) (items : List Text) (rest : Text)
    (quiet : ∀ item ∈ items, ∀ rest, Quiet op item rest) (begins : ∀ item ∈ items, ∀ rest, Begins (item ++ rest)) :
    Quiet op (", ".toList.intercalate items) rest := by
  refine Text.unread_intercalate _ items rest quiet fun item listed rest => ?_
  refine Text.unread_append _ item rest ?_ (quiet item listed rest)
  exact Text.unread_append [','] [' '] _ (unread_solid _ _ _ _ (by decide))
    (quiet_gap op _ _ (by decide) (begins item listed rest))

theorem quiet_periods (op : Operator) (listed : List Period) (rest : Text) :
    Quiet op (Term.write (.periods listed)) rest := by
  refine Text.unread_append _ _ rest (Text.unread_append _ _ _ ?_ ?_) (unread_solid _ _ _ rest (by decide))
  · exact unread_solid _ _ _ _ (by decide)
  · refine quiet_listed op _ _ (fun item member rest => ?_) fun item member rest => ?_
    · obtain ⟨period, -, rfl⟩ := List.mem_map.mp member
      exact quiet_period op period rest
    · obtain ⟨period, -, rfl⟩ := List.mem_map.mp member
      exact begins_of_head '(' _ (by decide)

theorem quiet_birth_days (op : Operator) (ranges : List BirthRange) (rest : Text) :
    Quiet op (TimeClause.birthClause ranges) rest := by
  refine Text.unread_append _ _ rest (Text.unread_append _ _ _ ?_ ?_) (unread_solid _ _ _ rest (by decide))
  · refine Text.unread_append "DOB".toList [' ', '('] _ (unread_solid _ _ _ _ (by decide)) ?_
    refine Text.unread_append [' '] ['('] _ (quiet_gap op _ _ (by decide) ?_)
      (unread_solid _ _ _ _ (by decide))
    exact begins_of_head '(' _ (by decide)
  · refine quiet_listed op _ _ (fun item member rest => ?_) fun item member rest => ?_
    · obtain ⟨range, -, rfl⟩ := List.mem_map.mp member
      exact quiet_range op range rest
    · obtain ⟨range, -, rfl⟩ := List.mem_map.mp member
      simp only [BirthRange.write, List.append_assoc]
      exact begins_figures _ _ (Date.write_nonempty _) (Date.write_figures _)

theorem quiet_clause (op : Operator) (today : Date) (clause : DatedClause) (rest : Text) :
    Quiet op (clause.inWords today) rest := by
  rcases clause.in_words_cases today with same | ⟨ranges, same⟩
  · rw [same]
    exact quiet_periods op clause.listed rest
  · rw [same]
    exact quiet_birth_days op ranges rest

theorem capitalize_pass (op : Operator) (today : Date) (done : Operator → Bool) (undone : done op = false) :
    Pass (capitalize op) (Style.capitalized today done)
      (Style.capitalized today fun other => done other || other == op) where
  blanks gap rest blank follows := by
    apply Text.replace_all_skips
    rcases follows with rfl | begins
    · exact unread_gap _ _ gap [] blank rfl (by cases op <;> rfl)
    · exact quiet_gap op gap rest blank begins
  operand operand rest _ := by
    rw [Operand.write_congr _ (Style.capitalized today done) rfl rfl]
    exact Text.replace_all_skips _ _ _ (quiet_operand op today done operand rest)
  link := capitalize_link op today done undone
  clause clause rest _ := Text.replace_all_skips _ _ _ (quiet_clause op today clause rest)

end Tidy
end Horoscope
