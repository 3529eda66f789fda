import Horoscope.Proofs.Term.Written
import Horoscope.Wording.TimeClause

set_option autoImplicit false

namespace Horoscope

structure Blanks where
  text : Text
  blank : Text.allBlank text = true

structure Space where
  text : Text
  wide : Gap text

structure Spelling (word : Text) where
  letters : Text
  spelled : Spells word letters

structure PlanetWord where
  planet : Planet
  spelling : Spelling planet.abbreviation

inductive Sighting
  | inHouse (planet : PlanetWord) (house : House)
  | conjunct (a b : PlanetWord)
  | notWith (a b : PlanetWord)

inductive Operand
  | bare (sighting : Sighting)
  | wrapped (natal : Spelling "natal".toList) (sighting : Sighting)
  | ages (listed : List Nat)

inductive Operator
  | and
  | or
deriving DecidableEq

namespace Operator

def word : Operator → Text
  | and => "and".toList
  | or => "or".toList

def capitals : Operator → Text
  | and => "AND".toList
  | or => "OR".toList

end Operator

structure Link where
  operator : Operator
  spelling : Spelling operator.word
  left : Space
  right : Space

structure DatedClause where
  listed : List Period
  nonempty : listed ≠ []
  dated : ∀ period ∈ listed, period.InFourDigits

-- The clause in words, or as it is written when no period gives a range.
def DatedClause.inWords (today : Date) (clause : DatedClause) : Text :=
  if clause.listed.filterMap (BirthRange.ofPeriod? today) = [] then Term.write (.periods clause.listed)
  else "DOB (".toList ++ ", ".toList.intercalate ((clause.listed.filterMap (BirthRange.ofPeriod? today)).map
    fun range => Date.write range.earliest ++ " to ".toList ++ Date.write range.latest) ++ [')']

theorem DatedClause.in_words_ranges (today : Date) (clause : DatedClause) :
    clause.inWords today =
      if clause.listed.filterMap (BirthRange.ofPeriod? today) = [] then Term.write (.periods clause.listed)
      else TimeClause.birthClause (clause.listed.filterMap (BirthRange.ofPeriod? today)) := rfl

theorem DatedClause.in_words_cases (today : Date) (clause : DatedClause) :
    clause.inWords today = Term.write (.periods clause.listed) ∨
      ∃ ranges, clause.inWords today = TimeClause.birthClause ranges := by
  rw [in_words_ranges]
  by_cases empty : clause.listed.filterMap (BirthRange.ofPeriod? today) = []
  · exact .inl (if_pos empty)
  · exact .inr ⟨_, if_neg empty⟩

inductive Ending
  | operand (last : Operand)
  | clause (clause : DatedClause)

structure Body where
  steps : List (Operand × Link)
  ending : Ending

structure Sentence where
  lead : Blanks
  body : Option Body
  trail : Blanks

structure Style where
  planet : PlanetWord → Text
  wrap : Spelling "natal".toList → Text → Text
  link : Link → Text
  clause : DatedClause → Text

namespace Sighting

def write (style : Style) : Sighting → Text
  | inHouse planet house => style.planet planet ++ " in ".toList ++ Decimal.write house
  | conjunct a b => style.planet a ++ " conjunct ".toList ++ style.planet b
  | notWith a b => style.planet a ++ " not-with ".toList ++ style.planet b

def first : Sighting → PlanetWord
  | inHouse planet _ => planet
  | conjunct a _ => a
  | notWith a _ => a

def link : Sighting → Text
  | inHouse _ _ => "in".toList
  | conjunct _ _ => "conjunct".toList
  | notWith _ _ => "not-with".toList

def last (style : Style) : Sighting → Text
  | inHouse _ house => Decimal.write house
  | conjunct _ b => style.planet b
  | notWith _ b => style.planet b

theorem write_parts (style : Style) (sighting : Sighting) :
    sighting.write style =
      style.planet sighting.first ++ (' ' :: sighting.link ++ [' ']) ++ sighting.last style := by
  cases sighting <;> rfl

theorem link_cases (sighting : Sighting) :
    sighting.link = "in".toList ∨ sighting.link = "conjunct".toList ∨ sighting.link = "not-with".toList := by
  cases sighting with
  | inHouse planet house => exact .inl rfl
  | conjunct a b => exact .inr (.inl rfl)
  | notWith a b => exact .inr (.inr rfl)

theorem last_cases (sighting : Sighting) :
    (∃ house : House, ∀ style, sighting.last style = Decimal.write house) ∨
      ∃ name : PlanetWord, ∀ style : Style, sighting.last style = style.planet name := by
  cases sighting with
  | inHouse planet house => exact .inl ⟨house, fun _ => rfl⟩
  | conjunct a b => exact .inr ⟨b, fun _ => rfl⟩
  | notWith a b => exact .inr ⟨b, fun _ => rfl⟩

end Sighting

namespace Operand

def write (style : Style) : Operand → Text
  | bare sighting => sighting.write style
  | wrapped natal sighting => style.wrap natal (sighting.write style)
  | ages listed => Term.write (.ages listed)

end Operand

namespace Body

def writeStep (style : Style) (step : Operand × Link) : Text := step.1.write style ++ style.link step.2

def writeSteps (style : Style) (steps : List (Operand × Link)) : Text := steps.flatMap (writeStep style)

def writeEnding (style : Style) : Ending → Text
  | .operand last => last.write style
  | .clause clause => style.clause clause

def write (style : Style) (body : Body) : Text :=
  writeSteps style body.steps ++ writeEnding style body.ending

end Body

namespace Style

def asWritten : Style where
  planet name := name.spelling.letters
  wrap natal inside := natal.letters ++ '(' :: (inside ++ [')'])
  link link := link.left.text ++ link.spelling.letters ++ link.right.text
  clause clause := Term.write (.periods clause.listed)

def inWords (today : Date) : Style where
  planet name := name.planet.name
  wrap _ inside := inside
  link link := ' ' :: link.operator.capitals ++ [' ']
  clause := DatedClause.inWords today

end Style

namespace Sentence

def core (style : Style) (sentence : Sentence) : Text := sentence.body.elim [] (Body.write style)

def write (style : Style) (sentence : Sentence) : Text :=
  sentence.lead.text ++ core style sentence ++ sentence.trail.text

def written (sentence : Sentence) : Text := write Style.asWritten sentence

def inWords (today : Date) (sentence : Sentence) : Text := core (Style.inWords today) sentence

end Sentence

def Loose (rest : Text) : Prop := rest.head?.all isBlank = true

def Begins (text : Text) : Prop :=
  text.head?.any isBlank = false ∧ ∀ operator : Operator, Text.keyword operator.word text = none

theorem loose_not_word (rest : Text) (loose : Loose rest) : rest.head?.any isWordChar = false := by
  cases rest with
  | nil => rfl
  | cons c rest => simpa using blank_not_word c (by simpa [Loose] using loose)

theorem loose_gap (gap rest : Text) (blank : Text.allBlank gap = true) (loose : Loose rest) :
    Loose (gap ++ rest) := by
  cases gap with
  | nil => exact loose
  | cons c gap =>
      simp only [Text.allBlank, List.all_cons, Bool.and_eq_true] at blank
      simpa [Loose] using blank.1

def isPlainHead (c : Char) : Bool := !isBlank c && c.toLower != 'a' && c.toLower != 'o'

theorem begins_of_head (c : Char) (rest : Text) (plain : isPlainHead c = true) : Begins (c :: rest) := by
  simp only [isPlainHead, Bool.and_eq_true, Bool.not_eq_true', bne_iff_ne] at plain
  obtain ⟨⟨solid, notA⟩, notO⟩ := plain
  refine ⟨by simpa using solid, fun operator => ?_⟩
  cases operator with
  | and => exact if_neg notA
  | or => exact if_neg notO

theorem lower_plain_head (c : Char) : isPlainHead c.toLower = isPlainHead c := by
  rcases lower_ascii c with ascii | same
  · exact eq_of_beq
      (ascii_property (fun c => isPlainHead c.toLower == isPlainHead c) (by decide) c ascii)
  · rw [same]

theorem begins_spelled (word letters rest : Text) (spelled : Spells word letters)
    (plain : word.head?.any isPlainHead = true) : Begins (letters ++ rest) := by
  rw [← spelled] at plain
  cases letters with
  | nil => cases plain
  | cons c letters =>
      rw [List.map_cons, List.head?_cons, Option.any_some, lower_plain_head] at plain
      exact begins_of_head c _ plain

-- A pass that turns every part from one style into another, whatever comes behind the part.
structure Pass (pass : Text → Text) (before after : Style) : Prop where
  blanks : ∀ gap rest, Text.allBlank gap = true → (rest = [] ∨ Begins rest) →
    pass (gap ++ rest) = gap ++ pass rest
  operand : ∀ (operand : Operand) (rest : Text), Loose rest →
    pass (operand.write before ++ rest) = operand.write after ++ pass rest
  link : ∀ (link : Link) (rest : Text), Begins rest →
    pass (before.link link ++ rest) = after.link link ++ pass rest
  clause : ∀ (clause : DatedClause) (rest : Text), Loose rest →
    pass (before.clause clause ++ rest) = after.clause clause ++ pass rest

-- A style in which links are set off by blanks and everything else begins with a word of its own.
structure Style.Spaced (style : Style) : Prop where
  operand : ∀ (operand : Operand) (rest : Text), Begins (operand.write style ++ rest)
  clause : ∀ (clause : DatedClause) (rest : Text), Begins (style.clause clause ++ rest)
  link : ∀ (link : Link) (rest : Text), Loose (style.link link ++ rest)

namespace Body

variable {pass : Text → Text} {before after style : Style}

theorem begins (spaced : style.Spaced) (body : Body) (rest : Text) : Begins (body.write style ++ rest) := by
  obtain ⟨steps, ending⟩ := body
  cases steps with
  | nil =>
      cases ending with
      | operand last => exact spaced.operand last rest
      | clause clause => exact spaced.clause clause rest
  | cons step steps =>
      simp only [write, writeSteps, List.flatMap_cons, writeStep, List.append_assoc]
      exact spaced.operand step.1 _

theorem pass_ending (passes : Pass pass before after) (ending : Ending) (rest : Text) (loose : Loose rest) :
    pass (writeEnding before ending ++ rest) = writeEnding after ending ++ pass rest := by
  cases ending with
  | operand last => exact passes.operand last rest loose
  | clause clause => exact passes.clause clause rest loose

theorem pass_body (passes : Pass pass before after) (spaced : before.Spaced) (body : Body) (rest : Text)
    (loose : Loose rest) : pass (body.write before ++ rest) = body.write after ++ pass rest := by
  -- Each operand has a link behind it, and each link a word: what the clauses of `Pass` ask for.
  obtain ⟨steps, ending⟩ := body
  induction steps with
  | nil => exact pass_ending passes ending rest loose
  | cons step steps ih =>
      have later := begins spaced ⟨steps, ending⟩ rest
      simp only [write, writeSteps, List.flatMap_cons, writeStep, List.append_assoc] at ih later ⊢
      rw [passes.operand step.1 _ (spaced.link step.2 _), passes.link step.2 _ later, ih]

end Body

theorem Sentence.pass_sentence {pass : Text → Text} {before after : Style}
    (passes : Pass pass before after) (spaced : before.Spaced) (empty : pass [] = []) (sentence : Sentence) :
    pass (sentence.write before) = sentence.write after := by
  obtain ⟨lead, body, trail⟩ := sentence
  have last : pass trail.text = trail.text := by
    have gap := passes.blanks trail.text [] trail.blank (.inl rfl)
    rwa [empty, List.append_nil] at gap
  cases body with
  | none =>
      have first := passes.blanks (lead.text ++ trail.text) [] (by
        rw [Text.all_blank_append, lead.blank, trail.blank]
        rfl) (.inl rfl)
      simpa [write, core, empty] using first
  | some body =>
      have loose : Loose trail.text := by
        have gap := loose_gap trail.text [] trail.blank rfl
        rwa [List.append_nil] at gap
      change pass (lead.text ++ body.write before ++ trail.text) =
        lead.text ++ body.write after ++ trail.text
      rw [List.append_assoc, passes.blanks lead.text _ lead.blank (.inr (Body.begins spaced body trail.text)),
        Body.pass_body passes spaced body trail.text loose, last, List.append_assoc]

end Horoscope
