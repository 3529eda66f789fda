import Horoscope.Proofs.Wording.PlanetNames
import Horoscope.Proofs.Wording.SentenceClause
import Horoscope.Proofs.Wording.Tidy

set_option autoImplicit false

namespace Horoscope

theorem begins_abbreviation (name : PlanetWord) (rest : Text) : Begins (name.spelling.letters ++ rest) := by
  refine begins_spelled _ _ rest name.spelling.spelled ?_
  cases name.planet <;> decide

theorem begins_name (planet : Planet) (rest : Text) : Begins (planet.name ++ rest) := by
  refine begins_spelled (planet.name.map Char.toLower) _ rest rfl ?_
  cases planet <;> decide

theorem begins_natal (natal : Spelling "natal".toList) (rest : Text) : Begins (natal.letters ++ rest) :=
  begins_spelled _ _ rest natal.spelled (by decide)

theorem begins_ages (listed : List Nat) (rest : Text) : Begins (Term.write (.ages listed) ++ rest) := by
  refine ⟨rfl, fun operator => ?_⟩
  cases operator <;> rfl

theorem begins_clause (today : Date) (clause : DatedClause) (rest : Text) :
    Begins (clause.inWords today ++ rest) := by
  rcases clause.in_words_cases today with same | ⟨ranges, same⟩
  · rw [same]
    exact begins_of_head 'T' _ (by decide)
  · rw [same]
    exact begins_of_head 'D' _ (by decide)

theorem spaced_of_parts (style : Style)
    (planet : ∀ name rest, Begins (style.planet name ++ rest))
    (wrap : ∀ natal inside rest, (∀ rest, Begins (inside ++ rest)) → Begins (style.wrap natal inside ++ rest))
    (clause : ∀ clause rest, Begins (style.clause clause ++ rest))
    (link : ∀ link rest, Loose (style.link link ++ rest)) : style.Spaced := by
  have sightings : ∀ (sighting : Sighting) rest, Begins (sighting.write style ++ rest) := by
    intro sighting rest
    rw [sighting.write_parts, List.append_assoc, List.append_assoc]
    exact planet sighting.first _
  refine ⟨fun operand rest => ?_, clause, link⟩
  cases operand with
  | bare sighting => exact sightings sighting rest
  | wrapped natal sighting => exact wrap natal _ rest (sightings sighting)
  | ages listed => exact begins_ages listed rest

theorem loose_space (space : Space) (rest : Text) : Loose (space.text ++ rest) := by
  obtain ⟨gap, nonempty, blank⟩ := space
  cases gap with
  | nil => exact absurd rfl nonempty
  | cons c gap =>
      simp only [Text.allBlank, List.all_cons, Bool.and_eq_true] at blank
      simpa [Loose] using blank.1

theorem loose_link (link : Link) (rest : Text) : Loose (Style.asWritten.link link ++ rest) := by
  simp only [Style.asWritten, List.append_assoc]
  exact loose_space link.left _

namespace Style

def named (today : Date) : Style := { restated today with planet := fun name => name.planet.name }

def unwrapped (today : Date) : Style := { named today with wrap := fun _ inside => inside }

def capitalized (today : Date) (done : Operator → Bool) : Style :=
  { unwrapped today with
    link := fun link =>
      if done link.operator then ' ' :: link.operator.capitals ++ [' '] else asWritten.link link }

theorem restated_spaced (today : Date) : (restated today).Spaced :=
  spaced_of_parts _ begins_abbreviation (fun natal _ rest _ => by
      simpa [restated, asWritten] using begins_natal natal _)
    (begins_clause today) loose_link

theorem named_spaced (today : Date) : (named today).Spaced :=
  spaced_of_parts _ (fun name => begins_name name.planet) (fun natal _ rest _ => by
      simpa [named, restated, asWritten] using begins_natal natal _)
    (begins_clause today) loose_link

theorem capitalized_spaced (today : Date) (done : Operator → Bool) : (capitalized today done).Spaced := by
  refine spaced_of_parts _ (fun name => begins_name name.planet) (fun _ _ rest inside => inside rest)
    (begins_clause today) fun link rest => ?_
  simp only [capitalized]
  by_cases capital : done link.operator = true
  · rw [if_pos capital]
    rfl
  · rw [if_neg capital]
    exact loose_link link rest

end Style

namespace PlanetNames

theorem expand_kind (kind : Char → Bool) (ascii : ∀ c, kind c = true → c.toNat < 128)
    (plain : (List.range 128).all (fun n => !kind (Char.ofNat n) || !isPlanetInitial (Char.ofNat n)) = true)
    (text rest : Text) (all : text.all kind = true) (ended : rest.head?.any isWordChar = false) :
    expand (text ++ rest) = text ++ expand rest := by
  have every := ascii_kind_property kind (fun c => !isPlanetInitial c) ascii plain text all
  exact expand_foreign text rest every ended

theorem expand_blanks (gap rest : Text) (blank : Text.allBlank gap = true) :
    expand (gap ++ rest) = gap ++ expand rest :=
  expand_between gap rest fun c member => blank_not_word c (List.all_eq_true.mp blank c member)

theorem expand_space (rest : Text) : expand (' ' :: rest) = ' ' :: expand rest :=
  expand_cons ' ' rest (by decide)

theorem expand_letters (word letters rest : Text) (spelled : Spells word letters)
    (plain : word.all Char.isAlphanum = true) (nonempty : word ≠ [])
    (ended : rest.head?.any isWordChar = false) :
    expand (letters ++ rest) = expandRun letters ++ expand rest := by
  have alphanumeric := spells_all Char.isAlphanum word letters spelled lower_alphanumeric plain
  have all : letters.all isWordChar = true := by
    rw [List.all_eq_true] at alphanumeric ⊢
    exact fun c member => alphanumeric_word c (alphanumeric c member)
  exact expand_word letters rest (spells_nonempty word letters spelled nonempty) all ended

theorem expand_plain (word letters rest : Text) (spelled : Spells word letters)
    (plain : word.all Char.isAlphanum = true) (nonempty : word ≠ [])
    (other : Planet.ofAbbreviation? word = none) (ended : rest.head?.any isWordChar = false) :
    expand (letters ++ rest) = letters ++ expand rest := by
  rw [expand_letters word letters rest spelled plain nonempty ended,
    expand_run_other word letters spelled other]

theorem expand_name (name : PlanetWord) (rest : Text) (ended : rest.head?.any isWordChar = false) :
    expand (name.spelling.letters ++ rest) = name.planet.name ++ expand rest := by
  obtain ⟨plain, nonempty, -⟩ := name.planet.abbreviation_plain
  rw [expand_letters _ _ rest name.spelling.spelled plain nonempty ended,
    expand_run_abbreviation name.planet _ name.spelling.spelled]

theorem expand_linking (sighting : Sighting) (rest : Text) (ended : rest.head?.any isWordChar = false) :
    expand (sighting.link ++ rest) = sighting.link ++ expand rest := by
  rcases sighting.link_cases with link | link | link <;> rw [link]
  · exact expand_foreign _ rest (by decide) ended
  · exact expand_plain _ _ rest rfl (by decide) (by decide) (by decide) ended
  · exact expand_foreign _ rest (by decide) ended

theorem expand_last (today : Date) (sighting : Sighting) (rest : Text)
    (ended : rest.head?.any isWordChar = false) :
    expand (sighting.last (Style.restated today) ++ rest) =
      sighting.last (Style.named today) ++ expand rest := by
  rcases sighting.last_cases with ⟨house, same⟩ | ⟨name, same⟩
  · rw [same, same]
    exact expand_kind _ digit_ascii (by decide) _ rest (Decimal.write_digits house) ended
  · rw [same, same]
    exact expand_name name rest ended

theorem expand_sighting (today : Date) (sighting : Sighting) (rest : Text)
    (ended : rest.head?.any isWordChar = false) :
    expand (sighting.write (Style.restated today) ++ rest) =
      sighting.write (Style.named today) ++ expand rest := by
  have space : ∀ tail : Text, (' ' :: tail).head?.any isWordChar = false := by
    intro tail
    exact blank_not_word ' ' (by decide)
  have name := expand_name sighting.first
    (' ' :: (sighting.link ++ ' ' :: (sighting.last (Style.restated today) ++ rest))) (space _)
  rw [expand_space, expand_linking sighting _ (space _), expand_space,
    expand_last today sighting rest ended] at name
  simpa [Sighting.write_parts, Style.restated, Style.named, Style.asWritten] using name

theorem expand_operand (today : Date) (operand : Operand) (rest : Text) (loose : Loose rest) :
    expand (operand.write (Style.restated today) ++ rest) =
      operand.write (Style.named today) ++ expand rest := by
  have ended := loose_not_word rest loose
  cases operand with
  | bare sighting => exact expand_sighting today sighting rest ended
  | wrapped natal sighting =>
      have wrapper : ∀ tail : Text, tail.head?.any isWordChar = false →
          expand (natal.letters ++ tail) = natal.letters ++ expand tail :=
        fun tail apart => expand_plain _ _ tail natal.spelled (by decide) (by decide) (by decide) apart
      have mark : ∀ c : Char, isWordChar c = false → ∀ tail : Text, (c :: tail).head?.any isWordChar = false :=
        fun c other _ => other
      have opening : isWordChar '(' = false := by decide
      have closing : isWordChar ')' = false := by decide
      have inside := expand_sighting today sighting (')' :: rest) (mark ')' closing rest)
      rw [expand_cons ')' rest closing] at inside
      have whole : expand (natal.letters ++ '(' :: (sighting.write (Style.restated today) ++ ')' :: rest)) =
          natal.letters ++ '(' :: (sighting.write (Style.named today) ++ ')' :: expand rest) := by
        rw [wrapper _ (mark '(' opening _), expand_cons '(' _ opening, inside]
      simpa [Operand.write, Style.restated, Style.named, Style.asWritten] using whole
  | ages listed =>
      exact expand_kind _ age_mark_ascii (by decide) _ rest (Term.ages_marks listed) ended

theorem expand_link (link : Link) (rest : Text) :
    expand (Style.asWritten.link link ++ rest) = Style.asWritten.link link ++ expand rest := by
  obtain ⟨operator, spelling, left, right⟩ := link
  have ended : (right.text ++ rest).head?.any isWordChar = false :=
    loose_not_word _ (loose_space right rest)
  have word : expand (spelling.letters ++ (right.text ++ rest)) =
      spelling.letters ++ expand (right.text ++ rest) := by
    refine expand_plain _ _ _ spelling.spelled ?_ ?_ ?_ ended <;> cases operator <;> decide
  simp only [Style.asWritten, List.append_assoc]
  rw [expand_blanks _ _ left.wide.2, word, expand_blanks _ _ right.wide.2]

theorem expand_clause (today : Date) (clause : DatedClause) (rest : Text) (loose : Loose rest) :
    expand (clause.inWords today ++ rest) = clause.inWords today ++ expand rest := by
  have ended := loose_not_word rest loose
  rcases clause.in_words_cases today with same | ⟨ranges, same⟩
  · obtain ⟨tail, cut, marks⟩ := Term.periods_marks clause.listed
    have opening : isWordChar '(' = false := by decide
    have name := expand_plain "time".toList "TIME".toList ('(' :: (tail ++ rest)) rfl (by decide)
      (by decide) (by decide) opening
    rw [expand_cons '(' _ opening, expand_kind _ clause_mark_ascii (by decide) tail rest marks ended] at name
    rw [same, cut, List.append_assoc, List.cons_append, name, List.append_assoc, List.cons_append]
  · obtain ⟨tail, cut, marks⟩ := TimeClause.birth_clause_marks ranges
    have name := expand_foreign "DOB".toList (' ' :: (tail ++ rest)) (by decide)
      (blank_not_word ' ' (by decide))
    rw [expand_space, expand_kind _ clause_mark_ascii (by decide) tail rest marks ended] at name
    rw [same, cut, List.append_assoc, List.cons_append, name, List.append_assoc, List.cons_append]

theorem expand_pass (today : Date) : Pass expand (Style.restated today) (Style.named today) where
  blanks gap rest blank _ := expand_blanks gap rest blank
  operand := expand_operand today
  link link rest _ := expand_link link rest
  clause := expand_clause today

end PlanetNames

namespace Tidy

theorem loose_not_a (rest : Text) (loose : Loose rest) : ∀ d ∈ rest.head?, d.toLower ≠ 'a' := by
  intro d head
  rw [Loose, Option.mem_def.mp head, Option.all_some] at loose
  simpa using blank_property (fun c => c.toLower != 'a') (by decide) d loose

theorem unread_blanks (gap rest : Text) (blank : Text.allBlank gap = true) :
    Text.Unread readWrapper gap rest := by
  refine unread_wrapper gap rest (List.all_eq_true.mpr fun c member => ?_)
  exact blank_property (fun c => c.toLower != 'n') (by decide) c (List.all_eq_true.mp blank c member)

theorem unread_kind (kind : Char → Bool) (ascii : ∀ c, kind c = true → c.toNat < 128)
    (plain : (List.range 128).all (fun n => !kind (Char.ofNat n) || (Char.ofNat n).toLower != 'n') = true)
    (text rest : Text) (all : text.all kind = true) : Text.Unread readWrapper text rest := by
  exact unread_wrapper text rest
    (ascii_kind_property kind (fun c => c.toLower != 'n') ascii plain text all)

theorem unread_name (planet : Planet) (rest : Text) (ended : ∀ d ∈ rest.head?, d.toLower ≠ 'a') :
    Text.Unread readWrapper planet.name rest := by
  refine unread_apart planet.name rest ?_ fun _ _ d head _ => ended d head
  cases planet <;> decide

theorem unread_between (text rest : Text)
    (apart : (text.map Char.toLower).IsChain fun c d => c = 'n' → d ≠ 'a')
    (last : text.getLast?.all (fun c => c.toLower != 'n') = true) : Text.Unread readWrapper text rest := by
  refine unread_apart text rest apart fun c atEnd d _ first => ?_
  rw [Option.mem_def.mp atEnd, Option.all_some, first] at last
  cases last

theorem unread_sighting (today : Date) (sighting : Sighting) (rest : Text)
    (ended : ∀ d ∈ rest.head?, d.toLower ≠ 'a') :
    Text.Unread readWrapper (sighting.write (Style.named today)) rest := by
  rw [sighting.write_parts]
  refine Text.unread_append _ _ _ (Text.unread_append _ _ _ ?_ ?_) ?_
  · refine unread_name sighting.first.planet _ fun d found => ?_
    cases found
    decide
  · rcases sighting.link_cases with link | link | link <;> rw [link] <;>
      exact unread_between _ _ (by decide) (by decide)
  · rcases sighting.last_cases with ⟨house, same⟩ | ⟨name, same⟩
    · rw [same]
      exact unread_kind _ digit_ascii (by decide) _ rest (Decimal.write_digits house)
    · rw [same]
      exact unread_name name.planet rest ended

theorem sighting_unclosed (today : Date) (sighting : Sighting) :
    ')' ∉ sighting.write (Style.named today) := by
  have named : ∀ planet : Planet, ')' ∉ planet.name := by
    intro planet
    cases planet <;> decide
  have linked : ')' ∉ ' ' :: sighting.link ++ [' '] := by
    rcases sighting.link_cases with link | link | link <;> rw [link] <;> decide
  have last : ')' ∉ sighting.last (Style.named today) := by
    rcases sighting.last_cases with ⟨house, same⟩ | ⟨name, same⟩
    · rw [same]
      exact not_mem_of_all Char.isDigit _ ')' (Decimal.write_digits house) rfl
    · rw [same]
      exact named name.planet
  rw [sighting.write_parts, List.mem_append, List.mem_append, not_or, not_or]
  exact ⟨⟨named sighting.first.planet, linked⟩, last⟩

theorem unwrap_operand (today : Date) (operand : Operand) (rest : Text) (loose : Loose rest) :
    unwrap (operand.write (Style.named today) ++ rest) =
      operand.write (Style.unwrapped today) ++ unwrap rest := by
  cases operand with
  | bare sighting =>
      exact Text.replace_all_skips _ _ _ (unread_sighting today sighting rest (loose_not_a rest loose))
  | wrapped natal sighting =>
      have nonempty : sighting.write (Style.named today) ≠ [] := by
        simp [Sighting.write_parts]
      have found := wrapper_taken natal.letters [] _ rest natal.spelled rfl nonempty
        (sighting_unclosed today sighting)
      have taken := Text.replace_all_takes readWrapper
        (natal.letters ++ '(' :: (sighting.write (Style.named today) ++ [')'])) _ rest (by simp)
        (by simpa using found)
      exact taken
  | ages listed =>
      exact Text.replace_all_skips _ _ _
        (unread_kind _ age_mark_ascii (by decide) _ rest (Term.ages_marks listed))

theorem unwrap_link (link : Link) (rest : Text) :
    unwrap (Style.asWritten.link link ++ rest) = Style.asWritten.link link ++ unwrap rest := by
  refine Text.replace_all_skips _ _ _ (Text.unread_append _ _ _ (Text.unread_append _ _ _ ?_ ?_) ?_)
  · exact unread_blanks _ _ link.left.wide.2
  · refine unread_apart _ _ ?_ fun _ _ d head _ => loose_not_a _ (loose_space link.right rest) d head
    rw [link.spelling.spelled]
    cases link.operator <;> decide
  · exact unread_blanks _ _ link.right.wide.2

theorem unwrap_clause (today : Date) (clause : DatedClause) (rest : Text) :
    unwrap (clause.inWords today ++ rest) = clause.inWords today ++ unwrap rest := by
  apply Text.replace_all_skips
  have marks : ∀ tail rest : Text, tail.all isClauseMark = true → Text.Unread readWrapper tail rest :=
    fun tail rest => unread_kind _ clause_mark_ascii (by decide) tail rest
  rcases clause.in_words_cases today with same | ⟨ranges, same⟩
  · obtain ⟨tail, cut, tailMarks⟩ := Term.periods_marks clause.listed
    rw [same, cut]
    refine Text.unread_append _ _ _ (unread_wrapper _ _ (by decide)) (marks ('(' :: tail) rest ?_)
    rw [List.all_cons, tailMarks]
    decide
  · obtain ⟨tail, cut, tailMarks⟩ := TimeClause.birth_clause_marks ranges
    rw [same, cut]
    refine Text.unread_append _ _ _ (unread_wrapper _ _ (by decide)) (marks (' ' :: tail) rest ?_)
    rw [List.all_cons, tailMarks]
    decide

theorem unwrap_pass (today : Date) : Pass unwrap (Style.named today) (Style.unwrapped today) where
  blanks gap rest blank _ := Text.replace_all_skips _ _ _ (unread_blanks gap rest blank)
  operand := unwrap_operand today
  link link rest _ := unwrap_link link rest
  clause clause rest _ := unwrap_clause today clause rest

end Tidy
end Horoscope
