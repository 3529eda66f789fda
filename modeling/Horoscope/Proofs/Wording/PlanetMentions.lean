import Horoscope.Proofs.Wording.ClosingClause
import Horoscope.Proofs.Wording.NameSearch

set_option autoImplicit false

namespace Horoscope

structure Naming where
  planet : Planet
  start : Nat
  stop : Nat

namespace Naming

def leading (p : Planet) (start : Nat) : Naming := ⟨p, start, start + p.abbreviation.length⟩

def trailing (p : Planet) (stop : Nat) : Naming := ⟨p, stop - p.abbreviation.length, stop⟩

def StandsIn (n : Naming) (text : Text) : Prop :=
  ∃ before name rest, Slice text n.start n.stop before name rest ∧ Spells n.planet.abbreviation name ∧
    before.getLast?.any isWordChar = false ∧ rest.head?.any isWordChar = false

def ExpandedIn (n : Naming) (text : Text) : Prop :=
  ∃ left written right, NameSearch.pieces text = left ++ .found written :: right ∧
    Slice text n.start n.stop (left.flatMap NameSearch.Piece.source) written
      (right.flatMap NameSearch.Piece.source) ∧
    PlanetNames.expand text = left.flatMap NameSearch.Piece.replaced ++ n.planet.name ++
      right.flatMap NameSearch.Piece.replaced

end Naming

def Term.names (start stop : Nat) : Term → List Naming
  | inHouse planet _ => [.leading planet start]
  | conjunct a b => [.leading a start, .trailing b stop]
  | notWith a b => [.leading a start, .trailing b stop]
  | ages _ => []
  | periods _ => []

theorem Text.byte_length_alphanumeric (text : Text) (plain : text.all Char.isAlphanum = true) :
    byteLength text = text.length := by
  induction text with
  | nil => rfl
  | cons c rest ih =>
      rw [List.all_cons, Bool.and_eq_true] at plain
      have ascii := alphanumeric_ascii c plain.1
      have small : c.toNat ≤ 127 := by omega
      have size : c.utf8Size = 1 := Char.utf8Size_eq_one_iff.mpr (UInt32.le_iff_toNat_le.mpr small)
      rw [byteLength, List.length_cons, ih plain.2, size, Nat.add_comm]

namespace Planet

theorem spelled_letters (p : Planet) (name : Text) (spelled : Spells p.abbreviation name) :
    name ≠ [] ∧ name.all Char.isAlphanum = true := by
  obtain ⟨plain, nonempty, -⟩ := p.abbreviation_plain
  exact ⟨spells_nonempty _ _ spelled nonempty, spells_all Char.isAlphanum _ _ spelled lower_alphanumeric plain⟩

theorem spelled_length (p : Planet) (name : Text) (spelled : Spells p.abbreviation name) :
    Text.byteLength name = p.abbreviation.length := by
  rw [Text.byte_length_alphanumeric name (p.spelled_letters name spelled).2, ← spelled, List.length_map]

end Planet

theorem NameSearch.pieces_whole_word (before name rest : Text) (p : Planet)
    (spelled : Spells p.abbreviation name) (outside : before.getLast?.any isWordChar = false)
    (ended : rest.head?.any isWordChar = false) :
    pieces (before ++ name ++ rest) =
      (Text.runs before).flatMap runPieces ++ .found name :: (Text.runs rest).flatMap runPieces := by
  obtain ⟨nonempty, plain⟩ := p.spelled_letters name spelled
  have word : name.all isWordChar = true := by
    rw [List.all_eq_true] at plain ⊢
    exact fun c inside => alphanumeric_word c (plain c inside)
  have apart : ∀ x ∈ before.getLast?, ∀ y ∈ (name ++ rest).head?, (isWordChar x == isWordChar y) = false := by
    intro x last y first
    rw [Option.mem_def.mp last, Option.any_some] at outside
    rw [List.head?_append_of_ne_nil name nonempty] at first
    rw [outside, List.all_eq_true.mp word y (List.mem_of_head? first)]
    rfl
  rw [List.append_assoc, pieces_eq_runs, Text.runs_append before _ apart,
    Text.runs_word name rest nonempty word ended, List.flatMap_append, List.flatMap_cons, runPieces,
    if_pos (named_of_spelled p name spelled), List.singleton_append]

theorem Naming.expanded_of_stands (n : Naming) (text : Text) (stands : n.StandsIn text) : n.ExpandedIn text := by
  obtain ⟨before, name, rest, slice, spelled, outside, ended⟩ := stands
  have cut := NameSearch.pieces_whole_word before name rest n.planet spelled outside ended
  rw [← slice.1] at cut
  refine ⟨_, name, _, cut, ?_, ?_⟩
  · rw [NameSearch.runs_pieces_source, NameSearch.runs_pieces_source]
    exact slice
  · rw [← NameSearch.substitute_eq_expand, NameSearch.substitute, cut, List.flatMap_append, List.flatMap_cons,
      NameSearch.Piece.replaced, PlanetNames.expand_run_abbreviation n.planet name spelled, List.append_assoc]

-- No character but those of ASCII carries words of prose on without carrying words of the notation on.
-- In ASCII the two notions of a word are one.
def WordsAlike (text : Text) : Prop :=
  ∀ c ∈ text, c.toNat < 128 ∨ (isWordChar c = true → extendsName c = true)

theorem words_alike_name (text : Text) (alike : WordsAlike text) (c : Char) (inside : c ∈ text)
    (word : isWordChar c = true) : isNameChar c = true := by
  rcases alike c inside with ascii | extending
  · have all := ascii_property (fun c => !isWordChar c || isNameChar c) (by decide) c ascii
    simpa [word] using all
  · exact word_extending_name c word (extending word)

theorem words_alike_apart (text : Text) (alike : WordsAlike text) (next : Option Char)
    (inside : ∀ c ∈ next, c ∈ text) (apart : next.any isNameChar = false) : next.any isWordChar = false := by
  cases next with
  | none => rfl
  | some c =>
      rw [Option.any_some, Bool.eq_false_iff] at apart ⊢
      exact fun word => apart (words_alike_name text alike c (inside c rfl) word)

theorem detached_outside (text before tail : Text) (alike : WordsAlike text) (cut : text = before ++ tail)
    (detached : Detached before) : before.getLast?.any isWordChar = false := by
  refine words_alike_apart text alike _ (fun c last => ?_) detached
  rw [cut]
  exact List.mem_append_left _ (List.mem_of_getLast? last)

theorem word_end_outside (text front rest : Text) (alike : WordsAlike text) (cut : text = front ++ rest)
    (ended : Text.atWordEnd rest = true) : rest.head?.any isWordChar = false := by
  have apart : rest.head?.any isNameChar = false := by
    cases rest with
    | nil => rfl
    | cons c tail =>
        simp only [Text.atWordEnd, List.head?_cons, Option.any_some, extendsName, Bool.not_eq_true',
          Bool.or_eq_false_iff] at ended
        exact ended.1
  refine words_alike_apart text alike _ (fun c first => ?_) apart
  rw [cut]
  exact List.mem_append_right _ (List.mem_of_head? first)

theorem lead_stands (text before lead tail link : Text) (p : Planet) (alike : WordsAlike text)
    (cut : text = before ++ lead ++ tail) (detached : Detached before) (leads : LeadNotation link p lead) :
    (Naming.leading p (Text.byteLength before)).StandsIn text := by
  obtain ⟨name, gap, word, space, rfl, spelled, wide, -⟩ := leads
  have parts : text = before ++ name ++ (gap ++ word ++ space ++ tail) := by
    simp only [cut, List.append_assoc]
  have ended : Text.atWordEnd (gap ++ word ++ space ++ tail) = true := by
    rw [List.append_assoc, List.append_assoc]
    exact gap_ends_word gap _ wide
  refine ⟨before, name, gap ++ word ++ space ++ tail, ⟨parts, rfl, ?_⟩, spelled, ?_, ?_⟩
  · rw [Text.byte_length_append, p.spelled_length name spelled]
    rfl
  · exact detached_outside text before _ alike (by rw [parts, List.append_assoc]) detached
  · exact word_end_outside text _ _ alike parts ended

theorem lead_detached (link lead before : Text) (p : Planet) (leads : LeadNotation link p lead) :
    Detached (before ++ lead) := by
  obtain ⟨name, gap, word, space, rfl, -, -, -, wide⟩ := leads
  rw [← List.append_assoc]
  exact detached_gap _ space wide

theorem pair_stands (text link before written after : Text) (a b : Planet) (alike : WordsAlike text)
    (cut : text = before ++ written ++ after) (detached : Detached before) (form : PairNotation link a b written)
    (ended : Text.atWordEnd after = true) :
    (Naming.leading a (Text.byteLength before)).StandsIn text ∧
      (Naming.trailing b (Text.byteLength (before ++ written))).StandsIn text := by
  obtain ⟨lead, name, rfl, leads, spelled⟩ := form
  have parts : text = before ++ lead ++ name ++ after := by
    rw [cut, ← List.append_assoc before lead name]
  refine ⟨lead_stands text before lead (name ++ after) link a alike ?_ detached leads, before ++ lead, name, after,
    ⟨parts, ?_, ?_⟩, spelled, ?_, word_end_outside text _ after alike parts ended⟩
  · rw [parts, List.append_assoc]
  · rw [Naming.trailing, ← List.append_assoc, Text.byte_length_append _ name, b.spelled_length name spelled]
    exact (Nat.add_sub_cancel _ _).symm
  · rw [List.append_assoc]
    rfl
  · refine detached_outside text (before ++ lead) (name ++ after) alike ?_ (lead_detached link lead before a leads)
    rw [parts, List.append_assoc]

theorem mentioned_names_stand (text : Text) (alike : WordsAlike text) (start stop : Nat) (t : Term)
    (mentioned : MentionedAt text start stop t) : ∀ n ∈ t.names start stop, n.StandsIn text := by
  obtain ⟨before, written, after, ⟨cut, rfl, rfl⟩, detached, form⟩ := (mentioned_at_iff _ _ _ _).mp mentioned
  cases t with
  | inHouse p house =>
      obtain ⟨⟨lead, figure, rfl, leads, -⟩, -⟩ := form
      rw [← List.append_assoc, List.append_assoc (before ++ lead)] at cut
      exact List.forall_mem_singleton.mpr
        (lead_stands text before lead (figure ++ after) _ p alike cut detached leads)
  | conjunct a b =>
      obtain ⟨first, second⟩ := pair_stands text _ before written after a b alike cut detached form.1 form.2
      exact List.forall_mem_cons.mpr ⟨first, List.forall_mem_singleton.mpr second⟩
  | notWith a b =>
      obtain ⟨first, second⟩ := pair_stands text _ before written after a b alike cut detached form.1 form.2
      exact List.forall_mem_cons.mpr ⟨first, List.forall_mem_singleton.mpr second⟩
  | ages listed =>
      intro n named
      cases named
  | periods listed =>
      intro n named
      cases named

-- A cut that leaves no word under way goes through no name.
theorem Naming.stands_in_kept (n : Naming) (kept gone other : Text) (stands : n.StandsIn (kept ++ gone))
    (detached : Detached kept) : n.StandsIn (kept ++ other) ∨ Text.byteLength kept ≤ n.start := by
  obtain ⟨before, name, rest, ⟨cut, start, stop⟩, spelled, outside, ended⟩ := stands
  obtain ⟨nonempty, plain⟩ := n.planet.spelled_letters name spelled
  have unsplit : ∀ front tail, name = front ++ tail → kept = before ++ front → front = [] := by
    intro front tail split whole
    by_contra filled
    rw [split, List.all_append, Bool.and_eq_true] at plain
    rw [whole] at detached
    exact alphanumeric_attached front filled plain.1 (detached_append before front detached)
  rw [List.append_assoc] at cut
  rcases List.append_eq_append_iff.mp cut with ⟨middle, behind, -⟩ | ⟨middle, rfl, cutRest⟩
  · right
    rw [← start, behind, Text.byte_length_append]
    omega
  · rcases List.append_eq_append_iff.mp cutRest with ⟨later, whole, rfl⟩ | ⟨later, rfl, -⟩
    · left
      have filled : later ≠ [] := by
        intro empty
        rw [empty, List.append_nil] at whole
        exact nonempty (unsplit name [] (List.append_nil name).symm (by rw [whole]))
      refine ⟨before, name, later ++ other, ⟨?_, start, stop⟩, spelled, outside, ?_⟩
      · rw [whole, List.append_assoc, List.append_assoc, List.append_assoc]
      · rw [List.head?_append_of_ne_nil later filled] at ended ⊢
        exact ended
    · right
      rw [← start, unsplit middle later rfl rfl, List.append_nil]

theorem Naming.stands_in_restated (n : Naming) (today : Date) (text : Text) (stands : n.StandsIn text) :
    n.StandsIn (TimeClause.restate today text) ∨
      ∃ kept ranges, kept <+: text ∧ TimeClause.restate today text = kept ++ TimeClause.birthClause ranges ∧
        Text.byteLength kept ≤ n.start := by
  cases found : TimeClause.find? text with
  | none =>
      left
      rw [TimeClause.restate_of_none today text found]
      exact stands
  | some result =>
      obtain ⟨before, listed⟩ := result
      have whole := TimeClause.restate_of_some today text before listed found
      obtain ⟨m, first, -, rfl⟩ := (TimeClause.find_some_iff _ _ _).mp found
      obtain ⟨-, cut, detached, -⟩ := mention_parts text m (first_member text m first)
      by_cases empty : listed.filterMap (BirthRange.ofPeriod? today) = []
      · left
        rw [whole, if_pos empty]
        exact stands
      · rw [whole, if_neg empty]
        rw [cut] at stands
        rcases n.stands_in_kept m.before m.text (TimeClause.birthClause _) stands detached with kept | gone
        · exact .inl kept
        · exact .inr ⟨m.before, _, ⟨m.text, cut.symm⟩, rfl, gone⟩

theorem mentioned_planets_spelled_out (text : Text) (alike : WordsAlike text) (start stop : Nat) (t : Term)
    (mentioned : MentionedAt text start stop t) :
    ∀ n ∈ t.names start stop, n.ExpandedIn text ∧
      ∀ today, n.ExpandedIn (TimeClause.restate today text) ∨
        ∃ kept ranges, kept <+: text ∧
          TimeClause.restate today text = kept ++ TimeClause.birthClause ranges ∧
            Text.byteLength kept ≤ n.start := by
  intro n named
  have stands := mentioned_names_stand text alike start stop t mentioned n named
  refine ⟨n.expanded_of_stands text stands, fun today => ?_⟩
  rcases n.stands_in_restated today text stands with kept | gone
  · exact .inl (n.expanded_of_stands _ kept)
  · exact .inr gone

theorem shared_planet_spelled_out :
    WordsAlike "Sun conjunct MOON in 4".toList ∧
    MentionedAt "Sun conjunct MOON in 4".toList 0 17 (.conjunct .sun .moon) ∧
    MentionedAt "Sun conjunct MOON in 4".toList 13 22 (.inHouse .moon 4) ∧
    (Naming.mk .sun 0 3).ExpandedIn "Sun conjunct MOON in 4".toList ∧
    (Naming.mk .moon 13 17).ExpandedIn "Sun conjunct MOON in 4".toList := by
  have alike : WordsAlike "Sun conjunct MOON in 4".toList := by
    have ascii : "Sun conjunct MOON in 4".toList.all (fun c => decide (c.toNat < 128)) = true := by decide
    exact fun c inside => .inl (of_decide_eq_true (List.all_eq_true.mp ascii c inside))
  have pair : MentionedAt "Sun conjunct MOON in 4".toList 0 17 (.conjunct .sun .moon) := by
    unfold MentionedAt
    decide +kernel
  have housed : MentionedAt "Sun conjunct MOON in 4".toList 13 22 (.inHouse .moon 4) := by
    unfold MentionedAt
    decide +kernel
  have first := mentioned_planets_spelled_out _ alike 0 17 _ pair (.mk .sun 0 3) List.mem_cons_self
  have second := mentioned_planets_spelled_out _ alike 13 22 _ housed (.mk .moon 13 17) List.mem_cons_self
  exact ⟨alike, pair, housed, first.1, second.1⟩

end Horoscope
