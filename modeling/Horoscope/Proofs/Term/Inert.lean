import Horoscope.Proofs.Term.Mentions
import Horoscope.Proofs.Text.Passes

set_option autoImplicit false

namespace Horoscope

def Inert (text : Text) : Prop := ∀ rest, Text.Unread Term.read text rest

def openers : List Text := "age".toList :: "time".toList :: Planet.all.map Planet.abbreviation

def isOpener (c : Char) : Bool := openers.any fun word => word.head? == some c.toLower

theorem lead_opener (link text : Text) (result : Planet × Text)
    (read : Term.readLead link text = some result) :
    ∃ word ∈ openers, ∃ rest, Text.keyword word text = some rest := by
  obtain ⟨planet, afterName, -, -, named, -⟩ := Term.lead_parts _ _ _ read
  obtain ⟨written, cut, spelled, -⟩ := (Planet.read_some_iff _ _ _).mp named
  refine ⟨planet.abbreviation, ?_, afterName, (Text.keyword_some_iff _ _ _).mpr ⟨written, cut, spelled⟩⟩
  have listed : planet.abbreviation ∈ Planet.all.map Planet.abbreviation :=
    List.mem_map_of_mem planet.mem_all
  exact List.mem_cons_of_mem _ (List.mem_cons_of_mem _ listed)

theorem read_opener (text : Text) (result : Term × Text) (read : Term.read text = some result) :
    ∃ word ∈ openers, ∃ rest, Text.keyword word text = some rest := by
  rcases (Term.read_some_iff _ _).mp read with ages | periods | conjunct | notWith | inHouse
  · exact ⟨_, List.mem_cons_self, Term.ages_keyword _ _ ages⟩
  · exact ⟨_, List.mem_cons_of_mem _ List.mem_cons_self, Term.periods_keyword _ _ periods⟩
  · obtain ⟨lead, found⟩ := Term.pair_lead _ _ _ _ conjunct
    exact lead_opener _ _ _ found
  · obtain ⟨lead, found⟩ := Term.pair_lead _ _ _ _ notWith
    exact lead_opener _ _ _ found
  · obtain ⟨lead, found⟩ := Term.in_house_lead _ _ inHouse
    exact lead_opener _ _ _ found

theorem read_none_of_keywords (text : Text) (absent : ∀ word ∈ openers, Text.keyword word text = none) :
    Term.read text = none := by
  rw [Option.eq_none_iff_forall_ne_some]
  intro result read
  obtain ⟨word, listed, rest, found⟩ := read_opener text result read
  rw [absent word listed] at found
  cases found

theorem read_none_of_head (c : Char) (rest : Text) (closed : isOpener c = false) :
    Term.read (c :: rest) = none := by
  apply read_none_of_keywords
  intro word listed
  cases word with
  | nil => exact absurd listed (by decide)
  | cons k ks =>
      have different : c.toLower ≠ k := by
        intro same
        subst same
        rw [isOpener, List.any_eq_false] at closed
        exact closed _ listed (by simp)
      rw [Text.keyword, if_neg different]

def parts : Text → Text → Bool
  | k :: ks, c :: rest => c.toLower != k || parts ks rest
  | _, _ => false

def partsThroughout : Text → Bool
  | [] => true
  | c :: rest => openers.all (fun word => parts word (c :: rest)) && partsThroughout rest

theorem keyword_parts (word text rest : Text) (apart : parts word text = true) :
    Text.keyword word (text ++ rest) = none := by
  induction word generalizing text with
  | nil => cases apart
  | cons k ks ih =>
      cases text with
      | nil => cases apart
      | cons c text =>
          rw [parts, Bool.or_eq_true, bne_iff_ne] at apart
          by_cases same : c.toLower = k
          · rw [List.cons_append, Text.keyword, if_pos same]
            exact ih text (apart.resolve_left fun different => different same)
          · exact Text.keyword_other k c ks _ same

theorem inert_of_parts (text : Text) (apart : partsThroughout text = true) : Inert text := by
  intro rest
  induction text with
  | nil => exact Text.unread_nil rest
  | cons c text ih =>
      rw [partsThroughout, Bool.and_eq_true] at apart
      refine (Text.unread_cons_iff c text rest).mpr ⟨read_none_of_keywords _ fun word listed => ?_, ih apart.2⟩
      exact keyword_parts word (c :: text) rest (List.all_eq_true.mp apart.1 word listed)

theorem inert_append (a b : Text) (inertA : Inert a) (inertB : Inert b) : Inert (a ++ b) :=
  fun rest => Text.unread_append a b rest (inertA (b ++ rest)) (inertB rest)

theorem inert_of_chars (text : Text) (closed : text.all (fun c => !isOpener c) = true) : Inert text := by
  refine fun rest => Text.unread_of_chars text rest fun c member tail => read_none_of_head c tail ?_
  simpa using List.all_eq_true.mp closed c member

theorem inert_intercalate (mark : Text) (items : List Text) (inertMark : Inert mark)
    (inertItems : ∀ item ∈ items, Inert item) : Inert (mark.intercalate items) :=
  fun rest => Text.unread_intercalate mark items rest inertItems fun item listed =>
    inert_append mark item inertMark (inertItems item listed)

theorem mentions_before_unread (passed front rest : Text) (unread : Text.Unread Term.read front rest) :
    mentionsBefore passed front rest = [] := by
  rw [List.eq_nil_iff_forall_not_mem]
  intro m member
  obtain ⟨before, c, tail, cut, found⟩ := (mem_mentions_before_iff _ _ _ _).mp member
  obtain ⟨-, t, after, read, -⟩ := (mention_at_some_iff _ _ _ _).mp found
  rw [unread before c tail cut] at read
  cases read

theorem mentions_from_unread (passed text : Text) (unread : Text.Unread Term.read text []) :
    mentionsFrom passed text = [] := by
  have split := mentions_from_append passed text []
  rw [mentions_before_unread passed text [] unread] at split
  simpa [mentionsFrom] using split

theorem mentions_from_inert (passed text : Text) (inert : Inert text) : mentionsFrom passed text = [] :=
  mentions_from_unread passed text (inert [])

end Horoscope
