import Horoscope.Proofs.Term.Inert
import Horoscope.Proofs.Term.Linked
import Horoscope.Proofs.Term.Places
import Horoscope.Proofs.Wording.Sentence

set_option autoImplicit false

namespace Horoscope

theorem mentions_linked (passed front next : Text) (resumes : Resumes next) (closed : Closed front) :
    (mentionsBefore passed front (' ' :: next)).map Mention.term =
      (mentionsFrom passed front).map Mention.term := by
  induction front generalizing passed with
  | nil => rfl
  | cons c front ih =>
      have here := Term.read_linked (c :: front) resumes closed
      rw [List.cons_append] at here
      rw [mentionsBefore, mentionsFrom, List.map_append, List.map_append, ih (c :: passed) closed.2,
        ← Option.toList_map, ← Option.toList_map, mention_at_term, mention_at_term, here]

namespace Operator

def join (operator : Operator) (a b : Text) : Text := a ++ ' ' :: operator.capitals ++ ' ' :: b

theorem capitals_resume (operator : Operator) (rest : Text) : Resumes (operator.capitals ++ rest) := by
  cases operator with
  | and => exact .inl rfl
  | or => exact .inr rfl

-- Two of the letters begin terms too, but neither goes on like one.
theorem inert_capitals (operator : Operator) : Inert (operator.capitals ++ [' ']) := by
  cases operator <;> exact inert_of_parts _ (by decide)

end Operator

theorem terms_joined (operator : Operator) (a b : Text) (closed : Closed a) :
    terms (operator.join a b) = terms a ++ terms b := by
  have front := mentions_linked [] a (operator.capitals ++ ' ' :: b) (operator.capitals_resume _) closed
  have between : mentionsBefore a.reverse (' ' :: operator.capitals ++ [' ']) b = [] :=
    mentions_before_unread _ _ _
      (inert_append [' '] _ (inert_of_chars _ (by decide)) operator.inert_capitals b)
  have behind : (mentionsFrom ((' ' :: operator.capitals ++ [' ']).reverse ++ a.reverse) b).map Mention.term =
      terms b :=
    mentions_behind _ b (by simp [blank_not_name ' ' (by decide)])
  have whole : operator.join a b = a ++ ((' ' :: operator.capitals ++ [' ']) ++ b) := by
    simp [Operator.join]
  have text : (' ' :: operator.capitals ++ [' ']) ++ b = ' ' :: (operator.capitals ++ ' ' :: b) := by simp
  rw [terms, whole, mentions_split, List.map_append, text, front, ← text, mentions_from_append, between,
    List.nil_append, behind, ← mentions, ← terms]

example : Operator.or.join "sat in 1".toList "sun in 2".toList = "sat in 1 OR sun in 2".toList := rfl

end Horoscope
