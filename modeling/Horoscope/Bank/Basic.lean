import Horoscope.Text.Basic

set_option autoImplicit false

namespace Horoscope

structure Rule where
  condition : Text
  result : Text
deriving DecidableEq

structure Bank where
  rules : List Rule
deriving DecidableEq

structure Row where
  id : Nat
  rule : Rule
deriving DecidableEq

namespace Bank

-- Rows are numbered as those of a sheet whose first row holds the headings.
def firstId : Nat := 2

def empty : Bank := ⟨[]⟩

def size (bank : Bank) : Nat := bank.rules.length

def endId (bank : Bank) : Nat := firstId + bank.size

def hasRow (bank : Bank) (id : Nat) : Bool := decide (firstId ≤ id) && decide (id < bank.endId)

def rows (bank : Bank) : List Row :=
  (bank.rules.zipIdx firstId).map fun (rule, id) => ⟨id, rule⟩

def row? (bank : Bank) (id : Nat) : Option Row :=
  if id < firstId then none else bank.rules[id - firstId]?.map fun rule => ⟨id, rule⟩

theorem row_is_some_iff (bank : Bank) (id : Nat) :
    (bank.row? id).isSome ↔ firstId ≤ id ∧ id < bank.endId := by
  unfold row? endId size
  split
  · simp; omega
  · simp; omega

end Bank
end Horoscope
