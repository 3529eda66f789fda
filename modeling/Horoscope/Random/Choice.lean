set_option autoImplicit false

namespace Horoscope

class RandomSource (σ : Type) where
  next : σ → UInt32 × σ

namespace RandomSource

variable {σ : Type} [RandomSource σ]

-- The greatest low half of a scaled word that is accepted: the length shifted up as far as 32 bits
-- allow, less one.
def zone (length : Nat) : Nat := (length <<< (31 - Nat.log2 length)) - 1

-- More than half of all words are accepted, so the last attempt is out of reach in practice.
def attempts : Nat := 256

def place (length : Nat) : Nat → σ → Nat × σ
  | 0, source =>
    let (word, source) := next source
    (word.toNat * length / UInt32.size, source)
  | more + 1, source =>
    let (word, source) := next source
    let scaled := word.toNat * length
    if scaled % UInt32.size ≤ zone length then (scaled / UInt32.size, source) else place length more source

def draw {α : Type} (options : List α) (source : σ) : Option α × σ :=
  if options.isEmpty then (none, source)
  else
    let (index, source) := place options.length attempts source
    (options[index]?, source)

end RandomSource
end Horoscope
