import Horoscope.Random.Choice

set_option autoImplicit false

namespace Horoscope.ChaCha

structure Row where
  a : UInt32
  b : UInt32
  c : UInt32
  d : UInt32

namespace Row

def zipWith (op : UInt32 → UInt32 → UInt32) (x y : Row) : Row :=
  ⟨op x.a y.a, op x.b y.b, op x.c y.c, op x.d y.d⟩

def add (x y : Row) : Row := zipWith (· + ·) x y

def mix (bits : UInt32) (x y : Row) : Row :=
  zipWith (fun u v => let w := u ^^^ v; (w <<< bits) ||| (w >>> (32 - bits))) x y

def turn (x : Row) : Row := ⟨x.b, x.c, x.d, x.a⟩

def words (x : Row) : List UInt32 := [x.a, x.b, x.c, x.d]

end Row

structure Square where
  a : Row
  b : Row
  c : Row
  d : Row

namespace Square

def columnRound (s : Square) : Square :=
  let a := s.a.add s.b
  let d := s.d.mix 16 a
  let c := s.c.add d
  let b := s.b.mix 12 c
  let a := a.add b
  let d := d.mix 8 a
  let c := c.add d
  let b := b.mix 7 c
  ⟨a, b, c, d⟩

-- A round on the columns, then one on the diagonals, which are columns once the rows are turned.
def doubleRound (s : Square) : Square :=
  let s := s.columnRound
  let s := columnRound ⟨s.a, s.b.turn, s.c.turn.turn, s.d.turn.turn.turn⟩
  ⟨s.a, s.b.turn.turn.turn, s.c.turn.turn, s.d.turn⟩

def add (s t : Square) : Square := ⟨s.a.add t.a, s.b.add t.b, s.c.add t.c, s.d.add t.d⟩

def words (s : Square) : List UInt32 := s.a.words ++ s.b.words ++ s.c.words ++ s.d.words

end Square

structure Stream where
  low : Row
  high : Row
  block : UInt64
  waiting : List UInt32

def constants : Row := ⟨0x61707865, 0x3320646e, 0x79622d32, 0x6b206574⟩

namespace Stream

def input (s : Stream) : Square :=
  ⟨constants, s.low, s.high, ⟨s.block.toUInt32, (s.block >>> 32).toUInt32, 0, 0⟩⟩

def blockWords (s : Stream) : List UInt32 :=
  let mixed := s.input.doubleRound.doubleRound.doubleRound.doubleRound
  (mixed.add s.input).words

def next (s : Stream) : UInt32 × Stream :=
  match s.waiting with
  | word :: waiting => (word, { s with waiting := waiting })
  | [] =>
    match s.blockWords with
    | word :: waiting => (word, { s with block := s.block + 1, waiting := waiting })
    | [] => (0, s)

instance : RandomSource Stream := ⟨next⟩

end Stream

-- A permuted congruential generator makes the key out of a 64-bit seed.
def stretch (state : UInt64) : UInt32 × UInt64 :=
  let state := state * 6364136223846793005 + 11634580027462260723
  let word := (((state >>> 18) ^^^ state) >>> 27).toUInt32
  let turn := (state >>> 59).toUInt32
  ((word >>> turn) ||| (word <<< (32 - turn)), state)

def stretchRow (state : UInt64) : Row × UInt64 :=
  let (a, state) := stretch state
  let (b, state) := stretch state
  let (c, state) := stretch state
  let (d, state) := stretch state
  (⟨a, b, c, d⟩, state)

def Stream.ofSeed (seed : UInt64) : Stream :=
  let (low, state) := stretchRow seed
  let (high, _) := stretchRow state
  ⟨low, high, 0, []⟩

end Horoscope.ChaCha
