/-! A random number generator with a state of 624 words of 32 bits, which gives out its words one
after another and twists them all into new ones after each round. It is seeded from an integer of
any size. -/

namespace TurtleGrammar

/-- The generator: its words, and how many of them this round has given out. -/
structure Twister where
  words : Array UInt32
  used : Nat

namespace Twister

/-- How many words the state has. -/
def size : Nat := 624

/-- How far ahead the word lies that is mixed into each. -/
def reach : Nat := 397

/-- The word at place `i` that follows from the one before it. -/
def follow (i : Nat) (last : UInt32) : UInt32 :=
  (last ^^^ (last >>> 30)) * 1812433253 + UInt32.ofNat i

/-- The words that follow from one, itself the first. -/
def spread (first : UInt32) : Array UInt32 :=
  (List.range (size - 1)).foldl (fun words k => words.push (follow (k + 1) (words.getD k 0)))
    #[first]

/-- The 32-bit words of a number, the lowest first. Zero has one word. -/
def limbs (n : Nat) : List UInt32 :=
  if _ : n < Nat.pow 2 32 then [UInt32.ofNat n]
  else UInt32.ofNat n :: limbs (n / Nat.pow 2 32)
termination_by n
decreasing_by
  have hpos : 0 < n := Nat.lt_of_lt_of_le (by decide : 0 < Nat.pow 2 32) (Nat.le_of_not_lt ‹_›)
  exact Nat.div_lt_self hpos (by decide)

/-- Mixes into the word at `i` the one before it, multiplied by `factor`, and then a term. -/
def stir (factor : UInt32) (term : UInt32 → UInt32) (i : Nat) (words : Array UInt32) :
    Array UInt32 :=
  let last := words.getD (i - 1) 0
  let mixed := words.getD i 0 ^^^ ((last ^^^ (last >>> 30)) * factor)
  words.setIfInBounds i (term mixed)

/-- The place after `i` and the words as they go on there: after the last place comes the second,
and the first word becomes a copy of the last. -/
def goOn (i : Nat) (words : Array UInt32) : Nat × Array UInt32 :=
  if i + 1 < size then (i + 1, words)
  else (1, words.setIfInBounds 0 (words.getD (size - 1) 0))

/-- Mixes in the words of a key, in order and over again, each with its place in the key. -/
def stirKey (key : Array UInt32) : Nat → (i j : Nat) → Array UInt32 → Nat × Array UInt32
  | 0, i, _, words => (i, words)
  | n + 1, i, j, words =>
    let words := stir 1664525 (fun m => m + key.getD j 0 + UInt32.ofNat j) i words
    let (i, words) := goOn i words
    stirKey key n i (if j + 1 < key.size then j + 1 else 0) words

/-- Takes away from the words their places. -/
def stirPlaces : Nat → (i : Nat) → Array UInt32 → Array UInt32
  | 0, _, words => words
  | n + 1, i, words =>
    let words := stir 1566083941 (fun m => m - UInt32.ofNat i) i words
    let (i, words) := goOn i words
    stirPlaces n i words

/-- The generator of a seed, of which the sign does not count. -/
def ofSeed (seed : Int) : Twister :=
  let key := (limbs seed.natAbs).toArray
  let (i, words) := stirKey key (max size key.size) 1 0 (spread 19650218)
  { words := (stirPlaces (size - 1) i words).setIfInBounds 0 0x80000000, used := size }

/-- The word that takes the place of `high`, from its top bit, the other bits of the word after it,
and the word far ahead. -/
def twist (high low ahead : UInt32) : UInt32 :=
  let y := (high &&& 0x80000000) ||| (low &&& 0x7FFFFFFF)
  ahead ^^^ (y >>> 1) ^^^ (if y &&& 1 = 1 then 0x9908B0DF else 0)

/-- The words of the next round. Each is made from words of which some are new already. -/
def renew (words : Array UInt32) : Array UInt32 :=
  (List.range size).foldl
    (fun words k =>
      words.setIfInBounds k
        (twist (words.getD k 0) (words.getD ((k + 1) % size) 0)
          (words.getD ((k + reach) % size) 0)))
    words

/-- The output for a word. -/
def temper (y : UInt32) : UInt32 :=
  let y := y ^^^ (y >>> 11)
  let y := y ^^^ ((y <<< 7) &&& 0x9D2C5680)
  let y := y ^^^ ((y <<< 15) &&& 0xEFC60000)
  y ^^^ (y >>> 18)

/-- The next output, with the generator after it. -/
def draw (g : Twister) : UInt32 × Twister :=
  let g := if g.used < size then g else { words := renew g.words, used := 0 }
  (temper (g.words.getD g.used 0), { g with used := g.used + 1 })

/-- The first of the next outputs whose top bits are a number below `bound`, with the generator
after it; after `tries` outputs that are not, the remainder of one more. -/
def drawBelow (bound bits : Nat) : (tries : Nat) → Twister → Nat × Twister
  | 0, g =>
    let (y, g) := g.draw
    (y.toNat % bound, g)
  | tries + 1, g =>
    let (y, g) := g.draw
    let n := y.toNat / Nat.pow 2 (32 - bits)
    if n < bound then (n, g) else drawBelow bound bits tries g

/-- A number below a bound of at most 32 bits, each as likely as any other. An output with as many
bits as the bound is taken if it lies below it, which at least every second one does. -/
def below (bound : Nat) (g : Twister) : Nat × Twister :=
  drawBelow bound (bound.log2 + 1) 10000 g

end Twister

end TurtleGrammar
