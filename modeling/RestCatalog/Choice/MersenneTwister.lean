import RestCatalog.Choice.Basic

/-!
# Choices by a seed

The generator MT19937 with a state of 624 words, seeded by an array of words.
An index below `n` is drawn as the leading bits of its output, as many as `n` has,
until they are below `n`.
-/

namespace RestCatalog

/-- The state of the generator: its words and how many of them are used up. -/
structure MersenneTwister where
  words : Array UInt32
  used : Nat

namespace MersenneTwister

def size : Nat := 624

/-- The words that a single seed word gives. -/
def ofWord (seed : UInt32) : Array UInt32 :=
  (List.range (size - 1)).foldl
    (fun (words : Array UInt32) i =>
      let last : UInt32 := words.getD i 0
      words.push ((1812433253 : UInt32) * (last ^^^ (last >>> 30)) + UInt32.ofNat (i + 1)))
    #[seed]

/-- After the last word the first one takes its value, and the walk starts over behind it. -/
def wrap (words : Array UInt32) (i : Nat) : Array UInt32 × Nat :=
  if size ≤ i then (words.setIfInBounds 0 (words.getD (size - 1) 0), 1) else (words, i)

/-- Mixes an array of key words into the state, one step for each word of the longer one. -/
def mixKey (key : Array UInt32) :
    (steps : Nat) → Array UInt32 → (i j : Nat) → Array UInt32 × Nat
  | 0, words, i, _ => (words, i)
  | steps + 1, words, i, j =>
    let before : UInt32 := words.getD (i - 1) 0
    let mixed := (words.getD i 0 ^^^ ((before ^^^ (before >>> 30)) * 1664525)) +
      key.getD j 0 + UInt32.ofNat j
    let (words, i) := wrap (words.setIfInBounds i mixed) (i + 1)
    mixKey key steps words i (if key.size ≤ j + 1 then 0 else j + 1)

/-- The second round of mixing, by position. -/
def mixPositions : (steps : Nat) → Array UInt32 → (i : Nat) → Array UInt32
  | 0, words, _ => words
  | steps + 1, words, i =>
    let before : UInt32 := words.getD (i - 1) 0
    let mixed := (words.getD i 0 ^^^ ((before ^^^ (before >>> 30)) * 1566083941)) -
      UInt32.ofNat i
    let (words, i) := wrap (words.setIfInBounds i mixed) (i + 1)
    mixPositions steps words i

/-- The state for an array of key words. -/
def ofKey (key : Array UInt32) : MersenneTwister :=
  let (words, i) := mixKey key (max size key.size) (ofWord 19650218) 1 0
  let words := mixPositions (size - 1) words i
  { words := words.setIfInBounds 0 0x80000000, used := size }

/-- The words of a number, lowest first; at least one, and at most `fuel`. -/
def keyWords : Nat → Nat → List UInt32
  | 0, _ => []
  | fuel + 1, n =>
    UInt32.ofNat n :: if n < 0x100000000 then [] else keyWords fuel (n / 0x100000000)

/-- The generator for a seed; its sign does not matter. -/
def ofSeed (seed : Int) : MersenneTwister :=
  ofKey (keyWords (Nat.log2 seed.natAbs / 32 + 1) seed.natAbs).toArray

/-- Renews all words of the state. -/
def twist (words : Array UInt32) : Array UInt32 :=
  (List.range size).foldl
    (fun (words : Array UInt32) i =>
      let y := (words.getD i 0 &&& 0x80000000) ||| (words.getD ((i + 1) % size) 0 &&& 0x7fffffff)
      let half := words.getD ((i + 397) % size) 0 ^^^ (y >>> 1)
      words.setIfInBounds i (if y &&& 1 = 0 then half else half ^^^ 0x9908b0df))
    words

/-- The next output word. -/
def next (state : MersenneTwister) : UInt32 × MersenneTwister :=
  let state := if size ≤ state.used then { words := twist state.words, used := 0 } else state
  let y := state.words.getD state.used 0
  let y := y ^^^ (y >>> 11)
  let y := y ^^^ ((y <<< 7) &&& 0x9d2c5680)
  let y := y ^^^ ((y <<< 15) &&& 0xefc60000)
  (y ^^^ (y >>> 18), { state with used := state.used + 1 })

/-- A number of `count` random bits: whole words from the lowest on, and the leading bits of
the last word. -/
def bits (count : Nat) (state : MersenneTwister) : Nat × MersenneTwister :=
  let (low, state) := (List.range (count / 32)).foldl
    (fun (n, state) i =>
      let (word, state) := next state
      (n + word.toNat <<< (32 * i), state))
    (0, state)
  if count % 32 = 0 then (low, state)
  else
    let (word, state) := next state
    (low + (word.toNat >>> (32 - count % 32)) <<< (32 * (count / 32)), state)

/-- Draws numbers of `count` bits until one is below `n + 1`, at most `fuel` times. -/
def below (n count : Nat) : Nat → MersenneTwister → Fin (n + 1) × MersenneTwister
  | 0, state => (0, state)
  | fuel + 1, state =>
    let (drawn, state) := bits count state
    if h : drawn < n + 1 then (⟨drawn, h⟩, state) else below n count fuel state

instance : ChoiceSource MersenneTwister where
  draw state n := below n (Nat.log2 (n + 1) + 1) 4096 state

end MersenneTwister

end RestCatalog
