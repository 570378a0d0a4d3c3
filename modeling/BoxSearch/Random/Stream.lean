import BoxSearch.Random.Source

/-!
# The seeded stream of words

The generator of a search is a keystream: the ChaCha block function with twelve
rounds, an eight-word key spread from a 64-bit seed, a zero nonce, and the block
number as counter.  The stream is a pure function of the key and a position:
`Key.word k p` is the word at position `p`, the `p % 16`-th word of block
`p / 16`.  A `Generator` is a key and a position together with the block the
position lies in, which is kept so that a block is computed once; `next` reads
the word at the position and moves on by one.

A `Seed` is what the generator of a run is made from: a number, or a key that chance
provides.  `Entropy` stands for all keys that a process may draw, so what holds of a run
for every `Seed` holds of it whatever chance brings.
-/

namespace BoxSearch

/-! ## The block function -/

namespace ChaCha

/-- Sixteen words. -/
abbrev Block := Array UInt32

/-- A word rotated to the left. -/
def rotate (w : UInt32) (k : UInt32) : UInt32 := w <<< k ||| w >>> (32 - k)

/-- One quarter round on the four words at the given places. -/
def quarterRound (s : Block) (a b c d : Nat) : Block :=
  let wa := s.getD a 0
  let wb := s.getD b 0
  let wc := s.getD c 0
  let wd := s.getD d 0
  let wa := wa + wb
  let wd := rotate (wd ^^^ wa) 16
  let wc := wc + wd
  let wb := rotate (wb ^^^ wc) 12
  let wa := wa + wb
  let wd := rotate (wd ^^^ wa) 8
  let wc := wc + wd
  let wb := rotate (wb ^^^ wc) 7
  (((s.setIfInBounds a wa).setIfInBounds b wb).setIfInBounds c wc).setIfInBounds d wd

/-- Four quarter rounds down the columns, then four along the diagonals. -/
def doubleRound (s : Block) : Block :=
  let s := quarterRound s 0 4 8 12
  let s := quarterRound s 1 5 9 13
  let s := quarterRound s 2 6 10 14
  let s := quarterRound s 3 7 11 15
  let s := quarterRound s 0 5 10 15
  let s := quarterRound s 1 6 11 12
  let s := quarterRound s 2 7 8 13
  quarterRound s 3 4 9 14

/-- The given number of double rounds. -/
def doubleRounds : Nat → Block → Block
  | 0, s => s
  | n + 1, s => doubleRounds n (doubleRound s)

/-- Twelve rounds over the initial words, and the initial words added back. -/
def block (initial : Block) : Block :=
  Array.zipWith (· + ·) (doubleRounds 6 initial) initial

end ChaCha

/-! ## Keys -/

/-- The eight key words. -/
structure Key where
  /-- the words, first to last -/
  words : Array UInt32
  deriving DecidableEq

namespace Key

/-- The first `n` words spread from a 64-bit state: each step is one turn of a
linear congruence, and a word is the folded high half rotated by the top bits. -/
def spread : Nat → UInt64 → List UInt32
  | 0, _ => []
  | n + 1, s =>
    let s := s * 6364136223846793005 + 11634580027462260723
    let folded := (((s >>> 18) ^^^ s) >>> 27).toUInt32
    let turn := (s >>> 59).toUInt32
    (folded >>> turn ||| folded <<< ((32 - turn) % 32)) :: spread n s

/-- The key of a seed. -/
def ofSeed (seed : UInt64) : Key := ⟨(spread 8 seed).toArray⟩

/-- Block `counter` of the keystream.  The first four words are fixed, the key
follows, then the counter with its low word first, and a zero nonce. -/
def block (k : Key) (counter : Nat) : ChaCha.Block :=
  let c := UInt64.ofNat counter
  let first : Array UInt32 := #[0x61707865, 0x3320646e, 0x79622d32, 0x6b206574]
  ChaCha.block (first ++ k.words ++ #[c.toUInt32, (c >>> 32).toUInt32, 0, 0])

/-- The word of the keystream at a position. -/
def word (k : Key) (position : Nat) : UInt32 :=
  (k.block (position / 16)).getD (position % 16) 0

end Key

/-! ## The generator -/

/-- A position in the keystream of a key. -/
structure Generator where
  /-- the key -/
  key : Key
  /-- the number of words read so far -/
  position : Nat
  /-- the block that holds the next word -/
  current : ChaCha.Block
  /-- the block is the one of the position -/
  current_eq : current = key.block (position / 16)

namespace Generator

/-- The generator at the start of a key's stream. -/
def ofKey (k : Key) : Generator := ⟨k, 0, k.block 0, rfl⟩

/-- The generator of a seed. -/
def ofSeed (seed : UInt64) : Generator := ofKey (Key.ofSeed seed)

/-- The word at the position, and the generator one position further. -/
def next (g : Generator) : UInt32 × Generator :=
  let w := g.current.getD (g.position % 16) 0
  if h : (g.position + 1) % 16 = 0 then
    (w, ⟨g.key, g.position + 1, g.key.block ((g.position + 1) / 16), rfl⟩)
  else
    (w, ⟨g.key, g.position + 1, g.current, by
      rw [g.current_eq]
      congr 1
      omega⟩)

instance : WordSource Generator := ⟨next⟩

/-- What is read is the word of the keystream at the position. -/
theorem next_fst (g : Generator) : g.next.1 = g.key.word g.position := by
  unfold next Key.word
  split <;> simp [g.current_eq]

/-- Reading leaves the key alone. -/
theorem next_key (g : Generator) : g.next.2.key = g.key := by
  unfold next
  split <;> rfl

/-- Reading moves the position by one. -/
theorem next_position (g : Generator) : g.next.2.position = g.position + 1 := by
  unfold next
  split <;> rfl

/-- The first words that a generator yields. -/
def words : Nat → Generator → List UInt32
  | 0, _ => []
  | n + 1, g => g.next.1 :: words n g.next.2

/-- **A generator yields the keystream of its key**, from its position on.  Of the block that it
keeps nothing is seen. -/
theorem words_eq (n : Nat) (g : Generator) :
    words n g = (List.range' g.position n).map g.key.word := by
  induction n generalizing g with
  | zero => rfl
  | succ n ih =>
      rw [words, ih, next_fst, next_key, next_position, List.range'_succ, List.map_cons]

end Generator

/-! ## Seeds -/

/-- The keys that chance provides.  Whatever draws one asks for that of its own place, a path through
the members of ensembles, so no two draws need share a key. -/
abbrev Entropy := List Nat → Key

namespace Entropy

/-- The keys for what is below a place. -/
def below (e : Entropy) (place : Nat) : Entropy := fun path => e (place :: path)

/-- Nothing is left to chance: every key is that of seed 0. -/
def frozen : Entropy := fun _ => .ofSeed 0

end Entropy

/-- What the generator of a run is made from. -/
inductive Seed where
  /-- a number -/
  | number (n : UInt64)
  /-- no number was given, so chance decides -/
  | chance (keys : Entropy)

namespace Seed

/-- The seed that a number gives; without one chance decides. -/
def ofNumber? (keys : Entropy) : Option UInt64 → Seed
  | some n => .number n
  | none => .chance keys

/-- The generator at the start of a run. -/
def generator : Seed → Generator
  | .number n => .ofSeed n
  | .chance keys => .ofKey (keys [])

/-- The seed of a member of an ensemble: the ensemble's, raised by its place counted from 1.  Without
a number the members draw keys of their own. -/
def member : Seed → Nat → Seed
  | .number n, i => .number (n + UInt64.ofNat (i + 1))
  | .chance keys, i => .chance (keys.below i)

end Seed

end BoxSearch
