import BoxSearch.Random.Source

/-!
# Shuffles

A shuffle walks up an array and swaps each element with one at or before it.
The indices of the swaps are drawn in batches: as many consecutive bounds as fit
below `2 ^ 32` are multiplied, one number below their product is drawn, and its
mixed-radix digits are the indices.  `IndexBatch` holds a batch between two
swaps.

`partialShuffle xs k` picks `k` elements at random: they stand at the end of the
array, in the order in which they were placed.  A full shuffle is the partial
one that picks all.
-/

namespace BoxSearch

variable {γ : Type} [WordSource γ]

/-! ## Batches of indices -/

/-- Indices yet to be read off one drawn number: the last bound used, the number
that is left, and how many indices it still holds. -/
structure IndexBatch where
  /-- the bound of the index read last -/
  bound : Nat
  /-- what is left of the drawn number -/
  rest : Nat
  /-- how many indices are left in it -/
  left : Nat
  deriving DecidableEq, Repr

namespace IndexBatch

/-- The batch before the first index, for a walk that starts at `start`.  A walk
from the first element takes its first index, which can only be 0, without a
draw. -/
def before (start : Nat) : IndexBatch := ⟨start, 0, if start = 0 then 1 else 0⟩

/-- Multiplies the bounds `product, next, next + 1, …` while the product stays
below `2 ^ 32`; returns the product and the first bound left out. -/
def collect : Nat → Nat → Nat → Nat × Nat
  | 0, product, next => (product, next)
  | fuel + 1, product, next =>
    if product * next < UInt32.size then collect fuel (product * next) (next + 1) else (product, next)

/-- The next index, which is below the next bound.  At most twelve bounds fit
into one batch, since the factorial of thirteen exceeds `2 ^ 32`. -/
def index (b : IndexBatch) (g : γ) : Nat × IndexBatch × γ :=
  let bound := b.bound + 1
  let (rest, left, g) :=
    if b.left = 0 then
      let (product, next) := collect 32 bound (bound + 1)
      let (drawn, g) := WordSource.below product g
      (drawn, next - bound, g)
    else (b.rest, b.left, g)
  if left - 1 = 0 then (rest, ⟨bound, rest, 0⟩, g)
  else (rest % bound, ⟨bound, rest / bound, left - 1⟩, g)

end IndexBatch

/-! ## Walking and swapping -/

namespace Shuffle

variable {β : Type}

/-- Swaps the elements at `i, i + 1, …` (`count` of them) each with a drawn one. -/
def walk : Nat → Nat → IndexBatch → Array β → γ → Array β × γ
  | 0, _, _, xs, g => (xs, g)
  | count + 1, i, b, xs, g =>
    let (j, b, g) := b.index g
    walk count (i + 1) b (xs.swapIfInBounds i j) g

/-- Brings `k` elements picked at random to the end of the array. -/
def partialShuffle (xs : Array β) (k : Nat) (g : γ) : Array β × γ :=
  let start := xs.size - k
  walk (xs.size - start) start (IndexBatch.before start) xs g

/-- `k` elements of a list picked at random, in the order in which they were placed. -/
def pick (xs : List β) (k : Nat) (g : γ) : List β × γ :=
  let (ys, g) := partialShuffle xs.toArray k g
  (ys.toList.drop (xs.length - k), g)

/-- A list in random order; nothing is drawn for fewer than two elements. -/
def shuffle (xs : List β) (g : γ) : List β × γ :=
  if xs.length ≤ 1 then (xs, g)
  else
    let (ys, g) := partialShuffle xs.toArray xs.length g
    (ys.toList, g)

/-- `count` distinct indices below `size`, none of them `excluded`. -/
def distinctIndices (excluded count size : Nat) (g : γ) : List Nat × γ :=
  pick ((List.range size).filter (· ≠ excluded)) count g

end Shuffle

end BoxSearch
