import BoxSearch.Scalar

/-!
# Drawing from a source of words

A source hands out one 32-bit word at a time.  Everything random in a search is
read off such words: uniform fractions with 53 binary places, indices below a
bound, and numbers between two endpoints.  The draws are stated for any source,
so what is said about them holds for every stream of words, and each draw says
in its type that it returns the source it leaves behind.
-/

namespace BoxSearch

/-- A source of 32-bit words. -/
class WordSource (γ : Type) where
  /-- the next word, and the source after it -/
  next : γ → UInt32 × γ

namespace WordSource

variable {γ : Type} [WordSource γ]

/-- Two words as one: the first is the low half. -/
def next64 (g : γ) : UInt64 × γ :=
  let (low, g) := next g
  let (high, g) := next g
  (high.toUInt64 <<< 32 ||| low.toUInt64, g)

/-- The numerator of a uniform fraction with 53 binary places. -/
def fraction53 (g : γ) : Nat × γ :=
  let (w, g) := next64 g
  ((w >>> 11).toNat, g)

/-- A uniform fraction of the half-open unit interval, a multiple of `2 ^ -53`. -/
def uniform {α : Type} [Scalar α] (g : γ) : α × γ :=
  let (m, g) := fraction53 g
  (Scalar.dyadic m 53, g)

/-- A list of uniform fractions, in the order in which they were drawn. -/
def uniforms {α : Type} [Scalar α] : Nat → γ → List α × γ
  | 0, g => ([], g)
  | n + 1, g =>
    let (u, g) := uniform g
    let (us, g) := uniforms n g
    (u :: us, g)

/-- A number between two endpoints: a uniform fraction with 52 binary places,
stretched to the distance of the endpoints and moved to the lower one. -/
def between {α : Type} [Scalar α] (low high : α) (g : γ) : α × γ :=
  let (w, g) := next64 g
  (Scalar.dyadic (w >>> 12).toNat 52 * (high - low) + low, g)

/-- An index below `n`, for `n` below `2 ^ 32`: the high half of the product of a
word and `n`.  When the low half is so large that a finer word could carry into
the index, one more word is drawn and its carry is added. -/
def below (n : Nat) (g : γ) : Nat × γ :=
  let (w, g) := next g
  let high := w.toNat * n / UInt32.size
  let low := w.toNat * n % UInt32.size
  if UInt32.size - n < low then
    let (w, g) := next g
    (if UInt32.size ≤ low + w.toNat * n / UInt32.size then high + 1 else high, g)
  else (high, g)

end WordSource

end BoxSearch
