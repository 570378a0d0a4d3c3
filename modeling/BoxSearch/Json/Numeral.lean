import BoxSearch.Decimal.Format

/-!
# Numerals in documents

A numeral of a JSON document is a sign, whole digits without a leading zero, and
optionally a fraction and an exponent.  `Numeral.ofChars?` takes it apart and
`Numeral.value?` says which number it stands for.

A numeral without fraction and exponent stands for a whole number if that one fits
into 64 bits, with `-0` as the exception, and any other numeral for a double.  The
double is found in two rounded steps: the leading digits are collected as long as
they fit into 64 bits, and the nearest double to them is multiplied or divided by
the nearest double to a power of ten.  This is quick, and the last bit of the result
may differ from that of the nearest double.  A numeral too large for a double
stands for nothing.
-/

namespace BoxSearch

namespace Json

/-- The parts of a numeral. -/
structure Numeral where
  /-- a minus sign stands before it -/
  negative : Bool
  /-- the digits before the point -/
  whole : List Nat
  /-- the digits after the point; none without a point -/
  fraction : List Nat
  /-- the sign and the digits of the exponent -/
  exponent : Option (Bool × List Nat)
  deriving DecidableEq, Repr

/-- What a numeral stands for. -/
inductive Number where
  /-- a whole number below `2 ^ 64` -/
  | natural (n : Nat)
  /-- minus a whole number from 1 to `2 ^ 63` -/
  | negative (n : Nat)
  /-- a double -/
  | real (x : Float)
  deriving Repr

namespace Numeral

/-! ## Taking apart -/

/-- A decimal digit. -/
def isDigit (c : Char) : Bool := '0' ≤ c && c ≤ '9'

/-- The value of a decimal digit. -/
def digit (c : Char) : Nat := c.toNat - '0'.toNat

/-- The digits at the front of a text, and the rest. -/
def digits (cs : List Char) : List Nat × List Char :=
  ((cs.takeWhile isDigit).map digit, cs.dropWhile isDigit)

/-- The whole digits: at least one, and no zero before another. -/
def whole? (cs : List Char) : Option (List Nat × List Char) :=
  match digits cs with
  | ([], _) => none
  | (0 :: _ :: _, _) => none
  | found => some found

/-- A fraction, if a point follows: at least one digit. -/
def fraction? (cs : List Char) : Option (List Nat × List Char) :=
  match cs with
  | '.' :: cs =>
    match digits cs with
    | ([], _) => none
    | found => some found
  | _ => some ([], cs)

/-- The sign of an exponent; no sign counts as plus. -/
def exponentSign (cs : List Char) : Bool × List Char :=
  match cs with
  | '-' :: cs => (true, cs)
  | '+' :: cs => (false, cs)
  | _ => (false, cs)

/-- An exponent, if its mark follows: at least one digit. -/
def exponent? (cs : List Char) : Option (Option (Bool × List Nat) × List Char) :=
  match cs with
  | c :: rest =>
    if c = 'e' || c = 'E' then
      let (negative, rest) := exponentSign rest
      match digits rest with
      | ([], _) => none
      | (ds, rest) => some (some (negative, ds), rest)
    else some (none, cs)
  | [] => some (none, [])

/-- The numeral that a text is. -/
def ofChars? (cs : List Char) : Option Numeral := do
  let (negative, cs) := match cs with
    | '-' :: cs => (true, cs)
    | _ => (false, cs)
  let (whole, cs) ← whole? cs
  let (fraction, cs) ← fraction? cs
  let (exponent, cs) ← exponent? cs
  if cs.isEmpty then some ⟨negative, whole, fraction, exponent⟩ else none

/-! ## Collecting digits -/

/-- The first number that does not fit into 64 bits. -/
def limit : Nat := UInt64.size

/-- Appends digits to a significand as long as it fits; returns it and the digits that
are left. -/
def collect : Nat → List Nat → Nat × List Nat
  | n, [] => (n, [])
  | n, d :: ds => if n * 10 + d < limit then collect (n * 10 + d) ds else (n, d :: ds)

/-- Significand and power of ten of the digits of a numeral.  Whole digits that do not
fit raise the power; digits of the fraction that fit lower it, and those that do
not are dropped. -/
def significand (n : Numeral) : Nat × Int :=
  let (s, dropped) := collect 0 n.whole
  let (s, left) := collect s n.fraction
  (s, (dropped.length : Int) - (n.fraction.length - left.length : Nat))

/-! ## The double -/

/-- The largest exponent that is read digit by digit. -/
def exponentLimit : Nat := 2147483647

/-- The number that digits stand for. -/
def natural (ds : List Nat) : Nat := ds.foldl (fun n d => n * 10 + d) 0

/-- The nearest double to a power of ten below `10 ^ 309`. -/
def powerOfTen (k : Nat) : Float := Double.nearest .positive (Nat.pow 10 k) 0

/-- A double divided by a power of ten, in steps of at most 308 places. -/
def shrink : Nat → Float → Nat → Float
  | 0, f, _ => f
  | fuel + 1, f, k =>
    if k ≤ 308 then f / powerOfTen k
    else if f == 0.0 then f
    else shrink fuel (f / powerOfTen 308) (k - 308)

/-- A significand times a power of ten, if that is a double. -/
def scale? (s : Nat) (e : Int) : Option Float :=
  let f := Double.nearest .positive s 0
  if 0 ≤ e then
    if e ≤ 308 then
      let f := f * powerOfTen e.toNat
      if Double.isFinite f then some f else none
    else if f == 0.0 then some f else none
  else some (shrink e.natAbs f e.natAbs)

/-- An exponent kept within the reach of 32 bits. -/
def saturate (e : Int) : Int :=
  if (exponentLimit : Int) < e then exponentLimit
  else if e < -(exponentLimit : Int) - 1 then -(exponentLimit : Int) - 1
  else e

/-- The double of a numeral without its sign. -/
def magnitude? (n : Numeral) : Option Float :=
  let (s, e) := n.significand
  match n.exponent with
  | none => scale? s e
  | some (negative, ds) =>
    let k := natural ds
    if exponentLimit < k then if s ≠ 0 && !negative then none else some 0.0
    else scale? s (saturate (if negative then e - k else e + k))

/-- The double of a numeral. -/
def real? (n : Numeral) : Option Float :=
  n.magnitude?.map fun f => if n.negative then -f else f

/-! ## The number -/

/-- The number of a numeral. -/
def value? (n : Numeral) : Option Number :=
  let whole := natural n.whole
  if n.fraction.isEmpty && n.exponent.isNone && whole < limit then
    if !n.negative then some (.natural whole)
    else if whole ≠ 0 && 2 * whole ≤ limit then some (.negative whole)
    else some (.real (-(Double.nearest .positive whole 0)))
  else n.real?.map .real

/-! ## The nearest double -/

/-- The power of ten by which the digits of a numeral are scaled. -/
def power (n : Numeral) : Int :=
  let e : Int :=
    match n.exponent with
    | some (negative, ds) => if negative then -(natural ds : Int) else natural ds
    | none => 0
  e - n.fraction.length

/-- The double nearest to a numeral, rounded once. -/
def nearest (n : Numeral) : Float :=
  let f := Float.ofScientific (natural (n.whole ++ n.fraction)) (n.power < 0) n.power.natAbs
  if n.negative then -f else f

end Numeral

end Json

end BoxSearch
