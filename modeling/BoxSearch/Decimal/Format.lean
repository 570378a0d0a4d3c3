import BoxSearch.Decimal.Digits

/-!
# Writing numbers

Numbers appear in messages, logs, tables and documents in a handful of formats.
A format that shows the shortest digits is a `NumberFormat`: it says which sizes
are written without an exponent, whether a whole number keeps a point, how an
exponent is written, and which of two equally near digits is the last one.  The formats with a fixed number of places are
`fixed` and `scientific`.  In all of them a missing number is `NaN`, an infinity
`inf`, and the sign of zero is kept.
-/

namespace BoxSearch

/-- How the shortest digits of a number are laid out. -/
structure NumberFormat where
  /-- the range of places of the leading digit that is written without an
  exponent; `none` when every number is -/
  positional : Option (Int × Int)
  /-- whether a whole number written without an exponent ends in `.0` -/
  keepsPoint : Bool
  /-- what stands before an exponent that is not negative -/
  plusSign : String
  /-- which of two equally near decimals is written -/
  tie : Tie
  deriving DecidableEq, Repr

namespace NumberFormat

/-- Messages: never an exponent, and no point in a whole number. -/
def plain : NumberFormat := ⟨none, false, "", .upward⟩

/-- Reports of a run: an exponent below `1e-4` and from `1e16` on. -/
def report : NumberFormat := ⟨some (-4, 15), true, "", .upward⟩

/-- Documents: an exponent below `1e-5` and from `1e16` on, and always with a sign. -/
def document : NumberFormat := ⟨some (-5, 15), true, "+", .toEven⟩

/-- `text` with zeros before it up to the given length. -/
def zeroPadded (width : Nat) (text : List Char) : List Char :=
  List.replicate (width - text.length) '0' ++ text

/-- The digits of a natural number. -/
def digitsOf (n : Nat) : List Char := Nat.toDigits 10 n

/-- A decimal without an exponent. -/
def layoutPositional (keepsPoint : Bool) (d : Decimal) : List Char :=
  let ds := digitsOf d.digits
  if 0 ≤ d.exponent then
    ds ++ List.replicate d.exponent.toNat '0' ++ (if keepsPoint then ['.', '0'] else [])
  else
    let places := (-d.exponent).toNat
    let ds := zeroPadded (places + 1) ds
    ds.take (ds.length - places) ++ '.' :: ds.drop (ds.length - places)

/-- An exponent: the mark, the sign and the digits. -/
def layoutExponent (plusSign : String) (k : Int) : List Char :=
  'e' :: (if k < 0 then ['-'] else plusSign.toList) ++ digitsOf k.natAbs

/-- A decimal with one digit before the point and an exponent. -/
def layoutScientific (plusSign : String) (d : Decimal) : List Char :=
  let ds := digitsOf d.digits
  let exponent := layoutExponent plusSign (d.exponent + (ds.length - 1 : Nat))
  match ds with
  | [] => exponent
  | [c] => c :: exponent
  | c :: rest => c :: '.' :: rest ++ exponent

/-- The layout of a decimal under a format. -/
def layout (f : NumberFormat) (d : Decimal) : List Char :=
  match f.positional with
  | none => layoutPositional f.keepsPoint d
  | some (low, high) =>
    let place := d.exponent + ((digitsOf d.digits).length - 1 : Nat)
    if low ≤ place ∧ place ≤ high then layoutPositional f.keepsPoint d
    else layoutScientific f.plusSign d

/-- A double under a format, given the text of a positive number `m · 2 ^ e` and
that of zero. -/
def signed (zero : List Char) (positive : Nat → Int → List Char) (x : Float) : String :=
  let minus : Float.Model.UnpackedFloat.Sign → List Char
    | .positive => []
    | .negative => ['-']
  String.ofList <|
    match Double.parts x with
    | .notANumber => "NaN".toList
    | .infinity s => minus s ++ "inf".toList
    | .zero s => minus s ++ zero
    | .finite s m e _ => minus s ++ positive m e

/-- The shortest digits of a number under a format. -/
def write (f : NumberFormat) (x : Float) : String :=
  signed (if f.keepsPoint then ['0', '.', '0'] else ['0'])
    (fun m e => f.layout (Decimal.shortest f.tie m e)) x

end NumberFormat

/-! ## A given number of places -/

/-- A number with the given number of decimal places, correctly rounded. -/
def fixed (places : Nat) (x : Float) : String :=
  let lay (n : Nat) : List Char :=
    NumberFormat.layoutPositional false ⟨n, -(places : Int)⟩
  NumberFormat.signed (lay 0) (fun m e => lay (Decimal.toPlaces places m e)) x

/-- A number with one digit before the point, the given number after it, and an
exponent, correctly rounded. -/
def scientific (places : Nat) (x : Float) : String :=
  let lay (d : Decimal) : List Char := NumberFormat.layoutScientific "" d
  NumberFormat.signed (NumberFormat.layoutPositional false ⟨0, -(places : Int)⟩ ++ ['e', '0'])
    (fun m e => lay (Decimal.toSignificant places m e)) x

/-! ## Padding -/

/-- A text brought to the given width with blanks before it. -/
def padLeft (width : Nat) (text : String) : String :=
  String.ofList (List.replicate (width - text.length) ' ') ++ text

/-- A text brought to the given width with blanks after it. -/
def padRight (width : Nat) (text : String) : String :=
  text ++ String.ofList (List.replicate (width - text.length) ' ')

end BoxSearch
