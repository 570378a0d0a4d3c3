import BoxSearch.Json.Basic

/-!
# Making values of documents

The readers of this file turn documents into numbers, texts, lists and records.  A
natural number must be written as one, without point and exponent; a double may be
written in any way.

A record is written as an object, whose unknown keys are passed over and whose known
ones must not repeat, or as the list of its fields in order.  A reader of records and
lists is told how many more levels it may enter; a document nested deeper is refused.
-/

namespace BoxSearch

namespace Json

/-- The number of levels of a document that are read. -/
def maxLevels : Nat := 127

/-! ## Simple values -/

/-- The number that a numeral stands for. -/
def number? : Json → Option Number
  | .number text => (Numeral.ofChars? text.toList).bind Numeral.value?
  | _ => none

/-- A natural number below `2 ^ 64`. -/
def nat? (j : Json) : Option Nat :=
  match j.number? with
  | some (.natural n) => some n
  | _ => none

/-- A double. -/
def float? (j : Json) : Option Float :=
  match j.number? with
  | some (.natural n) => some (Double.nearest .positive n 0)
  | some (.negative n) => some (-(Double.nearest .positive n 0))
  | some (.real x) => some x
  | none => none

/-- A truth value. -/
def bool? : Json → Option Bool
  | .bool b => some b
  | _ => none

/-- A readable text. -/
def text? : Json → Option String
  | .string s => s
  | _ => none

/-- A value that may be missing, written as nothing. -/
def option? {α : Type} (read : Json → Option α) : Json → Option (Option α)
  | .null => some none
  | j => (read j).map some

/-- A list whose items are read one by one. -/
def list? {α : Type} (levels : Nat) (read : Json → Option α) : Json → Option (List α)
  | .array items => if levels = 0 then none else items.mapM read
  | _ => none

/-! ## Records -/

/-- The fields of a record that are present. -/
abbrev Fields := List (String × Json)

/-- The known members, each at most once; every key must be readable. -/
def knownMembers (names : List String) : List (Option String × Json) → Option Fields
  | [] => some []
  | (none, _) :: _ => none
  | (some k, v) :: rest => do
    let fields ← knownMembers names rest
    if names.contains k then
      if (fields.lookup k).isSome then none else some ((k, v) :: fields)
    else some fields

/-- The fields of a record with the given names, from an object or from a list that is
no longer than the names. -/
def fields? (names : List String) : Json → Option Fields
  | .object members => knownMembers names members
  | .array items => if items.length ≤ names.length then some (names.zip items) else none
  | _ => none

/-- The fields of a record on one more level. -/
def record? (levels : Nat) (names : List String) (j : Json) : Option Fields :=
  if levels = 0 then none else fields? names j

namespace Fields

/-- A field that has to be there. -/
def required {α : Type} (fields : Fields) (name : String) (read : Json → Option α) : Option α :=
  (fields.lookup name).bind read

/-- A field that has a default. -/
def optional {α : Type} (fields : Fields) (name : String) (default : α)
    (read : Json → Option α) : Option α :=
  match fields.lookup name with
  | some j => read j
  | none => some default

end Fields

/-! ## Alternatives -/

/-- A plain alternative: its name, or an object with the name as the only key and
nothing as its value. -/
def plainTag? (levels : Nat) : Json → Option String
  | .string s => s
  | .object [(k, .null)] => if levels = 0 then none else k
  | _ => none

/-- An alternative with a value: an object with its name as the only key. -/
def tag? (levels : Nat) : Json → Option (String × Json)
  | .object [(some k, v)] => if levels = 0 then none else some (k, v)
  | _ => none

/-! ## Readable documents -/

mutual

/-- Whether every number of a document stands for something, every text is readable,
and the document is not nested deeper than the given number of levels. -/
def readable (levels : Nat) : Json → Bool
  | .null => true
  | .bool _ => true
  | .number text => (number? (.number text)).isSome
  | .string text => text.isSome
  | .array items =>
    match levels with
    | 0 => false
    | levels + 1 => readableItems levels items
  | .object members =>
    match levels with
    | 0 => false
    | levels + 1 => readableMembers levels members

/-- Whether all items are readable. -/
def readableItems (levels : Nat) : List Json → Bool
  | [] => true
  | x :: xs => readable levels x && readableItems levels xs

/-- Whether all keys and values are readable. -/
def readableMembers (levels : Nat) : List (Option String × Json) → Bool
  | [] => true
  | (k, v) :: ms => k.isSome && readable levels v && readableMembers levels ms

end

end Json

end BoxSearch
