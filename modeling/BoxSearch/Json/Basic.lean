import BoxSearch.Json.Numeral

/-!
# Documents

A JSON document as its text says it, before anything is made of it: numerals are
kept as they are written, the members of an object stay in order and may repeat a
key, and a text that contains half of a surrogate pair is marked as unreadable
rather than refused, since a part of the document that nobody reads may be anything.

The constructors of output stand at the end: whole numbers and doubles as numerals,
with infinities and missing numbers written as `null`.
-/

namespace BoxSearch

/-- A JSON document. -/
inductive Json where
  /-- nothing -/
  | null
  /-- a truth value -/
  | bool (b : Bool)
  /-- a numeral as it is written -/
  | number (text : String)
  /-- a text; none when it is unreadable -/
  | string (text : Option String)
  /-- a list -/
  | array (items : List Json)
  /-- keys with values -/
  | object (members : List (Option String × Json))
  deriving Repr, Inhabited

namespace Json

/-- A text. -/
def text (s : String) : Json := .string (some s)

/-- A natural number. -/
def nat (n : Nat) : Json := .number (toString n)

/-- A double; one that is no finite number is written as nothing. -/
def float (x : Float) : Json :=
  if Double.isFinite x then .number (NumberFormat.document.write x) else .null

/-- An optional value. -/
def option {α : Type} (f : α → Json) : Option α → Json
  | some x => f x
  | none => .null

/-- A list of values. -/
def list {α : Type} (f : α → Json) (xs : List α) : Json := .array (xs.map f)

/-- Values under keys. -/
def record (members : List (String × Json)) : Json :=
  .object (members.map fun (k, v) => (some k, v))

end Json

end BoxSearch
