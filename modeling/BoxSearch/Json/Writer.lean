import BoxSearch.Json.Token

/-!
# Writing documents

A document is written in one of two ways: compact, without any blank, or laid out,
with every item and every member on a line of its own, indented by two blanks for
each level, and a blank after each colon.  An empty list or object takes two
characters in both.
-/

namespace BoxSearch

namespace Json

/-! ## Compact -/

mutual

/-- A document without blanks. -/
def writeCompact : Json → List Char
  | .null => Token.null.write
  | .bool b => (Token.bool b).write
  | .number text => text.toList
  | .string text => (Token.string text).write
  | .array items => '[' :: compactItems items ++ [']']
  | .object members => '\x7b' :: compactMembers members ++ ['\x7d']

/-- Items with commas between them. -/
def compactItems : List Json → List Char
  | [] => []
  | [x] => writeCompact x
  | x :: xs => writeCompact x ++ ',' :: compactItems xs

/-- Members with commas between them. -/
def compactMembers : List (Option String × Json) → List Char
  | [] => []
  | [(k, v)] => (Token.string k).write ++ ':' :: writeCompact v
  | (k, v) :: ms => (Token.string k).write ++ ':' :: writeCompact v ++ ',' :: compactMembers ms

end

/-- The compact text of a document. -/
def compact (j : Json) : String := String.ofList (writeCompact j)

/-! ## Laid out -/

/-- The start of a line at a level. -/
def newLine (level : Nat) : List Char := '\n' :: List.replicate (2 * level) ' '

mutual

/-- A document laid out at a level. -/
def writePretty (level : Nat) : Json → List Char
  | .null => Token.null.write
  | .bool b => (Token.bool b).write
  | .number text => text.toList
  | .string text => (Token.string text).write
  | .array [] => ['[', ']']
  | .array items => '[' :: prettyItems (level + 1) items ++ newLine level ++ [']']
  | .object [] => ['\x7b', '\x7d']
  | .object members => '\x7b' :: prettyMembers (level + 1) members ++ newLine level ++ ['\x7d']

/-- Items on lines of their own. -/
def prettyItems (level : Nat) : List Json → List Char
  | [] => []
  | [x] => newLine level ++ writePretty level x
  | x :: xs => newLine level ++ writePretty level x ++ ',' :: prettyItems level xs

/-- Members on lines of their own. -/
def prettyMembers (level : Nat) : List (Option String × Json) → List Char
  | [] => []
  | [(k, v)] => newLine level ++ (Token.string k).write ++ ':' :: ' ' :: writePretty level v
  | (k, v) :: ms =>
    newLine level ++ (Token.string k).write ++ ':' :: ' ' :: writePretty level v ++
      ',' :: prettyMembers level ms

end

/-- The laid-out text of a document. -/
def pretty (j : Json) : String := String.ofList (writePretty 0 j)

end Json

end BoxSearch
