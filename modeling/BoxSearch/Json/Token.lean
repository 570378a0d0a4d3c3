import BoxSearch.Json.Basic

/-!
# The tokens of a document

A document is a sequence of tokens with blanks between them.  `Token.scan` cuts a
text into tokens and `Token.write` writes one.  A text literal holds no control
characters; its escapes stand for characters, and an escape with a number for a unit
of UTF-16, so two of them in a row may stand for one character.
-/

namespace BoxSearch

namespace Json

/-- A token. -/
inductive Token where
  /-- the opening of a list -/
  | openArray
  /-- the end of a list -/
  | closeArray
  /-- the opening of an object -/
  | openObject
  /-- the end of an object -/
  | closeObject
  /-- between two items -/
  | comma
  /-- between a key and its value -/
  | colon
  /-- the word for nothing -/
  | null
  /-- the word for a truth value -/
  | bool (b : Bool)
  /-- a numeral -/
  | number (text : String)
  /-- a text; none when it is unreadable -/
  | string (text : Option String)
  deriving DecidableEq, Repr

namespace Token

/-! ## Texts -/

/-- A character of a literal, or a unit of UTF-16 given by its number. -/
inductive Piece where
  /-- a character -/
  | char (c : Char)
  /-- a unit -/
  | unit (n : Nat)
  deriving DecidableEq, Repr

/-- The value of a hexadecimal digit. -/
def hexDigit? (c : Char) : Option Nat :=
  if '0' ≤ c && c ≤ '9' then some (c.toNat - '0'.toNat)
  else if 'a' ≤ c && c ≤ 'f' then some (c.toNat - 'a'.toNat + 10)
  else if 'A' ≤ c && c ≤ 'F' then some (c.toNat - 'A'.toNat + 10)
  else none

/-- The number of four hexadecimal digits. -/
def hex? (a b c d : Char) : Option Nat := do
  some ((((← hexDigit? a) * 16 + (← hexDigit? b)) * 16 + (← hexDigit? c)) * 16 + (← hexDigit? d))

/-- The character of a short escape. -/
def escaped? (c : Char) : Option Char :=
  match c with
  | '"' => some '"'
  | '\\' => some '\\'
  | '/' => some '/'
  | 'b' => some '\x08'
  | 'f' => some '\x0c'
  | 'n' => some '\n'
  | 'r' => some '\r'
  | 't' => some '\t'
  | _ => none

/-- The pieces of a literal up to its closing quote, and the rest. -/
def scanText : List Char → Option (List Piece × List Char)
  | [] => none
  | '"' :: cs => some ([], cs)
  | '\\' :: 'u' :: a :: b :: c :: d :: cs => do
    let n ← hex? a b c d
    let (pieces, rest) ← scanText cs
    some (.unit n :: pieces, rest)
  | '\\' :: e :: cs => do
    let c ← escaped? e
    let (pieces, rest) ← scanText cs
    some (.char c :: pieces, rest)
  | c :: cs =>
    if c.toNat < 0x20 || c = '\\' then none
    else do
      let (pieces, rest) ← scanText cs
      some (.char c :: pieces, rest)

/-- Whether a unit is the first half of a pair. -/
def isHigh (n : Nat) : Bool := 0xd800 ≤ n && n ≤ 0xdbff

/-- Whether a unit is the second half of a pair. -/
def isLow (n : Nat) : Bool := 0xdc00 ≤ n && n ≤ 0xdfff

/-- The characters of pieces, unless half of a pair stands alone. -/
def characters : List Piece → Option (List Char)
  | [] => some []
  | .char c :: ps => (characters ps).map (c :: ·)
  | .unit h :: .unit l :: ps =>
    if isHigh h then
      if isLow l then
        (characters ps).map (Char.ofNat (0x10000 + (h - 0xd800) * 0x400 + (l - 0xdc00)) :: ·)
      else none
    else if isLow h then none
    else (characters (.unit l :: ps)).map (Char.ofNat h :: ·)
  | .unit n :: ps =>
    if isHigh n || isLow n then none else (characters ps).map (Char.ofNat n :: ·)

/-! ## Scanning -/

/-- A blank between tokens. -/
def isBlank (c : Char) : Bool := c = ' ' || c = '\n' || c = '\t' || c = '\r'

/-- A character that can stand in a numeral. -/
def inNumeral (c : Char) : Bool :=
  Numeral.isDigit c || c = '-' || c = '+' || c = '.' || c = 'e' || c = 'E'

/-- A word, if the text starts with it. -/
def word? (w : List Char) (t : Token) (cs : List Char) : Option (Token × List Char) :=
  if w.isPrefixOf cs then some (t, cs.drop w.length) else none

/-- The first token of a text that starts with no blank, and the rest. -/
def first? (cs : List Char) : Option (Token × List Char) :=
  match cs with
  | [] => none
  | '[' :: cs => some (.openArray, cs)
  | ']' :: cs => some (.closeArray, cs)
  | '\x7b' :: cs => some (.openObject, cs)
  | '\x7d' :: cs => some (.closeObject, cs)
  | ',' :: cs => some (.comma, cs)
  | ':' :: cs => some (.colon, cs)
  | '"' :: cs => do
    let (pieces, rest) ← scanText cs
    some (.string ((characters pieces).map String.ofList), rest)
  | 'n' :: _ => word? ['n', 'u', 'l', 'l'] .null cs
  | 't' :: _ => word? ['t', 'r', 'u', 'e'] (.bool true) cs
  | 'f' :: _ => word? ['f', 'a', 'l', 's', 'e'] (.bool false) cs
  | _ :: _ =>
    let text := cs.takeWhile inNumeral
    if (Numeral.ofChars? text).isSome then
      some (.number (String.ofList text), cs.dropWhile inNumeral)
    else none

/-- The tokens of a text; `fuel` bounds their number. -/
def scanFrom : Nat → List Char → Option (List Token)
  | fuel, cs =>
    match cs.dropWhile isBlank, fuel with
    | [], _ => some []
    | _, 0 => none
    | cs, fuel + 1 => do
      let (t, rest) ← first? cs
      (scanFrom fuel rest).map (t :: ·)

/-- The tokens of a text. -/
def scan (s : String) : Option (List Token) := scanFrom s.length s.toList

/-! ## Writing -/

/-- A hexadecimal digit. -/
def hexChar (n : Nat) : Char := (Nat.toDigits 16 n).headD '0'

/-- A character inside a literal. -/
def writeChar (c : Char) : List Char :=
  match c with
  | '"' => ['\\', '"']
  | '\\' => ['\\', '\\']
  | '\x08' => ['\\', 'b']
  | '\x0c' => ['\\', 'f']
  | '\n' => ['\\', 'n']
  | '\r' => ['\\', 'r']
  | '\t' => ['\\', 't']
  | _ =>
    if c.toNat < 0x20 then ['\\', 'u', '0', '0', hexChar (c.toNat / 16), hexChar (c.toNat % 16)]
    else [c]

/-- A text literal. -/
def writeText (s : String) : List Char := '"' :: s.toList.flatMap writeChar ++ ['"']

/-- The text of a token. -/
def write : Token → List Char
  | .openArray => ['[']
  | .closeArray => [']']
  | .openObject => ['\x7b']
  | .closeObject => ['\x7d']
  | .comma => [',']
  | .colon => [':']
  | .null => "null".toList
  | .bool true => "true".toList
  | .bool false => "false".toList
  | .number text => text.toList
  | .string text => writeText (text.getD "")

end Token

end Json

end BoxSearch
