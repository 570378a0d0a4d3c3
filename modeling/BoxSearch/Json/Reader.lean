import BoxSearch.Json.Token

/-!
# Reading documents

`Json.read?` reads the document that a text is, and nothing else may stand in the
text.  No comma may end a list, and no comment may stand anywhere.  Reading takes
no offence at depth, at the size of a number or at half a surrogate pair; whoever
makes something of the document does (`BoxSearch.Json.Record`).
-/

namespace BoxSearch

namespace Json

mutual

/-- The value at the front of a token sequence, and the rest; `fuel` bounds the number
of nested calls. -/
def value? : Nat → List Token → Option (Json × List Token)
  | 0, _ => none
  | fuel + 1, ts =>
    match ts with
    | .null :: ts => some (.null, ts)
    | .bool b :: ts => some (.bool b, ts)
    | .number n :: ts => some (.number n, ts)
    | .string s :: ts => some (.string s, ts)
    | .openArray :: .closeArray :: ts => some (.array [], ts)
    | .openArray :: ts => (items? fuel ts).map fun (xs, ts) => (.array xs, ts)
    | .openObject :: .closeObject :: ts => some (.object [], ts)
    | .openObject :: ts => (members? fuel ts).map fun (ms, ts) => (.object ms, ts)
    | _ => none

/-- The items of a list, at least one, up to its end. -/
def items? : Nat → List Token → Option (List Json × List Token)
  | 0, _ => none
  | fuel + 1, ts =>
    match value? fuel ts with
    | some (x, .comma :: ts) => (items? fuel ts).map fun (xs, ts) => (x :: xs, ts)
    | some (x, .closeArray :: ts) => some ([x], ts)
    | _ => none

/-- The members of an object, at least one, up to its end. -/
def members? : Nat → List Token → Option (List (Option String × Json) × List Token)
  | 0, _ => none
  | fuel + 1, ts =>
    match ts with
    | .string k :: .colon :: ts =>
      match value? fuel ts with
      | some (v, .comma :: ts) => (members? fuel ts).map fun (ms, ts) => ((k, v) :: ms, ts)
      | some (v, .closeObject :: ts) => some ([(k, v)], ts)
      | _ => none
    | _ => none

end

/-- The document of a token sequence. -/
def ofTokens? (ts : List Token) : Option Json :=
  match value? (2 * ts.length) ts with
  | some (j, []) => some j
  | _ => none

/-- The document of a text. -/
def read? (s : String) : Option Json := (Token.scan s).bind ofTokens?

end Json

end BoxSearch
