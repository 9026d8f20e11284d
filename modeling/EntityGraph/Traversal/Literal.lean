/-!
Single-quoted literals in traversal scripts.

* `escapeChar`: the backslash and the quote take a backslash, and the two line breaks are written
  with letters, since a literal cannot span lines.
* `escapeLiteral`, `quoteLiteral`: a value ready to stand inside quotes, and with its quotes.
* `readLiteral`: the reader of such literals; it stops at the first quote without a backslash.
-/

namespace EntityGraph.Traversal

/-- One character inside a literal. -/
def escapeChar (c : Char) : List Char :=
  if c = '\\' then ['\\', '\\']
  else if c = '\'' then ['\\', '\'']
  else if c = '\n' then ['\\', 'n']
  else if c = '\r' then ['\\', 'r']
  else [c]

/-- The characters of a value inside a literal. -/
def escapeChars (cs : List Char) : List Char := cs.flatMap escapeChar

/-- The characters of a literal. -/
def literalChars (value : String) : List Char := '\'' :: escapeChars value.toList ++ ['\'']

/-- A value ready to stand between single quotes. -/
def escapeLiteral (value : String) : String := String.ofList (escapeChars value.toList)

/-- A value as a literal. -/
def quoteLiteral (value : String) : String := String.ofList (literalChars value)

/-- The rest of a literal after its opening quote: its value and what follows the closing quote. -/
def readLiteral : List Char → Option (List Char × List Char)
  | [] => none
  | '\'' :: rest => some ([], rest)
  | '\\' :: c :: rest =>
    let decoded := match c with
      | '\\' => some '\\'
      | '\'' => some '\''
      | 'n' => some '\n'
      | 'r' => some '\r'
      | _ => none
    match decoded, readLiteral rest with
    | some d, some (value, rest) => some (d :: value, rest)
    | _, _ => none
  | c :: rest =>
    if c = '\n' ∨ c = '\r' ∨ c = '\\' then none
    else (readLiteral rest).map fun (value, rest) => (c :: value, rest)

end EntityGraph.Traversal
