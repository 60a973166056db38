import WritePolicy.Json.Basic
import WritePolicy.Number.Shortest

/-! # JSON text of a value

    Two layouts of the same text: compact, as values are quoted in messages,
    and indented by two spaces, as reports are printed. Strings escape the
    quote, the backslash and the control characters below U+0020 only.
-/

namespace WritePolicy.Json

/-! ## Strings -/

/-- A lower-case hexadecimal digit. -/
def hexDigit (n : Nat) : Char :=
  if n < 10 then Char.ofNat ('0'.toNat + n) else Char.ofNat ('a'.toNat + n - 10)

/-- A character as it stands between quotes. -/
def escape (c : Char) : List Char :=
  match c with
  | '"' => ['\\', '"']
  | '\\' => ['\\', '\\']
  | '\x08' => ['\\', 'b']
  | '\t' => ['\\', 't']
  | '\n' => ['\\', 'n']
  | '\x0c' => ['\\', 'f']
  | '\r' => ['\\', 'r']
  | c =>
    if c.toNat < 32 then
      ['\\', 'u', '0', '0', hexDigit (c.toNat / 16), hexDigit (c.toNat % 16)]
    else [c]

/-- A string between quotes. -/
def quote (s : String) : String :=
  String.ofList (['"'] ++ s.toList.flatMap escape ++ ['"'])

/-! ## Compact text -/

mutual

/-- The value without any blanks, fields in their order. -/
def compact : Json → String
  | null => "null"
  | bool b => if b then "true" else "false"
  | number n => n.text
  | string s => quote s
  | array items => "[" ++ String.intercalate "," (compactItems items) ++ "]"
  | object fields => "\x7b" ++ String.intercalate "," (compactFields fields) ++ "\x7d"

/-- The text of each item. -/
def compactItems : List Json → List String
  | [] => []
  | v :: rest => compact v :: compactItems rest

/-- The text of each field. -/
def compactFields : List (String × Json) → List String
  | [] => []
  | (k, v) :: rest => (quote k ++ ":" ++ compact v) :: compactFields rest

end

/-- How a value is quoted in messages: a string bare, all else as JSON. -/
def plainText : Json → String
  | string s => s
  | v => compact v

/-! ## Indented text -/

/-- A line break and two spaces for each level. -/
def lineBreak (level : Nat) : String :=
  String.ofList ('\n' :: List.replicate (2 * level) ' ')

/-- Parts between brackets, each on a line of its own; no lines if there are
    no parts. -/
def bracketed (left right : String) (level : Nat) (parts : List String) : String :=
  if parts.isEmpty then left ++ right
  else
    left ++ lineBreak (level + 1) ++ String.intercalate ("," ++ lineBreak (level + 1)) parts ++
      lineBreak level ++ right

mutual

/-- The value over several lines, at a level of indentation. -/
def indented (level : Nat) : Json → String
  | array items => bracketed "[" "]" level (indentedItems (level + 1) items)
  | object fields => bracketed "\x7b" "\x7d" level (indentedFields (level + 1) fields)
  | v => compact v

/-- The indented text of each item. -/
def indentedItems (level : Nat) : List Json → List String
  | [] => []
  | v :: rest => indented level v :: indentedItems level rest

/-- The indented text of each field. -/
def indentedFields (level : Nat) : List (String × Json) → List String
  | [] => []
  | (k, v) :: rest => (quote k ++ ": " ++ indented level v) :: indentedFields level rest

end

/-- The value over several lines. -/
def pretty (v : Json) : String :=
  indented 0 v

end WritePolicy.Json
