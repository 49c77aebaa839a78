import BoxOffice.Json.Value
import BoxOffice.Text.Hex

/-!
# Writing JSON

Values on one line without blanks. In a string the quote, the backslash and the control characters
are escaped, by a letter if they have one, and every other character stands for itself.
-/

namespace BoxOffice.Json

/-- The letter that stands behind a backslash for a character. -/
def escapeLetter? (c : Char) : Option Char :=
  match c with
  | '"' => some '"'
  | '\\' => some '\\'
  | '\x08' => some 'b'
  | '\x0c' => some 'f'
  | '\n' => some 'n'
  | '\r' => some 'r'
  | '\t' => some 't'
  | _ => none

/-- The character as a string literal shows it. -/
def escapeChar (c : Char) : List Char :=
  match escapeLetter? c with
  | some letter => ['\\', letter]
  | none =>
    if c.toNat < 0x20 then
      ['\\', 'u', '0', '0', Text.hexChar (c.toNat / 16), Text.hexChar (c.toNat % 16)]
    else [c]

/-- A string literal. -/
def quoteChars (s : String) : List Char :=
  '"' :: s.toList.flatMap escapeChar ++ ['"']

mutual

/-- The characters of a value. -/
def chars : Json → List Char
  | .null => "null".toList
  | .bool true => "true".toList
  | .bool false => "false".toList
  | .number n => n.chars
  | .text s => quoteChars s
  | .broken => "null".toList
  | .list items => '[' :: itemChars items
  | .object members => '{' :: memberChars members

/-- The characters of the items of a list up to its end. -/
def itemChars : List Json → List Char
  | [] => [']']
  | [v] => chars v ++ [']']
  | v :: rest => chars v ++ ',' :: itemChars rest

/-- The characters of the members of an object up to its end. -/
def memberChars : List (String × Json) → List Char
  | [] => ['}']
  | [(name, v)] => quoteChars name ++ ':' :: chars v ++ ['}']
  | (name, v) :: rest => quoteChars name ++ ':' :: chars v ++ ',' :: memberChars rest

end

/-- The text of a value. -/
def render (j : Json) : String :=
  String.ofList (chars j)

end BoxOffice.Json
