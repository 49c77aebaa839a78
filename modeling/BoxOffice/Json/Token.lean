import BoxOffice.Json.Value
import BoxOffice.Text.Hex

/-!
# JSON tokens

The words of a JSON text, and their reading by a machine that takes one character at a time. The
state between two characters is a `Scan`.
-/

namespace BoxOffice

/-- One word of a JSON text. -/
inductive JsonToken
  | openList
  | closeList
  | openObject
  | closeObject
  | comma
  | colon
  /-- A literal, number or string: a value that is one word. -/
  | atom (value : Json)
  deriving Repr

namespace JsonToken

/-- A part of a string: a character as it stands, or the number of a `\u` escape. -/
inductive Piece
  | plain (c : Char)
  | unit (code : Nat)

/-- The characters that the parts of a string name; `none` for half of a surrogate pair. -/
def joinPieces : List Piece → Option (List Char)
  | [] => some []
  | .plain c :: rest => (joinPieces rest).map (c :: ·)
  | .unit code :: rest =>
    if 0xD800 ≤ code ∧ code ≤ 0xDBFF then
      match rest with
      | .unit low :: more =>
        if 0xDC00 ≤ low ∧ low ≤ 0xDFFF then
          (joinPieces more).map
            (Char.ofNat (0x10000 + (code - 0xD800) * 0x400 + (low - 0xDC00)) :: ·)
        else none
      | _ => none
    else if 0xDC00 ≤ code ∧ code ≤ 0xDFFF then none
    else (joinPieces rest).map (Char.ofNat code :: ·)

/-- The string that the parts of a literal make. -/
def ofPieces (pieces : List Piece) : JsonToken :=
  match joinPieces pieces with
  | some cs => .atom (.text (String.ofList cs))
  | none => .atom .broken

/-- What has been read of the word under way. -/
inductive Scan
  /-- No word is under way. -/
  | between
  /-- A literal or a number; its characters so far, the last one first. -/
  | bare (seen : List Char)
  /-- A string; its parts so far, the last one first. -/
  | quoted (seen : List Piece)
  /-- A string in which a backslash has just been read. -/
  | escaped (seen : List Piece)
  /-- A string in which `\u` and some of its four digits have been read. -/
  | coded (seen : List Piece) (digits : Nat) (code : Nat)

/-- The characters that may stand between two words. -/
def isGap (c : Char) : Bool :=
  c == ' ' || c == '\t' || c == '\n' || c == '\r'

/-- The token that a mark of punctuation is. -/
def mark? (c : Char) : Option JsonToken :=
  match c with
  | '[' => some .openList
  | ']' => some .closeList
  | '{' => some .openObject
  | '}' => some .closeObject
  | ',' => some .comma
  | ':' => some .colon
  | _ => none

/-- The token that a run of bare characters is. -/
def ofBare? (cs : List Char) : Option JsonToken :=
  if cs = "null".toList then some (.atom .null)
  else if cs = "true".toList then some (.atom (.bool true))
  else if cs = "false".toList then some (.atom (.bool false))
  else (Numeral.ofChars? cs).map fun n => .atom (.number n)

/-- The character that an escape of one letter names. -/
def shortEscape? (c : Char) : Option Char :=
  match c with
  | '"' => some '"'
  | '\\' => some '\\'
  | '/' => some '/'
  | 'b' => some '\x08'
  | 'f' => some '\x0c'
  | 'n' => some '\n'
  | 'r' => some '\r'
  | 't' => some '\t'
  | _ => none

/-- Reads a character where no word is under way: the tokens it ends, and the state after it. -/
def startWord (c : Char) : List JsonToken × Scan :=
  if isGap c then ([], .between)
  else match mark? c with
    | some token => ([token], .between)
    | none => if c == '"' then ([], .quoted []) else ([], .bare [c])

/-- Reads one character: the tokens it ends, and the state after it. -/
def readChar (state : Scan) (c : Char) : Option (List JsonToken × Scan) :=
  match state with
  | .between => some (startWord c)
  | .bare seen =>
    if isGap c || (mark? c).isSome || c == '"' then do
      let token ← ofBare? seen.reverse
      let (tokens, next) := startWord c
      return (token :: tokens, next)
    else some ([], .bare (c :: seen))
  | .quoted seen =>
    if c == '"' then some ([ofPieces seen.reverse], .between)
    else if c == '\\' then some ([], .escaped seen)
    else if c.toNat < 0x20 then none
    else some ([], .quoted (.plain c :: seen))
  | .escaped seen =>
    if c == 'u' then some ([], .coded seen 0 0)
    else (shortEscape? c).map fun named => ([], .quoted (.plain named :: seen))
  | .coded seen digits code => do
    let digit ← Text.hexValue? c
    let code := code * 16 + digit
    return ([], if digits = 3 then .quoted (.unit code :: seen) else .coded seen (digits + 1) code)

/-- The tokens of the characters that follow a state. -/
def scanFrom : Scan → List Char → Option (List JsonToken)
  | .between, [] => some []
  | .bare seen, [] => (ofBare? seen.reverse).map ([·])
  | _, [] => none
  | state, c :: rest => do
    let (tokens, next) ← readChar state c
    let more ← scanFrom next rest
    return tokens ++ more

/-- The tokens of a JSON text. -/
def scan (cs : List Char) : Option (List JsonToken) :=
  scanFrom .between cs

end JsonToken

end BoxOffice
