import BoxOffice.Json.Token

/-!
# Reading JSON

The values of a token list, built by a machine that takes one token at a time and keeps the lists
and objects it is inside of. A text has exactly one value; anything after it makes the text
unreadable. A list or object inside of 127 others is read and stands for nothing.
-/

namespace BoxOffice.Json

/-- A list or object under way, with the last item first. -/
inductive Frame
  | list (items : List Json)
  /-- An object in which `name` waits for its value. It has no members any more once a name stood for
  nothing. -/
  | object (members : Option (List (String × Json))) (name : String)

/-- What may come next, inside the frames under way (innermost first). -/
inductive Reading
  /-- A value. -/
  | value (frames : List Frame)
  /-- A value, or the end of the list just opened. -/
  | firstItem (frames : List Frame)
  /-- A name, or the end of the object just opened. -/
  | firstName (frames : List Frame)
  /-- The name of a further member. -/
  | name (members : Option (List (String × Json))) (frames : List Frame)
  /-- The colon after a name. -/
  | colon (members : Option (List (String × Json))) (name : String) (frames : List Frame)
  /-- A comma or the end of the innermost frame: a value is complete. -/
  | done (result : Json) (frames : List Frame)

/-- Reads the token that begins a value. -/
def beginValue (frames : List Frame) : JsonToken → Option Reading
  | .atom v => some (.done v frames)
  | .openList => some (.firstItem frames)
  | .openObject => some (.firstName frames)
  | _ => none

/-- How many lists and objects a value may be inside of and still be kept. -/
def maxFrames : Nat := 126

/-- A list or object that is complete, inside some frames. -/
def close (result : Json) (frames : List Frame) : Reading :=
  .done (if (frames.drop maxFrames).isEmpty then result else .broken) frames

/-- The object with some members, the last one first. -/
def ofMembers : Option (List (String × Json)) → Json
  | some members => .object members.reverse
  | none => .broken

/-- Reads one token. -/
def readToken : Reading → JsonToken → Option Reading
  | .value frames, token => beginValue frames token
  | .firstItem frames, .closeList => some (close (.list []) frames)
  | .firstItem frames, token => beginValue (.list [] :: frames) token
  | .firstName frames, .closeObject => some (close (.object []) frames)
  | .firstName frames, .atom (.text name) => some (.colon (some []) name frames)
  | .firstName frames, .atom .broken => some (.colon none "" frames)
  | .name members frames, .atom (.text name) => some (.colon members name frames)
  | .name _ frames, .atom .broken => some (.colon none "" frames)
  | .colon members name frames, .colon => some (.value (.object members name :: frames))
  | .done v (.list items :: frames), .comma => some (.value (.list (v :: items) :: frames))
  | .done v (.list items :: frames), .closeList =>
    some (close (.list (v :: items).reverse) frames)
  | .done v (.object members name :: frames), .comma =>
    some (.name (members.map ((name, v) :: ·)) frames)
  | .done v (.object members name :: frames), .closeObject =>
    some (close (ofMembers (members.map ((name, v) :: ·))) frames)
  | _, _ => none

/-- The value that a list of tokens writes after what has been read. -/
def ofTokensFrom : Reading → List JsonToken → Option Json
  | .done v [], [] => some v
  | _, [] => none
  | state, token :: rest => (readToken state token).bind fun next => ofTokensFrom next rest

/-- The value that a list of tokens writes. -/
def ofTokens? (tokens : List JsonToken) : Option Json :=
  ofTokensFrom (.value []) tokens

/-- The value that a text writes. -/
def parse? (s : String) : Option Json :=
  (JsonToken.scan s.toList).bind ofTokens?

end BoxOffice.Json
