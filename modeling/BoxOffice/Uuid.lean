import BoxOffice.Json.Form
import BoxOffice.Text.Hex

/-!
# UUIDs

An identifier of 32 hexadecimal digits. It is written in lower case in groups of 8, 4, 4, 4 and 12,
and read in either case: in groups, without hyphens, in groups inside braces, or in groups after
`urn:uuid:`, the case of which does not matter either.
-/

namespace BoxOffice

/-- An identifier of 32 hexadecimal digits. -/
structure Uuid where
  digits : Vector (Fin 16) 32
  deriving DecidableEq

namespace Uuid

/-- The digits in groups of 8, 4, 4, 4 and 12. -/
def chars (u : Uuid) : List Char :=
  let ds := u.digits.toList.map fun d => Text.hexChar d.val
  ds.take 8 ++ '-' :: (ds.drop 8).take 4 ++ '-' :: (ds.drop 12).take 4 ++
    '-' :: (ds.drop 16).take 4 ++ '-' :: ds.drop 20

/-- The digits in groups. -/
def render (u : Uuid) : String :=
  String.ofList u.chars

instance : ToString Uuid := ⟨render⟩

/-- A hexadecimal digit of either case. -/
def digit? (c : Char) : Option (Fin 16) :=
  (Text.hexValue? c).bind fun n => if h : n < 16 then some ⟨n, h⟩ else none

/-- An identifier written as its digits alone. -/
def ofDigits? (cs : List Char) : Option Uuid := do
  let ds ← cs.mapM digit?
  if h : ds.toArray.size = 32 then some ⟨⟨ds.toArray, h⟩⟩ else none

/-- An identifier written in groups. -/
def ofGroups? (cs : List Char) : Option Uuid :=
  if cs.length = 36 ∧ cs[8]? = some '-' ∧ cs[13]? = some '-' ∧ cs[18]? = some '-' ∧
      cs[23]? = some '-' then
    ofDigits? (cs.take 8 ++ (cs.drop 9).take 4 ++ (cs.drop 14).take 4 ++ (cs.drop 19).take 4 ++
      cs.drop 24)
  else none

/-- The identifier that the characters of a text name. -/
def ofChars? (cs : List Char) : Option Uuid :=
  if cs.length = 32 then ofDigits? cs
  else if cs.length = 38 ∧ cs.head? = some '{' ∧ cs.getLast? = some '}' then
    ofGroups? ((cs.drop 1).take 36)
  else if cs.length = 45 ∧ (cs.take 9).map Char.toLower = "urn:uuid:".toList then ofGroups? (cs.drop 9)
  else ofGroups? cs

/-- The identifier that a text names. -/
def parse? (s : String) : Option Uuid :=
  ofChars? s.toList

/-- The random identifier (version 4) made from a number: the number stands in the digits behind
the mark of the variant. -/
def random (seed : Nat) : Uuid where
  digits := Vector.ofFn fun i =>
    if i.val = 12 then 4
    else if i.val = 16 then 8
    else Fin.ofNat 16 (if 17 ≤ i.val then seed / Nat.pow 16 (31 - i.val) else 0)

/-- An identifier of version 4 in the standard layout. -/
def isRandom (u : Uuid) : Bool :=
  u.digits[12] == 4 && 8 ≤ u.digits[16].val && u.digits[16].val ≤ 11

instance : JsonForm Uuid where
  encode u := .text u.render
  decode j := j.text?.bind parse?

end Uuid

end BoxOffice
