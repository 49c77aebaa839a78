import BoxOffice.Text.Decimal

/-!
# JSON values

A value keeps what the text says: the members of an object in their order, a name as often as it
was given, and a numeral exactly. A numeral with a point or an exponent, and `-0`, is not an
integer.
-/

namespace BoxOffice

/-- A number as a text writes it. -/
inductive Numeral
  /-- A whole number written with digits alone. -/
  | integer (value : Int)
  /-- `mantissa · 10 ^ exponent`, with its sign apart. -/
  | decimal (negative : Bool) (mantissa : Nat) (exponent : Int)
  deriving DecidableEq, Repr

namespace Numeral

/-- The digits at the front and what follows them. -/
def spanDigits (cs : List Char) : List Char × List Char :=
  (cs.takeWhile fun c => (Text.digitValue? c).isSome,
    cs.dropWhile fun c => (Text.digitValue? c).isSome)

/-- An exponent without its letter: digits after at most one sign. -/
def exponent? : List Char → Option Int
  | '+' :: cs => (Text.ofDigits? cs).map Int.ofNat
  | '-' :: cs => (Text.ofDigits? cs).map fun n => -Int.ofNat n
  | cs => (Text.ofDigits? cs).map Int.ofNat

/-- The exponent that ends a numeral, zero when nothing is left. -/
def tail? : List Char → Option Int
  | [] => some 0
  | 'e' :: cs => exponent? cs
  | 'E' :: cs => exponent? cs
  | _ => none

/-- A numeral without its sign: no leading zeros, then perhaps a fraction and an exponent. -/
def unsigned? (negative : Bool) (cs : List Char) : Option Numeral :=
  let (whole, rest) := spanDigits cs
  if whole.isEmpty || (whole.length > 1 && whole.head? == some '0') then none
  else match rest with
    | [] => (Text.ofDigits? whole).map fun n =>
        if negative then
          if n = 0 then .decimal true 0 0 else .integer (-Int.ofNat n)
        else .integer (Int.ofNat n)
    | '.' :: cs =>
      let (fraction, rest) := spanDigits cs
      if fraction.isEmpty then none
      else do
        let mantissa ← Text.ofDigits? (whole ++ fraction)
        let power ← tail? rest
        return .decimal negative mantissa (power - fraction.length)
    | rest => do
      let mantissa ← Text.ofDigits? whole
      let power ← tail? rest
      return .decimal negative mantissa power

/-- The numeral that a run of characters writes. -/
def ofChars? : List Char → Option Numeral
  | '-' :: cs => unsigned? true cs
  | cs => unsigned? false cs

/-- The characters of a numeral. -/
def chars : Numeral → List Char
  | .integer n => Text.integerDigits n
  | .decimal negative mantissa exponent =>
    (if negative then ['-'] else []) ++ Text.digits mantissa ++ 'e' :: Text.integerDigits exponent

/-- The least number too great for double precision. -/
def doubleBound : Nat := Nat.pow 2 1024 - Nat.pow 2 970

/-- The number has a place among the double precision numbers. Only very great ones have none. -/
def isFinite : Numeral → Bool
  | .integer n => n.natAbs < doubleBound
  | .decimal _ mantissa exponent =>
    let size := (Text.digits mantissa).length + exponent
    mantissa = 0 || size ≤ 308 ||
      (size = 309 &&
        mantissa * Nat.pow 10 exponent.toNat <
          doubleBound * Nat.pow 10 (-exponent).toNat)

end Numeral

/-- A JSON value. -/
inductive Json
  | null
  | bool (value : Bool)
  | number (value : Numeral)
  | text (value : String)
  /-- A value that is well written and stands for nothing. It can be passed over, not kept: a string
  with an escape for half of a surrogate pair, an object with such a name, or a list or object inside
  of too many others. -/
  | broken
  | list (items : List Json)
  | object (members : List (String × Json))
  deriving Repr

namespace Json

/-- The JSON form of an integer. -/
def ofInt (n : Int) : Json :=
  .number (.integer n)

/-- The JSON form of a natural number. -/
def ofNat (n : Nat) : Json :=
  ofInt (Int.ofNat n)

/-- The integer that a value is. -/
def int? : Json → Option Int
  | .number (.integer n) => some n
  | _ => none

/-- The text that a value is. -/
def text? : Json → Option String
  | .text s => some s
  | _ => none

/-- The last value that an object gives a name, `null` when it gives none. -/
def get (j : Json) (name : String) : Json :=
  match j with
  | .object members =>
    match members.reverse.find? (·.1 == name) with
    | some (_, value) => value
    | none => .null
  | _ => .null

mutual

/-- Every part of the value stands for something, and every number for a finite one. -/
def isSound : Json → Bool
  | .broken => false
  | .number n => n.isFinite
  | .list items => allSound items
  | .object members => allMembersSound members
  | _ => true

/-- Every item is sound. -/
def allSound : List Json → Bool
  | [] => true
  | v :: rest => isSound v && allSound rest

/-- The value of every member is sound. -/
def allMembersSound : List (String × Json) → Bool
  | [] => true
  | (_, v) :: rest => isSound v && allMembersSound rest

end

end Json

end BoxOffice
