import BoxOffice.Text.Decimal
import BoxOffice.Text.Hex

/-!
# Socket addresses

An IPv4 or IPv6 address with a port. IPv4 octets have no leading zeros; an IPv6 address stands in
brackets, `::` stands for one or more zero groups, and the last two groups may be written as an IPv4
address. The written form is the canonical one: the longest run of at least two zero groups is
shortened, the first of equally long ones.
-/

namespace BoxOffice

/-- An address that a server can listen on. -/
inductive SocketAddress
  | v4 (octets : List Nat) (port : Nat)
  /-- Eight groups of sixteen bits, and the number of a network scope or zero. -/
  | v6 (groups : List Nat) (scope : Nat) (port : Nat)
  deriving DecidableEq, Repr

namespace SocketAddress

/-- The number at the front, of at most `width` decimal digits and at most `limit`; a zero stands
alone unless `padded`. -/
def decimal? (width : Nat) (padded : Bool) (limit : Nat) (cs : List Char) :
    Option (Nat × List Char) := do
  let isDigit (c : Char) := (Text.digitValue? c).isSome
  let ds := (cs.take width).takeWhile isDigit
  let n ← Text.ofDigits? ds
  guard (n ≤ limit && (padded || ds.length = 1 || ds.head? != some '0'))
  return (n, cs.drop ds.length)

/-- What follows a given character at the front. -/
def skip? (c : Char) : List Char → Option (List Char)
  | d :: rest => if d = c then some rest else none
  | [] => none

/-- An octet. -/
def octet? (cs : List Char) : Option (Nat × List Char) :=
  decimal? 3 false 255 cs

/-- Four octets. -/
def octets? (cs : List Char) : Option (List Nat × List Char) := do
  let (a, cs) ← octet? cs
  let (b, cs) ← octet? (← skip? '.' cs)
  let (c, cs) ← octet? (← skip? '.' cs)
  let (d, cs) ← octet? (← skip? '.' cs)
  return ([a, b, c, d], cs)

/-- A group of one to four hexadecimal digits. -/
def group? (cs : List Char) : Option (Nat × List Char) :=
  let ds := (cs.take 4).takeWhile fun c => (Text.hexValue? c).isSome
  if ds.isEmpty then none else (Text.readHex 0 ds).map fun n => (n, cs.drop ds.length)

/-- The groups at the front, at most `limit` of them and each but the first after a colon, and
whether the last two are written as an IPv4 address. -/
def groups (first : Bool) : (limit : Nat) → List Char → List Nat × Bool × List Char
  | 0, cs => ([], false, cs)
  | limit + 1, cs =>
    let start? := if first then some cs else skip? ':' cs
    match if limit = 0 then none else start?.bind octets? with
    | some (octets, rest) =>
      match octets with
      | [a, b, c, d] => ([a * 256 + b, c * 256 + d], true, rest)
      | _ => ([], false, cs)
    | none =>
      match start?.bind group? with
      | some (group, rest) =>
        let (more, dotted, rest) := groups false limit rest
        (group :: more, dotted, rest)
      | none => ([], false, cs)

/-- Eight groups, some zeros perhaps left out. -/
def eightGroups? (cs : List Char) : Option (List Nat × List Char) :=
  let (front, dotted, rest) := groups true 8 cs
  if front.length = 8 then some (front, rest)
  else if dotted then none
  else match rest with
    | ':' :: ':' :: rest =>
      let (back, _, rest) := groups true (7 - front.length) rest
      some (front ++ List.replicate (8 - front.length - back.length) 0 ++ back, rest)
    | _ => none

/-- The port after a colon, which ends an address. -/
def port? (cs : List Char) : Option Nat := do
  let cs ← skip? ':' cs
  let (port, rest) ← decimal? cs.length true 65535 cs
  guard rest.isEmpty
  return port

/-- The network scope of an IPv6 address, zero when none is given. -/
def scope? (cs : List Char) : Option (Nat × List Char) :=
  match cs with
  | '%' :: cs => decimal? cs.length true 4294967295 cs
  | _ => some (0, cs)

/-- The address that the characters of a text name. -/
def ofChars? (cs : List Char) : Option SocketAddress :=
  match cs with
  | '[' :: cs => do
    let (groups, cs) ← eightGroups? cs
    let (scope, cs) ← scope? cs
    let port ← port? (← skip? ']' cs)
    return .v6 groups scope port
  | _ => do
    let (octets, cs) ← octets? cs
    let port ← port? cs
    return .v4 octets port

/-- The address that a text names. -/
def parse? (s : String) : Option SocketAddress :=
  ofChars? s.toList

/-- Four octets with points between them. -/
def octetChars (octets : List Nat) : List Char :=
  ['.'].intercalate (octets.map Text.digits)

/-- Groups with colons between them. -/
def groupChars (groups : List Nat) : List Char :=
  [':'].intercalate (groups.map Text.hexDigits)

/-- The number of zero groups at the front. -/
def zeroRun (groups : List Nat) : Nat :=
  (groups.takeWhile (· == 0)).length

/-- The start and length of the longest run of zero groups, the first of equally long ones. -/
def longestRun (groups : List Nat) : Nat × Nat :=
  (List.range groups.length).foldl (fun (start, size) i =>
    let run := zeroRun (groups.drop i)
    if size < run then (i, run) else (start, size)) (0, 0)

/-- An IPv6 address in its canonical form. -/
def v6Chars (groups : List Nat) : List Char :=
  match groups with
  | [0, 0, 0, 0, 0, 0xffff, a, b] =>
    "::ffff:".toList ++ octetChars [a / 256, a % 256, b / 256, b % 256]
  | _ =>
    let (start, size) := longestRun groups
    if size < 2 then groupChars groups
    else groupChars (groups.take start) ++ "::".toList ++ groupChars (groups.drop (start + size))

/-- The canonical text of an address. -/
def render : SocketAddress → String
  | .v4 octets port => String.ofList (octetChars octets ++ ':' :: Text.digits port)
  | .v6 groups scope port =>
    String.ofList ('[' :: v6Chars groups ++
      (if scope = 0 then [] else '%' :: Text.digits scope) ++ ']' :: ':' :: Text.digits port)

end SocketAddress

end BoxOffice
