/-!
# Decimal numerals

Natural numbers and integers in base ten. `ofDigits?_digits` reads a written number back.
-/

namespace BoxOffice.Text

/-- The character of a decimal digit. -/
def digitChar (d : Nat) : Char :=
  Char.ofNat (48 + d)

/-- The value of a decimal digit, `none` for any other character. -/
def digitValue? (c : Char) : Option Nat :=
  if '0' ≤ c ∧ c ≤ '9' then some (c.toNat - 48) else none

theorem digitValue?_digitChar {d : Nat} (h : d < 10) : digitValue? (digitChar d) = some d := by
  have : ∀ d : Fin 10, digitValue? (digitChar d) = some d.val := by decide
  exact this ⟨d, h⟩

/-- The decimal digits of a number, without leading zeros. -/
def digits (n : Nat) : List Char :=
  if n < 10 then [digitChar n] else digits (n / 10) ++ [digitChar (n % 10)]
termination_by n

theorem digits_ne_nil (n : Nat) : digits n ≠ [] := by
  unfold digits
  split <;> simp

/-- The digits of a number with zeros in front up to a width. -/
def paddedDigits (width n : Nat) : List Char :=
  let ds := digits n
  List.replicate (width - ds.length) '0' ++ ds

/-- The number that follows when digits are written after a number. -/
def readDigits (start : Nat) : List Char → Option Nat
  | [] => some start
  | c :: rest => (digitValue? c).bind fun d => readDigits (start * 10 + d) rest

theorem readDigits_append (start : Nat) (cs ds : List Char) :
    readDigits start (cs ++ ds) = (readDigits start cs).bind fun n => readDigits n ds := by
  induction cs generalizing start with
  | nil => rfl
  | cons c rest ih =>
    simp only [List.cons_append, readDigits]
    cases digitValue? c with
    | none => rfl
    | some d => exact ih _

theorem readDigits_digits (n : Nat) : readDigits 0 (digits n) = some n := by
  fun_induction digits n with
  | case1 n h => simp [readDigits, digitValue?_digitChar h]
  | case2 n h ih =>
    have hd : n % 10 < 10 := Nat.mod_lt _ (by decide)
    simp only [readDigits_append, ih, Option.bind_some, readDigits, digitValue?_digitChar hd]
    congr 1
    omega

/-- The number written with one or more digits, leading zeros allowed. -/
def ofDigits? : List Char → Option Nat
  | [] => none
  | cs => readDigits 0 cs

theorem ofDigits?_digits (n : Nat) : ofDigits? (digits n) = some n := by
  rw [← readDigits_digits n]
  cases h : digits n with
  | nil => exact absurd h (digits_ne_nil n)
  | cons c cs => rfl

/-- An unsigned number as a setting may give it: digits after at most one plus sign. -/
def unsigned? : List Char → Option Nat
  | '+' :: cs => ofDigits? cs
  | cs => ofDigits? cs

/-- A natural number in base ten. -/
def decimal (n : Nat) : String :=
  String.ofList (digits n)

/-- The characters of an integer, with a minus sign in front of a negative one. -/
def integerDigits : Int → List Char
  | .ofNat n => digits n
  | .negSucc n => '-' :: digits (n + 1)

/-- An integer in base ten. -/
def integer (n : Int) : String :=
  String.ofList (integerDigits n)

end BoxOffice.Text
