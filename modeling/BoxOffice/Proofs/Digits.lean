import Mathlib.Algebra.Group.Nat.Defs
import Mathlib.Data.List.Induction
import BoxOffice.Json.Value
import BoxOffice.Text.Hex

/-!
# Digits

The decimal digits of a number are digits and nothing else (`mem_digits`), without a zero in front
(`head?_digits`). A width that a number fits in is filled exactly by its padded digits
(`length_paddedDigits`), and they are read back as the number (`ofDigits?_paddedDigits`). What is
written for a numeral is read back (`Numeral.ofChars?_chars`). The texts that are read as an unsigned
number are its spellings and no others (`unsigned?_eq_some_iff`).
-/

namespace BoxOffice

namespace Text

/-- What holds of the ten digits holds of all digits of a number. -/
theorem mem_digits {c : Char} {n : Nat} (h : c ∈ digits n) : ∃ d < 10, c = digitChar d := by
  fun_induction digits n with
  | case1 n small => exact ⟨n, small, List.mem_singleton.1 h⟩
  | case2 n large ih =>
    rcases List.mem_append.1 h with front | last
    · exact ih front
    · exact ⟨n % 10, Nat.mod_lt _ (by decide), List.mem_singleton.1 last⟩

/-- Only the digits of zero begin with a zero. -/
theorem head?_digits {n : Nat} (positive : 0 < n) : (digits n).head? ≠ some '0' := by
  have not_zero : ∀ d : Fin 10, 0 < d.val → digitChar d ≠ '0' := by decide
  fun_induction digits n with
  | case1 n small =>
    intro zero
    exact not_zero ⟨n, small⟩ positive (Option.some.inj zero)
  | case2 n large ih =>
    have front := ih (by omega)
    cases written : digits (n / 10) with
    | nil => exact absurd written (digits_ne_nil _)
    | cons c cs =>
      rw [written] at front
      exact front

theorem length_digits_le {n width : Nat} (positive : 0 < width) (fits : n < 10 ^ width) :
    (digits n).length ≤ width := by
  induction width generalizing n with
  | zero => omega
  | succ width ih =>
    unfold digits
    split
    · simp
    · next large =>
      have front : (digits (n / 10)).length ≤ width := by
        cases width with
        | zero => omega
        | succ width =>
          refine ih (Nat.succ_pos width) ?_
          rw [Nat.pow_succ] at fits
          omega
      rw [List.length_append, List.length_singleton]
      omega

/-- A width that a number fits in is filled exactly. -/
theorem length_paddedDigits {n width : Nat} (positive : 0 < width) (fits : n < 10 ^ width) :
    (paddedDigits width n).length = width := by
  have le := length_digits_le positive fits
  simp only [paddedDigits, List.length_append, List.length_replicate]
  omega

theorem mem_paddedDigits {c : Char} {width n : Nat} (h : c ∈ paddedDigits width n) :
    ∃ d < 10, c = digitChar d := by
  rcases List.mem_append.1 h with zero | digit
  · exact ⟨0, by decide, (List.mem_replicate.1 zero).2⟩
  · exact mem_digits digit

/-- Zeros in front do not change a number. -/
theorem readDigits_zeros (k : Nat) (cs : List Char) :
    readDigits 0 (List.replicate k '0' ++ cs) = readDigits 0 cs := by
  induction k with
  | zero => rfl
  | succ k ih =>
    rw [List.replicate_succ, List.cons_append, readDigits]
    exact ih

theorem ofDigits?_eq_readDigits {cs : List Char} (some : cs ≠ []) :
    ofDigits? cs = readDigits 0 cs := by
  cases cs with
  | nil => exact absurd rfl some
  | cons c cs => rfl

theorem ofDigits?_paddedDigits (width n : Nat) : ofDigits? (paddedDigits width n) = some n := by
  have filled : paddedDigits width n ≠ [] := by
    simp [paddedDigits, digits_ne_nil]
  rw [ofDigits?_eq_readDigits filled, paddedDigits, readDigits_zeros, readDigits_digits]

/-- A character that is a digit is that of its value. -/
theorem digitChar_of_digitValue? {c : Char} {d : Nat} (h : digitValue? c = some d) :
    d < 10 ∧ digitChar d = c := by
  unfold digitValue? at h
  split at h
  · next digit =>
    obtain rfl := Option.some.inj h
    have low : 48 ≤ c.toNat := digit.1
    have high : c.toNat ≤ 57 := digit.2
    refine ⟨by omega, ?_⟩
    rw [digitChar, Nat.add_sub_cancel' low, Char.ofNat_toNat]
  · cases h

theorem digits_of_lt {n : Nat} (small : n < 10) : digits n = [digitChar n] := by
  rw [digits, if_pos small]

/-- One more digit behind those of a number makes those of ten times the number and it; behind that
of zero it stands alone. -/
theorem digits_append_digitChar {m d : Nat} (small : d < 10) :
    digits m ++ [digitChar d] = (if m = 0 then ['0'] else []) ++ digits (m * 10 + d) := by
  by_cases zero : m = 0
  · subst zero
    rw [Nat.zero_mul, Nat.zero_add, digits_of_lt small, digits_of_lt (by decide), if_pos rfl]
    rfl
  · have quotient : (m * 10 + d) / 10 = m := by omega
    have remainder : (m * 10 + d) % 10 = d := by omega
    conv_rhs => rw [if_neg zero, List.nil_append, digits, if_neg (by omega), quotient, remainder]

/-- What is read as a number is its digits, perhaps with zeros in front. -/
theorem exists_zeros_of_readDigits {cs : List Char} {n : Nat} (written : cs ≠ [])
    (h : readDigits 0 cs = some n) : ∃ k, cs = List.replicate k '0' ++ digits n := by
  -- by induction on the digits from the last one on: it is the last one of the number
  induction cs using List.reverseRecOn generalizing n with
  | nil => exact absurd rfl written
  | append_singleton cs c ih =>
    rw [readDigits_append] at h
    obtain ⟨m, front, last⟩ := Option.bind_eq_some_iff.1 h
    obtain ⟨d, digit, sum⟩ := Option.bind_eq_some_iff.1 last
    obtain rfl := Option.some.inj sum
    obtain ⟨small, rfl⟩ := digitChar_of_digitValue? digit
    by_cases alone : cs = []
    · subst alone
      obtain rfl := Option.some.inj front
      refine ⟨0, ?_⟩
      rw [Nat.zero_mul, Nat.zero_add, digits_of_lt small]
      rfl
    · obtain ⟨k, rfl⟩ := ih alone front
      rw [List.append_assoc, digits_append_digitChar small]
      by_cases zero : m = 0
      · refine ⟨k + 1, ?_⟩
        rw [if_pos zero, List.replicate_succ', List.append_assoc]
      · exact ⟨k, by rw [if_neg zero, List.nil_append]⟩

/-- How an unsigned number may be written: after a plus sign or without one, and with some zeros in
front. -/
structure Spelling where
  plus : Bool
  zeros : Nat
  deriving DecidableEq, Repr

namespace Spelling

/-- The characters of a number in a spelling. -/
def chars (s : Spelling) (n : Nat) : List Char :=
  (if s.plus then ['+'] else []) ++ (List.replicate s.zeros '0' ++ digits n)

/-- A number in a spelling. -/
def write (s : Spelling) (n : Nat) : String :=
  String.ofList (s.chars n)

end Spelling

theorem ofDigits?_eq_some_iff {cs : List Char} {n : Nat} :
    ofDigits? cs = some n ↔ ∃ k, cs = List.replicate k '0' ++ digits n := by
  constructor
  · intro h
    have written : cs ≠ [] := by
      rintro rfl
      cases h
    rw [ofDigits?_eq_readDigits written] at h
    exact exists_zeros_of_readDigits written h
  · rintro ⟨k, rfl⟩
    have written : List.replicate k '0' ++ digits n ≠ [] := by
      simp [digits_ne_nil]
    rw [ofDigits?_eq_readDigits written, readDigits_zeros, readDigits_digits]

/-- **The texts that are read as an unsigned number are its spellings.** -/
theorem unsigned?_eq_some_iff {cs : List Char} {n : Nat} :
    unsigned? cs = some n ↔ ∃ s : Spelling, cs = s.chars n := by
  constructor
  · intro h
    unfold unsigned? at h
    split at h
    · next rest =>
      obtain ⟨k, rfl⟩ := ofDigits?_eq_some_iff.1 h
      exact ⟨⟨true, k⟩, rfl⟩
    · obtain ⟨k, rfl⟩ := ofDigits?_eq_some_iff.1 h
      exact ⟨⟨false, k⟩, rfl⟩
  · rintro ⟨⟨plus, zeros⟩, rfl⟩
    have read : ofDigits? (List.replicate zeros '0' ++ digits n) = some n :=
      ofDigits?_eq_some_iff.2 ⟨zeros, rfl⟩
    cases plus with
    | true => exact read
    | false =>
      show unsigned? (List.replicate zeros '0' ++ digits n) = some n
      unfold unsigned?
      split
      · next sign =>
        -- no digit is a plus sign
        have no_sign : ∀ d : Fin 10, digitChar d ≠ '+' := by decide
        have first : '+' ∈ paddedDigits (zeros + (digits n).length) n := by
          rw [paddedDigits, Nat.add_sub_cancel, sign]
          exact List.mem_cons_self
        obtain ⟨d, small, plus⟩ := mem_paddedDigits first
        exact absurd plus.symm (no_sign ⟨d, small⟩)
      · exact read

theorem hexValue?_hexChar {d : Nat} (h : d < 16) : hexValue? (hexChar d) = some d := by
  have : ∀ d : Fin 16, hexValue? (hexChar d) = some d.val := by decide
  exact this ⟨d, h⟩

end Text

namespace Numeral

open Text

/-- Digits are split off from what follows them. -/
theorem spanDigits_append {ds rest : List Char} (digits : ∀ c ∈ ds, ∃ d < 10, c = digitChar d)
    (other : ∀ c ∈ rest.head?, digitValue? c = none) : spanDigits (ds ++ rest) = (ds, rest) := by
  have digit : ∀ c ∈ ds, (digitValue? c).isSome := by
    intro c mem
    obtain ⟨d, small, rfl⟩ := digits c mem
    rw [digitValue?_digitChar small]
    rfl
  have stops : rest.takeWhile (fun c => (digitValue? c).isSome) = [] ∧
      rest.dropWhile (fun c => (digitValue? c).isSome) = rest := by
    cases rest with
    | nil => exact ⟨rfl, rfl⟩
    | cons c rest => simp [other c rfl]
  rw [spanDigits, List.takeWhile_append_of_pos digit, List.dropWhile_append_of_pos digit, stops.1,
    stops.2, List.append_nil]

/-- The digits of a number are there, and have no zero too many. -/
theorem digits_wellFormed (n : Nat) :
    ((digits n).isEmpty || ((digits n).length > 1 && (digits n).head? == some '0')) = false := by
  have some : (digits n).isEmpty = false := by
    simp [digits_ne_nil]
  rcases Nat.eq_zero_or_pos n with rfl | positive
  · have zero : digits 0 = ['0'] := by
      rw [digits]
      rfl
    rw [zero]
    rfl
  · have first : ((digits n).head? == Option.some '0') = false := by
      simpa using head?_digits positive
    rw [some, first, Bool.and_false, Bool.or_false]

/-- A number that is written with digits alone. -/
theorem unsigned?_digits (negative : Bool) (n : Nat) :
    unsigned? negative (digits n) = some
      (if negative then if n = 0 then .decimal true 0 0 else .integer (-Int.ofNat n)
        else .integer (Int.ofNat n)) := by
  have split : spanDigits (digits n ++ []) = (digits n, []) :=
    spanDigits_append (fun _ => mem_digits) nofun
  rw [List.append_nil] at split
  rw [unsigned?, split]
  simp only [digits_wellFormed, Bool.false_eq_true, if_false, ofDigits?_digits, Option.map_some]

/-- No digit is a sign. -/
theorem ne_sign_of_mem_digits {c : Char} {n : Nat} (h : c ∈ digits n) : c ≠ '+' ∧ c ≠ '-' := by
  have no_sign : ∀ d : Fin 10, digitChar d ≠ '+' ∧ digitChar d ≠ '-' := by decide
  obtain ⟨d, small, rfl⟩ := mem_digits h
  exact no_sign ⟨d, small⟩

/-- An exponent is read back. -/
theorem exponent?_integerDigits (e : Int) : exponent? (integerDigits e) = some e := by
  cases e with
  | negSucc n =>
    show (ofDigits? (digits (n + 1))).map (fun n => -Int.ofNat n) = _
    rw [ofDigits?_digits]
    rfl
  | ofNat n =>
    have no_sign := fun c => ne_sign_of_mem_digits (c := c) (n := n)
    have read := ofDigits?_digits n
    show exponent? (digits n) = _
    unfold exponent?
    split
    · next cs written => exact absurd rfl (no_sign '+' (by rw [written]; simp)).1
    · next cs written => exact absurd rfl (no_sign '-' (by rw [written]; simp)).2
    · rw [read]
      rfl

/-- A number that is written with an exponent. -/
theorem unsigned?_exponent (negative : Bool) (mantissa : Nat) (exponent : Int) :
    unsigned? negative (digits mantissa ++ 'e' :: integerDigits exponent) =
      some (.decimal negative mantissa exponent) := by
  have split : spanDigits (digits mantissa ++ 'e' :: integerDigits exponent) =
      (digits mantissa, 'e' :: integerDigits exponent) := by
    refine spanDigits_append (fun _ => mem_digits) fun c first => ?_
    cases first
    rfl
  have power : tail? ('e' :: integerDigits exponent) = some exponent :=
    exponent?_integerDigits exponent
  rw [unsigned?, split]
  simp [digits_wellFormed, ofDigits?_digits, power]

/-- Without a minus sign in front a numeral is unsigned. -/
theorem ofChars?_digits (n : Nat) (rest : List Char) :
    ofChars? (digits n ++ rest) = unsigned? false (digits n ++ rest) := by
  cases written : digits n with
  | nil => exact absurd written (digits_ne_nil n)
  | cons c cs =>
    have no_sign : c ≠ '-' := (ne_sign_of_mem_digits (n := n) (by simp [written])).2
    unfold ofChars?
    split
    · next minus => exact absurd (List.cons.inj minus).1 no_sign
    · rfl

theorem mem_integerDigits {c : Char} {n : Int} (h : c ∈ integerDigits n) :
    (∃ d < 10, c = digitChar d) ∨ c = '-' := by
  cases n with
  | ofNat n => exact .inl (mem_digits h)
  | negSucc n =>
    rcases List.mem_cons.1 h with sign | digit
    · exact .inr sign
    · exact .inl (mem_digits digit)

/-- The characters of a numeral. -/
theorem mem_chars {c : Char} {n : Numeral} (h : c ∈ n.chars) :
    (∃ d < 10, c = digitChar d) ∨ c = '-' ∨ c = 'e' := by
  have of_integer {k : Int} (mem : c ∈ integerDigits k) :
      (∃ d < 10, c = digitChar d) ∨ c = '-' ∨ c = 'e' :=
    (mem_integerDigits mem).imp_right .inl
  cases n with
  | integer n => exact of_integer h
  | decimal negative mantissa exponent =>
    rcases List.mem_append.1 h with front | back
    · rcases List.mem_append.1 front with sign | digit
      · cases negative with
        | false => cases sign
        | true => exact .inr (.inl (List.mem_singleton.1 sign))
      · exact .inl (mem_digits digit)
    · rcases List.mem_cons.1 back with letter | mem
      · exact .inr (.inr letter)
      · exact of_integer mem

theorem chars_ne_nil (n : Numeral) : n.chars ≠ [] := by
  cases n with
  | integer n =>
    cases n with
    | ofNat n => exact digits_ne_nil n
    | negSucc n => exact List.cons_ne_nil _ _
  | decimal negative mantissa exponent => simp [chars]

/-- **What is written for a numeral is read back.** -/
theorem ofChars?_chars (n : Numeral) : ofChars? n.chars = some n := by
  cases n with
  | integer n =>
    cases n with
    | ofNat n =>
      have unsigned := ofChars?_digits n []
      rw [List.append_nil, unsigned?_digits] at unsigned
      exact unsigned
    | negSucc n => exact unsigned?_digits true (n + 1)
  | decimal negative mantissa exponent =>
    cases negative with
    | false =>
      have unsigned := ofChars?_digits mantissa ('e' :: integerDigits exponent)
      rw [unsigned?_exponent] at unsigned
      exact unsigned
    | true => exact unsigned?_exponent true mantissa exponent

end Numeral

end BoxOffice
