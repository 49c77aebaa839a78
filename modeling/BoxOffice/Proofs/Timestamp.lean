import BoxOffice.Proofs.Digits
import BoxOffice.Time.Timestamp

/-!
# Dates and timestamps

The date of a day's number is a date of the calendar (`isValid_ofDayNumber`) and has that number
(`dayNumber_ofDayNumber`). So an instant is read back from its timestamp
(`Timestamp.ofChars?_chars`), if its year is written with four digits, as from the year 0 to the
year 9999 (`Instant.dated_iff`), and it lies in no leap second.
-/

namespace BoxOffice

/-! ### The calendar -/

namespace Date

/-- The date of a day of a year that begins in March, the first day being 0. -/
def ofMarch (year : Int) (day : Nat) : Date :=
  let month := (5 * day + 2) / 153
  if month ≥ 10 then
    { year := year + 1, month := month - 9, day := day - daysBeforeMonth month + 1 }
  else { year, month := month + 3, day := day - daysBeforeMonth month + 1 }

/-- **Where a day lies**: in a year of four, in one of the 25 fours of a century, in one of the four
centuries that the calendar repeats. A year has 366 days only if it is the last of its four; and the
last year of a century has not, unless it is the last of the four centuries. -/
theorem ofDayNumber_cases (n : Int) : ∃ (era : Int) (century four year day : Nat),
    n + 719468 = 146097 * era + 36524 * century + 1461 * four + 365 * year + day ∧
    century ≤ 3 ∧ four ≤ 24 ∧ year ≤ 3 ∧ day ≤ 365 ∧
    (day = 365 → year = 3 ∧ (four = 24 → century = 3)) ∧
    ofDayNumber n = ofMarch (400 * era + 100 * century + 4 * four + year) day := by
  obtain ⟨inEra, at_era⟩ : ∃ inEra : Nat, inEra = ((n + 719468) % 146097).toNat := ⟨_, rfl⟩
  obtain ⟨century, at_century⟩ : ∃ century, century = min (inEra / 36524) 3 := ⟨_, rfl⟩
  obtain ⟨inCentury, in_century⟩ : ∃ d, d = inEra - century * 36524 := ⟨_, rfl⟩
  obtain ⟨inFour, in_four⟩ : ∃ d, d = inCentury - inCentury / 1461 * 1461 := ⟨_, rfl⟩
  obtain ⟨year, at_year⟩ : ∃ year, year = min (inFour / 365) 3 := ⟨_, rfl⟩
  refine ⟨(n + 719468) / 146097, century, inCentury / 1461, year, inFour - year * 365, ?_, ?_, ?_,
    ?_, ?_, ?_, ?_⟩
  · omega
  · omega
  · omega
  · omega
  · omega
  · omega
  · subst at_year in_four in_century at_century at_era
    have year_eq (c f y : Nat) : (n + 719468) / 146097 * 400 + ((c * 100 + f * 4 + y : Nat) : Int) =
        400 * ((n + 719468) / 146097) + 100 * (c : Int) + 4 * (f : Int) + (y : Int) := by
      omega
    rw [ofMarch, ← year_eq]
    split
    · next late =>
      unfold ofDayNumber
      simp only [late, if_true]
    · next early =>
      unfold ofDayNumber
      simp only [early, if_false]

/-- The days before the beginning of a month do not reach a day of the month. -/
theorem daysBeforeMonth_le (day : Nat) : daysBeforeMonth ((5 * day + 2) / 153) ≤ day := by
  unfold daysBeforeMonth
  omega

/-- The number of a day, counted in years that begin in March. -/
theorem dayNumber_ofMarch (year : Int) {day : Nat} (short : day ≤ 365) :
    (ofMarch year day).dayNumber =
      365 * year + year / 4 - year / 100 + year / 400 + day - 719468 := by
  have reached := daysBeforeMonth_le day
  have last : (5 * day + 2) / 153 ≤ 11 := by omega
  unfold ofMarch
  dsimp only
  generalize (5 * day + 2) / 153 = month at *
  split
  · next late =>
    have back : (month - 9 + 9) % 12 = month := by omega
    have first : month - 9 ≤ 2 := by omega
    simp only [dayNumber, first, if_true, back]
    omega
  · next early =>
    have back : (month + 3 + 9) % 12 = month := by omega
    have later : ¬ month + 3 ≤ 2 := by omega
    simp only [dayNumber, later, if_false, back]
    omega

/-- **The date of a day's number has that number.** -/
theorem dayNumber_ofDayNumber (n : Int) : (ofDayNumber n).dayNumber = n := by
  obtain ⟨era, century, four, year, day, place, centuries, fours, years, days, -, date⟩ :=
    ofDayNumber_cases n
  rw [date, dayNumber_ofMarch _ days]
  omega

/-- A year that begins in March ends after the first two months of the next. -/
theorem year_ofMarch (year : Int) (day : Nat) :
    (ofMarch year day).year = year + if 306 ≤ day then 1 else 0 := by
  have late : (5 * day + 2) / 153 ≥ 10 ↔ 306 ≤ day := by omega
  simp only [ofMarch, late]
  split <;> simp

/-- A day of a year that begins in March is a date, if only leap years have 366 days. -/
theorem isValid_ofMarch (year : Int) {day : Nat} (short : day ≤ 365)
    (leap : day = 365 → isLeap (year + 1)) : (ofMarch year day).isValid := by
  obtain ⟨month, at_month⟩ : ∃ month, month = (5 * day + 2) / 153 := ⟨_, rfl⟩
  have cases : month = 0 ∨ month = 1 ∨ month = 2 ∨ month = 3 ∨ month = 4 ∨ month = 5 ∨ month = 6 ∨
      month = 7 ∨ month = 8 ∨ month = 9 ∨ month = 10 ∨ month = 11 := by
    omega
  unfold ofMarch
  rw [← at_month]
  rcases cases with rfl | rfl | rfl | rfl | rfl | rfl | rfl | rfl | rfl | rfl | rfl | rfl <;>
    simp [isValid, daysBeforeMonth, daysInMonth] <;> try omega
  -- only February is not as long in every year
  split
  · omega
  · next common =>
    have not_last : day ≠ 365 := fun last => common (leap last)
    omega

theorem daysInMonth_le (year : Int) (month : Nat) : daysInMonth year month ≤ 31 := by
  unfold daysInMonth
  split
  · split <;> decide
  all_goals decide

/-- **The date of a day's number is a date of the calendar.** -/
theorem isValid_ofDayNumber (n : Int) : (ofDayNumber n).isValid := by
  obtain ⟨era, century, four, year, day, place, centuries, fours, years, days, longest, date⟩ :=
    ofDayNumber_cases n
  rw [date]
  refine isValid_ofMarch _ days fun last => ?_
  obtain ⟨rfl, ends⟩ := longest last
  simp only [isLeap, Bool.and_eq_true, Bool.or_eq_true, beq_iff_eq, bne_iff_ne]
  refine ⟨by omega, ?_⟩
  by_cases full : four = 24
  · obtain rfl := ends full
    omega
  · omega

end Date

/-! ### Timestamps -/

namespace Instant

/-- The year in which an instant lies. -/
def year (t : Instant) : Int :=
  (Date.ofDayNumber (t.second / secondsPerDay)).year

/-- The instant can be written as date and time: it lies in no leap second, and its year has four
digits. -/
structure Dated (t : Instant) : Prop where
  usual : t.isLeap = false
  first : 0 ≤ t.year
  last : t.year ≤ 9999

/-- An instant is what its seconds and nanoseconds say. -/
theorem ofParts_second_nano (t : Instant) : ofParts t.second t.nano = t := by
  have place : t.second * 2000000000 + t.nano = t.place := by
    unfold second nano
    omega
  rw [ofParts, place]

/-- The years of four digits are those from the first second of the year 0 to the last of the year
9999. -/
theorem dated_iff {t : Instant} :
    t.Dated ↔ t.isLeap = false ∧ -62167219200 ≤ t.second ∧ t.second < 253402300800 := by
  obtain ⟨era, century, four, year, day, place, centuries, fours, years, days, -, date⟩ :=
    Date.ofDayNumber_cases (t.second / secondsPerDay)
  have days_of_second : t.second / secondsPerDay * 86400 ≤ t.second ∧
      t.second < t.second / secondsPerDay * 86400 + 86400 := by
    unfold secondsPerDay
    omega
  have at_year : t.year =
      400 * era + 100 * century + 4 * four + year + (if 306 ≤ day then 1 else 0) := by
    rw [Instant.year, date, Date.year_ofMarch]
  have bounds : 0 ≤ t.year ∧ t.year ≤ 9999 ↔
      -62167219200 ≤ t.second ∧ t.second < 253402300800 := by
    -- the year 0 begins in the era before the first, and the year 9999 ends in the last of 25
    have eras : era ≤ -2 ∨ era = -1 ∨ (0 ≤ era ∧ era ≤ 23) ∨ era = 24 ∨ 25 ≤ era := by omega
    rw [at_year]
    rcases eras with before | rfl | within | rfl | after <;> split <;> omega
  constructor
  · rintro ⟨usual, first, last⟩
    exact ⟨usual, bounds.1 ⟨first, last⟩⟩
  · rintro ⟨usual, seconds⟩
    exact ⟨usual, (bounds.2 seconds).1, (bounds.2 seconds).2⟩

end Instant

namespace Timestamp

open Text

theorem number?_paddedDigits {width n : Nat} (positive : 0 < width) (fits : n < 10 ^ width)
    (rest : List Char) : number? width (paddedDigits width n ++ rest) = some (n, rest) := by
  have length := length_paddedDigits positive fits
  have enough : ¬ (paddedDigits width n ++ rest).length < width := by
    rw [List.length_append, length]
    omega
  rw [number?, if_neg enough, List.take_left' length, List.drop_left' length,
    ofDigits?_paddedDigits]
  rfl

theorem skip?_cons (c : Char) (rest : List Char) : skip? c (c :: rest) = some rest :=
  if_pos rfl

/-- A fraction of at most nine digits. -/
theorem fraction?_point {width n : Nat} (positive : 0 < width) (few : width ≤ 9)
    (fits : n < 10 ^ width) :
    fraction? ('.' :: (paddedDigits width n ++ ['Z'])) = some (n * 10 ^ (9 - width), ['Z']) := by
  have split : Numeral.spanDigits (paddedDigits width n ++ ['Z']) = (paddedDigits width n, ['Z']) := by
    refine Numeral.spanDigits_append (fun _ => mem_paddedDigits) fun c first => ?_
    cases first
    rfl
  have length := length_paddedDigits positive fits
  have whole : (paddedDigits width n).take 9 = paddedDigits width n :=
    List.take_of_length_le (by omega)
  rw [fraction?, split]
  simp only [whole, ofDigits?_paddedDigits, length]
  rfl

/-- **A fraction is read back** from the fewest digits that are exact. -/
theorem fraction?_fractionDigits {nanos : Nat} (small : nanos < 1000000000) :
    fraction? (fractionDigits nanos ++ ['Z']) = some (nanos, ['Z']) := by
  unfold fractionDigits
  split
  · next none => rw [none]; rfl
  split
  · next millis =>
    have exact : nanos / 1000000 * 10 ^ (9 - 3) = nanos := by omega
    rw [List.cons_append, fraction?_point (by decide) (by decide) (by omega), exact]
  split
  · next micros =>
    have exact : nanos / 1000 * 10 ^ (9 - 6) = nanos := by omega
    rw [List.cons_append, fraction?_point (by decide) (by decide) (by omega), exact]
  · have exact : nanos * 10 ^ (9 - 9) = nanos := by omega
    rw [List.cons_append, fraction?_point (by decide) (by decide) (by omega), exact]

/-- Date, time of day and fraction are read back. -/
theorem ofChars?_written {date : Date} {hour minute second nano : Nat} (valid : date.isValid)
    (first : 0 ≤ date.year) (last : date.year ≤ 9999) (hours : hour < 24) (minutes : minute < 60)
    (seconds : second < 60) (nanos : nano < 1000000000) :
    ofChars? (yearDigits date.year ++ '-' :: paddedDigits 2 date.month ++
      '-' :: paddedDigits 2 date.day ++ 'T' :: paddedDigits 2 hour ++
      ':' :: paddedDigits 2 minute ++ ':' :: paddedDigits 2 second ++ fractionDigits nano ++ ['Z']) =
      some (.ofParts (Instant.firstSecond date + Int.ofNat (hour * 3600 + minute * 60 + second))
        nano) := by
  have year (rest : List Char) :
      number? 4 (paddedDigits 4 date.year.toNat ++ rest) = some (date.year.toNat, rest) :=
    number?_paddedDigits (by decide) (by omega) rest
  have two {n : Nat} (fits : n < 100) (rest : List Char) :
      number? 2 (paddedDigits 2 n ++ rest) = some (n, rest) :=
    number?_paddedDigits (by decide) fits rest
  have bounds := valid
  simp only [Date.isValid, Bool.and_eq_true, decide_eq_true_eq] at bounds
  have days : date.day ≤ 31 := Nat.le_trans bounds.2 (Date.daysInMonth_le _ _)
  have same : ({ year := Int.ofNat date.year.toNat, month := date.month, day := date.day } : Date) =
      date := by
    have whole : Int.ofNat date.year.toNat = date.year := Int.toNat_of_nonneg first
    rw [whole]
  have below : min second 59 = second := by omega
  rw [yearDigits, if_pos ⟨first, last⟩]
  simp only [List.append_assoc, List.cons_append]
  unfold ofChars? guard
  rw [year]
  simp only [Option.bind_eq_bind, Option.bind_some, skip?_cons, two (show date.month < 100 by omega),
    two (show date.day < 100 by omega), two (show hour < 100 by omega),
    two (show minute < 100 by omega), two (show second < 100 by omega),
    fraction?_fractionDigits nanos, same, below]
  have in_order : (date.isValid && decide (hour < 24) && decide (minute < 60) &&
      decide (second ≤ 60)) = true := by
    simp [valid, hours, minutes, Nat.le_of_lt seconds]
  have usual : ¬ second = 60 := by omega
  rw [in_order, if_neg usual]
  show some (Instant.ofParts (Instant.firstSecond date + (_ - 0)) nano) = _
  rw [Int.sub_zero]

/-- **An instant is read back from its timestamp.** -/
theorem ofChars?_chars {t : Instant} (dated : t.Dated) : ofChars? (chars t) = some t := by
  obtain ⟨usual, first, last⟩ := dated
  have nanos : t.nano < 1000000000 := by
    unfold Instant.isLeap at usual
    have := of_decide_eq_false usual
    omega
  obtain ⟨inDay, at_inDay⟩ : ∃ inDay, inDay = (t.second % Instant.secondsPerDay).toNat := ⟨_, rfl⟩
  have in_day : t.second / 86400 * 86400 + (inDay : Int) = t.second ∧ inDay < 86400 := by
    rw [at_inDay, Instant.secondsPerDay]
    omega
  have hours : inDay / 3600 < 24 := by omega
  have minutes : inDay / 60 % 60 < 60 := by omega
  have seconds : inDay % 60 < 60 := by omega
  have clock : inDay / 3600 * 3600 + inDay / 60 % 60 * 60 + inDay % 60 = inDay := by omega
  have place : Instant.firstSecond (Date.ofDayNumber (t.second / Instant.secondsPerDay)) +
      Int.ofNat inDay = t.second := by
    rw [Instant.firstSecond, Date.dayNumber_ofDayNumber]
    exact in_day.1
  have read := ofChars?_written (Date.isValid_ofDayNumber (t.second / Instant.secondsPerDay)) first
    last hours minutes seconds nanos
  rw [clock, place, Instant.ofParts_second_nano] at read
  rw [chars, usual, Nat.mod_eq_of_lt nanos, ← at_inDay]
  exact read

end Timestamp

end BoxOffice
