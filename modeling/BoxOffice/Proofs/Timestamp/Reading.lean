import BoxOffice.Proofs.Decimal.Digits
import BoxOffice.Timestamp.Reader

/-!
# Reading points in time back

The form in messages of a point in time is read as that point in time, leap
seconds included. The calendar has the date of every day, each number is written
with as many digits as its place takes, and the fraction with as many as hold it,
so the reader finds every field whole and within its range.
-/

namespace BoxOffice

/-! ### The date of a day -/

namespace Calendar

/-- A day within months that are laid end to end lies in one of them. -/
theorem splitMonths_lt {lengths : List Nat} {days : Nat} (within : days < totalLength lengths) :
    ∃ length, lengths[(splitMonths lengths days).1]? = some length ∧
      (splitMonths lengths days).2 < length := by
  induction lengths generalizing days with
  | nil => cases within
  | cons length rest ih =>
      rw [totalLength] at within
      rw [splitMonths]
      split
      · rename_i first
        exact ⟨length, rfl, first⟩
      · obtain ⟨length', found, inside⟩ := @ih (days - length) (by omega)
        exact ⟨length', found, inside⟩

theorem sum_monthLengths (year : Int) :
    daysBeforeYear (year + 1) = daysBeforeYear year + totalLength (monthLengths (isLeap year)) := by
  have year_eq : totalLength (monthLengths (isLeap year)) = if isLeap year then 366 else 365 := by
    cases isLeap year <;> rfl
  rw [year_eq]
  simp only [daysBeforeYear, isLeap, Bool.and_eq_true, Bool.or_eq_true, decide_eq_true_eq]
  split <;> omega

theorem monthLengths_le {leap : Bool} {i length : Nat}
    (found : (monthLengths leap)[i]? = some length) : i < 12 ∧ length ≤ 31 := by
  have inside := (List.getElem?_eq_some_iff.mp found).1
  have member := List.mem_of_getElem? found
  refine ⟨by simpa [monthLengths] using inside, ?_⟩
  simp only [monthLengths, List.mem_cons, List.not_mem_nil, or_false] at member
  cases leap <;> simp only [Bool.false_eq_true, if_false, if_true] at member <;> omega

theorem isValid_of {d : Date} {length : Nat}
    (found : (monthLengths (isLeap d.year))[d.month - 1]? = some length) (month : 1 ≤ d.month)
    (first : 1 ≤ d.day) (last : d.day ≤ length) : d.isValid = true := by
  rw [Date.isValid, found]
  simp [month, first, last]

/-- What the date of a day is made of. -/
structure IsDate (d : Date) : Prop where
  valid : d.isValid = true
  month : 1 ≤ d.month ∧ d.month ≤ 12
  day : 1 ≤ d.day ∧ d.day ≤ 31

theorem isDate_ofDayNumber (n : Int) : IsDate (Date.ofDayNumber n) := by
  have begins := daysBeforeYear_yearOfDay_le n
  have ends := lt_daysBeforeYear_succ_yearOfDay n
  rw [sum_monthLengths] at ends
  have within : (n - daysBeforeYear (yearOfDay n)).toNat <
      totalLength (monthLengths (isLeap (yearOfDay n))) := by omega
  obtain ⟨length, found, inside⟩ := splitMonths_lt within
  have small := monthLengths_le found
  refine ⟨?_, ⟨Nat.succ_pos _, small.1⟩, Nat.succ_pos _, Nat.le_trans inside small.2⟩
  exact isValid_of found (Nat.succ_pos _) (Nat.succ_pos _) inside

/-- The year of a day is about as far away as the day. -/
theorem yearOfDay_bounds {n : Int} (first : -1000000000 ≤ n) (last : n ≤ 1000000000) :
    -2147483648 ≤ yearOfDay n ∧ yearOfDay n ≤ 2147483647 := by
  have begins := daysBeforeYear_yearOfDay_le n
  have ends := lt_daysBeforeYear_succ_yearOfDay n
  simp only [daysBeforeYear] at begins ends
  omega

end Calendar

namespace Timestamp

open Decimal (digitChar digitValue? filledDigits)

variable {rest : List Char}

/-- A text does not begin with a digit. -/
def NoDigit (rest : List Char) : Prop := ∀ c ∈ rest.head?, digitValue? c = none

theorem moreDigits_append {width n : Nat} {ds : List Nat} (small : ∀ d ∈ ds, d < 10)
    (short : ds.length ≤ width) (fits : ds.foldl (fun n d => n * 10 + d) n ≤ fieldLimit)
    (ends : ds.length = width ∨ NoDigit rest) :
    moreDigits width n (ds.map digitChar ++ rest) =
      .ok (ds.foldl (fun n d => n * 10 + d) n, rest) := by
  induction ds generalizing width n with
  | nil =>
      cases width with
      | zero => rfl
      | succ width =>
          rcases ends with full | noDigit
          · cases full
          · cases rest with
            | nil => rfl
            | cons c rest =>
                simp only [List.map_nil, List.nil_append, moreDigits, noDigit c rfl, List.foldl_nil]
  | cons d ds ih =>
      cases width with
      | zero => cases short
      | succ width =>
          have room := Nat.le_trans (Decimal.le_foldl ds (n * 10 + d)) fits
          simp only [List.map_cons, List.cons_append, moreDigits,
            Decimal.digitValue?_digitChar (small d List.mem_cons_self), List.foldl_cons,
            if_neg (Nat.not_lt.mpr room)]
          exact ih (fun d member => small d (List.mem_cons_of_mem _ member))
            (Nat.le_of_succ_le_succ short) fits (ends.imp_left Nat.succ.inj)

/-- A number is read back when it ends where its width or its digits do. -/
theorem number_append {width : Nat} {ds : List Nat} (some_ : ds ≠ []) (small : ∀ d ∈ ds, d < 10)
    (short : ds.length ≤ width) (fits : Decimal.value ds ≤ fieldLimit)
    (ends : ds.length = width ∨ NoDigit rest) :
    number width (ds.map digitChar ++ rest) = .ok (Decimal.value ds, rest) := by
  cases ds with
  | nil => exact absurd rfl some_
  | cons d ds =>
      have first := small d List.mem_cons_self
      simp only [List.map_cons, List.cons_append, number, Decimal.digitValue?_digitChar first]
      have start : Decimal.value (d :: ds) = ds.foldl (fun n d => n * 10 + d) d := by
        simp [Decimal.value]
      rw [start] at fits ⊢
      rw [List.length_cons] at short ends
      exact moreDigits_append (fun d member => small d (List.mem_cons_of_mem _ member)) (by omega) fits
        (ends.imp_left fun full => by omega)

/-- A number with zeros in front is read back. -/
theorem number_paddedDigits {width places n : Nat} (short : (filledDigits places n).length ≤ width)
    (fits : n ≤ fieldLimit) (ends : (filledDigits places n).length = width ∨ NoDigit rest) :
    number width (Decimal.paddedDigits places n ++ rest) = .ok (n, rest) := by
  have read := number_append (Decimal.filledDigits_ne_nil places n)
    (fun _ => Decimal.lt_ten_of_mem_filledDigits) short
    (Nat.le_trans (Nat.le_of_eq (Decimal.value_filledDigits places n)) fits) ends
  rwa [Decimal.value_filledDigits, ← Decimal.paddedDigits_eq] at read

/-- A number with zeros in front begins with a digit. -/
theorem paddedDigits_cons (places n : Nat) :
    ∃ d : Fin 10, ∃ cs, Decimal.paddedDigits places n = digitChar d :: cs := by
  rw [Decimal.paddedDigits_eq]
  cases digits : filledDigits places n with
  | nil => exact absurd digits (Decimal.filledDigits_ne_nil places n)
  | cons d ds =>
      have member : d ∈ filledDigits places n := digits ▸ List.mem_cons_self
      have small := Decimal.lt_ten_of_mem_filledDigits member
      exact ⟨⟨d, small⟩, ds.map digitChar, rfl⟩

/-- No blank stands before a number. -/
theorem dropBlanks_paddedDigits (places n : Nat) :
    Text.dropBlanks (Decimal.paddedDigits places n ++ rest) = Decimal.paddedDigits places n ++ rest := by
  obtain ⟨d, cs, written⟩ := paddedDigits_cons places n
  have visible : ∀ d : Fin 10, Text.isBlank (digitChar d) = false := by decide
  rw [written, List.cons_append, Text.dropBlanks, List.dropWhile_cons, visible d]
  rfl

/-! ### Fields -/

/-- A field of two digits is read back. -/
theorem field_paddedDigits {low high n : Nat} (least : low ≤ n) (most : n ≤ high)
    (small : high < 100) : field low high (Decimal.paddedDigits 2 n ++ rest) = .ok (n, rest) := by
  have full : (filledDigits 2 n).length = 2 := Decimal.length_filledDigits (by decide) (by omega)
  have limit : n ≤ fieldLimit := by
    rw [fieldLimit]
    omega
  rw [field, dropBlanks_paddedDigits, number_paddedDigits (Nat.le_of_eq full) limit (.inl full)]
  simp [bind, Except.bind, least, most]

/-- A separator is passed over. -/
theorem separator_cons {mark : Char} (visible : Text.isBlank mark = false) :
    separator mark (mark :: rest) = .ok rest := by
  rw [separator, Text.dropBlanks, List.dropWhile_cons, visible]
  simp

/-- Four digits are read as a year, since no sign stands before them. -/
theorem year_paddedDigits {n : Nat} (short : n ≤ 9999) :
    year (Decimal.paddedDigits 4 n ++ rest) = .ok ((n : Int), rest) := by
  have full : (filledDigits 4 n).length = 4 := Decimal.length_filledDigits (by decide) (by omega)
  have read : number 4 (Decimal.paddedDigits 4 n ++ rest) = .ok (n, rest) :=
    number_paddedDigits (Nat.le_of_eq full) (by rw [fieldLimit]; omega) (.inl full)
  have fits : -2147483648 ≤ (n : Int) ∧ (n : Int) ≤ 2147483647 := by omega
  obtain ⟨d, cs, written⟩ := paddedDigits_cons 4 n
  have plain : ∀ d : Fin 10, digitChar d ≠ '-' ∧ digitChar d ≠ '+' := by decide
  unfold year
  rw [dropBlanks_paddedDigits]
  split
  · rename_i minus
    rw [written] at minus
    exact absurd (List.cons.inj minus).1 (plain d).1
  · rename_i plus
    rw [written] at plus
    exact absurd (List.cons.inj plus).1 (plain d).2
  · simp [read, bind, Except.bind, fits]

/-- All digits after a sign are read, at least four. -/
theorem number_afterSign {n : Nat} (limit : n ≤ fieldLimit) (noDigit : NoDigit rest) :
    number ((Decimal.paddedDigits 4 n ++ rest).length + 1) (Decimal.paddedDigits 4 n ++ rest) =
      .ok (n, rest) := by
  refine number_paddedDigits ?_ limit (.inr noDigit)
  rw [Decimal.paddedDigits_eq]
  simp only [List.length_append, List.length_map]
  omega

/-- A year is read back, with its sign when it has one. -/
theorem year_yearText {y : Int} (low : -2147483648 ≤ y) (high : y ≤ 2147483647)
    (noDigit : NoDigit rest) : year (yearText y ++ rest) = .ok (y, rest) := by
  have limit : y.natAbs ≤ fieldLimit := by
    rw [fieldLimit]
    omega
  have read := number_afterSign limit noDigit
  rw [List.length_append] at read
  unfold yearText
  split
  · rename_i short
    have read := @year_paddedDigits rest y.toNat (by omega)
    rwa [Int.toNat_of_nonneg short.1] at read
  · split
    · rename_i negative
      have same : -(y.natAbs : Int) = y := by omega
      generalize y.natAbs = k at read same
      simp [year, Text.dropBlanks, show Text.isBlank '-' = false by decide, bind, Except.bind,
        read, same, low, high]
    · rename_i positive
      have same : (y.natAbs : Int) = y := by omega
      generalize y.natAbs = k at read same
      simp [year, Text.dropBlanks, show Text.isBlank '+' = false by decide, bind, Except.bind,
        read, same, low, high]

/-- A fraction is read back. -/
theorem fraction_fractionText {nanos : Nat} (small : nanos < 1000000000) (noDigit : NoDigit rest)
    (noPoint : rest.head? ≠ some '.') : fraction (fractionText nanos ++ rest) = .ok (nanos, rest) := by
  have dropped : (rest.dropWhile fun c => (digitValue? c).isSome) = rest := by
    cases rest with
    | nil => rfl
    | cons c rest => simp [noDigit c rfl]
  have read {places n : Nat} (positive : 0 < places) (most : places ≤ 9) (fits : n < 10 ^ places)
      (whole : n * 10 ^ (9 - places) = nanos) :
      fraction ('.' :: Decimal.paddedDigits places n ++ rest) = .ok (nanos, rest) := by
    have full := Decimal.length_filledDigits positive fits
    have limit : n ≤ fieldLimit := by
      have : 10 ^ places ≤ 10 ^ 9 := Nat.pow_le_pow_right (by decide) most
      rw [fieldLimit]
      omega
    have number : number 9 (Decimal.paddedDigits places n ++ rest) = .ok (n, rest) :=
      number_paddedDigits (Nat.le_trans (Nat.le_of_eq full) most) limit (.inr noDigit)
    have count : (Decimal.paddedDigits places n).length = places := by
      rw [Decimal.paddedDigits_eq, List.length_map, full]
    simp [fraction, number, bind, Except.bind, count, whole, dropped]
  unfold fractionText
  split
  · rename_i zero
    subst zero
    unfold fraction
    split
    · rename_i point
      exact absurd (congrArg List.head? point) noPoint
    · rfl
  split
  · exact read (by decide) (by decide) (by omega) (by omega)
  split
  · exact read (by decide) (by decide) (by omega) (by omega)
  · exact read (by decide) (by decide) (by omega) (by omega)

/-- A point in time is assembled from its date and its time of day. -/
theorem assemble_date (t : Timestamp) :
    assemble t.date (t.seconds % 86400).toNat t.nanos 0 = .ok t := by
  have day := Calendar.dayNumber_ofDayNumber (t.seconds / 86400 + epochDay)
  have whole : (t.date.dayNumber - epochDay) * 86400 + ((t.seconds % 86400).toNat : Int) =
      t.seconds := by
    rw [date, day]
    omega
  have valid := (Calendar.isDate_ofDayNumber (t.seconds / 86400 + epochDay)).valid
  have parts : ofParts? t.seconds t.nanos = some t :=
    dif_pos ⟨⟨t.first_le, t.le_last⟩, t.nanos_lt, t.leap_at_59⟩
  unfold assemble
  rw [whole, if_neg, if_neg (by decide), Int.sub_zero, parts]
  simp only [date, valid, not_or, Int.not_lt]
  exact ⟨nofun, t.first_le, t.le_last⟩

/-- The seconds of a minute that are shown, one more in a leap second. -/
theorem second_le (t : Timestamp) :
    (t.seconds % 86400).toNat % 60 + t.nanos / 1000000000 ≤ 60 := by
  have below := t.nanos_lt
  omega

/-- The seconds and nanoseconds of a point in time from those that are shown. -/
theorem unshown (t : Timestamp) :
    let ofDay := (t.seconds % 86400).toNat
    let second := ofDay % 60 + t.nanos / 1000000000
    let leap := if second = 60 then 1 else 0
    ofDay / 3600 * 3600 + ofDay / 60 % 60 * 60 + (second - leap) = ofDay ∧
      t.nanos % 1000000000 + leap * 1000000000 = t.nanos := by
  have below := t.nanos_lt
  have leaps := t.leap_at_59
  by_cases late : 1000000000 ≤ t.nanos
  · have last := leaps late
    have shown : (t.seconds % 86400).toNat % 60 + t.nanos / 1000000000 = 60 := by omega
    simp only [shown, if_true]
    omega
  · have shown : ¬ (t.seconds % 86400).toNat % 60 + t.nanos / 1000000000 = 60 := by omega
    simp only [shown, if_false]
    omega

/-- The parts of the form in messages. -/
theorem toList_text (t : Timestamp) :
    t.text.toList = yearText t.date.year ++ '-' :: (Decimal.paddedDigits 2 t.date.month ++
      '-' :: (Decimal.paddedDigits 2 t.date.day ++ 'T' ::
        (Decimal.paddedDigits 2 ((t.seconds % 86400).toNat / 3600) ++ ':' ::
          (Decimal.paddedDigits 2 ((t.seconds % 86400).toNat / 60 % 60) ++ ':' ::
            (Decimal.paddedDigits 2 ((t.seconds % 86400).toNat % 60 + t.nanos / 1000000000) ++
              (fractionText (t.nanos % 1000000000) ++ ['Z'])))))) := by
  simp [text, body]

theorem year_bounds (t : Timestamp) : -2147483648 ≤ t.date.year ∧ t.date.year ≤ 2147483647 := by
  have first := t.first_le
  have last := t.le_last
  rw [firstSecond] at first
  rw [lastSecond] at last
  refine Calendar.yearOfDay_bounds ?_ ?_
  · rw [epochDay]
    omega
  · rw [epochDay]
    omega

/-- The form in messages of a point in time is read as that point in time. -/
theorem read_text (t : Timestamp) : read t.text = .ok t := by
  obtain ⟨-, month, day⟩ := Calendar.isDate_ofDayNumber (t.seconds / 86400 + epochDay)
  obtain ⟨ofDay, nanos⟩ := unshown t
  have year (rest : List Char) : Timestamp.year (yearText t.date.year ++ '-' :: rest) =
      .ok (t.date.year, '-' :: rest) :=
    year_yearText t.year_bounds.1 t.year_bounds.2 (by simp [NoDigit, digitValue?])
  have month (rest : List Char) : field 1 12 (Decimal.paddedDigits 2 t.date.month ++ rest) =
      .ok (t.date.month, rest) := field_paddedDigits month.1 month.2 (by decide)
  have day (rest : List Char) : field 1 31 (Decimal.paddedDigits 2 t.date.day ++ rest) =
      .ok (t.date.day, rest) := field_paddedDigits day.1 day.2 (by decide)
  have within (high n : Nat) (most : n ≤ high) (small : high < 100) (rest : List Char) :
      field 0 high (Decimal.paddedDigits 2 n ++ rest) = .ok (n, rest) :=
    field_paddedDigits (Nat.zero_le n) most small
  have hour := within 23 ((t.seconds % 86400).toNat / 3600) (by omega) (by decide)
  have minute := within 59 ((t.seconds % 86400).toNat / 60 % 60) (by omega) (by decide)
  have second := within _ _ (second_le t) (by decide)
  have fractions : fraction (fractionText (t.nanos % 1000000000) ++ ['Z']) =
      .ok (t.nanos % 1000000000, ['Z']) :=
    fraction_fractionText (by omega) (by simp [NoDigit, digitValue?]) (by decide)
  have offset : offset (Text.dropBlanks ['Z']) = .ok (0, []) := rfl
  have hyphen (rest : List Char) : separator '-' ('-' :: rest) = .ok rest := separator_cons rfl
  have colon (rest : List Char) : separator ':' (':' :: rest) = .ok rest := separator_cons rfl
  rw [read, toList_text]
  simp only [bind, Except.bind, year, hyphen, month, day, hour, colon, minute, second, fractions,
    offset, true_or, if_true]
  rw [if_neg (show ¬ Text.dropBlanks [] ≠ [] by decide), ofDay, nanos]
  exact assemble_date t

end Timestamp

end BoxOffice
