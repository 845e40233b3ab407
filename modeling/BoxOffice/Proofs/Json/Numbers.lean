import BoxOffice.Json.Kind
import BoxOffice.Proofs.Decimal.Digits

/-!
# Reading numbers back

`Restores sure v r` says of what came of reading a written value that it is the
value, or else an error; and that it is no error when `sure` holds. A whole number
that fits in 64 bits is surely restored, also when more text follows, as long as
that does not begin like the rest of a number. One that does not fit is never
taken for another number.
-/

namespace BoxOffice.Json

/-- What came of reading a written value: the value, or an error unless it is sure
to be read. -/
inductive Restores {ε α : Type} (sure : Prop) (v : α) : Except ε α → Prop
  | gives : Restores sure v (.ok v)
  | fails (unsure : ¬ sure) (e : ε) : Restores sure v (.error e)

namespace Restores

variable {ε α β : Type} {p q : Prop} {v : α} {w : β} {r : Except ε α}

theorem eq_ok (restores : Restores p v r) (sure : p) : r = .ok v := by
  cases restores with
  | gives => rfl
  | fails unsure => exact absurd sure unsure

/-- Whatever is read at all is the value that was written. -/
theorem eq_of_ok {v' : α} (restores : Restores p v r) (read : r = .ok v') : v' = v := by
  cases restores with
  | gives => exact (Except.ok.inj read).symm
  | fails => cases read

theorem imp (restores : Restores p v r) (sure : q → p) : Restores q v r := by
  cases restores with
  | gives => exact .gives
  | fails unsure e => exact .fails (fun hq => unsure (sure hq)) e

theorem of_eq_ok (read : r = .ok v) : Restores p v r := read ▸ .gives

theorem map (restores : Restores p v r) (f : α → β) : Restores p (f v) (r.map f) := by
  cases restores with
  | gives => exact .gives
  | fails unsure e => exact .fails unsure e

theorem bind (restores : Restores p v r) {f : α → Except ε β} (next : Restores q w (f v)) :
    Restores (p ∧ q) w (r >>= f) := by
  cases restores with
  | gives => exact next.imp And.right
  | fails unsure e => exact .fails (fun both => unsure both.1) e

end Restores

/-! ### Digits -/

/-- The byte of a digit. -/
def digitByte (d : Nat) : UInt8 := ascii (Decimal.digitChar d)

theorem digitOf?_digitByte {d : Nat} (small : d < 10) : digitOf? (digitByte d) = some d := by
  have all : ∀ m : Fin 10, digitOf? (digitByte m) = some m.val := by decide
  exact all ⟨d, small⟩

/-- ASCII characters are one byte each. -/
theorem ofText_ofList {cs : List Char} (small : ∀ c ∈ cs, c.toNat < 128) :
    Bytes.ofText (String.ofList cs) = cs.map ascii := by
  have single (c : Char) (small : c.toNat < 128) : String.utf8EncodeChar c = [ascii c] :=
    if_pos (Nat.le_of_lt_succ small)
  rw [Bytes.ofText, String.toByteArray_ofList, List.utf8Encode, List.data_toByteArray]
  simp only
  induction cs with
  | nil => rfl
  | cons c cs ih =>
      rw [List.flatMap_cons, single c (small c List.mem_cons_self), List.map_cons,
        ih fun c member => small c (List.mem_cons_of_mem _ member)]
      rfl

theorem ofText_append (s t : String) : Bytes.ofText (s ++ t) = Bytes.ofText s ++ Bytes.ofText t := by
  simp [Bytes.ofText, String.toByteArray_append, ByteArray.data_append]

theorem toNat_digitChar {d : Nat} (small : d < 10) : (Decimal.digitChar d).toNat < 128 := by
  have all : ∀ m : Fin 10, (Decimal.digitChar m).toNat < 128 := by decide
  exact all ⟨d, small⟩

theorem ofText_natText (n : Nat) :
    Bytes.ofText (Decimal.natText n) = (Decimal.digits n).map digitByte := by
  rw [Decimal.natText, ofText_ofList, List.map_map]
  · rfl
  · intro c member
    obtain ⟨d, digit, rfl⟩ := List.mem_map.mp member
    exact toNat_digitChar (Decimal.lt_ten_of_mem_digits digit)

theorem intText_natCast (n : Nat) : Decimal.intText n = Decimal.natText n := by
  rw [Decimal.intText, if_neg (Int.not_lt.mpr (Int.natCast_nonneg n)), Int.natAbs_natCast]

theorem ofText_intText_of_neg {i : Int} (negative : i < 0) :
    Bytes.ofText (Decimal.intText i) =
      ascii '-' :: (Decimal.digits i.natAbs).map digitByte := by
  rw [Decimal.intText, if_pos negative, ofText_append, ofText_natText]
  rfl

/-! ### The text of a number -/

/-- A text does not begin like the rest of a number. -/
def Stops (rest : Bytes) : Prop :=
  ∀ b ∈ rest.head?, digitOf? b = none ∧ b ≠ ascii '.' ∧ b ≠ ascii 'e' ∧ b ≠ ascii 'E'

variable {rest : Bytes}

theorem takeDigits_of_stops (stops : Stops rest) : takeDigits rest = ([], rest) := by
  cases rest with
  | nil => rfl
  | cons b rest => rw [takeDigits, (stops b rfl).1]

theorem takeDigits_append {ds : List Nat} (small : ∀ d ∈ ds, d < 10) (stops : Stops rest) :
    takeDigits (ds.map digitByte ++ rest) = (ds, rest) := by
  induction ds with
  | nil => exact takeDigits_of_stops stops
  | cons d ds ih =>
      rw [List.map_cons, List.cons_append, takeDigits,
        digitOf?_digitByte (small d List.mem_cons_self)]
      simp only [ih fun d member => small d (List.mem_cons_of_mem _ member)]

theorem readWhole_digits (n : Nat) (stops : Stops rest) :
    readWhole ((Decimal.digits n).map digitByte ++ rest) = .ok (Decimal.digits n, rest) := by
  have small : ∀ d ∈ Decimal.digits n, d < 10 := fun _ => Decimal.lt_ten_of_mem_digits
  cases written : Decimal.digits n with
  | nil => exact absurd written (Decimal.digits_ne_nil n)
  | cons d ds =>
      rw [written] at small
      have rest_eq := takeDigits_append (fun d member => small d (List.mem_cons_of_mem _ member)) stops
      have first := digitOf?_digitByte (small d List.mem_cons_self)
      rw [List.map_cons, List.cons_append, readWhole, first]
      rcases Nat.eq_zero_or_pos d with rfl | positive
      · -- A leading zero is the only digit.
        obtain rfl : n = 0 := Nat.eq_zero_of_not_pos fun positive =>
          Decimal.head?_digits positive (by rw [written]; rfl)
        obtain rfl : ds = [] := by
          rw [Decimal.digits, if_pos (by decide)] at written
          exact (List.cons.inj written).2.symm
        simp [takeDigits_of_stops stops]
      · obtain ⟨d, rfl⟩ := Nat.exists_eq_succ_of_ne_zero (Nat.pos_iff_ne_zero.mp positive)
        simp [rest_eq]

theorem readNumberText_digits (negative : Bool) (n : Nat) (stops : Stops rest) :
    readNumberText negative ((Decimal.digits n).map digitByte ++ rest) =
      .ok (⟨negative, Decimal.digits n, none, none⟩, rest) := by
  have noFraction : readFraction rest = .ok (none, rest) := by
    cases rest with
    | nil => rfl
    | cons b rest => exact if_neg (stops b rfl).2.1
  have noExponent : readExponent rest = .ok (none, rest) := by
    cases rest with
    | nil => rfl
    | cons b rest => exact if_neg (not_or.mpr (stops b rfl).2.2)
  rw [readNumberText, readWhole_digits n stops]
  simp only [bind, Except.bind, noFraction, noExponent]

/-! ### The value of a number -/

/-- Digits that fit are all taken. -/
theorem absorbWhole_of_le {ds : List Nat} {n : Nat}
    (fits : ds.foldl (fun n d => n * 10 + d) n ≤ maxNat64) : (absorbWhole ds n).2 = 0 := by
  induction ds generalizing n with
  | nil => rfl
  | cons d ds ih =>
      rw [absorbWhole, if_neg (Nat.not_lt.mpr (Nat.le_trans (Decimal.le_foldl ds _) fits))]
      exact ih fits

/-- When all digits were taken, what they stand for was found. -/
theorem absorbWhole_eq {ds : List Nat} {n : Nat} (all : (absorbWhole ds n).2 = 0) :
    (absorbWhole ds n).1 = ds.foldl (fun n d => n * 10 + d) n := by
  induction ds generalizing n with
  | nil => rfl
  | cons d ds ih =>
      rw [absorbWhole] at all ⊢
      split at all
      · cases all
      · rename_i room
        rw [if_neg room]
        exact ih all

/-- The number that digits after a sign stand for. -/
def signed (negative : Bool) (n : Nat) : Int := if negative then -n else n

/-- What is found where a whole number was written: the number, or no whole number
when it does not fit. -/
inductive FindsInteger (negative : Bool) (n : Nat) : Except Error Number → Prop
  | integer : FindsInteger negative n (.ok (.integer (signed negative n)))
  | real (unfit : maxNat64 < n ∨ negative = true ∧ (n = 0 ∨ 9223372036854775808 < n)) (x : Float) :
      FindsInteger negative n (.ok (.real x))
  | error (unfit : maxNat64 < n) (e : Error) : FindsInteger negative n (.error e)

theorem findsInteger (negative : Bool) (n : Nat) :
    FindsInteger negative n (NumberText.value ⟨negative, Decimal.digits n, none, none⟩) := by
  have whole : (Decimal.digits n).foldl (fun n d => n * 10 + d) 0 = n := Decimal.value_digits n
  unfold NumberText.value
  by_cases all : (absorbWhole (Decimal.digits n) 0).2 = 0
  · have found := (absorbWhole_eq all).trans whole
    simp only [found, all, and_self, if_true]
    split
    · rename_i plain
      exact plain ▸ .integer
    · rename_i minus
      have minus : negative = true := Bool.of_not_eq_false minus
      split
      · exact minus ▸ .integer
      · refine .real ?_ _
        simp only [minus, true_and]
        omega
  · have large : maxNat64 < n := by
      refine Nat.lt_of_not_le fun fits => all (absorbWhole_of_le ?_)
      rw [whole]
      exact fits
    simp only [all, and_false, if_false]
    split
    · exact .real (.inl large) _
    · exact .error large _

/-! ### Numbers within bounds -/

theorem readNumber_digits (negative : Bool) (n : Nat) (stops : Stops rest) :
    readNumber negative ((Decimal.digits n).map digitByte ++ rest) =
      (NumberText.value ⟨negative, Decimal.digits n, none, none⟩).map (·, rest) := by
  rw [readNumber, readNumberText_digits negative n stops]
  simp only [bind, Except.bind]
  cases NumberText.value _ <;> rfl

/-- What a reader of whole numbers within bounds makes of a number. -/
def checked (low high : Int) (expected : String) :
    Except Error (Number × Bytes) → Except Error (Int × Bytes)
  | .error e => .error e
  | .ok (.integer i, rest) =>
    if low ≤ i ∧ i ≤ high then .ok (i, rest) else .error (.invalidValue (.integer i) expected)
  | .ok (.real x, _) => .error (.invalidType (.real x) expected)

/-- The sign of a number decides where its digits begin. -/
theorem readInteger_eq (low high : Int) (expected : String) (i : Int) :
    readInteger low high expected (Bytes.ofText (Decimal.intText i) ++ rest) =
      checked low high expected
        (readNumber (i < 0) ((Decimal.digits i.natAbs).map digitByte ++ rest)) := by
  by_cases negative : i < 0
  · rw [ofText_intText_of_neg negative, decide_eq_true negative]
    rfl
  · have written : Bytes.ofText (Decimal.intText i) = (Decimal.digits i.natAbs).map digitByte := by
      rw [Decimal.intText, if_neg negative, ofText_natText]
    rw [written, decide_eq_false negative]
    cases digits : Decimal.digits i.natAbs with
    | nil => exact absurd digits (Decimal.digits_ne_nil _)
    | cons d ds =>
        have small : d < 10 :=
          Decimal.lt_ten_of_mem_digits (n := i.natAbs) (digits ▸ List.mem_cons_self)
        have plain : ∀ m : Fin 10, isSpace (digitByte m) = false ∧ digitByte m ≠ ascii '-' := by
          decide
        obtain ⟨noSpace, noSign⟩ := plain ⟨d, small⟩
        have digit : (digitOf? (digitByte d)).isSome = true := by
          rw [digitOf?_digitByte small]
          rfl
        simp only [readInteger, dropSpaces, List.map_cons, List.cons_append, List.dropWhile_cons,
          noSpace, noSign, digit, Bool.false_eq_true, if_false, if_true]
        rfl

/-- A whole number within bounds is read back. -/
theorem readInteger_intText {low high : Int} (expected : String) (i : Int)
    (least : -9223372036854775808 ≤ low) (most : high ≤ maxNat64) (stops : Stops rest) :
    Restores (low ≤ i ∧ i ≤ high) (i, rest)
      (readInteger low high expected (Bytes.ofText (Decimal.intText i) ++ rest)) := by
  rw [readInteger_eq, readNumber_digits _ _ stops]
  have found := findsInteger (i < 0) i.natAbs
  generalize NumberText.value _ = value at found ⊢
  have bound : maxNat64 = 18446744073709551615 := rfl
  have same : signed (decide (i < 0)) i.natAbs = i := by
    simp only [signed, decide_eq_true_eq]
    omega
  cases found with
  | integer =>
      rw [same]
      show Restores _ _ (if low ≤ i ∧ i ≤ high then _ else _)
      split
      · exact .gives
      · rename_i outside
        exact .fails outside _
  | real unfit x =>
      refine .fails (fun inside => ?_) _
      simp only [decide_eq_true_eq] at unfit
      omega
  | error unfit e => exact .fails (fun inside => by omega) e

/-- So is one without a sign. -/
theorem readNatural_natText {high : Nat} (expected : String) (n : Nat) (most : high ≤ maxNat64)
    (stops : Stops rest) :
    Restores (n ≤ high) (n, rest)
      (readNatural high expected (Bytes.ofText (Decimal.natText n) ++ rest)) := by
  have read := @readInteger_intText rest 0 high expected n (by omega)
    (Int.ofNat_le.mpr most) stops
  rw [intText_natCast] at read
  exact (read.map fun r => (r.1.toNat, r.2)).imp fun fits =>
    ⟨Int.natCast_nonneg n, Int.ofNat_le.mpr fits⟩

end BoxOffice.Json
