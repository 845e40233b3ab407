/-!
# Whole numbers in decimal

`natText` and `intText` write a number with its fewest digits. `readUnsigned` and `readSigned` read one
back within bounds: digits of ASCII only, no blanks, one optional plus sign, and a minus sign only where
the range is signed, so `-0` is no unsigned number. Reading what was written gives the number back
(`readUnsigned_natText`).
-/

namespace BoxOffice.Decimal

/-! ### Digits -/

/-- The decimal digits of a number, the most significant first. Zero has one digit. -/
def digits (n : Nat) : List Nat :=
  if n < 10 then [n] else digits (n / 10) ++ [n % 10]

/-- The number that digits stand for. -/
def value (ds : List Nat) : Nat :=
  ds.foldl (fun n d => n * 10 + d) 0

theorem value_append_singleton (ds : List Nat) (d : Nat) : value (ds ++ [d]) = value ds * 10 + d := by
  simp [value]

@[simp]
theorem value_digits (n : Nat) : value (digits n) = n := by
  induction n using Nat.strongRecOn with
  | _ n ih =>
    rw [digits]
    split
    · simp [value]
    · rw [value_append_singleton, ih (n / 10) (by omega)]
      omega

theorem digits_ne_nil (n : Nat) : digits n ≠ [] := by
  rw [digits]
  split <;> simp

theorem lt_ten_of_mem_digits {n d : Nat} (h : d ∈ digits n) : d < 10 := by
  induction n using Nat.strongRecOn with
  | _ n ih =>
    rw [digits] at h
    split at h
    · simp only [List.mem_singleton] at h
      omega
    · simp only [List.mem_append, List.mem_singleton] at h
      rcases h with h | h
      · exact ih (n / 10) (by omega) h
      · omega

/-- The character of a digit below ten. -/
def digitChar (d : Nat) : Char :=
  Char.ofNat (48 + d)

/-- The value of a decimal digit. -/
def digitValue? (c : Char) : Option Nat :=
  if 48 ≤ c.toNat ∧ c.toNat ≤ 57 then some (c.toNat - 48) else none

@[simp]
theorem digitValue?_digitChar {d : Nat} (h : d < 10) : digitValue? (digitChar d) = some d := by
  have : ∀ m : Fin 10, digitValue? (digitChar m.val) = some m.val := by decide
  exact this ⟨d, h⟩

/-! ### Writing -/

/-- A number with its fewest digits. -/
def natText (n : Nat) : String :=
  String.ofList ((digits n).map digitChar)

/-- A number of either sign with its fewest digits. -/
def intText (i : Int) : String :=
  if i < 0 then "-" ++ natText i.natAbs else natText i.natAbs

/-- The digits of a number, filled up with zeros in front to a least width. -/
def paddedDigits (width n : Nat) : List Char :=
  let ds := (digits n).map digitChar
  List.replicate (width - ds.length) '0' ++ ds

/-- A number filled up with zeros in front to a least width. -/
def padded (width n : Nat) : String :=
  String.ofList (paddedDigits width n)

/-! ### Reading -/

/-- The number that characters stand for, when there are some and all of them are digits. -/
def readDigits? : List Char → Option Nat
  | [] => none
  | c :: cs => ((c :: cs).mapM digitValue?).map value

/-- A number from zero to `max`, with an optional plus sign. -/
def readUnsigned (max : Nat) (s : String) : Option Nat :=
  let ds :=
    match s.toList with
    | '+' :: rest => rest
    | cs => cs
  (readDigits? ds).filter (· ≤ max)

/-- A number from `min` to `max`, with an optional sign. -/
def readSigned (min max : Int) (s : String) : Option Int :=
  let magnitude :=
    match s.toList with
    | '+' :: rest => (readDigits? rest).map Int.ofNat
    | '-' :: rest => (readDigits? rest).map fun n => -(n : Int)
    | cs => (readDigits? cs).map Int.ofNat
  magnitude.filter fun i => min ≤ i && i ≤ max

theorem readDigits?_digits (n : Nat) : readDigits? ((digits n).map digitChar) = some n := by
  have hmap : ∀ ds : List Nat, (∀ d ∈ ds, d < 10) →
      (ds.map digitChar).mapM digitValue? = some ds := by
    intro ds
    induction ds with
    | nil => intro _; rfl
    | cons d ds ih =>
      intro h
      rw [List.map_cons, List.mapM_cons, digitValue?_digitChar (h d (by simp)),
        ih fun e he => h e (by simp [he])]
      rfl
  match hds : digits n with
  | [] => exact absurd hds (digits_ne_nil n)
  | d :: ds =>
    have h := hmap (d :: ds) (fun e he => lt_ten_of_mem_digits (hds ▸ he))
    rw [List.map_cons] at h ⊢
    rw [readDigits?, h, Option.map_some, ← hds, value_digits]

/-- Reading what was written gives the number back. -/
theorem readUnsigned_natText {n max : Nat} (h : n ≤ max) :
    readUnsigned max (natText n) = some n := by
  have hplus : ∀ ds : List Nat, (∀ d ∈ ds, d < 10) → ∀ rest, ds.map digitChar ≠ '+' :: rest := by
    intro ds hds rest
    cases ds with
    | nil => simp
    | cons d ds =>
      intro heq
      have hd : digitChar d = '+' := by simpa using (List.cons.inj heq).1
      have : ∀ m : Fin 10, digitChar m.val ≠ '+' := by decide
      exact this ⟨d, hds d (by simp)⟩ hd
  have hlist : (natText n).toList = (digits n).map digitChar := String.toList_ofList
  rw [readUnsigned, hlist]
  split
  · next rest heq => exact absurd heq (hplus _ (fun d => lt_ten_of_mem_digits) rest)
  · simp [readDigits?_digits, h]

end BoxOffice.Decimal
