import BoxOffice.Proofs.Json.Texts
import BoxOffice.Proofs.PublicId.Reading
import BoxOffice.Proofs.Timestamp.Reading

/-!
# Reading values back

A value of any kind is read back from what was written, when it fits its kind.
Only numbers may not fit, and one that does not is refused.
-/

namespace BoxOffice

namespace Json

variable {rest : Bytes}

/-- A value is within the bounds of its kind. -/
def Kind.Fits : (k : Kind) → k.Value → Prop
  | int64, i => InRange64 i
  | nat64, n => n ≤ maxNat64
  | nat32, n => n ≤ 4294967295
  | _, _ => True

/-! ### Lists of bytes -/

/-- The first of some texts with the others behind it. -/
theorem intercalate_cons (mark : UInt8) (item : Bytes) (items : List Bytes) :
    [mark].intercalate (item :: items) = item ++ items.flatMap (mark :: ·) := by
  induction items generalizing item with
  | nil => simp [List.intercalate]
  | cons next items ih =>
      have rest := ih next
      simp only [List.intercalate, List.intersperse_cons_cons, List.flatten_cons] at rest ⊢
      rw [rest]
      simp

/-- Items that take at least one byte each. -/
theorem length_le_flatMap {α : Type} {f : α → Bytes} (some_ : ∀ a, f a ≠ []) (items : List α) :
    items.length ≤ (items.flatMap f).length := by
  induction items with
  | nil => exact Nat.le_refl 0
  | cons a items ih =>
      have one := List.length_pos_iff.mpr (some_ a)
      rw [List.flatMap_cons, List.length_append, List.length_cons]
      omega

/-- The bytes of a list after some of them, as they are written. -/
def laterBytes (bs : Bytes) : Bytes :=
  bs.flatMap fun b => ascii ',' :: Bytes.ofText (Decimal.natText b.toNat)

theorem writeNumbers_cons (b : UInt8) (bs : Bytes) :
    writeNumbers ((b :: bs).map (·.toNat)) ++ rest =
      ascii '[' :: (Bytes.ofText (Decimal.natText b.toNat) ++ (laterBytes bs ++ ascii ']' :: rest)) := by
  simp [writeNumbers, intercalate_cons, laterBytes, List.flatMap_map]

theorem stops_later (bs : Bytes) : Stops (laterBytes bs ++ ascii ']' :: rest) := by
  cases bs with
  | nil =>
      intro b head
      cases head
      decide
  | cons b bs =>
      intro b head
      cases head
      decide

/-- A byte is read back. -/
theorem readNatural_byte (b : UInt8) (stops : Stops rest) :
    readNatural 255 "u8" (Bytes.ofText (Decimal.natText b.toNat) ++ rest) = .ok (b.toNat, rest) :=
  (readNatural_natText "u8" b.toNat (by decide) stops).eq_ok (Nat.le_of_lt_succ b.toNat_lt)

/-- A number begins with a byte that stands for itself alone. -/
theorem nextElement_number (n : Nat) :
    nextElement true (Bytes.ofText (Decimal.natText n) ++ rest) =
      .ok (true, Bytes.ofText (Decimal.natText n) ++ rest) ∧
    nextElement false (ascii ',' :: (Bytes.ofText (Decimal.natText n) ++ rest)) =
      .ok (true, Bytes.ofText (Decimal.natText n) ++ rest) := by
  have plain : ∀ d : Fin 10, isSpace (digitByte d) = false ∧ digitByte d ≠ ascii ']' := by decide
  rw [ofText_natText]
  cases digits : Decimal.digits n with
  | nil => exact absurd digits (Decimal.digits_ne_nil n)
  | cons d ds =>
      have small : d < 10 := Decimal.lt_ten_of_mem_digits (n := n) (digits ▸ List.mem_cons_self)
      obtain ⟨noSpace, noEnd⟩ := plain ⟨d, small⟩
      simp [nextElement, dropSpaces, noSpace, noEnd, show isSpace (ascii ',') = false by decide,
        show ascii ',' ≠ ascii ']' by decide]

/-- The bytes after the first are read back, up to the bracket. -/
theorem readElements_later {fuel : Nat} {bs : Bytes} (enough : bs.length < fuel) :
    readElements fuel false (laterBytes bs ++ ascii ']' :: rest) = .ok (bs, ascii ']' :: rest) := by
  induction bs generalizing fuel with
  | nil =>
      obtain ⟨fuel, rfl⟩ := Nat.exists_eq_succ_of_ne_zero (Nat.pos_iff_ne_zero.mp enough)
      rfl
  | cons b bs ih =>
      obtain ⟨fuel, rfl⟩ := Nat.exists_eq_succ_of_ne_zero (Nat.pos_iff_ne_zero.mp
        (Nat.lt_of_le_of_lt (Nat.zero_le _) enough))
      have later : laterBytes (b :: bs) ++ ascii ']' :: rest = ascii ',' ::
          (Bytes.ofText (Decimal.natText b.toNat) ++ (laterBytes bs ++ ascii ']' :: rest)) := by
        simp [laterBytes]
      rw [later, readElements, (nextElement_number b.toNat).2]
      simp only [readNatural_byte b (stops_later bs), ih (Nat.lt_of_succ_lt_succ enough), Except.map,
        UInt8.ofNat_toNat]

/-- A list of bytes is read back. -/
theorem readByteList_writeNumbers (bs : Bytes) :
    readByteList (writeNumbers (bs.map (·.toNat)) ++ rest) = .ok (bs, rest) := by
  have close : closeList (ascii ']' :: rest) = .ok rest := rfl
  have opens (bytes : Bytes) : readByteList (ascii '[' :: bytes) =
      (readElements (bytes.length + 1) true bytes).bind fun r =>
        (closeList r.2).bind fun rest => .ok (r.1, rest) := rfl
  cases bs with
  | nil => rfl
  | cons b bs =>
      have enough : bs.length < (Bytes.ofText (Decimal.natText b.toNat) ++
          (laterBytes bs ++ ascii ']' :: rest)).length := by
        have each : bs.length ≤ (laterBytes bs).length :=
          length_le_flatMap (fun _ => List.cons_ne_nil _ _) bs
        simp only [List.length_append, List.length_cons]
        omega
      rw [writeNumbers_cons, opens, readElements, (nextElement_number b.toNat).1]
      simp only [readNatural_byte b (stops_later bs), readElements_later enough, Except.map,
        Except.bind, close, UInt8.ofNat_toNat]

/-- A value of any kind that fits it is read back. -/
theorem Kind.restores (k : Kind) (v : k.Value) (stops : Stops rest) :
    Restores (k.Fits v) (v, rest) (k.read (k.write v ++ rest)) := by
  cases k with
  | int64 => exact readInteger_intText "i64" v (by decide) (by decide) stops
  | nat64 => exact readNatural_natText "u64" v (Nat.le_refl _) stops
  | nat32 => exact readNatural_natText "u32" v (by decide) stops
  | text => exact .of_eq_ok (readQuoted_quoted "a string" v)
  | publicId => exact .of_eq_ok (readForm_quoted v.read_text)
  | timestamp => exact .of_eq_ok (readForm_quoted v.read_text)
  | bytes => exact .of_eq_ok (readByteList_writeNumbers v)
  | bookingStatus => exact .of_eq_ok (readWordOf_quoted (Booking.Status.ofWord?_word v))
  | paymentStatus => exact .of_eq_ok (readWordOf_quoted (Payment.Status.ofWord?_word v))

end Json

end BoxOffice
