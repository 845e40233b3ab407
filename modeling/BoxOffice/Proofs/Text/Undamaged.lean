import BoxOffice.Text.Bytes
import Mathlib.Data.List.Forall2
import Mathlib.Tactic.SplitIfs

/-!
# Reading text that is not damaged

`Bytes.lossyText` reads any bytes at all and puts U+FFFD where they are damaged. Bytes that
`Bytes.text?` reads are not damaged, and `lossyText_ofText` gives back their text. The reason
is that the first byte of a character asks for as many bytes after it as the character has,
each within its range: the ranges leave out what would be too long a form, half of a pair, or
beyond the last character.

`text?_eq_some_iff` says which bytes `text?` reads: the UTF-8 form of some text, and nothing
else.
-/

namespace BoxOffice.Bytes

/-! ### One sequence -/

/-- A byte lies within a range. -/
def Within (b : UInt8) (range : UInt8 × UInt8) : Prop := range.1 ≤ b ∧ b ≤ range.2

theorem within_iff {b : UInt8} {range : UInt8 × UInt8} :
    Within b range ↔ range.1.toNat ≤ b.toNat ∧ b.toNat ≤ range.2.toNat := by
  simp only [Within, UInt8.le_iff_toNat_le]

theorem takeWithin_append {ranges : List (UInt8 × UInt8)} {tail : Bytes}
    (within : List.Forall₂ Within tail ranges) (rest : Bytes) :
    takeWithin ranges (tail ++ rest) = tail := by
  induction within with
  | nil => cases rest <;> rfl
  | cons fits _ ih =>
      rw [List.cons_append, takeWithin, ih]
      exact if_pos fits

/-- A first byte with all the bytes that it asks for is one character. -/
theorem lossyChars_sequence {first : UInt8} {ranges : List (UInt8 × UInt8)} {tail : Bytes}
    (asks : continuations first = some ranges) (within : List.Forall₂ Within tail ranges)
    (rest : Bytes) :
    lossyChars (first :: tail ++ rest) = Char.ofNat (codePoint first tail) :: lossyChars rest := by
  rw [List.cons_append, lossyChars, asks]
  simp only [takeWithin_append within, within.length_eq, if_true]
  rw [← within.length_eq, List.drop_left]

/-! ### What the first byte of a character asks for -/

section Widths

variable {a b : UInt8} {v : Nat}

theorem continuations_one (small : v ≤ 0x7F) (first : a.toNat = v) : continuations a = some [] := by
  simp only [continuations, UInt8.lt_iff_toNat_lt, UInt8.reduceToNat]
  exact if_pos (by omega)

theorem continuations_two (large : 0x7F < v) (small : v ≤ 0x7FF)
    (first : a.toNat = v / 64 % 32 + 0xC0) : continuations a = some [(0x80, 0xBF)] := by
  simp only [continuations, UInt8.lt_iff_toNat_lt, UInt8.reduceToNat]
  rw [if_neg (by omega), if_neg (by omega), if_pos (by omega)]

/-- Of three bytes the second has a range of its own after two of the first bytes: below it the
form would be too long, above it is half of a pair. -/
theorem continuations_three (large : 0x7FF < v) (small : v ≤ 0xFFFF) (valid : v.isValidChar)
    (first : a.toNat = v / 4096 % 16 + 0xE0) (second : b.toNat = v / 64 % 64 + 0x80) :
    ∃ range, continuations a = some [range, (0x80, 0xBF)] ∧ Within b range := by
  simp only [continuations, UInt8.lt_iff_toNat_lt, beq_iff_eq, ← UInt8.toNat_inj,
    UInt8.reduceToNat, within_iff]
  unfold Nat.isValidChar at valid
  split_ifs
  all_goals try omega
  all_goals refine ⟨_, rfl, ?_⟩
  all_goals simp only [UInt8.reduceToNat]
  all_goals omega

/-- Of four bytes the second has a range of its own after two of the first bytes: below it the
form would be too long, above it is beyond the last character. -/
theorem continuations_four (large : 0xFFFF < v) (valid : v.isValidChar)
    (first : a.toNat = v / 262144 % 8 + 0xF0) (second : b.toNat = v / 4096 % 64 + 0x80) :
    ∃ range, continuations a = some [range, (0x80, 0xBF), (0x80, 0xBF)] ∧ Within b range := by
  simp only [continuations, UInt8.lt_iff_toNat_lt, beq_iff_eq, ← UInt8.toNat_inj,
    UInt8.reduceToNat, within_iff]
  unfold Nat.isValidChar at valid
  split_ifs
  all_goals try omega
  all_goals refine ⟨_, rfl, ?_⟩
  all_goals simp only [UInt8.reduceToNat]
  all_goals omega

end Widths

/-! ### Characters and texts -/

/-- Six bits with the mark of a byte after the first. -/
theorem within_ofNat (n : Nat) : Within (UInt8.ofNat (n % 64 + 0x80)) (0x80, 0xBF) := by
  have byte : (UInt8.ofNat (n % 64 + 0x80)).toNat = n % 64 + 0x80 :=
    UInt8.toNat_ofNat_of_lt' (by simp only [UInt8.size]; omega)
  rw [within_iff, byte]
  simp only [UInt8.reduceToNat]
  omega

/-- A character is read back from its bytes. -/
theorem lossyChars_utf8EncodeChar (c : Char) (rest : Bytes) :
    lossyChars (String.utf8EncodeChar c ++ rest) = c :: lossyChars rest := by
  have valid : c.val.toNat.isValidChar := c.valid
  have byte {n : Nat} (small : n < 256) : (UInt8.ofNat n).toNat = n :=
    UInt8.toNat_ofNat_of_lt' small
  have read {first : UInt8} {ranges : List (UInt8 × UInt8)} {tail : Bytes}
      (asks : continuations first = some ranges) (within : List.Forall₂ Within tail ranges)
      (point : codePoint first tail = c.val.toNat) :
      lossyChars (first :: tail ++ rest) = c :: lossyChars rest := by
    rw [lossyChars_sequence asks within, point]
    exact congrArg (· :: lossyChars rest) (Char.ofNat_toNat c)
  unfold String.utf8EncodeChar
  simp only
  generalize c.val.toNat = v at valid read ⊢
  -- The four widths of a character, as its number tells them.
  split
  · rename_i small
    have first := byte (n := v) (by omega)
    exact read (continuations_one small first) .nil first
  · rename_i large
    split
    · rename_i small
      have first := byte (n := v / 64 % 32 + 192) (by omega)
      have second := byte (n := v % 64 + 128) (by omega)
      refine read (continuations_two (by omega) small first) (.cons (within_ofNat v) .nil) ?_
      simp only [codePoint, List.length, List.foldl, first, second]
      omega
    · split
      · rename_i large small
        have first := byte (n := v / 4096 % 16 + 224) (by omega)
        have second := byte (n := v / 64 % 64 + 128) (by omega)
        have third := byte (n := v % 64 + 128) (by omega)
        obtain ⟨range, asks, within⟩ := continuations_three (by omega) small valid first second
        refine read asks (.cons within (.cons (within_ofNat v) .nil)) ?_
        simp only [codePoint, List.length, List.foldl, first, second, third]
        omega
      · rename_i large
        have first := byte (n := v / 262144 % 8 + 240) (by omega)
        have second := byte (n := v / 4096 % 64 + 128) (by omega)
        have third := byte (n := v / 64 % 64 + 128) (by omega)
        have fourth := byte (n := v % 64 + 128) (by omega)
        obtain ⟨range, asks, within⟩ := continuations_four (by omega) valid first second
        refine read asks (.cons within (.cons (within_ofNat _) (.cons (within_ofNat v) .nil))) ?_
        unfold Nat.isValidChar at valid
        simp only [codePoint, List.length, List.foldl, first, second, third, fourth]
        omega

theorem ofText_eq_flatMap (s : String) : ofText s = s.toList.flatMap String.utf8EncodeChar := by
  rw [ofText, ← String.utf8Encode_toList, List.utf8Encode, List.data_toByteArray]

/-- A text is read back from its bytes. -/
@[simp]
theorem lossyText_ofText (s : String) : lossyText (ofText s) = s := by
  have chars (cs : List Char) : lossyChars (cs.flatMap String.utf8EncodeChar) = cs := by
    induction cs with
    | nil => rw [List.flatMap_nil, lossyChars]
    | cons c cs ih => rw [List.flatMap_cons, lossyChars_utf8EncodeChar, ih]
  rw [lossyText, ofText_eq_flatMap, chars, String.ofList_toList]

/-- The bytes that are read as a text are its UTF-8 form. -/
theorem text?_eq_some_iff {bytes : Bytes} {s : String} :
    text? bytes = some s ↔ bytes = ofText s := by
  constructor
  · intro read
    unfold text? String.fromUTF8? at read
    split at read
    · cases read
      rfl
    · cases read
  · rintro rfl
    exact text?_ofText s

/-- Bytes that carry no text are the UTF-8 form of none. -/
theorem text?_eq_none_iff {bytes : Bytes} : text? bytes = none ↔ ∀ s, bytes ≠ ofText s := by
  rw [Option.eq_none_iff_forall_ne_some]
  exact forall_congr' fun s => not_congr text?_eq_some_iff

end BoxOffice.Bytes
