import BoxOffice.Text.Hex

/-!
# Bytes and the text they carry

A message body, a record header and a row of a file are bytes; names and titles are text. This module
holds the two ways between them. `Bytes.ofText` writes the UTF-8 form of a text. `Bytes.text?` reads it
back and refuses anything else, so `text? (ofText s) = some s`. `Bytes.lossyText` reads any bytes at all
and puts U+FFFD in place of each maximal part that no UTF-8 sequence can begin with. `Bytes.hexText`
writes any bytes as pairs of hexadecimal digits, and `Bytes.ofHexText?` reads those.
-/

namespace BoxOffice

/-- Bytes as they stand in a message body or a record. -/
abbrev Bytes := List UInt8

namespace Bytes

/-- The UTF-8 form of a text. -/
def ofText (s : String) : Bytes :=
  s.toByteArray.data.toList

/-- The text of bytes that are UTF-8. -/
def text? (bytes : Bytes) : Option String :=
  String.fromUTF8? ⟨bytes.toArray⟩

/-- Reading what was written gives the text back. -/
@[simp]
theorem text?_ofText (s : String) : text? (ofText s) = some s := by
  have h : (⟨(ofText s).toArray⟩ : ByteArray) = s.toByteArray := by simp [ofText]
  rw [text?, h, String.fromUTF8?, dif_pos s.isValidUTF8]
  rfl

/-! ### Hexadecimal form -/

/-- Bytes as pairs of hexadecimal digits. -/
def hexText (bytes : Bytes) : String :=
  String.ofList (bytes.flatMap fun b => Text.hexDigits 2 b.toNat)

/-- The bytes that pairs of hexadecimal digits stand for, when they do. -/
def ofHexDigits? : List Char → Option Bytes
  | [] => some []
  | [_] => none
  | a :: b :: rest => do
    let high ← Text.hexValue? a
    let low ← Text.hexValue? b
    let bytes ← ofHexDigits? rest
    some (UInt8.ofNat (high * 16 + low) :: bytes)

/-- The bytes that a text of hexadecimal digits stands for, when it does. -/
def ofHexText? (s : String) : Option Bytes := ofHexDigits? s.toList

/-! ### Reading damaged text -/

/-- The ranges that the bytes after a first byte have to lie in, or nothing when no UTF-8 sequence
starts with that byte. -/
def continuations (first : UInt8) : Option (List (UInt8 × UInt8)) :=
  if first < 0x80 then some []
  else if first < 0xC2 then none
  else if first < 0xE0 then some [(0x80, 0xBF)]
  else if first == 0xE0 then some [(0xA0, 0xBF), (0x80, 0xBF)]
  else if first == 0xED then some [(0x80, 0x9F), (0x80, 0xBF)]
  else if first < 0xF0 then some [(0x80, 0xBF), (0x80, 0xBF)]
  else if first == 0xF0 then some [(0x90, 0xBF), (0x80, 0xBF), (0x80, 0xBF)]
  else if first < 0xF4 then some [(0x80, 0xBF), (0x80, 0xBF), (0x80, 0xBF)]
  else if first == 0xF4 then some [(0x80, 0x8F), (0x80, 0xBF), (0x80, 0xBF)]
  else none

/-- The longest run of bytes that stay within the ranges, one byte for each range. -/
def takeWithin : List (UInt8 × UInt8) → Bytes → Bytes
  | (low, high) :: ranges, b :: rest =>
    if low ≤ b ∧ b ≤ high then b :: takeWithin ranges rest else []
  | _, _ => []

/-- The code point of a whole sequence: the low bits of its first byte, then six bits of each other. -/
def codePoint (first : UInt8) (rest : Bytes) : Nat :=
  let lead :=
    match rest.length with
    | 0 => first.toNat
    | 1 => first.toNat - 0xC0
    | 2 => first.toNat - 0xE0
    | _ => first.toNat - 0xF0
  rest.foldl (fun point b => point * 64 + (b.toNat - 0x80)) lead

/-- The characters of bytes read as UTF-8, with U+FFFD for each maximal part that is not. -/
def lossyChars : Bytes → List Char
  | [] => []
  | first :: rest =>
    match continuations first with
    | none => '\ufffd' :: lossyChars rest
    | some ranges =>
      let tail := takeWithin ranges rest
      let char := if tail.length = ranges.length then Char.ofNat (codePoint first tail) else '\ufffd'
      char :: lossyChars (rest.drop tail.length)
termination_by bytes => bytes.length
decreasing_by
  all_goals simp only [List.length_cons, List.length_drop]
  all_goals omega

/-- Bytes read as UTF-8, with U+FFFD for each maximal part that is not. -/
def lossyText (bytes : Bytes) : String :=
  String.ofList (lossyChars bytes)

end Bytes

end BoxOffice
