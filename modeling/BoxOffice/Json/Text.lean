import BoxOffice.Json.Number
import BoxOffice.Text.Hex

/-!
# Quoted texts in JSON

A quoted text escapes the quote, the backslash and the control characters and leaves all else as it is.
Reading accepts every escape of the grammar; characters beyond the first plane come as two escapes, the
halves of a surrogate pair.
-/

namespace BoxOffice.Json

/-! ### Writing -/

/-- The bytes of a character sequence of ASCII. -/
def asciiBytes (cs : List Char) : Bytes := cs.map ascii

/-- One byte of a quoted text. -/
def escapeByte (b : UInt8) : Bytes :=
  if b = ascii '"' then asciiBytes ['\\', '"']
  else if b = ascii '\\' then asciiBytes ['\\', '\\']
  else if b = 8 then asciiBytes ['\\', 'b']
  else if b = 9 then asciiBytes ['\\', 't']
  else if b = 10 then asciiBytes ['\\', 'n']
  else if b = 12 then asciiBytes ['\\', 'f']
  else if b = 13 then asciiBytes ['\\', 'r']
  else if b < 0x20 then asciiBytes (['\\', 'u'] ++ Text.hexDigits 4 b.toNat)
  else [b]

/-- A text with quotes around it. -/
def quoted (s : String) : Bytes :=
  ascii '"' :: (Bytes.ofText s).flatMap escapeByte ++ [ascii '"']

/-! ### Reading -/

/-- The number of four hexadecimal digits. -/
def hexNumber? (a b c d : UInt8) : Option Nat :=
  Text.hexNumber? ([a, b, c, d].map fun x => Char.ofNat x.toNat)

/-- The UTF-8 form of a code point. -/
def codePointBytes (n : Nat) : Bytes :=
  String.utf8EncodeChar (Char.ofNat n)

/-- The byte of an escape of one letter. -/
def simpleEscape? (b : UInt8) : Option UInt8 :=
  if b = ascii '"' ∨ b = ascii '\\' ∨ b = ascii '/' then some b
  else if b = ascii 'b' then some 8
  else if b = ascii 'f' then some 12
  else if b = ascii 'n' then some 10
  else if b = ascii 'r' then some 13
  else if b = ascii 't' then some 9
  else none

/-- Puts bytes in front of those of a text. -/
def prepend (bytes : Bytes) (r : Except Error (Bytes × Bytes)) : Except Error (Bytes × Bytes) :=
  r.map fun (text, rest) => (bytes ++ text, rest)

/-- The bytes of a text after its opening quote, with the escapes resolved. -/
def readTextBytes : Bytes → Except Error (Bytes × Bytes)
  | [] => .error .endInText
  | b :: rest =>
    if b = ascii '"' then .ok ([], rest)
    else if b = ascii '\\' then
      match rest with
      | [] => .error .endInText
      | e :: rest =>
        if e = ascii 'u' then
          match rest with
          | h₁ :: h₂ :: h₃ :: h₄ :: rest =>
            match hexNumber? h₁ h₂ h₃ h₄ with
            | none => .error .invalidEscape
            | some n =>
              if 0xDC00 ≤ n ∧ n ≤ 0xDFFF then .error .loneSurrogate
              else if n < 0xD800 ∨ 0xDBFF < n then prepend (codePointBytes n) (readTextBytes rest)
              else
                match rest with
                | [] => .error .endInText
                | [x] => .error (if x = ascii '\\' then .endInText else .unfinishedPair)
                | x :: y :: rest =>
                  if x ≠ ascii '\\' ∨ y ≠ ascii 'u' then .error .unfinishedPair
                  else
                    match rest with
                    | l₁ :: l₂ :: l₃ :: l₄ :: rest =>
                      match hexNumber? l₁ l₂ l₃ l₄ with
                      | none => .error .invalidEscape
                      | some m =>
                        if m < 0xDC00 ∨ 0xDFFF < m then .error .loneSurrogate
                        else
                          prepend (codePointBytes ((n - 0xD800) * 1024 + (m - 0xDC00) + 0x10000))
                            (readTextBytes rest)
                    | _ => .error .endInText
          | _ => .error .endInText
        else
          match simpleEscape? e with
          | none => .error .invalidEscape
          | some c => prepend [c] (readTextBytes rest)
    else if b < 0x20 then .error .controlCharacter
    else prepend [b] (readTextBytes rest)

/-- A text after its opening quote. -/
def readText (bytes : Bytes) : Except Error (String × Bytes) := do
  let (raw, rest) ← readTextBytes bytes
  match Bytes.text? raw with
  | none => .error .invalidCodePoint
  | some s => .ok (s, rest)

end BoxOffice.Json
