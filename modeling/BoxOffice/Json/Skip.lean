import BoxOffice.Json.Text

/-!
# Skipping a value

The value of an unknown member is passed over: only its grammar is checked, to any depth. Numbers are not
evaluated, texts are not decoded, and every fault of a number is the same one.
-/

namespace BoxOffice.Json

/-- Whether a byte is a blank between tokens. -/
def isSpace (b : UInt8) : Bool :=
  b = 0x20 || b = 0x0A || b = 0x09 || b = 0x0D

/-- The bytes after leading blanks. -/
def dropSpaces (bytes : Bytes) : Bytes := bytes.dropWhile isSpace

/-- The bytes after the rest of a word. -/
def readWord : List Char → Bytes → Except Error Bytes
  | [], bytes => .ok bytes
  | _ :: _, [] => .error .endInValue
  | c :: cs, b :: rest => if b = ascii c then readWord cs rest else .error .expectedWord

/-- Passes over a text after its opening quote. -/
def skipText : Bytes → Except Error Bytes
  | [] => .error .endInText
  | b :: rest =>
    if b = ascii '"' then .ok rest
    else if b = ascii '\\' then
      match rest with
      | [] => .error .endInText
      | e :: rest =>
        if e = ascii 'u' then
          match rest with
          | h₁ :: h₂ :: h₃ :: h₄ :: rest =>
            if (hexNumber? h₁ h₂ h₃ h₄).isSome then skipText rest else .error .invalidEscape
          | _ => .error .endInText
        else if (simpleEscape? e).isSome then skipText rest
        else .error .invalidEscape
    else if b < 0x20 then .error .controlCharacter
    else skipText rest

/-- Passes over a number after its sign. Every fault of a number is an invalid number here, also an early
end. -/
def skipNumber (bytes : Bytes) : Except Error Bytes :=
  match readNumberText false bytes with
  | .ok (_, rest) => .ok rest
  | .error _ => .error .invalidNumber

/-- A bracket that is still open. -/
inductive Frame
  | list
  | object

/-- Passes over the key of a member and its colon. -/
def skipKey (bytes : Bytes) : Except Error Bytes :=
  match dropSpaces bytes with
  | [] => .error .endInObject
  | b :: rest =>
    if b = ascii '"' then do
      match dropSpaces (← skipText rest) with
      | [] => .error .endInObject
      | b :: rest => if b = ascii ':' then .ok rest else .error .expectedColon
    else .error .keyNotText

/-- What comes after a value or after an opening bracket. -/
inductive Next
  /-- Another value, inside the open brackets. -/
  | value (frames : List Frame) (rest : Bytes)
  /-- Nothing: every bracket is closed. -/
  | done (rest : Bytes)

/-- Closes brackets until another value comes. Right after an opening bracket there is no comma. -/
def skipClosers : List Frame → Bool → Nat → Bytes → Except Error Next
  | [], _, _, bytes => .ok (.done bytes)
  | frames, _, 0, bytes => .ok (.value frames bytes)
  | frame :: frames, afterValue, fuel + 1, bytes => do
    let valueIn (rest : Bytes) : Except Error Next :=
      match frame with
      | .list => .ok (.value (frame :: frames) rest)
      | .object => (skipKey rest).map (.value (frame :: frames))
    match dropSpaces bytes with
    | [] =>
      match frame with
      | .list => .error .endInList
      | .object => .error .endInObject
    | b :: rest =>
      if b = ascii ',' ∧ afterValue = true then valueIn rest
      else
        match frame with
        | .list =>
          if b = ascii ']' then skipClosers frames true fuel rest
          else if afterValue then .error .expectedListEnd
          else valueIn (b :: rest)
        | .object =>
          if b = ascii '\x7d' then skipClosers frames true fuel rest
          else if afterValue then .error .expectedObjectEnd
          else valueIn (b :: rest)

/-- Passes over a value inside open brackets, and then over all up to the last of these brackets. Each
round takes at least one byte. -/
def skipFrom : Nat → List Frame → Bytes → Except Error Bytes
  | 0, _, _ => .error .endInValue
  | fuel + 1, frames, bytes => do
    let goOn (frames : List Frame) (afterValue : Bool) (rest : Bytes) : Except Error Bytes := do
      match ← skipClosers frames afterValue (rest.length + 1) rest with
      | .done rest => .ok rest
      | .value frames rest => skipFrom fuel frames rest
    match dropSpaces bytes with
    | [] => .error .endInValue
    | b :: rest =>
      if b = ascii 'n' then goOn frames true (← readWord ['u', 'l', 'l'] rest)
      else if b = ascii 't' then goOn frames true (← readWord ['r', 'u', 'e'] rest)
      else if b = ascii 'f' then goOn frames true (← readWord ['a', 'l', 's', 'e'] rest)
      else if b = ascii '-' then goOn frames true (← skipNumber rest)
      else if (digitOf? b).isSome then goOn frames true (← skipNumber (b :: rest))
      else if b = ascii '"' then goOn frames true (← skipText rest)
      else if b = ascii '[' then goOn (.list :: frames) false rest
      else if b = ascii '\x7b' then goOn (.object :: frames) false rest
      else .error .expectedValue

/-- Passes over one value. -/
def skipValue (bytes : Bytes) : Except Error Bytes :=
  skipFrom (bytes.length + 1) [] bytes

end BoxOffice.Json
