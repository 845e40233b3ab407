import BoxOffice.Json.Skip
import BoxOffice.Payment
import BoxOffice.PublicId.Reader
import BoxOffice.Timestamp.Reader

/-!
# Kinds of values

Every field of a record in a message has a kind: a whole number of some width, a text, an identifier, a
point in time, bytes or the word of a status. A kind fixes the type of its values and how they are
written and read. A number out of range, a value of another kind and a text of the wrong form are told
apart.
-/

namespace BoxOffice.Json

/-- The kinds of values. -/
inductive Kind
  /-- A whole number of 64 bits with a sign. -/
  | int64
  /-- A whole number of 64 bits. -/
  | nat64
  /-- A whole number of 32 bits. -/
  | nat32
  | text
  | publicId
  | timestamp
  /-- Bytes, as a list of numbers. -/
  | bytes
  | bookingStatus
  | paymentStatus
  deriving DecidableEq, Repr

/-- The values of a kind. -/
@[reducible]
def Kind.Value : Kind → Type
  | int64 => Int
  | nat64 => Nat
  | nat32 => Nat
  | text => String
  | publicId => PublicId
  | timestamp => Timestamp
  | bytes => Bytes
  | bookingStatus => Booking.Status
  | paymentStatus => Payment.Status

/-! ### Writing -/

/-- Numbers as a list. -/
def writeNumbers (ns : List Nat) : Bytes :=
  let items := ns.map fun n => Bytes.ofText (Decimal.natText n)
  ascii '[' :: [ascii ','].intercalate items ++ [ascii ']']

/-- A value as it is written. -/
def Kind.write : (k : Kind) → k.Value → Bytes
  | int64, i => Bytes.ofText (Decimal.intText i)
  | nat64, n => Bytes.ofText (Decimal.natText n)
  | nat32, n => Bytes.ofText (Decimal.natText n)
  | text, s => quoted s
  | publicId, id => quoted id.text
  | timestamp, t => quoted t.text
  | bytes, bs => writeNumbers (bs.map (·.toNat))
  | bookingStatus, s => quoted s.word
  | paymentStatus, s => quoted s.word

/-! ### Reading -/

/-- The error for a value of another kind than expected. A value that is itself broken has its own
error. Lists and objects are told by their bracket. -/
def mismatch (expected : String) : Bytes → Error
  | [] => .expectedValue
  | b :: rest =>
    let wrong (r : Except Error Found) : Error :=
      match r with
      | .error e => e
      | .ok found => .invalidType found expected
    if b = ascii 'n' then wrong ((readWord ['u', 'l', 'l'] rest).map fun _ => .null)
    else if b = ascii 't' then wrong ((readWord ['r', 'u', 'e'] rest).map fun _ => .boolean true)
    else if b = ascii 'f' then
      wrong ((readWord ['a', 'l', 's', 'e'] rest).map fun _ => .boolean false)
    else if b = ascii '-' then wrong ((readNumber true rest).map fun r => r.1.found)
    else if (digitOf? b).isSome then wrong ((readNumber false (b :: rest)).map fun r => r.1.found)
    else if b = ascii '"' then wrong ((readText rest).map fun r => .text r.1)
    else if b = ascii '[' then .invalidType .sequence expected
    else if b = ascii '\x7b' then .invalidType .map expected
    else .expectedValue

/-- A whole number from `low` to `high`. -/
def readInteger (low high : Int) (expected : String) (bytes : Bytes) : Except Error (Int × Bytes) :=
  let checked (r : Except Error (Number × Bytes)) : Except Error (Int × Bytes) :=
    match r with
    | .error e => .error e
    | .ok (.integer i, rest) =>
      if low ≤ i ∧ i ≤ high then .ok (i, rest) else .error (.invalidValue (.integer i) expected)
    | .ok (.real x, _) => .error (.invalidType (.real x) expected)
  match dropSpaces bytes with
  | [] => .error .endInValue
  | b :: rest =>
    if b = ascii '-' then checked (readNumber true rest)
    else if (digitOf? b).isSome then checked (readNumber false (b :: rest))
    else .error (mismatch expected (b :: rest))

/-- A whole number from zero to `high`. -/
def readNatural (high : Nat) (expected : String) (bytes : Bytes) : Except Error (Nat × Bytes) :=
  (readInteger 0 high expected bytes).map fun (i, rest) => (i.toNat, rest)

/-- A quoted text. -/
def readQuoted (expected : String) (bytes : Bytes) : Except Error (String × Bytes) :=
  match dropSpaces bytes with
  | [] => .error .endInValue
  | b :: rest =>
    if b = ascii '"' then readText rest else .error (mismatch expected (b :: rest))

/-- Goes on to the next element of a list: to its first byte, or to the closing bracket when there is
none. -/
def nextElement (first : Bool) (bytes : Bytes) : Except Error (Bool × Bytes) :=
  match dropSpaces bytes with
  | [] => .error .endInList
  | b :: rest =>
    if b = ascii ']' then .ok (false, b :: rest)
    else if first then .ok (true, b :: rest)
    else if b = ascii ',' then
      match dropSpaces rest with
      | [] => .error .endInValue
      | b :: rest => if b = ascii ']' then .error .trailingComma else .ok (true, b :: rest)
    else .error .expectedListEnd

/-- Closes a list that needs no more elements. -/
def closeList (bytes : Bytes) : Except Error Bytes :=
  match dropSpaces bytes with
  | [] => .error .endInList
  | b :: rest =>
    if b = ascii ']' then .ok rest
    else if b = ascii ',' ∧ (dropSpaces rest).head? = some (ascii ']') then .error .trailingComma
    else .error .trailingCharacters

/-- The elements of a list of bytes, up to its closing bracket. Each takes at least one byte, so the
length of the input bounds their number. -/
def readElements : Nat → Bool → Bytes → Except Error (Bytes × Bytes)
  | 0, _, _ => .error .endInList
  | fuel + 1, first, bytes =>
    match nextElement first bytes with
    | .error e => .error e
    | .ok (false, rest) => .ok ([], rest)
    | .ok (true, rest) =>
      match readNatural 255 "u8" rest with
      | .error e => .error e
      | .ok (n, rest) =>
        (readElements fuel false rest).map fun (ns, rest) => (UInt8.ofNat n :: ns, rest)

/-- A list of bytes. -/
def readByteList (bytes : Bytes) : Except Error (Bytes × Bytes) :=
  match dropSpaces bytes with
  | [] => .error .endInValue
  | b :: rest =>
    if b = ascii '[' then do
      let (bs, rest) ← readElements (rest.length + 1) true rest
      .ok (bs, ← closeList rest)
    else .error (mismatch "a sequence" (b :: rest))

/-- Passes over a colon. -/
def readColon (bytes : Bytes) : Except Error Bytes :=
  match dropSpaces bytes with
  | [] => .error .endInObject
  | b :: rest => if b = ascii ':' then .ok rest else .error .expectedColon

/-- A word of an enumeration. -/
def knownWord {α : Type} (ofWord? : String → Option α) (known : List String) (word : String) :
    Except Error α :=
  match ofWord? word with
  | some v => .ok v
  | none => .error (.unknownVariant word known)

/-- The value of an enumeration: its word, or an object with the word as its one key and nothing in
it. -/
def readWordOf {α : Type} (ofWord? : String → Option α) (known : List String) (bytes : Bytes) :
    Except Error (α × Bytes) :=
  match dropSpaces bytes with
  | [] => .error .endInValue
  | b :: rest =>
    if b = ascii '"' then do
      let (word, rest) ← readText rest
      .ok (← knownWord ofWord? known word, rest)
    else if b = ascii '\x7b' then do
      let (word, rest) ← readQuoted "variant identifier" rest
      let v ← knownWord ofWord? known word
      match dropSpaces (← readColon rest) with
      | [] => .error .endInValue
      | b :: rest =>
        if b = ascii 'n' then do
          match dropSpaces (← readWord ['u', 'l', 'l'] rest) with
          | [] => .error .endInObject
          | b :: rest => if b = ascii '\x7d' then .ok (v, rest) else .error .expectedValue
        else .error (mismatch "unit" (b :: rest))
    else .error .expectedValue

/-- A text with a form of its own. -/
def readForm {α ε : Type} (expected : String) (ofText : String → Except ε α) (report : ε → String)
    (bytes : Bytes) : Except Error (α × Bytes) := do
  let (s, rest) ← readQuoted expected bytes
  match ofText s with
  | .ok v => .ok (v, rest)
  | .error e => .error (.badText (report e))

/-- Reads a value of a kind. -/
def Kind.read : (k : Kind) → Bytes → Except Error (k.Value × Bytes)
  | int64 => readInteger (-9223372036854775808) 9223372036854775807 "i64"
  | nat64 => readNatural maxNat64 "u64"
  | nat32 => readNatural 4294967295 "u32"
  | text => readQuoted "a string"
  | publicId =>
    readForm "a formatted UUID string" PublicId.read fun e => "UUID parsing failed: " ++ e.message
  | timestamp =>
    readForm "an RFC 3339 formatted date and time string" Timestamp.read Timestamp.Fault.message
  | bytes => readByteList
  | bookingStatus => readWordOf Booking.Status.ofWord? (Booking.Status.all.map (·.word))
  | paymentStatus => readWordOf Payment.Status.ofWord? (Payment.Status.all.map (·.word))

end BoxOffice.Json
