import BoxOffice.Json.Kind

/-!
# Records

A record has named fields in a fixed order, each of one kind, some with a value to use when they are
absent. It is written as an object with all its fields in order. It is read from an object whose members
come in any order, or from a list of its fields' values in order. The faults of an object are a member
that comes twice, found at its key, and an absent field without a default, found at the closing brace;
the fault of a list is too few elements.
-/

namespace BoxOffice.Json

/-- A field of a record. -/
structure Field where
  name : String
  kind : Kind
  /-- The value to use when the field is absent. -/
  default? : Option kind.Value := none

/-- The form of a record. -/
structure Shape where
  /-- Its name in reports. -/
  name : String
  fields : List Field

/-- What a reader expects where a record should stand. -/
def Shape.expected (s : Shape) : String := "struct " ++ s.name

/-- One value for each field. -/
@[reducible]
def Row : List Field → Type
  | [] => Unit
  | f :: fs => f.kind.Value × Row fs

/-- The values of the fields that were read so far. -/
@[reducible]
def Slots : List Field → Type
  | [] => Unit
  | f :: fs => Option f.kind.Value × Slots fs

/-! ### Writing -/

/-- The members of an object. -/
def writeMembers : (fs : List Field) → Row fs → List Bytes
  | [], _ => []
  | f :: fs, (v, vs) => (quoted f.name ++ ascii ':' :: f.kind.write v) :: writeMembers fs vs

/-- A record as an object. -/
def writeRow (fs : List Field) (row : Row fs) : Bytes :=
  ascii '\x7b' :: [ascii ','].intercalate (writeMembers fs row) ++ [ascii '\x7d']

/-! ### Reading an object -/

/-- No value read yet. -/
def Slots.empty : (fs : List Field) → Slots fs
  | [] => ()
  | _ :: fs => (none, Slots.empty fs)

/-- Reads the value of the member with a given name, when the record has such a field. -/
def Slots.fill? (name : String) :
    (fs : List Field) → Slots fs → Bytes → Option (Except Error (Slots fs × Bytes))
  | [], _, _ => none
  | f :: fs, (slot, slots), bytes =>
    if f.name = name then
      some (
        if slot.isSome then .error (.duplicateField name)
        else do
          let (v, rest) ← f.kind.read (← readColon bytes)
          .ok ((some v, slots), rest))
    else
      (Slots.fill? name fs slots bytes).map fun r =>
        r.map fun (filled, rest) => ((slot, filled), rest)

/-- Reads a member after its key. The value of an unknown one is skipped. -/
def Slots.fill (name : String) (fs : List Field) (slots : Slots fs) (bytes : Bytes) :
    Except Error (Slots fs × Bytes) :=
  match Slots.fill? name fs slots bytes with
  | some r => r
  | none => do .ok (slots, ← skipValue (← readColon bytes))

/-- The values of all fields, when none is absent without a default. -/
def Slots.complete : (fs : List Field) → Slots fs → Except Error (Row fs)
  | [], _ => .ok ()
  | f :: fs, (slot, slots) =>
    match slot, f.default? with
    | some v, _ => (Slots.complete fs slots).map fun row => (v, row)
    | none, some v => (Slots.complete fs slots).map fun row => (v, row)
    | none, none => .error (.missingField f.name)

/-- Goes on to the next member of an object: past the opening quote of its key, or past the closing brace
when there is none. -/
def nextKey (first : Bool) (bytes : Bytes) : Except Error (Bool × Bytes) :=
  match dropSpaces bytes with
  | [] => .error .endInObject
  | b :: rest =>
    if b = ascii '\x7d' then .ok (false, rest)
    else if first then
      if b = ascii '"' then .ok (true, rest) else .error .keyNotText
    else if b = ascii ',' then
      match dropSpaces rest with
      | [] => .error .endInValue
      | b :: rest =>
        if b = ascii '"' then .ok (true, rest)
        else if b = ascii '\x7d' then .error .trailingComma
        else .error .keyNotText
    else .error .expectedObjectEnd

/-- The members of an object up to its closing brace. Each takes at least one byte, so the length of the
input bounds their number. -/
def readMembers (fs : List Field) : Nat → Bool → Slots fs → Bytes → Except Error (Slots fs × Bytes)
  | 0, _, _, _ => .error .endInObject
  | fuel + 1, first, slots, bytes =>
    match nextKey first bytes with
    | .error e => .error e
    | .ok (false, rest) => .ok (slots, rest)
    | .ok (true, rest) => do
      let (name, rest) ← readText rest
      let (slots, rest) ← Slots.fill name fs slots rest
      readMembers fs fuel false slots rest

/-! ### Reading a list -/

/-- The elements of a list, one for each field. -/
def readItems (expected : String) :
    (fs : List Field) → Nat → Bool → Bytes → Except Error (Row fs × Bytes)
  | [], _, _, bytes => .ok ((), bytes)
  | f :: fs, index, first, bytes => do
    match ← nextElement first bytes with
    | (true, rest) =>
      let (v, rest) ← f.kind.read rest
      let (row, rest) ← readItems expected fs (index + 1) false rest
      .ok ((v, row), rest)
    | (false, rest) =>
      match f.default? with
      | none => .error (.invalidLength index expected)
      | some v =>
        let (row, rest) ← readItems expected fs (index + 1) first rest
        .ok ((v, row), rest)

/-- What a list of too few elements should have been. -/
def Shape.expectedLength (s : Shape) : String :=
  s.expected ++ " with " ++ Decimal.natText s.fields.length ++ " elements"

/-- Reads a record. -/
def Shape.read (s : Shape) (bytes : Bytes) : Except Error (Row s.fields × Bytes) :=
  match dropSpaces bytes with
  | [] => .error .endInValue
  | b :: rest =>
    if b = ascii '\x7b' then do
      let (slots, rest) ← readMembers s.fields (rest.length + 1) true (Slots.empty s.fields) rest
      .ok (← Slots.complete s.fields slots, rest)
    else if b = ascii '[' then do
      let (row, rest) ← readItems s.expectedLength s.fields 0 true rest
      .ok (row, ← closeList rest)
    else .error (mismatch s.expected (b :: rest))

/-- The value of a whole text: nothing but blanks may follow it. -/
def whole {α : Type} (r : Except Error (α × Bytes)) : Except Error α := do
  let (v, rest) ← r
  if dropSpaces rest = [] then .ok v else .error .trailingCharacters

end BoxOffice.Json
