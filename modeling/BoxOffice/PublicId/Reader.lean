import BoxOffice.PublicId
import BoxOffice.Decimal.Integer

/-!
# Reading public identifiers

Accepted are 32 hexadecimal digits, the hyphenated form, the hyphenated form in braces and the hyphenated
form after `urn:uuid:`; digits and the word may have either case. `PublicId.Fault` says what is wrong
with any other text: its length, a character with its place, the number of groups, or the length of one
group. Lengths and places count bytes.
-/

namespace BoxOffice.PublicId

/-- What is wrong with a text that is no identifier. -/
inductive Fault
  /-- A length that no written form has. -/
  | length (found : Nat)
  /-- A character that is neither a digit nor a hyphen, and its place. -/
  | character (found : Char) (place : Nat)
  /-- The number of groups. -/
  | groupCount (found : Nat)
  /-- The length of one group. -/
  | groupLength (group expected found : Nat)
  deriving DecidableEq, Repr

/-- The report of a fault. -/
def Fault.message : Fault → String
  | .length found => "invalid length: found " ++ Decimal.natText found
  | .character found place =>
    "invalid character: found `" ++ String.ofList [found] ++ "` at " ++ Decimal.natText place
  | .groupCount found => "invalid group count: expected 5, found " ++ Decimal.natText found
  | .groupLength group expected found =>
    "invalid group length in group " ++ Decimal.natText group ++ ": expected " ++
      Decimal.natText expected ++ ", found " ++ Decimal.natText found

/-- The bytes that characters take. -/
def byteLength : List Char → Nat
  | [] => 0
  | c :: cs => c.utf8Size + byteLength cs

/-- The word in front of the identifier in a resource name. -/
def resourceWord : List Char := "urn:uuid:".toList

/-- The part of a text that holds the digits, the bytes in front of it, and whether it is the whole
text. -/
def core (cs : List Char) : List Char × Nat × Bool :=
  if cs.head? = some '{' ∧ 2 ≤ cs.length ∧ cs.getLast? = some '}' then (cs.tail.dropLast, 1, false)
  else if (cs.take 9).map Char.toLower = resourceWord then (cs.drop 9, 9, false)
  else (cs, 0, true)

/-- The first character from byte `place` on that is neither a digit nor a hyphen. -/
def stranger? : List Char → Nat → Option (Char × Nat)
  | [], _ => none
  | c :: cs, place =>
    if c = '-' ∨ (Text.hexValue? c).isSome then stranger? cs (place + 1) else some (c, place)

/-- The places of the hyphens, counted from `place`. -/
def hyphens : List Char → Nat → List Nat
  | [], _ => []
  | c :: cs, place => if c = '-' then place :: hyphens cs (place + 1) else hyphens cs (place + 1)

/-- The group that ends at the first misplaced hyphen. -/
def misplaced? (places : List Nat) : Option Fault :=
  let expected := [(0, 0, 8), (1, 9, 4), (2, 14, 4), (3, 19, 4)]
  (places.zip expected).findSome? fun (place, group, start, length) =>
    if place = start + length then none else some (.groupLength group length (place - start))

/-- Reads an identifier, or tells the first fault. -/
def read (s : String) : Except Fault PublicId :=
  let cs := s.toList
  let size := byteLength cs
  let (part, before, whole) := core cs
  let places := hyphens part 0
  let digits := part.filter (· != '-')
  if size = 0 ∨ 45 < size then .error (.length size)
  else
    match stranger? part before with
    | some (c, place) => .error (.character c place)
    | none =>
      if places = [] ∧ whole = true then
        if part.length = 32 then .ok (ofNat ((Text.hexNumber? digits).getD 0)) else .error (.length size)
      else if places.length ≠ 4 then .error (.groupCount (places.length + 1))
      else
        match misplaced? places with
        | some fault => .error fault
        | none =>
          if part.length = 36 then .ok (ofNat ((Text.hexNumber? digits).getD 0))
          else .error (.groupLength 4 12 (size - 24))

end BoxOffice.PublicId
