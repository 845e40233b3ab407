import BoxOffice.Text.Hex

/-!
# Public identifiers

Events, users, bookings and payments are known outside by an identifier of 128 bits. It is written as 32
lower case hexadecimal digits in groups of 8, 4, 4, 4 and 12 with hyphens between them.
-/

namespace BoxOffice

/-- An identifier of 128 bits. -/
structure PublicId where
  bits : BitVec 128
  deriving DecidableEq, Repr, Inhabited

namespace PublicId

/-- The identifier whose bits are a number's low ones. -/
def ofNat (n : Nat) : PublicId := ⟨BitVec.ofNat 128 n⟩

/-- The digits of an identifier, in groups. -/
def groups (id : PublicId) : List (List Char) :=
  let n := id.bits.toNat
  [Text.hexDigits 8 (n / Nat.pow 2 96), Text.hexDigits 4 (n / Nat.pow 2 80),
    Text.hexDigits 4 (n / Nat.pow 2 64), Text.hexDigits 4 (n / Nat.pow 2 48), Text.hexDigits 12 n]

/-- The written form of an identifier. -/
def text (id : PublicId) : String :=
  String.ofList (['-'].intercalate id.groups)

end PublicId

/-- Identifiers handed out one after another: the `n`th is the number `n` itself. Counting goes round
after `2 ^ 64`. -/
def PublicId.sequential (n : Nat) : PublicId := ofNat (n % Nat.pow 2 64)

end BoxOffice
