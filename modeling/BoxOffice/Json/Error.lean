import BoxOffice.Decimal.Shortest
import BoxOffice.Text.Quoted

/-!
# What is wrong with a JSON text

`Json.Error` lists the causes for which a JSON text is not read, `Error.message` words them and
`Error.kind` sorts them: the text ends too early, its grammar is broken, or it is well formed and holds
something else than was expected.
-/

namespace BoxOffice.Json

/-- A value met where another kind of value was expected. -/
inductive Found
  | null
  | boolean (b : Bool)
  | integer (i : Int)
  | real (x : Float)
  | text (s : String)
  | sequence
  | map
  deriving Repr

/-- Numbers in reports are plain up to sixteen digits, with an exponent of two digits or more beyond. -/
def realStyle : Decimal.FloatStyle := ⟨-5, 15, 2⟩

/-- A value in a report. -/
def Found.description : Found → String
  | null => "null"
  | boolean b => "boolean `" ++ (if b then "true" else "false") ++ "`"
  | integer i => "integer `" ++ Decimal.intText i ++ "`"
  | real x => "floating point `" ++ realStyle.text x ++ "`"
  | text s => "string " ++ Text.quote s
  | sequence => "sequence"
  | map => "map"

/-- Why a JSON text is not read. -/
inductive Error
  /-- The text ends where a value should stand or inside a word or number. -/
  | endInValue
  | endInList
  | endInObject
  | endInText
  /-- No value starts here. -/
  | expectedValue
  /-- A word other than `null`, `true` and `false`. -/
  | expectedWord
  | expectedColon
  /-- Neither a comma nor the end after an element. -/
  | expectedListEnd
  /-- Neither a comma nor the end after a member. -/
  | expectedObjectEnd
  | keyNotText
  | trailingComma
  | trailingCharacters
  | invalidNumber
  /-- A number too large. -/
  | numberOutOfRange
  /-- A control character inside a quoted text. -/
  | controlCharacter
  | invalidEscape
  /-- A quoted text that is not UTF-8. -/
  | invalidCodePoint
  /-- The first half of a surrogate pair without a second. -/
  | unfinishedPair
  /-- The second half of a surrogate pair without the first, or a wrong second. -/
  | loneSurrogate
  | invalidType (found : Found) (expected : String)
  | invalidValue (found : Found) (expected : String)
  /-- A list with too few elements. -/
  | invalidLength (count : Nat) (expected : String)
  | unknownVariant (word : String) (known : List String)
  | missingField (name : String)
  | duplicateField (name : String)
  /-- A text that does not have the form of its kind. -/
  | badText (report : String)
  deriving Repr

/-- The three kinds of errors. -/
inductive Error.Kind
  | tooShort
  /-- The grammar is broken. -/
  | grammar
  /-- The value is not the expected one. -/
  | data
  deriving DecidableEq, Repr

namespace Error

/-- The known words of an enumeration in a report. -/
def alternatives (words : List String) : String :=
  let quoted := words.map fun w => "`" ++ w ++ "`"
  match quoted with
  | [first, second] => "expected " ++ first ++ " or " ++ second
  | _ => "expected one of " ++ ", ".intercalate quoted

/-- The report of an error. -/
def message : Error → String
  | endInValue => "EOF while parsing a value"
  | endInList => "EOF while parsing a list"
  | endInObject => "EOF while parsing an object"
  | endInText => "EOF while parsing a string"
  | expectedValue => "expected value"
  | expectedWord => "expected ident"
  | expectedColon => "expected `:`"
  | expectedListEnd => "expected `,` or `]`"
  | expectedObjectEnd => "expected `,` or `\x7d`"
  | keyNotText => "key must be a string"
  | trailingComma => "trailing comma"
  | trailingCharacters => "trailing characters"
  | invalidNumber => "invalid number"
  | numberOutOfRange => "number out of range"
  | controlCharacter => "control character (\\u0000-\\u001F) found while parsing a string"
  | invalidEscape => "invalid escape"
  | invalidCodePoint => "invalid unicode code point"
  | unfinishedPair => "unexpected end of hex escape"
  | loneSurrogate => "lone leading surrogate in hex escape"
  | invalidType found expected =>
    "invalid type: " ++ found.description ++ ", expected " ++ expected
  | invalidValue found expected =>
    "invalid value: " ++ found.description ++ ", expected " ++ expected
  | invalidLength count expected =>
    "invalid length " ++ Decimal.natText count ++ ", expected " ++ expected
  | unknownVariant word known => "unknown variant `" ++ word ++ "`, " ++ alternatives known
  | missingField name => "missing field `" ++ name ++ "`"
  | duplicateField name => "duplicate field `" ++ name ++ "`"
  | badText report => report

/-- The kind of an error. -/
def kind : Error → Kind
  | endInValue | endInList | endInObject | endInText => .tooShort
  | invalidType .. | invalidValue .. | invalidLength .. | unknownVariant .. | missingField _
  | duplicateField _ | badText _ => .data
  | _ => .grammar

end Error

end BoxOffice.Json
