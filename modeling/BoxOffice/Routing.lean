/-!
# Routing keys and patterns

A routing key is a text whose words are separated by dots; every dot separates, so an empty text is one
empty word. In a pattern the word `*` stands for exactly one word of a key and the word `#` for any
number of them. A pattern matches a key when the key's words can be cut into consecutive pieces, one for
each word of the pattern.
-/

namespace BoxOffice.Routing

/-- A word of a routing key. -/
abbrev Word := List Char

/-- The words of a text: the pieces between its dots. -/
def words : List Char → List Word
  | [] => [[]]
  | c :: cs =>
    if c = '.' then [] :: words cs
    else
      match words cs with
      | [] => [[c]]
      | word :: rest => (c :: word) :: rest

/-- A list and all its ends, the longest first. -/
def suffixes {α : Type} : List α → List (List α)
  | [] => [[]]
  | x :: xs => (x :: xs) :: suffixes xs

/-- Whether the words of a pattern match the words of a key. -/
def covers : List Word → List Word → Bool
  | [], key => key.isEmpty
  | word :: rest, key =>
    if word = ['#'] then (suffixes key).any (covers rest)
    else
      match key with
      | [] => false
      | first :: others => (word = ['*'] || word = first) && covers rest others

/-- A pattern of routing keys. -/
structure Pattern where
  text : String
  deriving DecidableEq, Repr

/-- Whether a pattern matches a routing key. -/
def Pattern.matches (p : Pattern) (key : String) : Bool :=
  covers (words p.text.toList) (words key.toList)

end BoxOffice.Routing
