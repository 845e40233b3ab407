import BoxOffice.Decimal.Integer

/-!
# Directives

A directive is a word, or a word, a colon and its argument. Scripts that say how something shall go are
written in directives. A word without a colon has no argument, and nothing is said about what follows
the first colon.
-/

namespace BoxOffice.Text

/-- The argument of a directive that begins with a word and a colon. -/
def argument? (word directive : String) : Option String :=
  if (word ++ ":").toList <+: directive.toList then
    some (String.ofList (directive.toList.drop (word.length + 1)))
  else none

/-- The argument as a number of 64 bits. -/
def numberArgument? (word directive : String) : Option Nat :=
  (argument? word directive).bind (Decimal.readUnsigned 18446744073709551615)

end BoxOffice.Text
