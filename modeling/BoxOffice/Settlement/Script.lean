import BoxOffice.Settlement.Decider
import BoxOffice.Text.Directive

/-!
# Charges by script

For trying settlements out: a directive says how a charge goes. Every unknown directive stands for a
charge that succeeds at once.
-/

namespace BoxOffice.Settlement

/-- How the charge goes that a directive stands for. -/
def Decision.ofDirective (s : String) : Decision :=
  if s = "failed" then .settles ⟨0⟩ .failed
  else if s = "panic" then .panics
  else if s = "hang" then .hangs
  else if s = "gate" then .passesGate .success
  else .settles (.ofMillis ((Text.numberArgument? "sleep" s).getD 0)) .success

/-- A decider that follows directives. Without any every charge succeeds. -/
def Decider.ofDirectives : List String → Decider
  | [] => .fixed .success
  | first :: rest => .script (.ofDirective first) (rest.map Decision.ofDirective)

end BoxOffice.Settlement
