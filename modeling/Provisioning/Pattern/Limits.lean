import Provisioning.Pattern.Automaton
import Provisioning.Pattern.Parser

/-!
Which expressions are patterns.

A text is a pattern if it spells an expression that is not nested too deeply and whose automata are
not too large.
-/

namespace Provisioning.Pattern

def depthLimit : Nat := 250

/-- Whether an expression stays within the limits. -/
def Expression.isAdmitted (e : Expression) : Bool := e.depth ≤ depthLimit && e.form.fits

def ofText? (s : String) : Option Pattern :=
  ((Expression.ofText? s).filter (·.isAdmitted)).map (·.pattern)

example : ofText? "^a\x7b1,2\x7d" =
    some (.seq (.anchor .textStart) (.rep (.char (.single 'a')) 1 (some 1))) := by decide +kernel

end Provisioning.Pattern
