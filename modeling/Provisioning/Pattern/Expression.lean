import Provisioning.Pattern.Basic

/-!
Regular expressions as trees.

An expression keeps what is written, with its flags resolved: which parts are groups, how many
elements stand in a row, and how often something is repeated. `Expression.pattern` is what it means,
and `Expression.depth` how deeply it is nested.
-/

namespace Provisioning.Pattern

inductive Expression where
  /-- Nothing. -/
  | empty
  /-- A change of flags, which stands among the elements of a row and matches nothing. -/
  | directive
  /-- One character of a set, and the depth of the brackets in which the set was written. -/
  | set (s : CharSet) (depth : Nat)
  | anchor (a : Anchor)
  /-- At least `least` repetitions, and at most so many more if that is given. -/
  | repeated (e : Expression) (least : Nat) (more : Option Nat) (lazy : Bool)
  /-- A group, and its number if it has one. -/
  | group (number : Option Nat) (e : Expression)
  /-- Elements in a row. -/
  | row (es : List Expression)
  /-- Alternatives. -/
  | choice (es : List Expression)

namespace Expression

/-- The expression of the elements between two bars. -/
def ofRow : List Expression → Expression
  | [] => empty
  | [e] => e
  | es => row es

/-- The expression of the branches between the parentheses of a group. -/
def ofChoice : List Expression → Expression
  | [e] => e
  | es => choice es

mutual

/-- How many repetitions, groups, rows, choices and brackets stand around the innermost element. -/
def depth : Expression → Nat
  | empty => 0
  | directive => 0
  | set _ depth => depth
  | anchor _ => 0
  | repeated e _ _ _ => e.depth + 1
  | group _ e => e.depth + 1
  | row es => depthOfAll es + 1
  | choice es => depthOfAll es + 1

def depthOfAll : List Expression → Nat
  | [] => 0
  | e :: es => max e.depth (depthOfAll es)

end

mutual

/-- What an expression means. -/
def pattern : Expression → Pattern
  | empty => .empty
  | directive => .empty
  | set s _ => .char s
  | anchor a => .anchor a
  | repeated e least more _ => .rep e.pattern least more
  | group _ e => e.pattern
  | row es => patternOfRow es
  | choice es => patternOfChoice es

def patternOfRow : List Expression → Pattern
  | [] => .empty
  | [e] => e.pattern
  | e :: es => .seq e.pattern (patternOfRow es)

/-- What expressions mean as alternatives. Without any, there is nothing to match. -/
def patternOfChoice : List Expression → Pattern
  | [] => .char .none
  | [e] => e.pattern
  | e :: es => .alt e.pattern (patternOfChoice es)

end

end Expression

end Provisioning.Pattern
