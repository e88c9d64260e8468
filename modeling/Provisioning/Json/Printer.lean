import Provisioning.Json
import Provisioning.Number.Text
import Provisioning.Text.Quoted

/-!
JSON values written as compact text.

There are no blanks, members follow in key order, and only what has to be escaped in a string is
escaped.
-/

namespace Provisioning

namespace Json

/-- The characters of a whole number in decimal. -/
def wholeChars (n : Int) : List Char :=
  (if n < 0 then ['-'] else []) ++ Nat.toDigits 10 n.natAbs

def Number.chars : Number → List Char
  | .whole n _ => wholeChars n
  | .real x => RealStyle.document.chars x

def Number.render (n : Number) : String := String.ofList n.chars

/-- One character inside a string. -/
def escapeChar (c : Char) : List Char :=
  match c with
  | '"' => ['\\', '"']
  | '\\' => ['\\', '\\']
  | '\x08' => ['\\', 'b']
  | '\x0c' => ['\\', 'f']
  | '\n' => ['\\', 'n']
  | '\r' => ['\\', 'r']
  | '\t' => ['\\', 't']
  | c =>
    if c.toNat < 0x20 then
      ['\\', 'u', '0', '0', Nat.digitChar (c.toNat / 16), Nat.digitChar (c.toNat % 16)]
    else [c]

/-- The characters of a string between its quotes. -/
def stringChars (s : String) : List Char :=
  '"' :: s.toList.flatMap escapeChar ++ ['"']

mutual

def chars : Json → List Char
  | .null => ['n', 'u', 'l', 'l']
  | .bool true => ['t', 'r', 'u', 'e']
  | .bool false => ['f', 'a', 'l', 's', 'e']
  | .number n => n.chars
  | .string s => stringChars s
  | .array [] => ['[', ']']
  | .array (item :: items) => '[' :: chars item ++ itemsChars items ++ [']']
  | .object [] => ['\x7b', '\x7d']
  | .object ((k, item) :: members) =>
    '\x7b' :: stringChars k ++ ':' :: chars item ++ membersChars members ++ ['\x7d']

/-- The characters of the items after the first. -/
def itemsChars : List Json → List Char
  | [] => []
  | item :: items => ',' :: chars item ++ itemsChars items

/-- The characters of the members after the first. -/
def membersChars : List (String × Json) → List Char
  | [] => []
  | (k, item) :: members => ',' :: stringChars k ++ ':' :: chars item ++ membersChars members

end

/-- A value as compact text. -/
def render (j : Json) : String := String.ofList j.chars

end Json

end Provisioning
