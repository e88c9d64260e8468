import Provisioning.Text.Category

/-!
Names quoted inside messages.

A quoted name stands between double quotes. A quote, a backslash, a line end, a tab and a NUL are
written with a backslash; any other character that has no visible form of its own is written as
its code point in hexadecimal between braces, and so is a mark that would join the character
before it. The sound marks of half-width kana stand for themselves.
-/

namespace Provisioning.Text

/-- Spacing characters that extend the character before them. -/
def joiningRuns : List Run := runs [
  "9BE 9D7 B3E B57 BBE BD7 CC0 CC2 CC7..CC8 CCA..CCB CD5..CD6 D3E D57 DCF DDF 1715 1734",
  "1B35 1B3B 1B3D 1B43..1B44 1BAA 1BF2..1BF3 200C 302E..302F A953 A9C0 111C0",
  "11235 1133E 1134D 11357 113B8 113C2 113C5 113C7..113C9 113CF 114B0 114BD 115AF 116B6",
  "11930 1193D 11F41 16FF0..16FF1 1D165..1D166 1D16D..1D172 E0020..E007F"]

/-- Letters that are written as nothing at all. -/
def fillerRuns : List Run := runs ["115F..1160 3164 FFA0"]

/-- The hexadecimal digits of a number, in lower case and without padding. -/
def hexDigits (n : Nat) : List Char := Nat.toDigits 16 n

def isVisible (c : Char) : Bool :=
  if 0x20 ≤ c.toNat ∧ c.toNat < 0x7F then true
  else match Category.ofChar c with
    | .control | .format | .surrogate | .privateUse | .unassigned => false
    | .spaceSeparator | .lineSeparator | .paragraphSeparator => false
    | .nonspacingMark | .enclosingMark => false
    | _ => !inRuns joiningRuns c.toNat && !inRuns fillerRuns c.toNat

def quoteChar (c : Char) : List Char :=
  match c with
  | '"' => ['\\', '"']
  | '\\' => ['\\', '\\']
  | '\n' => ['\\', 'n']
  | '\t' => ['\\', 't']
  | '\r' => ['\\', 'r']
  | '\x00' => ['\\', '0']
  | c => if isVisible c then [c] else ['\\', 'u', '\x7b'] ++ hexDigits c.toNat ++ ['\x7d']

def quote (s : String) : String :=
  String.ofList ('"' :: s.toList.flatMap quoteChar ++ ['"'])

def quoteList (names : List String) : String :=
  "[" ++ ", ".intercalate (names.map quote) ++ "]"

example : quoteList ["a b", "\"\n"] = "[\"a b\", \"\\\"\\n\"]" := by decide +kernel

end Provisioning.Text
