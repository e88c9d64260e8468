import Provisioning.Text.CodePoints

/-!
White space.

`isBlank` is the White_Space property; `trim` removes it from both ends of a text. The zero-width
space and the byte order mark do not have the property.
-/

namespace Provisioning.Text

def isBlank (c : Char) : Bool :=
  let n := c.toNat
  (9 ≤ n && n ≤ 13) || n == 0x20 || n == 0x85 || n == 0xA0 || n == 0x1680 ||
    (0x2000 ≤ n && n ≤ 0x200A) || n == 0x2028 || n == 0x2029 || n == 0x202F || n == 0x205F ||
    n == 0x3000

def skipBlanks (cs : List Char) : List Char := cs.dropWhile isBlank

/-- A text without the white space at its ends. -/
def trim (s : String) : String :=
  String.ofList (skipBlanks (skipBlanks s.toList).reverse).reverse

def isBlankText (s : String) : Bool := s.toList.all isBlank

end Provisioning.Text
