import Provisioning.Pattern.Expression

/-!
Normal forms of regular expressions.

Rows and choices are flat, neighbouring characters are one literal, alternatives of single
characters are a set, and what all alternatives begin with stands in front of them. An automaton is
built from the normal form, so the form decides how large it gets.
-/

namespace Provisioning.Pattern

/-- A regular expression in normal form. -/
inductive Form where
  | empty
  /-- At least one character. -/
  | literal (cs : List Char)
  /-- A set of no character or of several. -/
  | set (s : CharSet)
  | anchor (a : Anchor)
  | repeated (f : Form) (least : Nat) (most : Option Nat) (lazy : Bool)
  /-- A group with a number. -/
  | group (number : Nat) (f : Form)
  | row (fs : List Form)
  | choice (fs : List Form)

namespace Form

mutual

def same : Form → Form → Bool
  | empty, empty => true
  | literal cs, literal ds => cs == ds
  | set s, set t => s == t
  | anchor a, anchor b => a == b
  | repeated f least most lazy, repeated g least' most' lazy' =>
    f.same g && least == least' && most == most' && lazy == lazy'
  | group m f, group n g => m == n && f.same g
  | row fs, row gs => sameAll fs gs
  | choice fs, choice gs => sameAll fs gs
  | _, _ => false

def sameAll : List Form → List Form → Bool
  | [], [] => true
  | f :: fs, g :: gs => f.same g && sameAll fs gs
  | _, _ => false

end

mutual

def size : Form → Nat
  | repeated f _ _ _ => f.size + 1
  | group _ f => f.size + 1
  | row fs => sizeOfAll fs + 1
  | choice fs => sizeOfAll fs + 1
  | _ => 1

def sizeOfAll : List Form → Nat
  | [] => 0
  | f :: fs => f.size + sizeOfAll fs

end

/-! ### Lengths of what is matched -/

def byteCount (cs : List Char) : Nat := cs.foldl (fun n c => n + c.utf8Size) 0

mutual

/-- The least number of bytes that can be matched; none if a part matches nothing at all. -/
def least? : Form → Option Nat
  | empty => some 0
  | literal cs => some (byteCount cs)
  | set s => s.intervals.head?.map fun i => (Char.ofNat i.first).utf8Size
  | anchor _ => some 0
  | repeated f least _ _ => f.least?.map (· * least)
  | group _ f => f.least?
  | row fs => leastInRow? fs
  | choice fs => leastOfChoice? fs

def leastInRow? : List Form → Option Nat
  | [] => some 0
  | f :: fs => f.least?.bind fun m => (leastInRow? fs).map (m + ·)

def leastOfChoice? : List Form → Option Nat
  | [] => none
  | [f] => f.least?
  | f :: fs => f.least?.bind fun m => (leastOfChoice? fs).map (min m)

end

mutual

/-- Whether nothing but the empty text can be matched. -/
def isBlank : Form → Bool
  | empty => true
  | literal cs => cs.isEmpty
  | set _ => false
  | anchor _ => true
  | repeated f _ most _ => most.isSome && (f.isBlank || most == some 0)
  | group _ f => f.isBlank
  | row fs => areBlank fs
  | choice fs => !fs.isEmpty && areBlank fs

def areBlank : List Form → Bool
  | [] => true
  | f :: fs => f.isBlank && areBlank fs

end

mutual

/-- Whether every match begins where an anchor holds, because the anchor stands in front. -/
def beginsWith (a : Anchor) : Form → Bool
  | anchor b => a == b
  | repeated f least _ _ => least != 0 && f.beginsWith a
  | group _ f => f.beginsWith a
  | row fs => rowBeginsWith a fs
  | choice fs => !fs.isEmpty && allBeginWith a fs
  | _ => false

def rowBeginsWith (a : Anchor) : List Form → Bool
  | [] => false
  | f :: fs => f.beginsWith a || (f.isBlank && rowBeginsWith a fs)

def allBeginWith (a : Anchor) : List Form → Bool
  | [] => true
  | f :: fs => f.beginsWith a && allBeginWith a fs

end

mutual

/-- Whether every match ends where an anchor holds, because the anchor stands at the end. -/
def endsWith (a : Anchor) : Form → Bool
  | anchor b => a == b
  | repeated f least _ _ => least != 0 && f.endsWith a
  | group _ f => f.endsWith a
  | row fs => rowEndsWith a fs
  | choice fs => !fs.isEmpty && allEndWith a fs
  | _ => false

def rowEndsWith (a : Anchor) : List Form → Bool
  | [] => false
  | f :: fs => rowEndsWith a fs || (areBlank fs && f.endsWith a)

def allEndWith (a : Anchor) : List Form → Bool
  | [] => true
  | f :: fs => f.endsWith a && allEndWith a fs

end

/-! ### Normal forms of parts put together -/

/-- A set. One of a single character is a literal. -/
def ofSet (s : CharSet) : Form :=
  match s.only? with
  | some n => literal [Char.ofNat n]
  | none => set s

/-- A repetition. What matches only the empty text need not be repeated more than once. -/
def ofRepeated (f : Form) (least : Nat) (most : Option Nat) (lazy : Bool) : Form :=
  let (least, most) :=
    if f.isBlank then (min least 1, some (min (most.getD 1) 1)) else (least, most)
  if least = 0 ∧ most = some 0 then empty
  else if least = 1 ∧ most = some 1 then f
  else repeated f least most lazy

/-- The elements of a row in a row. -/
def elements : Form → List Form
  | empty => []
  | row fs => fs
  | f => [f]

def joinLiterals : List Form → List Form
  | [] => []
  | f :: fs =>
    match f, joinLiterals fs with
    | literal cs, literal ds :: rest => literal (cs ++ ds) :: rest
    | f, fs => f :: fs

def ofRow (fs : List Form) : Form :=
  match joinLiterals (fs.flatMap elements) with
  | [] => empty
  | [f] => f
  | fs => row fs

/-- The branches of a choice among other branches. -/
def branches : Form → List Form
  | choice fs => fs
  | f => [f]

def character? : Form → Option Char
  | literal [c] => some c
  | _ => none

def members? : Form → Option CharSet
  | set s => some s
  | _ => none

/-- How many elements two rows have in common at the start. -/
def commonLength : List Form → List Form → Nat
  | f :: fs, g :: gs => if f.same g then commonLength fs gs + 1 else 0
  | _, _ => 0

def rowOf? : Form → Option (List Form)
  | row fs => some fs
  | _ => none

/-- Alternatives. Each round with what follows a common beginning works on less, so the first
argument bounds them. -/
def ofBranches : Nat → List Form → Form
  | 0, fs => choice fs
  | fuel + 1, fs =>
    match fs.flatMap branches with
    | [] => set .none
    | [f] => f
    | f :: fs =>
      match (f :: fs).mapM character?, (f :: fs).mapM members?, (f :: fs).mapM rowOf? with
      | some cs, _, _ => ofSet (.unions (cs.map .single))
      | _, some sets, _ => ofSet (.unions sets)
      | _, _, some (r :: rs) =>
        let n := rs.foldl (fun n r' => min n (commonLength r r')) r.length
        if n = 0 then choice (f :: fs)
        else ofRow (r.take n ++ [ofBranches fuel ((r :: rs).map fun r => ofRow (r.drop n))])
      | _, _, _ => choice (f :: fs)

def ofChoice (fs : List Form) : Form := ofBranches (sizeOfAll fs + 1) fs

end Form

namespace Expression

mutual

def form : Expression → Form
  | empty => .empty
  | directive => .empty
  | set s _ => .ofSet s
  | anchor a => .anchor a
  | repeated e least more lazy => .ofRepeated e.form least (more.map (least + ·)) lazy
  | group none e => e.form
  | group (some number) e => .group number e.form
  | row es => .ofRow (formOfAll es)
  | choice es => .ofChoice (formOfAll es)

def formOfAll : List Expression → List Form
  | [] => []
  | e :: es => e.form :: formOfAll es

end

end Expression

end Provisioning.Pattern
