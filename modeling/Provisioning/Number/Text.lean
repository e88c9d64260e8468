import Provisioning.Number.Shortest

/-!
Numbers written as text, and read from it.

A `RealStyle` holds the decisions of one way to write floating-point numbers. Stored decimals never
use an exponent and write whole numbers without a fraction; documents use an exponent for very
small and very large numbers and mark every such number as fractional.

Reading refuses anything but the whole text of one number and names the first fault.
-/

namespace Provisioning

/-- How floating-point numbers are written. -/
structure RealStyle where
  /-- Which of two equally near decimals is written. -/
  tie : Tie
  /-- Whether a number whose first digit has the given power of ten is written without an
  exponent. -/
  positional : Int → Bool
  /-- What follows the digits of a whole number written without an exponent. -/
  wholeMark : List Char

namespace RealStyle

def stored : RealStyle := ⟨.up, fun _ => true, []⟩

def document : RealStyle := ⟨.even, fun e => -5 ≤ e && e < 16, ['.', '0']⟩

/-- Digits with the point in its place. -/
def positionalChars (style : RealStyle) (d : Decimal) : List Char :=
  if d.exponent < 0 then
    ['0', '.'] ++ List.replicate ((-d.exponent).toNat - 1) '0' ++ d.digits
  else
    let whole := d.exponent.toNat + 1
    if d.digits.length ≤ whole then
      d.digits ++ List.replicate (whole - d.digits.length) '0' ++ style.wholeMark
    else d.digits.take whole ++ ['.'] ++ d.digits.drop whole

/-- Digits with one of them before the point, and the exponent with its sign. -/
def scientificChars (d : Decimal) : List Char :=
  let tail := d.digits.drop 1
  d.digits.take 1 ++ (if tail = [] then [] else '.' :: tail) ++
    ['e', if d.exponent < 0 then '-' else '+'] ++ Nat.toDigits 10 d.exponent.natAbs

/-- The characters of a number in a style. -/
def chars (style : RealStyle) (x : Binary64) : List Char :=
  let d := Binary64.shortest style.tie x.rank
  (if x.negative then ['-'] else []) ++
    if style.positional d.exponent then style.positionalChars d else scientificChars d

def render (style : RealStyle) (x : Binary64) : String := String.ofList (style.chars x)

end RealStyle

example : (Binary64.ofDecimal? false 1 16).map RealStyle.stored.render =
    some "10000000000000000" := by
  decide +kernel

example : (Binary64.ofDecimal? false 1 16).map RealStyle.document.render = some "1e+16" := by
  decide +kernel

example : (Binary64.ofDecimal? true 15 (-8)).map RealStyle.document.render = some "-1.5e-7" := by
  decide +kernel

example : RealStyle.stored.render ⟨true, 0, by decide⟩ = "-0" := by decide +kernel

example : RealStyle.document.render ⟨true, 0, by decide⟩ = "-0.0" := by decide +kernel

/-- Why a text is no whole number in the range. -/
inductive IntFault where
  | empty
  | invalidDigit
  | tooLarge
  | tooSmall
  deriving DecidableEq, Repr

/-- The value of a decimal digit. -/
def digit? (c : Char) : Option Nat :=
  if '0' ≤ c ∧ c ≤ '9' then some (c.toNat - 48) else none

/-- The whole numbers that fit into 64 bits with a sign. -/
def Int64Range (n : Int) : Prop := -0x8000000000000000 ≤ n ∧ n < 0x8000000000000000

instance (n : Int) : Decidable (Int64Range n) := inferInstanceAs (Decidable (_ ∧ _))

/-- Reads digits after the number read so far. The first character that is no digit, or that takes
the number beyond the limit, is the fault. -/
def readMagnitude (limit : Nat) (beyond : IntFault) (soFar : Nat) (within : soFar ≤ limit) :
    List Char → Except IntFault { n : Nat // n ≤ limit }
  | [] => .ok ⟨soFar, within⟩
  | c :: rest =>
    match digit? c with
    | none => .error .invalidDigit
    | some d =>
      if h : soFar * 10 + d ≤ limit then readMagnitude limit beyond (soFar * 10 + d) h rest
      else .error beyond

theorem int64Range_ofNat {n : Nat} (h : n ≤ 0x7FFFFFFFFFFFFFFF) : Int64Range n := by
  constructor <;> omega

theorem int64Range_neg {n : Nat} (h : n ≤ 0x8000000000000000) : Int64Range (-n) := by
  constructor <;> omega

def readUnsigned (ds : List Char) : Except IntFault { n : Int // Int64Range n } :=
  (readMagnitude 0x7FFFFFFFFFFFFFFF .tooLarge 0 (Nat.zero_le _) ds).map fun n =>
    ⟨n.1, int64Range_ofNat n.2⟩

/-- Reads digits as the negative of a number that fits. -/
def readNegative (ds : List Char) : Except IntFault { n : Int // Int64Range n } :=
  (readMagnitude 0x8000000000000000 .tooSmall 0 (Nat.zero_le _) ds).map fun n =>
    ⟨-n.1, int64Range_neg n.2⟩

/-- Reads a whole number that fits into 64 bits: an optional sign and decimal digits. -/
def readInt64 (s : String) : Except IntFault { n : Int // Int64Range n } :=
  match s.toList with
  | [] => .error .empty
  | ['+'] | ['-'] => .error .invalidDigit
  | '+' :: ds => readUnsigned ds
  | '-' :: ds => readNegative ds
  | ds => readUnsigned ds

/-- Why a text is no finite number. -/
inductive RealFault where
  | empty
  | malformed
  | notFinite
  deriving DecidableEq, Repr

/-- The number that decimal digits denote. -/
def digitsValue (ds : List Char) : Nat :=
  ds.foldl (fun n c => n * 10 + (digit? c).getD 0) 0

def isDigit (c : Char) : Bool := (digit? c).isSome

/-- The value of an exponent with an optional sign. -/
def readExponent? : List Char → Option Int
  | '+' :: ds => if ds ≠ [] ∧ ds.all isDigit then some (digitsValue ds) else none
  | '-' :: ds => if ds ≠ [] ∧ ds.all isDigit then some (-(digitsValue ds : Int)) else none
  | ds => if ds ≠ [] ∧ ds.all isDigit then some (digitsValue ds) else none

/-- Reads digits with an optional point and exponent as a coefficient and a power of ten. At least
one digit must stand beside the point. -/
def readDecimal? (cs : List Char) : Option (Nat × Int) :=
  let whole := cs.takeWhile isDigit
  let rest := cs.dropWhile isDigit
  let (fraction, rest) := match rest with
    | '.' :: more => (more.takeWhile isDigit, more.dropWhile isDigit)
    | _ => ([], rest)
  if whole = [] ∧ fraction = [] then none
  else
    let coefficient := digitsValue (whole ++ fraction)
    match rest with
    | [] => some (coefficient, -(fraction.length : Int))
    | c :: more =>
      if c = 'e' ∨ c = 'E' then
        (readExponent? more).map fun e => (coefficient, e - fraction.length)
      else none

/-- Whether a text spells infinity or the absence of a number. -/
def namesNonFinite (cs : List Char) : Bool :=
  let word := cs.map Char.toLower
  word == "inf".toList || word == "infinity".toList || word == "nan".toList

def readReal (s : String) : Except RealFault Binary64 :=
  let unsigned := fun (negative : Bool) (cs : List Char) =>
    if namesNonFinite cs then Except.error RealFault.notFinite
    else match readDecimal? cs with
      | none => .error .malformed
      | some (coefficient, exponent) =>
        match Binary64.ofDecimal? negative coefficient exponent with
        | some x => .ok x
        | none => .error .notFinite
  match s.toList with
  | [] => .error .empty
  | '+' :: cs => unsigned false cs
  | '-' :: cs => unsigned true cs
  | cs => unsigned false cs

end Provisioning
