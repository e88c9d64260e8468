import Provisioning.Uuid

/-!
Identifiers derived from names.

A named identifier is the SHA-1 digest of a namespace identifier followed by the name, cut to 128
bits and stamped with version 5 and the standard variant. The same name under the same namespace
always gives the same identifier.
-/

namespace Provisioning

/-! ### The digest -/

namespace Sha1

/-- The state of the digest: five words of 32 bits. -/
structure State where
  a : BitVec 32
  b : BitVec 32
  c : BitVec 32
  d : BitVec 32
  e : BitVec 32
  deriving DecidableEq

/-- The state before the first block. -/
def initial : State := ⟨0x67452301, 0xEFCDAB89, 0x98BADCFE, 0x10325476, 0xC3D2E1F0⟩

/-- The big-endian bytes of a number, `count` of them. -/
def bigEndian (n : Nat) : (count : Nat) → List (BitVec 8)
  | 0 => []
  | count + 1 => bigEndian (n / 256) count ++ [BitVec.ofNat 8 n]

/-- The message followed by a one bit, zeros and its length in bits, a whole number of blocks of
64 bytes. -/
def padded (message : List (BitVec 8)) : List (BitVec 8) :=
  let zeros := (119 - message.length % 64) % 64
  message ++ 0x80 :: List.replicate zeros 0 ++ bigEndian (message.length * 8) 8

/-- Bytes taken four at a time as big-endian words. -/
def toWords : List (BitVec 8) → List (BitVec 32)
  | w :: x :: y :: z :: rest => (w ++ x ++ y ++ z : BitVec 32) :: toWords rest
  | _ => []

/-- Words taken sixteen at a time; the first argument bounds the number of blocks. -/
def toBlocks : Nat → List (BitVec 32) → List (List (BitVec 32))
  | 0, _ => []
  | count + 1, ws => ws.take 16 :: toBlocks count (ws.drop 16)

/-- Extends the schedule, held newest first, by so many words. -/
def extend : Nat → List (BitVec 32) → List (BitVec 32)
  | 0, ws => ws
  | count + 1, ws =>
    let word := fun i => ws.getD i 0
    extend count ((word 2 ^^^ word 7 ^^^ word 13 ^^^ word 15).rotateLeft 1 :: ws)

/-- The mixing function and the constant of a round. -/
def mix (round : Nat) (s : State) : BitVec 32 :=
  if round < 20 then ((s.b &&& s.c) ||| (~~~s.b &&& s.d)) + 0x5A827999
  else if round < 40 then (s.b ^^^ s.c ^^^ s.d) + 0x6ED9EBA1
  else if round < 60 then ((s.b &&& s.c) ||| (s.b &&& s.d) ||| (s.c &&& s.d)) + 0x8F1BBCDC
  else (s.b ^^^ s.c ^^^ s.d) + 0xCA62C1D6

/-- Runs the rounds from the given one over the rest of the schedule. -/
def rounds (round : Nat) (s : State) : List (BitVec 32) → State
  | [] => s
  | w :: ws =>
    rounds (round + 1) ⟨s.a.rotateLeft 5 + mix round s + s.e + w, s.a, s.b.rotateLeft 30, s.c, s.d⟩
      ws

/-- The state after one more block. -/
def absorb (s : State) (block : List (BitVec 32)) : State :=
  let t := rounds 0 s (extend 64 block.reverse).reverse
  ⟨s.a + t.a, s.b + t.b, s.c + t.c, s.d + t.d, s.e + t.e⟩

def digest (message : List (BitVec 8)) : State :=
  let words := toWords (padded message)
  (toBlocks (words.length / 16) words).foldl absorb initial

end Sha1

namespace Uuid

/-- The first 128 bits of a digest with the version and the variant stamped over them. -/
def ofDigest (s : Sha1.State) : Uuid :=
  let version := (s.b &&& 0xFFFF0FFF) ||| 0x00005000
  let variant := (s.c &&& 0x3FFFFFFF) ||| 0x80000000
  ofNat (s.a ++ version ++ variant ++ s.d : BitVec 128).toNat

/-- The identifier of a name under a namespace. -/
def named (namespaceId : Uuid) (name : String) : Uuid :=
  ofDigest (Sha1.digest (Sha1.bigEndian namespaceId.number 16 ++
    name.toUTF8.toList.map fun b => BitVec.ofNat 8 b.toNat))

end Uuid

end Provisioning
