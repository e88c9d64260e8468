import Provisioning.Proofs.Number.Scaled
import Provisioning.Proofs.Stored.Numerals

/-!
Floating-point numbers in documents that are written and read back.

What is written for a number denotes a decimal to which the number is the nearest one, but numerals
are read in a few rounded steps. For a numeral of few digits these find the nearest number, so a
number that is written with few digits is read back (`Json.readsBack_of_short`). Of the others some
are, and some are read as a neighbour.
-/

namespace Provisioning.Json

/-- The digits of a numeral make a whole number of 53 bits, and their last one is at most 22 places
from the point. Fifteen digits always do. -/
structure Numeral.Short (n : Numeral) : Prop where
  coefficient_lt : n.coefficient < 0x20000000000000
  scale_le : n.scale.natAbs ≤ 22

variable {n : Numeral} {x : Binary64}

/-- The number that is read for a short numeral is the nearest one. -/
lemma real?_of_short (h : n.Short) : n.real? = n.nearest?.map .real :=
  congrArg (Option.map Number.real)
    (Binary64.ofDigits?_eq_ofDecimal? n.negative h.coefficient_lt h.scale_le)

/-- **A floating-point number is read back if its numeral is short.** -/
theorem readsBack_of_short (h : (Number.real x).numeral.Short) : (Number.real x).ReadsBack := by
  obtain ⟨hnearest, hmarked⟩ := nearest?_numeral x
  rw [readsBack_iff]
  unfold Numeral.value?
  rw [if_pos hmarked, real?_of_short h, hnearest]
  rfl

end Provisioning.Json
