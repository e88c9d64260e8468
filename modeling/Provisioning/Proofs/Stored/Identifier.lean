import Provisioning.Proofs.Stored.Digits
import Provisioning.Uuid

/-!
Identifiers that are written and read back.

An identifier is written as five groups of hexadecimal digits. Of all the forms that are read only
the one with groups fits that text, and the digits of the groups denote the identifier
(`Uuid.ofText?_toText`).
-/

namespace Provisioning.Uuid

/-! ### Hexadecimal digits -/

lemma hexDigit?_hexDigit (n : Nat) : Text.hexDigit? (hexDigit n) = some (n % 16) :=
  hexDigit?_digitChar (Nat.mod_lt n (by decide))

@[simp] lemma length_hexDigitsOf (n count : Nat) : (hexDigitsOf n count).length = count := by
  induction count generalizing n with
  | zero => rfl
  | succ count ih => rw [hexDigitsOf, List.length_append, ih]; rfl

lemma mem_hexDigitsOf {n count : Nat} {c : Char} (h : c ∈ hexDigitsOf n count) :
    ∃ m, c = hexDigit m := by
  induction count generalizing n with
  | zero => cases h
  | succ count ih =>
    rcases List.mem_append.mp h with h | h
    · exact ih h
    · exact ⟨n, List.mem_singleton.mp h⟩

lemma readDigits?_append (soFar : Nat) (ds ds' : List Char) :
    readDigits? soFar (ds ++ ds') = (readDigits? soFar ds).bind (readDigits? · ds') := by
  induction ds generalizing soFar with
  | nil => rfl
  | cons c rest ih =>
    rw [List.cons_append, readDigits?, readDigits?]
    rcases Text.hexDigit? c with _ | d
    · rfl
    · exact ih _

/-- The digits of a number denote its low part, after what was read so far. -/
lemma readDigits?_hexDigitsOf (soFar n count : Nat) :
    readDigits? soFar (hexDigitsOf n count) = some (soFar * 16 ^ count + n % 16 ^ count) := by
  induction count generalizing n with
  | zero => simp [hexDigitsOf, readDigits?, Nat.mod_one]
  | succ count ih =>
    have hlast (m : Nat) : readDigits? m [hexDigit n] = some (m * 16 + n % 16) := by
      unfold readDigits?
      rw [hexDigit?_hexDigit]
      rfl
    rw [hexDigitsOf, readDigits?_append, ih, Option.bind_some, hlast, Nat.pow_succ',
      Nat.mod_mul (a := 16)]
    congr 1
    rw [← Nat.mul_assoc, Nat.mul_right_comm]
    omega

lemma ofDigits?_hexDigitsOf (u : Uuid) : ofDigits? (hexDigitsOf u.number 32) = some u := by
  have hmod : u.number % 16 ^ 32 = u.number := Nat.mod_eq_of_lt u.number_lt
  unfold ofDigits?
  rw [if_pos (length_hexDigitsOf _ _), readDigits?_hexDigitsOf, hmod, Nat.zero_mul, Nat.zero_add,
    Option.map_some]
  refine congrArg some ?_
  obtain ⟨n, hn⟩ := u
  simp only [ofNat, Nat.mod_eq_of_lt hn]

/-! ### Groups -/

/-- Digits in five groups. -/
def grouped (ds : List Char) : List Char :=
  ds.take 8 ++ ['-'] ++ (ds.drop 8).take 4 ++ ['-'] ++ (ds.drop 12).take 4 ++ ['-'] ++
    (ds.drop 16).take 4 ++ ['-'] ++ ds.drop 20

section Groups

variable {ds : List Char}

lemma length_grouped (h : ds.length = 32) : (grouped ds).length = 36 := by
  simp [grouped, h]

lemma groups_append (ds : List Char) :
    ds.take 8 ++ ((ds.drop 8).take 4 ++ ((ds.drop 12).take 4 ++ ((ds.drop 16).take 4 ++
      ds.drop 20))) = ds := by
  have hjoin (n : Nat) (rest : List Char) :
      ds.take n ++ ((ds.drop n).take 4 ++ rest) = ds.take (n + 4) ++ rest := by
    rw [List.take_add, List.append_assoc]
  rw [hjoin, hjoin, hjoin, List.take_append_drop]

/-- Groups are read by their digits. -/
lemma ofGroups?_grouped (h : ds.length = 32) : ofGroups? (grouped ds) = ofDigits? ds := by
  have hhyphens : (grouped ds)[8]? = some '-' ∧ (grouped ds)[13]? = some '-' ∧
      (grouped ds)[18]? = some '-' ∧ (grouped ds)[23]? = some '-' := by
    simp [grouped, h]
  have hdigits : (grouped ds).take 8 ++ ((grouped ds).drop 9).take 4 ++
      ((grouped ds).drop 14).take 4 ++ ((grouped ds).drop 19).take 4 ++ (grouped ds).drop 24 =
      ds := by
    refine Eq.trans ?_ (groups_append ds)
    simp [grouped, List.drop_append, List.drop_take, h]
  unfold ofGroups?
  rw [if_pos ⟨length_grouped h, hhyphens⟩, hdigits]

/-- What is written is in none of the other forms. -/
lemma ofChars?_grouped (h : ds.length = 32) (hds : ∀ c ∈ ds, ∃ m, c = hexDigit m) :
    ofChars? (grouped ds) = ofGroups? (grouped ds) := by
  obtain ⟨c, rest, hcons⟩ : ∃ c rest, ds = c :: rest :=
    List.exists_cons_of_ne_nil (List.ne_nil_of_length_pos (by omega))
  obtain ⟨m, hm⟩ := hds c (hcons ▸ List.mem_cons_self)
  have hfirst : ∃ rest', grouped ds = c :: rest' := by
    rw [hcons]
    exact ⟨_, rfl⟩
  obtain ⟨rest', hrest'⟩ := hfirst
  have hlen := length_grouped h
  rw [hrest'] at hlen ⊢
  have hletter : c ≠ '\x7b' ∧ c.toLower ≠ 'u' := by
    have hall : ∀ d < 16, Nat.digitChar d ≠ '\x7b' ∧ (Nat.digitChar d).toLower ≠ 'u' := by decide
    exact hm ▸ hall (m % 16) (Nat.mod_lt m (by decide))
  unfold ofChars?
  split
  next heq => exact absurd (List.cons.inj heq).1 hletter.1
  next =>
    have hurn : ¬((c :: rest').take 9).map Char.toLower =
        ['u', 'r', 'n', ':', 'u', 'u', 'i', 'd', ':'] := fun heq =>
      hletter.2 (List.cons.inj heq).1
    rw [if_neg (by omega), if_neg hurn]

end Groups

/-- Every identifier is read from its own text. -/
lemma ofText?_toText (u : Uuid) : ofText? u.toText = some u := by
  have hlen := length_hexDigitsOf u.number 32
  unfold ofText? toText
  rw [String.toList_ofList]
  change ofChars? (grouped (hexDigitsOf u.number 32)) = some u
  rw [ofChars?_grouped hlen fun c => mem_hexDigitsOf, ofGroups?_grouped hlen,
    ofDigits?_hexDigitsOf]

end Provisioning.Uuid
