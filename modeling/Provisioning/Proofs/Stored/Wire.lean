import Mathlib.Tactic.SplitIfs
import Provisioning.Proofs.Stored.RoundTrip

/-!
Values that are handed to clients and come back.

Stored values are handed out in their wire form, and a client may hand them back. Two wire forms say
something else than the document they are of: null stands for no value, and a string stands for what
its text says. As the text of a string is longer than the string (`Json.length_of_ofText?`), no
string says itself. All other values are read from their wire form (`fromWire_toWire_iff`).
-/

namespace Provisioning

namespace Json

/-! ### Strings are shorter than their texts -/

namespace Lexer

/-- How many of the characters already passed belong to the string in progress, at least. -/
def Mode.held : Mode → Nat
  | .text t | .escape t | .unit t _ _ => t.read.length + 1
  | _ => 0

lemma Fragment.length_pushUnit (t : Fragment) (unit : Nat) :
    (t.pushUnit unit).read.length ≤ t.read.length + 1 := by
  unfold Fragment.pushUnit
  split
  · exact Nat.le_succ _
  · split
    · split
      · exact Nat.le_refl _
      · exact Nat.le_succ _
    · exact Nat.le_refl _

lemma length_finish {t : Fragment} {s : String} (h : t.finish = some s) :
    s.toList.length = t.read.length := by
  unfold Fragment.finish at h
  split at h
  next =>
    obtain rfl := Option.some.inj h
    simp
  next => cases h

lemma held_start {mode : Mode} {c : Char} {done : List Token} (h : start c = some (mode, done)) :
    mode.held ≤ 1 ∧ ∀ s, .string s ∉ done := by
  unfold start at h
  split at h
  case h_8 =>
    split_ifs at h
    all_goals
      cases h
      exact ⟨by simp [Mode.held], by simp⟩
  all_goals
    cases h
    exact ⟨by simp [Mode.held, Fragment.start], by simp⟩

/-- A word or a number is no string. -/
lemma string_ne_word {cs : List Char} {s : Option String} : word? cs ≠ some (.string s) := by
  unfold word?
  split_ifs <;> simp

lemma string_ne_numeral {cs : List Char} {s : Option String} : numeral? cs ≠ some (.string s) := by
  intro h
  obtain ⟨n, -, heq⟩ := Option.map_eq_some_iff.mp h
  cases heq

/-- A word or a number that ends with a character is followed by what starts on it. -/
lemma held_end {token? : Option Token} {mode : Mode} {c : Char} {done : List Token}
    (htoken : ∀ s, token? ≠ some (.string s))
    (h : (do
      let token ← token?
      let (mode, tokens) ← start c
      return (mode, token :: tokens)) = some (mode, done)) :
    mode.held ≤ 1 ∧ ∀ s, .string s ∉ done := by
  obtain ⟨token, htoken', h'⟩ := Option.bind_eq_some_iff.mp h
  obtain ⟨⟨mode', tokens⟩, hstart, h''⟩ := Option.bind_eq_some_iff.mp h'
  obtain ⟨rfl, rfl⟩ := Prod.mk.inj (Option.some.inj h'')
  obtain ⟨hheld, hdone⟩ := held_start hstart
  refine ⟨hheld, fun s hs => ?_⟩
  rcases List.mem_cons.mp hs with rfl | hs
  · exact htoken s htoken'
  · exact hdone s hs

/-- A character adds at most one to the string in progress, and completes only that one. -/
lemma held_step {mode mode' : Mode} {c : Char} {done : List Token}
    (h : step mode c = some (mode', done)) :
    mode'.held ≤ mode.held + 1 ∧
      ∀ s, .string (some s) ∈ done → s.toList.length + 2 ≤ mode.held + 1 := by
  have hnone : mode'.held ≤ 1 ∧ (∀ s, .string s ∉ done) → mode'.held ≤ mode.held + 1 ∧
      ∀ s, .string (some s) ∈ done → s.toList.length + 2 ≤ mode.held + 1 := fun h =>
    ⟨Nat.le_trans h.1 (Nat.le_add_left _ _), fun s hs => absurd hs (h.2 _)⟩
  have hquiet : mode'.held ≤ mode.held + 1 → done = [] → mode'.held ≤ mode.held + 1 ∧
      ∀ s, .string (some s) ∈ done → s.toList.length + 2 ≤ mode.held + 1 := fun h hdone =>
    ⟨h, fun s hs => by simp [hdone] at hs⟩
  cases mode with
  | between => exact hnone (held_start h)
  | word read =>
    dsimp only [step] at h
    split_ifs at h
    · cases h
      exact hquiet (Nat.zero_le _) rfl
    · exact hnone (held_end (fun s => string_ne_word) h)
  | numeral read =>
    dsimp only [step] at h
    split_ifs at h
    · cases h
      exact hquiet (Nat.zero_le _) rfl
    · exact hnone (held_end (fun s => string_ne_numeral) h)
  | text t =>
    dsimp only [step] at h
    split_ifs at h
    · cases h
      refine ⟨Nat.zero_le _, fun s hs => ?_⟩
      have hs' := Token.string.inj (List.mem_singleton.mp hs)
      rw [length_finish hs'.symm]
      exact Nat.le_refl _
    · cases h
      exact hquiet (Nat.le_succ _) rfl
    · cases h
      exact hquiet (Nat.le_refl _) rfl
  | escape t =>
    dsimp only [step] at h
    split_ifs at h
    · cases h
      exact hquiet (Nat.le_succ _) rfl
    · obtain ⟨d, -, h⟩ := Option.map_eq_some_iff.mp h
      cases h
      exact hquiet (Nat.le_refl _) rfl
  | unit t missing value =>
    obtain ⟨d, -, h⟩ := Option.map_eq_some_iff.mp h
    dsimp only at h
    split_ifs at h
    · cases h
      exact hquiet (Nat.succ_le_succ (t.length_pushUnit _)) rfl
    · cases h
      exact hquiet (Nat.le_succ _) rfl

lemma string_not_mem_finish {mode : Mode} {done : List Token} (h : finish mode = some done)
    (s : Option String) : .string s ∉ done := by
  cases mode with
  | between =>
    cases h
    exact List.not_mem_nil
  | word read =>
    obtain ⟨token, htoken, rfl⟩ := Option.map_eq_some_iff.mp h
    rw [List.mem_singleton]
    exact fun hs => string_ne_word (hs ▸ htoken)
  | numeral read =>
    obtain ⟨token, htoken, rfl⟩ := Option.map_eq_some_iff.mp h
    rw [List.mem_singleton]
    exact fun hs => string_ne_numeral (hs ▸ htoken)
  | _ => cases h

/-- A string is shorter than the characters of which it is read, by its quotes at least. -/
lemma length_le_of_mem_tokensFrom {mode : Mode} {cs : List Char} {tokens : List Token} {s : String}
    (h : tokensFrom mode cs = some tokens) (hs : .string (some s) ∈ tokens) :
    s.toList.length + 2 ≤ mode.held + cs.length := by
  induction cs generalizing mode tokens with
  | nil => exact absurd hs (string_not_mem_finish h _)
  | cons c rest ih =>
    obtain ⟨⟨mode', done⟩, hstep, h⟩ := Option.bind_eq_some_iff.mp h
    obtain ⟨more, hmore, h⟩ := Option.bind_eq_some_iff.mp h
    obtain rfl := Option.some.inj h
    obtain ⟨hheld, hdone⟩ := held_step hstep
    rw [List.length_cons]
    rcases List.mem_append.mp hs with hs | hs
    · have := hdone s hs
      omega
    · have := ih hmore hs
      omega

end Lexer

namespace Document

/-- Only a string token ends the reading with a string. -/
lemma string_of_step {state : State} {token : Token} {s : Option String}
    (h : step state token = some (.finished (.string s))) : token = .string s := by
  have hcomplete : ∀ {d frames}, complete d frames = .finished (.string s) → d = .string s := by
    intro d frames h
    cases frames with
    | nil => exact State.finished.inj h
    | cons frame frames => cases frame <;> cases h
  have hbegin : ∀ {frames}, begin frames token = some (.finished (.string s)) →
      token = .string s := by
    intro frames h
    cases token with
    | openArray | closeArray | openObject | closeObject | comma | colon => cases h
    | string s' => cases hcomplete (Option.some.inj h); rfl
    | null | bool | number => cases hcomplete (Option.some.inj h)
  unfold step at h
  split at h
  case h_1 => exact hbegin h
  case h_3 => exact hbegin h
  all_goals first
    | cases h
    | cases hcomplete (Option.some.inj h)

lemma string_mem_of_run {state : State} {tokens : List Token} {s : Option String}
    (h : run state tokens = some (.finished (.string s))) :
    state = .finished (.string s) ∨ .string s ∈ tokens := by
  induction tokens generalizing state with
  | nil => exact Or.inl (Option.some.inj h)
  | cons token rest ih =>
    obtain ⟨state', hstep, h⟩ := Option.bind_eq_some_iff.mp h
    rcases ih h with rfl | hs
    · exact Or.inr (string_of_step hstep ▸ List.mem_cons_self)
    · exact Or.inr (List.mem_cons_of_mem token hs)

/-- Only a string document has a string for its value. -/
lemma string_of_value? {room : Nat} {d : Document} {s : String}
    (h : value? room d = some (.string s)) : d = .string (some s) := by
  cases d with
  | null | bool b => cases h
  | number n =>
    obtain ⟨n, -, h⟩ := Option.map_eq_some_iff.mp h
    cases h
  | string s' =>
    obtain ⟨s', rfl, h⟩ := Option.map_eq_some_iff.mp h
    cases h
    rfl
  | array items =>
    cases room with
    | zero => cases h
    | succ room =>
      obtain ⟨js, -, h⟩ := Option.map_eq_some_iff.mp h
      cases h
  | object members =>
    cases room with
    | zero => cases h
    | succ room =>
      obtain ⟨ms, -, h⟩ := Option.map_eq_some_iff.mp h
      cases h

end Document

/-- A text that says a string is longer than the string. -/
theorem length_of_ofText? {s text : String} (h : ofText? text = some (.string s)) :
    s.toList.length + 2 ≤ text.toList.length := by
  obtain ⟨d, hd, hvalue⟩ := Option.bind_eq_some_iff.mp h
  rw [Document.string_of_value? hvalue] at hd
  unfold Document.ofText? Document.ofChars? at hd
  split at hd
  next d' hrun =>
    obtain rfl := Option.some.inj hd
    obtain ⟨tokens, htokens, hrun⟩ := Option.bind_eq_some_iff.mp hrun
    rcases Document.string_mem_of_run hrun with hstate | hmem
    · cases hstate
    · simpa [Lexer.Mode.held] using Lexer.length_le_of_mem_tokensFrom htokens hmem
  next => cases hd

/-- No text is the string that it says. -/
lemma ofText?_ne_string (s : String) : ofText? s ≠ some (.string s) := fun h =>
  absurd (length_of_ofText? h) (by omega)

end Json

/-! ### The wire form -/

namespace AttributeValue

variable {kind : AttributeKind} {v : AttributeValue}

/-- The wire form says what the value is. It does for everything but two sorts of documents. -/
def PlainOnWire : AttributeValue → Prop
  | document .null => False
  | document (.string _) => False
  | _ => True

lemma mapM_itemText (items : List String) : (items.map Json.string).mapM itemText = .ok items := by
  induction items with
  | nil => rfl
  | cons item rest ih =>
    rw [List.map_cons, List.mapM_cons, ih]
    rfl

/-- A wire form that says what the value is is read as the value. -/
lemma fromWire_toWire (hv : v.Regular) (hplain : v.PlainOnWire) :
    fromWire v.kind v.toWire = .ok v := by
  cases v with
  | text s => rfl
  | boolean b => rfl
  | integer n h => exact dif_pos h
  | decimal x => rfl
  | date d => exact decode_encode (v := .date d) nofun hv trivial
  | time t => exact decode_encode (v := .time t) nofun hv trivial
  | timestamp t => exact decode_encode (v := .timestamp t) nofun hv trivial
  | uuid u => exact decode_encode (v := .uuid u) nofun hv trivial
  | document j =>
    cases j with
    | null | string s => exact hplain.elim
    | _ => rfl
  | list items =>
    change ((items.map Json.string).mapM itemText).bind ofItems = .ok (.list items)
    rw [mapM_itemText]
    exact ofItems_of_nonempty hv

/-- **A stored value that is handed out is read as the same value** when it comes back, unless it is
a document that is null or a string, and then it never is. -/
theorem fromWire_toWire_iff {raw : String} (h : decode kind raw = .ok v) :
    fromWire kind v.toWire = .ok v ↔ v.PlainOnWire := by
  obtain ⟨rfl, hv⟩ := regular_of_decode h
  refine ⟨fun hback => ?_, fromWire_toWire hv⟩
  unfold PlainOnWire
  split
  next => cases hback
  next s =>
    refine Json.ofText?_ne_string s ?_
    obtain ⟨j, hj, hdocument⟩ := document_of_decode hback
    rwa [document.inj hdocument]
  next => trivial

/-- A document without floating-point numbers is read from its own text. -/
lemma decode_document {j : Json} {text : String} (h : j.Readable) (hreals : j.reals = [])
    (htext : j.render = text) : decode .document text = .ok (.document j) :=
  htext ▸ decode_encode (v := .document j) nofun h fun x hx => by simp [hreals] at hx

theorem fromWire_toWire_object :
    let v := document (.object [("k", .array [.null])])
    decode .document "\x7b\"k\":[null]\x7d" = .ok v ∧ fromWire .document v.toWire = .ok v := by
  have hdecode : decode .document "\x7b\"k\":[null]\x7d" =
      .ok (.document (.object [("k", .array [.null])])) :=
    decode_document
      ⟨by simp [Json.Ordered, Json.OrderedMembers, Json.OrderedItems, Entries.Ascending], by decide⟩
      rfl (by decide +kernel)
  exact ⟨hdecode, (fromWire_toWire_iff hdecode).mpr trivial⟩

/-- The document null is refused when it comes back, and a string becomes what it says. -/
theorem document_not_read_back :
    (decode .document "null" = .ok (.document .null) ∧
      fromWire .document (document .null).toWire = .error (.unexpectedShape .document "null")) ∧
    (decode .document "\"[]\"" = .ok (.document (.string "[]")) ∧
      fromWire .document (document (.string "[]")).toWire = .ok (.document (.array []))) := by
  have hempty : decode .document "[]" = .ok (.document (.array [])) :=
    decode_document ⟨trivial, by decide⟩ rfl (by decide +kernel)
  exact ⟨⟨decode_document ⟨trivial, by decide⟩ rfl (by decide +kernel), rfl⟩,
    decode_document ⟨trivial, by decide⟩ rfl (by decide +kernel), hempty⟩

end AttributeValue

end Provisioning
