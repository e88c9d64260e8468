import Provisioning.Json.Lexer
import Provisioning.Proofs.Stored.Numerals

/-!
The tokens of a value that was written as compact text.

A scan goes over the text of a value and completes the tokens of the value, whatever follows, as
long as it cannot be a part of a word or a number (`Json.yields_chars`). The tokens determine the
value (`Json.tokens_append_inj`), so no two values have one text (`Json.render_inj`). This says
nothing of the numbers that are read from numerals.
-/

namespace Provisioning.Json

open Lexer

/-! ### What is written -/

mutual

/-- The tokens of a value. -/
def tokens : Json → List Token
  | .null => [.null]
  | .bool b => [.bool b]
  | .number n => [.number n.numeral]
  | .string s => [.string (some s)]
  | .array [] => [.openArray, .closeArray]
  | .array (item :: items) => .openArray :: (tokens item ++ (itemsTokens items ++ [.closeArray]))
  | .object [] => [.openObject, .closeObject]
  | .object ((k, item) :: members) =>
    .openObject :: .string (some k) :: .colon ::
      (tokens item ++ (membersTokens members ++ [.closeObject]))

/-- The tokens of the items after the first. -/
def itemsTokens : List Json → List Token
  | [] => []
  | item :: items => .comma :: (tokens item ++ itemsTokens items)

/-- The tokens of the members after the first. -/
def membersTokens : List (String × Json) → List Token
  | [] => []
  | (k, item) :: members =>
    .comma :: .string (some k) :: .colon :: (tokens item ++ membersTokens members)

end

mutual

/-- The floating-point numbers in a value. -/
def reals : Json → List Binary64
  | .number (.real x) => [x]
  | .array items => realsOfItems items
  | .object members => realsOfMembers members
  | _ => []

/-- The floating-point numbers in items. -/
def realsOfItems : List Json → List Binary64
  | [] => []
  | item :: items => reals item ++ realsOfItems items

/-- The floating-point numbers in members. -/
def realsOfMembers : List (String × Json) → List Binary64
  | [] => []
  | (_, item) :: members => reals item ++ realsOfMembers members

end

/-! ### Scanning -/

/-- What follows is no part of a word or a number. -/
def Stops (rest : List Char) : Prop := ∀ c ∈ rest.head?, isNumeral c = false ∧ isWord c = false

/-- Between tokens, a scan goes over the characters and completes the tokens, whatever follows. -/
def Yields (cs : List Char) (done : List Token) : Prop :=
  ∀ rest, Stops rest →
    tokensFrom .between (cs ++ rest) = (tokensFrom .between rest).map (done ++ ·)

section Scan

variable {mode mode' : Mode} {c : Char} {cs cs' rest : List Char} {done done' : List Token}
  {token : Token}

lemma tokensFrom_of_step (h : step mode c = some (mode', done)) (rest : List Char) :
    tokensFrom mode (c :: rest) = (tokensFrom mode' rest).map (done ++ ·) := by
  rw [tokensFrom, h]
  change (tokensFrom mode' rest).bind (fun more => some (done ++ more)) = _
  cases tokensFrom mode' rest <;> rfl

/-- A character that completes no token. -/
lemma tokensFrom_of_quiet_step (h : step mode c = some (mode', [])) (rest : List Char) :
    tokensFrom mode (c :: rest) = tokensFrom mode' rest := by
  rw [tokensFrom_of_step h]
  cases tokensFrom mode' rest <;> rfl

lemma yields_nil : Yields [] [] := fun rest _ => by
  cases h : tokensFrom .between rest <;> simp [h]

/-- A mark is a token of its own, whatever follows. -/
lemma Yields.mark (h : Yields cs done) (hc : start c = some (.between, [token])) :
    Yields (c :: cs) (token :: done) := fun rest hrest => by
  have hstep : step .between c = some (.between, [token]) := hc
  rw [List.cons_append, tokensFrom_of_step hstep, h rest hrest, Option.map_map]
  rfl

lemma Yields.append (h : Yields cs done) (h' : Yields cs' done')
    (hstops : ∀ rest, Stops rest → Stops (cs' ++ rest)) : Yields (cs ++ cs') (done ++ done') :=
  fun rest hrest => by
    rw [List.append_assoc, h _ (hstops rest hrest), h' rest hrest, Option.map_map]
    congr 1
    funext ts
    exact (List.append_assoc done done' ts).symm

/-- A token that is waiting for its end is completed by what is no part of it. -/
lemma tokensFrom_waiting {token? : Option Token} (hend : finish mode = token?.map ([·]))
    (hstep : ∀ c ∈ rest.head?, step mode c = do
      let token ← token?
      let (mode, tokens) ← start c
      return (mode, token :: tokens)) :
    tokensFrom mode rest =
      token?.bind fun token => (tokensFrom .between rest).map (token :: ·) := by
  cases rest with
  | nil =>
    rw [tokensFrom, hend]
    cases token? <;> rfl
  | cons c rest =>
    rw [tokensFrom, hstep c rfl, tokensFrom, step]
    cases token? with
    | none => rfl
    | some token =>
      rcases start c with _ | ⟨mode', done⟩
      · rfl
      · cases h : tokensFrom mode' rest <;> simp [h]

/-! ### Words and numbers -/

section Gathered

variable {gather : List Char → Mode} {isPart : Char → Bool} {token? : List Char → Option Token}

lemma tokensFrom_gather
    (hstep : ∀ read c, isPart c → step (gather read) c = some (gather (c :: read), []))
    (h : ∀ c ∈ cs, isPart c) (read rest : List Char) :
    tokensFrom (gather read) (cs ++ rest) = tokensFrom (gather (cs.reverse ++ read)) rest := by
  induction cs generalizing read with
  | nil => rfl
  | cons c cs ih =>
    obtain ⟨hc, hcs⟩ := List.forall_mem_cons.mp h
    rw [List.cons_append, tokensFrom_of_quiet_step (hstep read c hc), ih hcs, List.reverse_cons,
      List.append_assoc]
    rfl

/-- Characters that were gathered are a token where they end. -/
lemma yields_gathered
    (hstep : ∀ read c, isPart c → step (gather read) c = some (gather (c :: read), []))
    (hend : ∀ read rest, Stops rest → tokensFrom (gather read) rest =
      (token? read.reverse).bind fun token => (tokensFrom .between rest).map (token :: ·))
    (hstart : start c = some (gather [c], [])) (hcs : ∀ d ∈ cs, isPart d)
    (htoken : token? (c :: cs) = some token) : Yields (c :: cs) [token] := fun rest hrest => by
  have hfirst : step .between c = some (gather [c], []) := hstart
  rw [List.cons_append, tokensFrom_of_quiet_step hfirst, tokensFrom_gather hstep hcs,
    hend _ rest hrest, List.reverse_append, List.reverse_reverse, List.reverse_singleton,
    List.singleton_append, htoken]
  rfl

end Gathered

/-- A word of letters is a token where it ends. -/
lemma yields_word (hstart : start c = some (.word [c], [])) (hcs : ∀ d ∈ cs, isWord d)
    (htoken : word? (c :: cs) = some token) : Yields (c :: cs) [token] := by
  have hstep : ∀ read d, isWord d → step (.word read) d = some (.word (d :: read), []) :=
    fun _ _ hd => if_pos hd
  refine yields_gathered hstep (fun read rest hrest => ?_) hstart hcs htoken
  exact tokensFrom_waiting rfl fun d hd =>
    if_neg (by rw [(hrest d hd).2]; exact Bool.false_ne_true)

/-- A number is a token where it ends. -/
lemma yields_numeral (hstart : start c = some (.numeral [c], [])) (hcs : ∀ d ∈ cs, isNumeral d)
    (htoken : numeral? (c :: cs) = some token) : Yields (c :: cs) [token] := by
  have hstep : ∀ read d, isNumeral d → step (.numeral read) d = some (.numeral (d :: read), []) :=
    fun _ _ hd => if_pos hd
  refine yields_gathered hstep (fun read rest hrest => ?_) hstart hcs htoken
  exact tokensFrom_waiting rfl fun d hd =>
    if_neg (by rw [(hrest d hd).1]; exact Bool.false_ne_true)

end Scan

/-! ### Numbers -/

section Numbers

lemma isNumeral_of_isDigit {c : Char} (h : isDigit c) : isNumeral c := by
  simp [isNumeral, h]

lemma start_of_isDigit {c : Char} (h : isDigit c) : start c = some (.numeral [c], []) := by
  obtain ⟨hl, hr⟩ := toNat_of_isDigit h
  have hgap : isGap c = false := by
    simp only [isGap, Bool.or_eq_false_iff, beq_eq_false_iff_ne]
    exact ⟨⟨⟨ne_of_isDigit h rfl, ne_of_isDigit h rfl⟩, ne_of_isDigit h rfl⟩, ne_of_isDigit h rfl⟩
  have hword : isWord c = false := by
    refine Bool.eq_false_iff.mpr fun hw => ?_
    have hle : 'a' ≤ c := of_decide_eq_true (Bool.and_eq_true_iff.mp hw).1
    have hle' : 97 ≤ c.toNat := hle
    omega
  unfold start
  split
  case h_8 => rw [if_neg (by rw [hgap]; exact Bool.false_ne_true),
    if_neg (by rw [hword]; exact Bool.false_ne_true), if_pos (isNumeral_of_isDigit h)]
  all_goals cases h

/-- A numeral begins with a sign or a digit. -/
lemma exists_of_ofChars? {cs : List Char} {n : Numeral} (h : Numeral.ofChars? cs = some n) :
    ∃ c rest, cs = c :: rest ∧ start c = some (.numeral [c], []) := by
  unfold Numeral.ofChars? at h
  split at h
  next => exact ⟨'-', _, rfl, rfl⟩
  next =>
    obtain ⟨c, rest, hcs, hc⟩ := Numeral.exists_of_unsigned? h
    exact ⟨c, rest, hcs, start_of_isDigit hc⟩

lemma mem_stripZeros {ds : List Char} {c : Char} (h : c ∈ Binary64.stripZeros ds) :
    c = '0' ∨ c ∈ ds := by
  unfold Binary64.stripZeros at h
  split at h
  next => exact Or.inl (List.mem_singleton.mp h)
  next =>
    have hrev := (List.dropWhile_sublist _).subset (List.mem_reverse.mp h)
    exact Or.inr (List.mem_reverse.mp hrev)

lemma allDigits_shortest (tie : Tie) (rank : Nat) :
    AllDigits (Binary64.shortest tie rank).digits := by
  unfold Binary64.shortest
  split
  next => exact allDigits_replicate 1
  next =>
    intro c hc
    rcases mem_stripZeros hc with rfl | hc
    · rfl
    · exact allDigits_toDigits _ c hc

lemma isNumeral_positionalChars {d : Decimal} (h : AllDigits d.digits) :
    ∀ c ∈ RealStyle.document.positionalChars d, isNumeral c := by
  have hds : ∀ c ∈ d.digits, isNumeral c := fun c hc => isNumeral_of_isDigit (h c hc)
  have hzeros (n : Nat) : ∀ c ∈ List.replicate n '0', isNumeral c := fun c hc =>
    isNumeral_of_isDigit (allDigits_replicate n c hc)
  intro c hc
  unfold RealStyle.positionalChars at hc
  split at hc
  next =>
    rcases List.mem_append.mp hc with hc | hc
    · rcases List.mem_append.mp hc with hc | hc
      · have hpoint : ∀ c ∈ ['0', '.'], isNumeral c := List.all_eq_true.mp rfl
        exact hpoint c hc
      · exact hzeros _ c hc
    · exact hds c hc
  next =>
    dsimp only at hc
    split at hc
    next =>
      rcases List.mem_append.mp hc with hc | hc
      · rcases List.mem_append.mp hc with hc | hc
        · exact hds c hc
        · exact hzeros _ c hc
      · have hmark : ∀ c ∈ RealStyle.document.wholeMark, isNumeral c :=
          List.all_eq_true.mp rfl
        exact hmark c hc
    next =>
      rcases List.mem_append.mp hc with hc | hc
      · rcases List.mem_append.mp hc with hc | hc
        · exact hds c (List.mem_of_mem_take hc)
        · have hpoint : ∀ c ∈ ['.'], isNumeral c := List.all_eq_true.mp rfl
          exact hpoint c hc
      · exact hds c (List.mem_of_mem_drop hc)

lemma isNumeral_scientificChars {d : Decimal} (h : AllDigits d.digits) :
    ∀ c ∈ RealStyle.scientificChars d, isNumeral c := by
  have hds : ∀ c ∈ d.digits, isNumeral c := fun c hc => isNumeral_of_isDigit (h c hc)
  intro c hc
  unfold RealStyle.scientificChars at hc
  rcases List.mem_append.mp hc with hc | hc
  · rcases List.mem_append.mp hc with hc | hc
    · rcases List.mem_append.mp hc with hc | hc
      · exact hds c (List.mem_of_mem_take hc)
      · split at hc
        next => cases hc
        next =>
          rcases List.mem_cons.mp hc with rfl | hc
          · rfl
          · exact hds c (List.mem_of_mem_drop hc)
    · have hsign : ∀ s : Char, s = '-' ∨ s = '+' → ∀ c ∈ ['e', s], isNumeral c := by
        rintro s (rfl | rfl) <;> exact List.all_eq_true.mp rfl
      exact hsign _ (by split <;> simp) c hc
  · exact isNumeral_of_isDigit (allDigits_toDigits _ c hc)

/-- Every character of a number can belong to a number. -/
lemma isNumeral_chars (n : Number) : ∀ c ∈ n.chars, isNumeral c := by
  have hsign (p : Prop) [Decidable p] : ∀ c ∈ (if p then ['-'] else []), isNumeral c := by
    split <;> exact List.all_eq_true.mp rfl
  intro c hc
  cases n with
  | whole n h =>
    rcases List.mem_append.mp hc with hc | hc
    · exact hsign _ c hc
    · exact isNumeral_of_isDigit (allDigits_toDigits _ c hc)
  | real x =>
    rcases List.mem_append.mp hc with hc | hc
    · exact hsign _ c hc
    · have hds := allDigits_shortest RealStyle.document.tie x.rank
      split at hc
      · exact isNumeral_positionalChars hds c hc
      · exact isNumeral_scientificChars hds c hc

lemma yields_number (n : Number) : Yields n.chars [.number n.numeral] := by
  have hread := ofChars?_chars n
  have hall := isNumeral_chars n
  obtain ⟨c, rest, hcs, hstart⟩ := exists_of_ofChars? hread
  have htoken : numeral? n.chars = some (.number n.numeral) := by
    unfold numeral?
    rw [hread]
    rfl
  rw [hcs] at htoken hall ⊢
  exact yields_numeral hstart (fun d hd => hall d (List.mem_cons_of_mem c hd)) htoken

end Numbers

/-! ### Strings -/

section Strings

variable {t : Fragment} {c : Char} {rest : List Char}

lemma step_text (t : Fragment) (c : Char) :
    step (.text t) c =
      if c = '"' then some (.between, [.string t.finish])
      else if c = '\\' then some (.escape t, [])
      else if c.toNat < 0x20 then none
      else some (.text (t.push c), []) := rfl

lemma step_backslash (t : Fragment) : step (.text t) '\\' = some (.escape t, []) := rfl

lemma step_escape (t : Fragment) (c : Char) :
    step (.escape t) c =
      if c = 'u' then some (.unit t 4 0, [])
      else (shortEscape? c).map fun d => (.text (t.push d), []) := rfl

lemma step_unit (t : Fragment) (missing value : Nat) (c : Char) :
    step (.unit t missing value) c = (Text.hexDigit? c).map fun d =>
      if missing ≤ 1 then (.text (t.pushUnit (value * 16 + d)), [])
      else (.unit t (missing - 1) (value * 16 + d), []) := rfl

/-- A short escape stands for its character. -/
lemma tokensFrom_shortEscape {d : Char} (h : shortEscape? d = some c) (hd : d ≠ 'u') :
    tokensFrom (.text t) ('\\' :: d :: rest) = tokensFrom (.text (t.push c)) rest := by
  have hescape : step (.escape t) d = some (.text (t.push c), []) := by
    rw [step_escape, if_neg hd, h]
    rfl
  rw [tokensFrom_of_quiet_step (step_backslash t), tokensFrom_of_quiet_step hescape]

/-- The digits of a character below the blank stand for the character. -/
lemma tokensFrom_unit (h : c.toNat < 0x20) :
    tokensFrom (.text t) ('\\' :: 'u' :: '0' :: '0' :: Nat.digitChar (c.toNat / 16) ::
      Nat.digitChar (c.toNat % 16) :: rest) = tokensFrom (.text (t.push c)) rest := by
  have hvalue : (0 * 16 + c.toNat / 16) * 16 + c.toNat % 16 = c.toNat := by omega
  have hunit : t.pushUnit c.toNat = t.push c := by
    unfold Fragment.pushUnit
    rw [if_neg (by omega), if_neg (by omega), Char.ofNat_toNat]
  have hhigh : step (.unit t 2 0) (Nat.digitChar (c.toNat / 16)) =
      some (.unit t 1 (0 * 16 + c.toNat / 16), []) := by
    rw [step_unit, hexDigit?_digitChar (by omega)]
    rfl
  have hlow : step (.unit t 1 (0 * 16 + c.toNat / 16)) (Nat.digitChar (c.toNat % 16)) =
      some (.text (t.push c), []) := by
    rw [step_unit, hexDigit?_digitChar (Nat.mod_lt _ (by decide)), Option.map_some,
      if_pos (Nat.le_refl 1), hvalue, hunit]
  have hopen : step (.escape t) 'u' = some (.unit t 4 0, []) := rfl
  have hfirst : step (.unit t 4 0) '0' = some (.unit t 3 0, []) := rfl
  have hsecond : step (.unit t 3 0) '0' = some (.unit t 2 0, []) := rfl
  rw [tokensFrom_of_quiet_step (step_backslash t), tokensFrom_of_quiet_step hopen,
    tokensFrom_of_quiet_step hfirst, tokensFrom_of_quiet_step hsecond,
    tokensFrom_of_quiet_step hhigh, tokensFrom_of_quiet_step hlow]

/-- What is written for a character is read as the character. -/
lemma tokensFrom_escapeChar (t : Fragment) (c : Char) (rest : List Char) :
    tokensFrom (.text t) (escapeChar c ++ rest) = tokensFrom (.text (t.push c)) rest := by
  unfold escapeChar
  split
  case h_8 hquote hbackslash _ _ _ _ _ =>
    split
    next hcontrol => exact tokensFrom_unit hcontrol
    next hprint =>
      have hstep : step (.text t) c = some (.text (t.push c), []) := by
        rw [step_text, if_neg hquote, if_neg hbackslash, if_neg hprint]
      exact tokensFrom_of_quiet_step hstep rest
  all_goals exact tokensFrom_shortEscape rfl (by decide)

lemma tokensFrom_flatMap (t : Fragment) (cs rest : List Char) :
    tokensFrom (.text t) (cs.flatMap escapeChar ++ rest) =
      tokensFrom (.text (cs.foldl Fragment.push t)) rest := by
  induction cs generalizing t with
  | nil => rfl
  | cons c cs ih =>
    rw [List.flatMap_cons, List.append_assoc, tokensFrom_escapeChar, ih, List.foldl_cons]

lemma foldl_push (cs read : List Char) (whole : Bool) :
    cs.foldl Fragment.push ⟨read, none, whole⟩ = ⟨cs.reverse ++ read, none, whole⟩ := by
  induction cs generalizing read with
  | nil => rfl
  | cons c cs ih =>
    have hpush : Fragment.push ⟨read, none, whole⟩ c = ⟨c :: read, none, whole⟩ := by
      simp [Fragment.push]
    rw [List.foldl_cons, hpush, ih, List.reverse_cons, List.append_assoc]
    rfl

lemma yields_string (s : String) : Yields (stringChars s) [.string (some s)] := fun rest _ => by
  have hfinish : (s.toList.foldl Fragment.push .start).finish = some s := by
    rw [Fragment.start, foldl_push]
    simp [Fragment.finish]
  have hopen : step .between '"' = some (.text .start, []) := rfl
  have hclose (t : Fragment) : step (.text t) '"' = some (.between, [.string t.finish]) := rfl
  unfold stringChars
  rw [List.cons_append, List.cons_append, tokensFrom_of_quiet_step hopen, List.append_assoc,
    tokensFrom_flatMap, List.singleton_append, tokensFrom_of_step (hclose _), hfinish]

end Strings

/-! ### Values -/

lemma stops_cons {c : Char} (h : isNumeral c = false ∧ isWord c = false) (rest : List Char) :
    Stops (c :: rest) := by
  rintro d ⟨⟩
  exact h

lemma stops_itemsChars (items : List Json) {rest : List Char} (h : Stops rest) :
    Stops (itemsChars items ++ rest) := by
  cases items with
  | nil => exact h
  | cons item items => exact stops_cons (by decide) _

lemma stops_membersChars (members : List (String × Json)) {rest : List Char} (h : Stops rest) :
    Stops (membersChars members ++ rest) := by
  cases members with
  | nil => exact h
  | cons m members => exact stops_cons (by decide) _

/-- Parts between two marks. -/
lemma Yields.enclose {first rest : List Char} {firstTokens restTokens : List Token} {c d : Char}
    {left right : Token} (h : Yields first firstTokens) (h' : Yields rest restTokens)
    (hstops : ∀ more, Stops more → Stops (rest ++ more)) (hc : start c = some (.between, [left]))
    (hd : start d = some (.between, [right])) (hmark : isNumeral d = false ∧ isWord d = false) :
    Yields (c :: first ++ rest ++ [d]) (left :: (firstTokens ++ (restTokens ++ [right]))) := by
  have hclose : Yields [d] [right] := yields_nil.mark hd
  have hrest := h'.append hclose fun _ _ => stops_cons hmark _
  have hall := h.append hrest fun more _ => by
    rw [List.append_assoc]
    exact hstops _ (stops_cons hmark _)
  rw [List.cons_append, List.cons_append, List.append_assoc]
  exact hall.mark hc

/-- A name, a colon and a value. -/
lemma Yields.member {cs : List Char} {done : List Token} (h : Yields cs done) (k : String) :
    Yields (stringChars k ++ ':' :: cs) (.string (some k) :: .colon :: done) :=
  (yields_string k).append (h.mark rfl) fun _ _ => stops_cons (by decide) _

mutual

/-- A scan goes over a value that was written and completes its tokens. -/
lemma yields_chars : (j : Json) → Yields j.chars j.tokens
  | .null => yields_word rfl (List.all_eq_true.mp rfl) rfl
  | .bool true => yields_word rfl (List.all_eq_true.mp rfl) rfl
  | .bool false => yields_word rfl (List.all_eq_true.mp rfl) rfl
  | .number n => yields_number n
  | .string s => yields_string s
  | .array [] => (yields_nil.mark rfl).mark rfl
  | .array (item :: items) =>
    (yields_chars item).enclose (yields_itemsChars items) (fun _ => stops_itemsChars items) rfl rfl
      (by decide)
  | .object [] => (yields_nil.mark rfl).mark rfl
  | .object ((k, item) :: members) =>
    ((yields_chars item).member k).enclose (yields_membersChars members)
      (fun _ => stops_membersChars members) rfl rfl (by decide)

lemma yields_itemsChars : (items : List Json) → Yields (itemsChars items) (itemsTokens items)
  | [] => yields_nil
  | item :: items =>
    ((yields_chars item).append (yields_itemsChars items) fun _ => stops_itemsChars items).mark rfl

lemma yields_membersChars : (members : List (String × Json)) →
    Yields (membersChars members) (membersTokens members)
  | [] => yields_nil
  | (k, item) :: members =>
    (((yields_chars item).member k).append (yields_membersChars members) fun _ =>
      stops_membersChars members).mark rfl

end

/-- The text of a value has the tokens of the value. -/
lemma tokens?_chars (j : Json) : tokens? j.chars = some j.tokens := by
  have hread := yields_chars j [] fun c hc => by cases hc
  rw [List.append_nil] at hread
  unfold tokens?
  rw [hread]
  exact congrArg some (List.append_nil _)

/-! ### Tokens and values -/

section Followed

variable {item : Json} {items : List Json} {k : String} {members : List (String × Json)}
  {r : List Token}

lemma itemsTokens_cons_append :
    itemsTokens (item :: items) ++ r = .comma :: (item.tokens ++ (itemsTokens items ++ r)) :=
  congrArg (Token.comma :: ·) (List.append_assoc _ _ _)

lemma membersTokens_cons_append :
    membersTokens ((k, item) :: members) ++ r =
      .comma :: .string (some k) :: .colon :: (item.tokens ++ (membersTokens members ++ r)) :=
  congrArg (Token.comma :: Token.string (some k) :: Token.colon :: ·) (List.append_assoc _ _ _)

lemma tokens_array_cons_append :
    (array (item :: items)).tokens ++ r =
      .openArray :: (item.tokens ++ (itemsTokens items ++ .closeArray :: r)) := by
  have hmore : item.tokens ++ (itemsTokens items ++ [.closeArray]) ++ r =
      item.tokens ++ (itemsTokens items ++ .closeArray :: r) := by simp
  exact congrArg (Token.openArray :: ·) hmore

lemma tokens_object_cons_append :
    (object ((k, item) :: members)).tokens ++ r =
      .openObject :: .string (some k) :: .colon ::
        (item.tokens ++ (membersTokens members ++ .closeObject :: r)) := by
  have hmore : item.tokens ++ (membersTokens members ++ [.closeObject]) ++ r =
      item.tokens ++ (membersTokens members ++ .closeObject :: r) := by simp
  exact congrArg (Token.openObject :: Token.string (some k) :: Token.colon :: ·) hmore

end Followed

/-- The first token of a value. -/
def firstToken : Json → Token
  | .null => .null
  | .bool b => .bool b
  | .number n => .number n.numeral
  | .string s => .string (some s)
  | .array _ => .openArray
  | .object _ => .openObject

lemma exists_tokens_eq_cons (j : Json) : ∃ more, j.tokens = j.firstToken :: more := by
  rcases j with _ | _ | _ | _ | ⟨_ | _⟩ | ⟨_ | _⟩ <;> exact ⟨_, rfl⟩

/-- No value begins with a closing bracket. -/
lemma tokens_append_ne_closeArray {j : Json} {r s : List Token} :
    j.tokens ++ r ≠ .closeArray :: s := by
  obtain ⟨more, htokens⟩ := j.exists_tokens_eq_cons
  rw [htokens]
  cases j <;> nofun

lemma firstToken_eq {j k : Json} {r s : List Token} (h : j.tokens ++ r = k.tokens ++ s) :
    j.firstToken = k.firstToken := by
  obtain ⟨more, hj⟩ := j.exists_tokens_eq_cons
  obtain ⟨more', hk⟩ := k.exists_tokens_eq_cons
  rw [hj, hk] at h
  exact (List.cons.inj h).1

mutual

/-- The tokens of a value, whatever follows, say where it ends and what it is. -/
lemma tokens_append_inj : (j k : Json) → (r s : List Token) → j.tokens ++ r = k.tokens ++ s →
    j = k ∧ r = s
  | .null, k, r, s, h => by
    have hfirst := firstToken_eq h
    cases k <;> cases hfirst
    exact ⟨rfl, (List.cons.inj h).2⟩
  | .bool b, k, r, s, h => by
    have hfirst := firstToken_eq h
    cases k <;> cases hfirst
    exact ⟨rfl, (List.cons.inj h).2⟩
  | .number n, k, r, s, h => by
    have hfirst := firstToken_eq h
    cases k with
    | number m =>
      exact ⟨congrArg number (numeral_inj (Token.number.inj hfirst)), (List.cons.inj h).2⟩
    | _ => cases hfirst
  | .string t, k, r, s, h => by
    have hfirst := firstToken_eq h
    cases k <;> cases hfirst
    exact ⟨rfl, (List.cons.inj h).2⟩
  | .array [], k, r, s, h => by
    have hfirst := firstToken_eq h
    cases k with
    | array items =>
      cases items with
      | nil => exact ⟨rfl, (List.cons.inj (List.cons.inj h).2).2⟩
      | cons item items =>
        rw [tokens_array_cons_append] at h
        exact absurd (List.cons.inj h).2.symm tokens_append_ne_closeArray
    | _ => cases hfirst
  | .array (item :: items), k, r, s, h => by
    have hfirst := firstToken_eq h
    rw [tokens_array_cons_append] at h
    cases k with
    | array items' =>
      cases items' with
      | nil => exact absurd (List.cons.inj h).2 tokens_append_ne_closeArray
      | cons item' items' =>
        rw [tokens_array_cons_append] at h
        obtain ⟨rfl, hmore⟩ := tokens_append_inj item item' _ _ (List.cons.inj h).2
        obtain ⟨rfl, hrest⟩ := itemsTokens_append_inj items items' r s hmore
        exact ⟨rfl, hrest⟩
    | _ => cases hfirst
  | .object [], k, r, s, h => by
    have hfirst := firstToken_eq h
    cases k with
    | object members =>
      cases members with
      | nil => exact ⟨rfl, (List.cons.inj (List.cons.inj h).2).2⟩
      | cons m members => cases h
    | _ => cases hfirst
  | .object ((key, item) :: members), k, r, s, h => by
    have hfirst := firstToken_eq h
    cases k with
    | object members' =>
      rcases members' with _ | ⟨⟨key', item'⟩, members'⟩
      · cases h
      · rw [tokens_object_cons_append, tokens_object_cons_append] at h
        obtain ⟨hkey, hvalue⟩ := List.cons.inj (List.cons.inj h).2
        obtain rfl : key = key' := Option.some.inj (Token.string.inj hkey)
        obtain ⟨rfl, hmore⟩ := tokens_append_inj item item' _ _ (List.cons.inj hvalue).2
        obtain ⟨rfl, hrest⟩ := membersTokens_append_inj members members' r s hmore
        exact ⟨rfl, hrest⟩
    | _ => cases hfirst

lemma itemsTokens_append_inj : (js ks : List Json) → (r s : List Token) →
    itemsTokens js ++ .closeArray :: r = itemsTokens ks ++ .closeArray :: s → js = ks ∧ r = s
  | [], [], _, _, h => ⟨rfl, (List.cons.inj h).2⟩
  | [], _ :: _, _, _, h => by cases h
  | _ :: _, [], _, _, h => by cases h
  | j :: js, k :: ks, r, s, h => by
    rw [itemsTokens_cons_append, itemsTokens_cons_append] at h
    obtain ⟨rfl, hmore⟩ := tokens_append_inj j k _ _ (List.cons.inj h).2
    obtain ⟨rfl, hrest⟩ := itemsTokens_append_inj js ks r s hmore
    exact ⟨rfl, hrest⟩

lemma membersTokens_append_inj : (ms ns : List (String × Json)) → (r s : List Token) →
    membersTokens ms ++ .closeObject :: r = membersTokens ns ++ .closeObject :: s →
    ms = ns ∧ r = s
  | [], [], _, _, h => ⟨rfl, (List.cons.inj h).2⟩
  | [], _ :: _, _, _, h => by cases h
  | _ :: _, [], _, _, h => by cases h
  | (key, j) :: ms, (key', k) :: ns, r, s, h => by
    rw [membersTokens_cons_append, membersTokens_cons_append] at h
    obtain ⟨hkey, hvalue⟩ := List.cons.inj (List.cons.inj h).2
    obtain rfl : key = key' := Option.some.inj (Token.string.inj hkey)
    obtain ⟨rfl, hmore⟩ := tokens_append_inj j k _ _ (List.cons.inj hvalue).2
    obtain ⟨rfl, hrest⟩ := membersTokens_append_inj ms ns r s hmore
    exact ⟨rfl, hrest⟩

end

/-- **No two values have one text.** -/
theorem render_inj {j k : Json} (h : j.render = k.render) : j = k := by
  have hchars : j.chars = k.chars := String.ofList_injective h
  have htokens : j.tokens = k.tokens := by
    have hj := tokens?_chars j
    rw [hchars, tokens?_chars k] at hj
    exact (Option.some.inj hj).symm
  exact (tokens_append_inj j k [] [] (congrArg (· ++ []) htokens)).1

end Provisioning.Json
