import OpenclawNode.Base.JsonPrint
import OpenclawNode.Base.JsonText
import OpenclawNode.Base.JsonTree

/-! What the printer writes of a value without doubles is read back as the value. -/
namespace Json

/-- The sequence of hexadecimal digits of a control character. -/
theorem hexValue_digitChar {k : Nat} (h : k < 16) : hexValue (Nat.digitChar k) = some k := by
  have hall : ∀ k : Fin 16, hexValue (Nat.digitChar k) = some k.val := by decide
  exact hall ⟨k, h⟩

theorem readHex4_control {n : Nat} (h : n < 32) (rest : List Char) :
    readHex4 ('0' :: '0' :: Nat.digitChar (n / 16) :: Nat.digitChar (n % 16) :: rest) =
      some (n, rest) := by
  have hzero : hexValue '0' = some 0 := by decide
  simp only [readHex4, hzero, hexValue_digitChar (show n / 16 < 16 by omega),
    hexValue_digitChar (show n % 16 < 16 by omega), Option.bind_eq_bind, Option.bind_some,
    Option.some.injEq, Prod.mk.injEq, and_true]
  omega

/-- A printed character is read back as one character. -/
theorem readCharacters_escapeText (fuel : Nat) (c : Char) (rest : List Char) :
    readCharacters (fuel + 1) (escapeText c ++ rest) =
      (readCharacters fuel rest).map fun (read, cs) => (c :: read, cs) := by
  have hread : ∀ (d : Char) (cs : List Char), readEscape cs = some (d, rest) →
      readCharacters (fuel + 1) ('\\' :: cs) =
        (readCharacters fuel rest).map fun (read, cs) => (d :: read, cs) := by
    intro d cs hd
    cases hr : readCharacters fuel rest <;> simp [readCharacters, hd, hr]
  unfold escapeText escape
  split
  · next sequence h =>
    split at h <;> try cases h
    all_goals try exact hread _ _ rfl
    split at h
    · next hc =>
      cases h
      rw [String.toList_ofList]
      refine hread c ('u' :: '0' :: '0' :: Nat.digitChar (c.toNat / 16) ::
        Nat.digitChar (c.toNat % 16) :: rest) ?_
      simp only [readEscape, readHex4_control hc, Option.bind_eq_bind, Option.bind_some]
      rw [if_neg (by omega), if_neg (by omega), Char.ofNat_toNat]
    · cases h
  · next h =>
    split at h <;> try cases h
    split at h
    · cases h
    · next hq hb _ _ _ _ _ hc =>
      have hq : c ≠ '"' := hq
      have hb : c ≠ '\\' := hb
      simp only [List.singleton_append, readCharacters, hq, hb, hc, if_false]
      cases readCharacters fuel rest <;> simp

theorem readCharacters_flatMap (rest : List Char) (cs : List Char) (fuel : Nat)
    (h : cs.length < fuel) :
    readCharacters fuel (cs.flatMap escapeText ++ '"' :: rest) = some (cs, rest) := by
  induction cs generalizing fuel with
  | nil =>
    cases fuel with
    | zero => cases h
    | succ fuel => simp [readCharacters]
  | cons c cs ih =>
    cases fuel with
    | zero => cases h
    | succ fuel =>
      rw [List.flatMap_cons, List.append_assoc, readCharacters_escapeText,
        ih fuel (Nat.lt_of_succ_lt_succ h)]
      rfl

theorem length_le_flatMap (cs : List Char) : cs.length ≤ (cs.flatMap escapeText).length := by
  induction cs with
  | nil => exact le_rfl
  | cons c cs ih =>
    have hone : 1 ≤ (escapeText c).length := by
      unfold escapeText escape
      split
      · next sequence h =>
        split at h <;> try cases h
        all_goals try decide
        split at h <;> cases h
        simp
      · simp
    rw [List.flatMap_cons, List.length_append, List.length_cons]
    omega

/-- A printed string is read back. -/
theorem readString_quoted (s : String) (rest : List Char) :
    readString (s.toList.flatMap escapeText ++ '"' :: rest) = some (s, rest) := by
  have hfuel : s.toList.length < (s.toList.flatMap escapeText ++ '"' :: rest).length := by
    have hle := length_le_flatMap s.toList
    rw [List.length_append, List.length_cons]
    omega
  rw [readString, readCharacters_flatMap rest s.toList _ hfuel]
  simp

/-- A text that may follow a number: it does not go on with it. -/
def EndsNumber (rest : List Char) : Prop :=
  ∀ c ∈ rest.head?, c.isDigit = false ∧ c ≠ '.' ∧ c ≠ 'e' ∧ c ≠ 'E'

variable {rest : List Char}

theorem takeWhile_toDigits (n : Nat) (h : EndsNumber rest) :
    (Nat.toDigits 10 n ++ rest).takeWhile Char.isDigit = Nat.toDigits 10 n := by
  have hdigits : ∀ c ∈ Nat.toDigits 10 n, c.isDigit = true := fun c hc =>
    Nat.isDigit_of_mem_toDigits (by omega) le_rfl hc
  rw [List.takeWhile_append_of_pos hdigits]
  cases rest with
  | nil => simp
  | cons c cs => simp [(h c rfl).1]

theorem dropWhile_toDigits (n : Nat) (h : EndsNumber rest) :
    (Nat.toDigits 10 n ++ rest).dropWhile Char.isDigit = rest := by
  have hdigits : ∀ c ∈ Nat.toDigits 10 n, c.isDigit = true := fun c hc =>
    Nat.isDigit_of_mem_toDigits (by omega) le_rfl hc
  rw [List.dropWhile_append_of_pos hdigits]
  cases rest with
  | nil => simp
  | cons c cs => simp [(h c rfl).1]

/-- No leading zeros are printed. -/
theorem eq_zero_of_head {n : Nat} (h : (Nat.toDigits 10 n).head? = some '0') : n = 0 := by
  induction n using Nat.strongRecOn with
  | ind n ih =>
    by_cases hn : n < 10
    · rw [Nat.toDigits_of_lt_base hn] at h
      have hall : ∀ k : Fin 10, Nat.digitChar k = '0' → k.val = 0 := by decide
      exact hall ⟨n, hn⟩ (by simpa using h)
    · rw [Nat.toDigits_of_base_le (by omega) (by omega), List.head?_append] at h
      have hne : Nat.toDigits 10 (n / 10) ≠ [] := Nat.toDigits_ne_nil
      cases hd : Nat.toDigits 10 (n / 10) with
      | nil => exact absurd hd hne
      | cons c cs =>
        rw [hd] at h
        have hzero := ih (n / 10) (by omega) (by rw [hd]; simpa using h)
        omega

theorem readFraction_ends (h : EndsNumber rest) : readFraction rest = some ([], rest) := by
  unfold readFraction
  split
  · exact absurd rfl (h '.' rfl).2.1
  · rfl

theorem readExponent_ends (h : EndsNumber rest) : readExponent rest = some ([], rest) := by
  cases rest with
  | nil => rfl
  | cons c cs =>
    obtain ⟨-, -, he, hE⟩ := h c rfl
    simp [readExponent, he, hE]

section

variable (readDouble : List Char → Option Double)

theorem readNumber_toDigits (negative : Bool) (n : Nat) (h : EndsNumber rest) :
    readNumber readDouble negative (Nat.toDigits 10 n ++ rest) =
      (classify readDouble negative (Nat.toDigits 10 n)).map fun n => (n, rest) := by
  have hhead : ¬ (Nat.toDigits 10 n = [] ∨
      ((Nat.toDigits 10 n).head? = some '0' ∧ 2 ≤ (Nat.toDigits 10 n).length)) := by
    rintro (hnil | ⟨hzero, hlength⟩)
    · exact Nat.toDigits_ne_nil hnil
    · rw [eq_zero_of_head hzero, Nat.toDigits_zero] at hlength
      simp at hlength
  simp only [readNumber, takeWhile_toDigits n h, dropWhile_toDigits n h, if_neg hhead,
    readFraction_ends h, readExponent_ends h, Option.bind_eq_bind, Option.bind_some, and_self,
    if_true]
  cases classify readDouble negative (Nat.toDigits 10 n) <;> rfl

theorem classify_posInt (n : UInt64) :
    classify readDouble false (Nat.toDigits 10 n.toNat) = some (.posInt n) := by
  have hlt := n.toNat_lt
  simp only [classify, Nat.ofDigitChars_ten_toDigits, Bool.false_eq_true, if_false]
  rw [if_pos (by simpa using hlt), UInt64.ofNat_toNat]

theorem classify_negInt {n : Int64} {k : Nat} (hk : n.toInt = -(k : Int)) (hpos : 0 < k) :
    classify readDouble true (Nat.toDigits 10 k) = some (.negInt n) := by
  have hle := n.le_toInt
  simp only [classify, Nat.ofDigitChars_ten_toDigits, if_true]
  rw [if_pos ⟨hpos, by omega⟩, ← hk, Int64.ofInt_toInt]

end

/-- Read back from in front of whatever does not go on with a number. -/
def Reads {α : Type} (item : Reader α) (text : List Char) (a : α) : Prop :=
  ∀ rest, EndsNumber rest → item (text ++ rest) = some (a, rest)

/-- A text starts with a character that is not a space and closes nothing. -/
def Starts (text : List Char) : Prop :=
  ∃ c cs, text = c :: cs ∧ isSpace c = false ∧ c ≠ ']' ∧ c ≠ '\x7d'

theorem skipSpace_cons {c : Char} (h : isSpace c = false) (cs : List Char) :
    skipSpace (c :: cs) = c :: cs := by
  simp [skipSpace, h]

theorem endsNumber_cons {c : Char} (h : c.isDigit = false ∧ c ≠ '.' ∧ c ≠ 'e' ∧ c ≠ 'E')
    (cs : List Char) : EndsNumber (c :: cs) := by
  rintro _ ⟨⟩
  exact h

section

variable {α : Type} {item : Reader α} {close : Char} {texts : List (List Char)} {as : List α}

theorem endsNumber_close (hclose : close = ']' ∨ close = '\x7d') (cs : List Char) :
    EndsNumber (close :: cs) := by
  rcases hclose with rfl | rfl <;> exact endsNumber_cons (by decide) cs

theorem endsNumber_rest (hclose : close = ']' ∨ close = '\x7d') (texts : List (List Char))
    (rest : List Char) : EndsNumber (texts.flatMap (',' :: ·) ++ close :: rest) := by
  cases texts with
  | nil => exact endsNumber_close hclose rest
  | cons text texts => exact endsNumber_cons (by decide) _

theorem readRest_texts (hclose : close = ']' ∨ close = '\x7d')
    (h : List.Forall₂ (Reads item) texts as) (rest : List Char) (fuel : Nat)
    (hfuel : texts.length < fuel) :
    readRest close item fuel (texts.flatMap (',' :: ·) ++ close :: rest) = some (as, rest) := by
  induction h generalizing fuel with
  | nil =>
    cases fuel with
    | zero => cases hfuel
    | succ fuel =>
      have hspace : isSpace close = false := by rcases hclose with rfl | rfl <;> decide
      simp [readRest, skipSpace_cons hspace]
  | @cons text a texts as htext htexts ih =>
    cases fuel with
    | zero => cases hfuel
    | succ fuel =>
      have hcomma : ',' ≠ close := by rcases hclose with rfl | rfl <;> decide
      have hread := htext _ (endsNumber_rest hclose texts rest)
      simp only [List.flatMap_cons, List.cons_append, List.append_assoc, readRest,
        skipSpace_cons (show isSpace ',' = false by decide), hcomma, if_false, if_true, hread,
        ih fuel (Nat.lt_of_succ_lt_succ hfuel), Option.bind_eq_bind, Option.bind_some]

/-- Items are read back from between their brackets. -/
theorem readItems_texts (hclose : close = ']' ∨ close = '\x7d') (hs : ∀ text ∈ texts, Starts text)
    (h : List.Forall₂ (Reads item) texts as) (rest : List Char) :
    readItems close item (listText texts ++ close :: rest) = some (as, rest) := by
  cases h with
  | nil =>
    have hspace : isSpace close = false := by rcases hclose with rfl | rfl <;> decide
    simp [readItems, listText, skipSpace_cons hspace]
  | @cons text a texts as htext htexts =>
    obtain ⟨c, cs, rfl, hspace, hbracket, hbrace⟩ := hs text List.mem_cons_self
    have hc : c ≠ close := by rcases hclose with rfl | rfl <;> assumption
    have hread := htext _ (endsNumber_rest hclose texts rest)
    have hfuel : texts.length < (texts.flatMap (',' :: ·) ++ close :: rest).length := by
      have hle : ∀ texts : List (List Char), texts.length ≤ (texts.flatMap (',' :: ·)).length := by
        intro texts
        induction texts with
        | nil => exact le_rfl
        | cons text texts ih =>
          rw [List.flatMap_cons, List.length_append, List.length_cons, List.length_cons]
          omega
      have hle := hle texts
      rw [List.length_append, List.length_cons]
      omega
    simp only [List.cons_append] at hread
    simp only [readItems, listText, List.cons_append, List.append_assoc, skipSpace_cons hspace, hc,
      if_false, hread, readRest_texts hclose htexts rest _ hfuel, Option.bind_eq_bind,
      Option.bind_some]

/-- A member is read back from its name and its value. -/
theorem reads_member {text : List Char} {a : α} (h : Reads item text a) (name : String) :
    Reads (readMember item) (memberText name text) (name, a) := by
  intro rest hrest
  have hstring := readString_quoted name (':' :: (text ++ rest))
  have htext : memberText name text ++ rest =
      '"' :: (name.toList.flatMap escapeText ++ '"' :: ':' :: (text ++ rest)) := by
    simp [memberText, quoted]
  simp only [htext, readMember, skipSpace_cons (show isSpace '"' = false by decide), hstring,
    skipSpace_cons (show isSpace ':' = false by decide), h rest hrest, Option.bind_eq_bind,
    Option.bind_some]

end

theorem starts_memberText (name : String) (text : List Char) : Starts (memberText name text) :=
  ⟨'"', _, rfl, by decide, by decide, by decide⟩

section

variable {formatDouble : Double → String} {readDouble : List Char → Option Double}

/-- An integer as it is kept. -/
def Number.Exact : Number → Prop
  | .posInt _ => True
  | .negInt n => n < 0
  | .float _ => False

theorem negInt_text (formatDouble : Double → String) {n : Int64} (h : n < 0) :
    ∃ k : Nat, 0 < k ∧ n.toInt = -(k : Int) ∧
      (Number.negInt n).text formatDouble = '-' :: Nat.toDigits 10 k := by
  have hn : n.toInt < 0 := Int64.lt_iff_toInt_lt.mp h
  cases hi : n.toInt with
  | ofNat k =>
    rw [hi] at hn
    exact absurd hn (Int.not_lt.mpr (Int.natCast_nonneg k))
  | negSucc k =>
    refine ⟨k + 1, Nat.succ_pos k, by omega, ?_⟩
    have htext : toString n.toInt = "-" ++ Nat.repr (k + 1) := by
      rw [hi]
      rfl
    show (toString n.toInt).toList = _
    rw [htext, String.toList_append, Nat.toList_repr]
    rfl

theorem head_toDigits (n : Nat) :
    ∃ c cs, Nat.toDigits 10 n = c :: cs ∧ c.isDigit = true := by
  cases hd : Nat.toDigits 10 n with
  | nil => exact absurd hd Nat.toDigits_ne_nil
  | cons c cs =>
    exact ⟨c, cs, rfl, Nat.isDigit_of_mem_toDigits (by omega) le_rfl (hd ▸ List.mem_cons_self)⟩

theorem not_space_of_isDigit {c : Char} (h : c.isDigit = true) :
    isSpace c = false ∧ c ≠ ']' ∧ c ≠ '\x7d' := by
  refine ⟨?_, ?_, ?_⟩
  · cases hs : isSpace c with
    | false => rfl
    | true =>
      simp only [isSpace, Bool.or_eq_true, beq_iff_eq] at hs
      rcases hs with ((rfl | rfl) | rfl) | rfl <;> cases h
  · rintro rfl
    cases h
  · rintro rfl
    cases h

theorem Number.reads {n : Number} (h : n.Exact) (d : Nat) :
    Reads (readValue readDouble d) (n.text formatDouble) (.number n) := by
  intro rest hrest
  cases n with
  | posInt n =>
    obtain ⟨c, cs, hd, hc⟩ := head_toDigits n.toNat
    have hnumber := readNumber_toDigits readDouble false n.toNat hrest
    rw [classify_posInt] at hnumber
    show readValue readDouble d (Nat.toDigits 10 n.toNat ++ rest) = _
    rw [hd] at hnumber ⊢
    simp only [List.cons_append] at hnumber ⊢
    rw [readValue, skipSpace_cons (not_space_of_isDigit hc).1]
    simp only [hc, if_true, hnumber, Option.map_some]
  | negInt n =>
    obtain ⟨k, hpos, hk, htext⟩ := negInt_text formatDouble h
    have hnumber := readNumber_toDigits readDouble true k hrest
    rw [classify_negInt readDouble hk hpos] at hnumber
    rw [htext, List.cons_append, readValue, skipSpace_cons (by decide)]
    simp only [show Char.isDigit '-' = false by decide, hnumber, Option.map_some, if_true,
      Bool.false_eq_true, if_false]
  | float d => exact h.elim

theorem Number.starts {n : Number} (h : n.Exact) : Starts (n.text formatDouble) := by
  cases n with
  | posInt n =>
    obtain ⟨c, cs, hd, hc⟩ := head_toDigits n.toNat
    exact ⟨c, cs, hd, not_space_of_isDigit hc⟩
  | negInt n =>
    obtain ⟨k, -, -, htext⟩ := negInt_text formatDouble h
    exact ⟨'-', _, htext, by decide, by decide, by decide⟩
  | float d => exact h.elim

end

section

variable {formatDouble : Double → String} {readDouble : List Char → Option Double}

theorem reads_word {α : Type} (word : String) (a : α) (rest : List Char) :
    readWord word a (word.toList ++ rest) = some (a, rest) := by
  rw [readWord, if_pos (List.prefix_append _ _), ← String.length_toList, List.drop_left]

theorem reads_null (d : Nat) (rest : List Char) :
    readValue readDouble d ('n' :: ("ull".toList ++ rest)) = some (.null, rest) := by
  rw [readValue, skipSpace_cons (by decide)]
  simp only [show Char.isDigit 'n' = false by decide, reads_word]
  rfl

theorem reads_true (d : Nat) (rest : List Char) :
    readValue readDouble d ('t' :: ("rue".toList ++ rest)) = some (.bool true, rest) := by
  rw [readValue, skipSpace_cons (by decide)]
  simp only [show Char.isDigit 't' = false by decide, reads_word]
  rfl

theorem reads_false (d : Nat) (rest : List Char) :
    readValue readDouble d ('f' :: ("alse".toList ++ rest)) = some (.bool false, rest) := by
  rw [readValue, skipSpace_cons (by decide)]
  simp only [show Char.isDigit 'f' = false by decide, reads_word]
  rfl

theorem Value.starts {names : List String → Prop} : ∀ v : Value, v.Forall Number.Exact names →
    Starts (v.text formatDouble)
  | .null, _ => ⟨'n', _, rfl, by decide, by decide, by decide⟩
  | .bool true, _ => ⟨'t', _, rfl, by decide, by decide, by decide⟩
  | .bool false, _ => ⟨'f', _, rfl, by decide, by decide, by decide⟩
  | .number _, h => Number.starts h
  | .string _, _ => ⟨'"', _, rfl, by decide, by decide, by decide⟩
  | .array _, _ => ⟨'[', _, rfl, by decide, by decide, by decide⟩
  | .object _, _ => ⟨'\x7b', _, rfl, by decide, by decide, by decide⟩

theorem starts_all {names : List String → Prop} : ∀ values : List Value,
    ForallAll Number.Exact names values → ∀ text ∈ allText formatDouble values, Starts text
  | [], _ => fun _ h => nomatch h
  | value :: values, h => List.forall_mem_cons.mpr ⟨value.starts h.1, starts_all values h.2⟩

theorem starts_members (members : List (String × Value)) :
    ∀ text ∈ membersText formatDouble members, Starts text := by
  rw [membersText_eq]
  intro text h
  obtain ⟨m, -, rfl⟩ := List.mem_map.mp h
  exact starts_memberText _ _

mutual

/-- The text of a value without doubles is read back, where it does not nest too deep. -/
theorem Value.reads {names : List String → Prop} : ∀ (v : Value) (d : Nat),
    v.Forall Number.Exact names → v.depth ≤ d →
    Reads (readValue readDouble d) (v.text formatDouble) v
  | .null, d, _, _ => fun rest _ => reads_null d rest
  | .bool true, d, _, _ => fun rest _ => reads_true d rest
  | .bool false, d, _, _ => fun rest _ => reads_false d rest
  | .number n, d, h, _ => Number.reads h d
  | .string s, d, _, _ => fun rest _ => by
    have hstring := readString_quoted s rest
    have htext : (Value.string s).text formatDouble ++ rest =
        '"' :: (s.toList.flatMap escapeText ++ '"' :: rest) := by
      simp [Value.text, quoted]
    rw [htext, readValue, skipSpace_cons (by decide)]
    simp [show Char.isDigit '"' = false by decide, hstring]
  | .array values, d, h, hd => fun rest _ => by
    cases d with
    | zero => cases hd
    | succ d =>
      have hitems := readItems_texts (Or.inl rfl) (starts_all values h)
        (reads_all values d h (Nat.le_of_succ_le_succ hd)) rest
      have htext : (Value.array values).text formatDouble ++ rest =
          '[' :: (listText (allText formatDouble values) ++ ']' :: rest) := by
        simp [Value.text]
      rw [htext, readValue, skipSpace_cons (by decide)]
      simp [show Char.isDigit '[' = false by decide, hitems]
  | .object members, d, h, hd => fun rest _ => by
    cases d with
    | zero => cases hd
    | succ d =>
      have hitems := readItems_texts (Or.inr rfl) (starts_members members)
        (reads_members members d h.2 (Nat.le_of_succ_le_succ hd)) rest
      have htext : (Value.object members).text formatDouble ++ rest =
          '\x7b' :: (listText (membersText formatDouble members) ++ '\x7d' :: rest) := by
        simp [Value.text]
      rw [htext, readValue, skipSpace_cons (by decide)]
      simp [show Char.isDigit '\x7b' = false by decide, hitems]

theorem reads_all {names : List String → Prop} : ∀ (values : List Value) (d : Nat),
    ForallAll Number.Exact names values → depthAll values ≤ d →
    List.Forall₂ (Reads (readValue readDouble d)) (allText formatDouble values) values
  | [], _, _, _ => .nil
  | value :: values, d, h, hd =>
    .cons (value.reads d h.1 (le_of_max_le_left hd))
      (reads_all values d h.2 (le_of_max_le_right hd))

theorem reads_members {names : List String → Prop} : ∀ (members : List (String × Value)) (d : Nat),
    ForallMembers Number.Exact names members → depthMembers members ≤ d →
    List.Forall₂ (Reads (readMember (readValue readDouble d))) (membersText formatDouble members)
      members
  | [], _, _, _ => .nil
  | (name, value) :: members, d, h, hd =>
    .cons (reads_member (value.reads d h.1 (le_of_max_le_left hd)) name)
      (reads_members members d h.2 (le_of_max_le_right hd))

end

end

/-- Not read, whatever follows. -/
def Refuses {α : Type} (item : Reader α) (text : List Char) : Prop :=
  ∀ rest, EndsNumber rest → item (text ++ rest) = none

/-- Some text is refused, and all before it are read. -/
def Stops {α : Type} (item : Reader α) (texts : List (List Char)) : Prop :=
  ∃ before text after as, texts = before ++ text :: after ∧
    List.Forall₂ (Reads item) before as ∧ Refuses item text

section

variable {α : Type} {item : Reader α} {close : Char} {text : List Char} {texts : List (List Char)}

theorem Stops.head (h : Refuses item text) : Stops item (text :: texts) :=
  ⟨[], text, texts, [], rfl, .nil, h⟩

theorem Stops.tail {a : α} (h : Reads item text a) (hs : Stops item texts) :
    Stops item (text :: texts) := by
  obtain ⟨before, stop, after, as, rfl, hbefore, hstop⟩ := hs
  exact ⟨text :: before, stop, after, a :: as, rfl, .cons h hbefore, hstop⟩

theorem readRest_stops (hclose : close = ']' ∨ close = '\x7d') (h : Stops item texts)
    (rest : List Char) (fuel : Nat) :
    readRest close item fuel (texts.flatMap (',' :: ·) ++ close :: rest) = none := by
  obtain ⟨before, text, after, as, rfl, hbefore, htext⟩ := h
  have hcomma : ',' ≠ close := by rcases hclose with rfl | rfl <;> decide
  induction hbefore generalizing fuel with
  | nil =>
    cases fuel with
    | zero => rfl
    | succ fuel =>
      have hread := htext _ (endsNumber_rest hclose after rest)
      simp only [List.nil_append, List.flatMap_cons, List.cons_append, List.append_assoc, readRest,
        skipSpace_cons (show isSpace ',' = false by decide), hcomma, if_false, if_true, hread,
        Option.bind_eq_bind, Option.bind_none]
  | @cons first a before as hfirst hbefore ih =>
    cases fuel with
    | zero => rfl
    | succ fuel =>
      have hread := hfirst _ (endsNumber_rest hclose (before ++ text :: after) rest)
      simp only [List.cons_append, List.flatMap_cons, List.append_assoc, readRest,
        skipSpace_cons (show isSpace ',' = false by decide), hcomma, if_false, if_true, hread,
        ih fuel, Option.bind_eq_bind, Option.bind_some, Option.bind_none]

/-- Items of which one is refused are refused. -/
theorem readItems_stops (hclose : close = ']' ∨ close = '\x7d')
    (hs : ∀ text ∈ texts, Starts text) (h : Stops item texts) (rest : List Char) :
    readItems close item (listText texts ++ close :: rest) = none := by
  cases texts with
  | nil =>
    obtain ⟨before, text, after, as, he, -⟩ := h
    exact absurd he (by simp)
  | cons text texts =>
    obtain ⟨c, cs, rfl, hspace, hbracket, hbrace⟩ := hs text List.mem_cons_self
    have hc : c ≠ close := by rcases hclose with rfl | rfl <;> assumption
    simp only [readItems, listText, List.cons_append, List.append_assoc, skipSpace_cons hspace, hc,
      if_false]
    obtain ⟨before, stop, after, as, he, hbefore, hstop⟩ := h
    cases hbefore with
    | nil =>
      obtain ⟨rfl, rfl⟩ := List.cons.inj he
      have hread := hstop _ (endsNumber_rest hclose texts rest)
      simp only [List.cons_append] at hread
      simp only [hread, Option.bind_eq_bind, Option.bind_none]
    | @cons first a before as hfirst hbefore =>
      rw [List.cons_append] at he
      obtain ⟨rfl, rfl⟩ := List.cons.inj he
      have hread := hfirst _ (endsNumber_rest hclose (before ++ stop :: after) rest)
      have hrest := readRest_stops hclose ⟨before, stop, after, as, rfl, hbefore, hstop⟩ rest
      simp only [List.cons_append] at hread
      simp only [hread, hrest, Option.bind_eq_bind, Option.bind_some, Option.bind_none]

theorem refuses_member (h : Refuses item text) (name : String) :
    Refuses (readMember item) (memberText name text) := by
  intro rest hrest
  have hstring := readString_quoted name (':' :: (text ++ rest))
  have htext : memberText name text ++ rest =
      '"' :: (name.toList.flatMap escapeText ++ '"' :: ':' :: (text ++ rest)) := by
    simp [memberText, quoted]
  simp only [htext, readMember, skipSpace_cons (show isSpace '"' = false by decide), hstring,
    skipSpace_cons (show isSpace ':' = false by decide), h rest hrest, Option.bind_eq_bind,
    Option.bind_some, Option.bind_none]

end

section

variable {formatDouble : Double → String} {readDouble : List Char → Option Double}

mutual

/-- The text of a value that nests too deep is refused. -/
theorem Value.refused {names : List String → Prop} : ∀ (v : Value) (d : Nat),
    v.Forall Number.Exact names → d < v.depth →
    Refuses (readValue readDouble d) (v.text formatDouble)
  | .null, _, _, hd => by cases hd
  | .bool _, _, _, hd => by cases hd
  | .number _, _, _, hd => by cases hd
  | .string _, _, _, hd => by cases hd
  | .array values, d, h, hd => fun rest _ => by
    have htext : (Value.array values).text formatDouble ++ rest =
        '[' :: (listText (allText formatDouble values) ++ ']' :: rest) := by
      simp [Value.text]
    rw [htext, readValue, skipSpace_cons (by decide)]
    cases d with
    | zero => simp [show Char.isDigit '[' = false by decide]
    | succ d =>
      have hitems := readItems_stops (Or.inl rfl) (starts_all values h)
        (stops_all values d h (Nat.lt_of_succ_lt_succ hd)) rest
      simp [show Char.isDigit '[' = false by decide, hitems]
  | .object members, d, h, hd => fun rest _ => by
    have htext : (Value.object members).text formatDouble ++ rest =
        '\x7b' :: (listText (membersText formatDouble members) ++ '\x7d' :: rest) := by
      simp [Value.text]
    rw [htext, readValue, skipSpace_cons (by decide)]
    cases d with
    | zero => simp [show Char.isDigit '\x7b' = false by decide]
    | succ d =>
      have hitems := readItems_stops (Or.inr rfl) (starts_members members)
        (stops_members members d h.2 (Nat.lt_of_succ_lt_succ hd)) rest
      simp [show Char.isDigit '\x7b' = false by decide, hitems]

theorem stops_all {names : List String → Prop} : ∀ (values : List Value) (d : Nat),
    ForallAll Number.Exact names values → d < depthAll values →
    Stops (readValue readDouble d) (allText formatDouble values)
  | [], _, _, hd => by cases hd
  | value :: values, d, h, hd => by
    rcases Nat.lt_or_ge d value.depth with hv | hv
    · exact .head (value.refused d h.1 hv)
    · exact .tail (value.reads d h.1 hv)
        (stops_all values d h.2 ((lt_max_iff.mp hd).resolve_left (Nat.not_lt.mpr hv)))

theorem stops_members {names : List String → Prop} : ∀ (members : List (String × Value)) (d : Nat),
    ForallMembers Number.Exact names members → d < depthMembers members →
    Stops (readMember (readValue readDouble d)) (membersText formatDouble members)
  | [], _, _, hd => by cases hd
  | (name, value) :: members, d, h, hd => by
    rcases Nat.lt_or_ge d value.depth with hv | hv
    · exact .head (refuses_member (value.refused d h.1 hv) name)
    · exact .tail (reads_member (value.reads d h.1 hv) name)
        (stops_members members d h.2 ((lt_max_iff.mp hd).resolve_left (Nat.not_lt.mpr hv)))

end

/-- What the printer writes of a value without doubles is read back as the value, exactly where the
value does not nest too deep. -/
theorem readText_text {names : List String → Prop} {v : Value} (h : v.Forall Number.Exact names) :
    readText readDouble (String.ofList (v.text formatDouble)) =
      if v.depth ≤ recursionLimit then some v else none := by
  have hnil : EndsNumber [] := nofun
  rw [readText, String.toList_ofList, ← List.append_nil (v.text formatDouble)]
  split
  · next hd =>
    rw [Value.reads v recursionLimit h hd [] hnil]
    rfl
  · next hd =>
    rw [Value.refused v recursionLimit h (Nat.not_le.mp hd) [] hnil]
    rfl

end

end Json
