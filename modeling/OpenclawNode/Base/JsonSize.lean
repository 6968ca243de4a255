import OpenclawNode.Base.Json

/-! How long compact JSON is: what lists, objects and integers add up to. -/
namespace Json

open BoundedWriter (Serialization)
open Text (utf8)

variable {parts parts' : List Serialization}

theorem length_append {s : Serialization} (t : Serialization) (hs : s.failed = false) :
    (s ++ t).output.length = s.output.length + t.output.length := by
  rw [Serialization.output_append t hs, List.length_append]

@[simp] theorem length_literal (s : String) : (literal s).output.length = (utf8 s).length := by
  simp [literal]

/-- Every part adds its own length and a comma, but for the last comma. -/
theorem length_commaSeparated (h : ∀ part ∈ parts, part.failed = false) :
    (commaSeparated parts).output.length + (if parts = [] then 0 else 1) =
      (parts.map fun part => part.output.length + 1).sum := by
  induction parts with
  | nil => simp [commaSeparated, Serialization.output]
  | cons part parts ih =>
    have hpart := h part List.mem_cons_self
    have ih := ih fun part hp => h part (List.mem_cons_of_mem _ hp)
    cases parts with
    | nil => simp [commaSeparated]
    | cons next parts =>
      have hcomma : (utf8 ",").length = 1 := by decide
      have hfirst : (part ++ literal ",").failed = false := by simp [hpart]
      rw [if_neg (by simp)] at ih ⊢
      rw [commaSeparated, length_append _ hfirst, length_append _ hpart, length_literal, hcomma,
        List.map_cons, List.sum_cons]
      omega

theorem length_array (h : ∀ part ∈ parts, part.failed = false) :
    (array parts).output.length + (if parts = [] then 0 else 1) =
      (parts.map fun part => part.output.length + 1).sum + 2 := by
  have hopen : (utf8 "[").length = 1 := by decide
  have hclose : (utf8 "]").length = 1 := by decide
  have hcomplete : (literal "[" ++ commaSeparated parts).failed = false := by
    simpa [failed_commaSeparated] using h
  rw [← length_commaSeparated h, array, length_append _ hcomplete, length_append _ rfl,
    length_literal, length_literal, hopen, hclose]
  omega

/-- A member adds its quoted name, a colon, its value and a comma. -/
theorem length_object {members : List (String × Serialization)}
    (h : ∀ member ∈ members, member.2.failed = false) :
    (object members).output.length + (if members = [] then 0 else 1) =
      (members.map fun member => (string member.1).output.length + member.2.output.length + 2).sum +
        2 := by
  have hobject : object members = literal "\x7b" ++ commaSeparated
      (members.map fun member => string member.1 ++ literal ":" ++ member.2) ++
      literal "\x7d" := rfl
  have hopen : (utf8 "\x7b").length = 1 := by decide
  have hclose : (utf8 "\x7d").length = 1 := by decide
  have hcolon : (utf8 ":").length = 1 := by decide
  have hall : ∀ part ∈ members.map fun member => string member.1 ++ literal ":" ++ member.2,
      part.failed = false := by
    intro part hp
    obtain ⟨member, hm, rfl⟩ := List.mem_map.mp hp
    simpa using h member hm
  have hcomplete : (literal "\x7b" ++ commaSeparated
      (members.map fun member => string member.1 ++ literal ":" ++ member.2)).failed = false := by
    simpa [failed_commaSeparated] using h
  have hsum := length_commaSeparated hall
  have hmember : ∀ member : String × Serialization,
      (string member.1 ++ literal ":" ++ member.2).output.length + 1 =
        (string member.1).output.length + member.2.output.length + 2 := by
    intro member
    rw [length_append _ (by simp), length_append _ (failed_string _), length_literal, hcolon]
    omega
  simp only [List.map_map, Function.comp_def, hmember, List.map_eq_nil_iff] at hsum
  rw [← hsum, hobject, length_append _ hcomplete, length_append _ rfl, length_literal,
    length_literal, hopen, hclose]
  omega

theorem length_object_cons {member : String × Serialization}
    {members : List (String × Serialization)}
    (h : ∀ member' ∈ member :: members, member'.2.failed = false) :
    (object (member :: members)).output.length =
      ((member :: members).map fun member =>
        (string member.1).output.length + member.2.output.length + 2).sum + 1 := by
  have hlen := length_object h
  rw [if_neg (by simp)] at hlen
  omega

theorem length_array_perm (h : ∀ part ∈ parts, part.failed = false) (hp : parts.Perm parts') :
    (array parts').output.length = (array parts).output.length := by
  have hlen := length_array h
  have hlen' := @length_array parts' fun part hm => h part (hp.mem_iff.mpr hm)
  have hsum := (hp.map fun part => part.output.length + 1).sum_eq
  have hnil : parts = [] ↔ parts' = [] := by
    constructor
    · rintro rfl
      exact hp.nil_eq.symm
    · rintro rfl
      exact hp.eq_nil
  simp only [hnil] at hlen
  omega

/-- Longer elements make a longer array. -/
theorem length_array_mono {α : Type} (xs : List α) {f g : α → Serialization}
    (hf : ∀ x, (f x).failed = false) (hg : ∀ x, (g x).failed = false)
    (hle : ∀ x, (f x).output.length ≤ (g x).output.length) :
    (array (xs.map f)).output.length ≤ (array (xs.map g)).output.length := by
  have hlen := @length_array (xs.map f) (by simpa using fun x _ => hf x)
  have hlen' := @length_array (xs.map g) (by simpa using fun x _ => hg x)
  have hsum : ((xs.map f).map fun part => part.output.length + 1).sum ≤
      ((xs.map g).map fun part => part.output.length + 1).sum := by
    rw [List.map_map, List.map_map]
    exact List.sum_le_sum fun x _ => Nat.add_le_add_right (hle x) 1
  simp only [List.map_eq_nil_iff] at hlen hlen'
  omega

/-- The decimal digits of a number, one byte each. -/
theorem length_nat (n : Nat) : (nat n).output.length = (Nat.toDigits 10 n).length := by
  rw [nat, length_literal, Text.length_utf8_of_ascii, Nat.toList_repr]
  intro c hc
  rw [Nat.toList_repr] at hc
  have hdigit := Nat.isDigit_of_mem_toDigits (by decide) (by decide) hc
  simp only [Char.isDigit, Bool.and_eq_true, decide_eq_true_eq, UInt32.le_iff_toNat_le] at hdigit
  exact lt_of_le_of_lt hdigit.2 (by decide)

theorem length_nat_le {n k : Nat} (hk : 0 < k) (h : n < 10 ^ k) : (nat n).output.length ≤ k := by
  rw [length_nat]
  exact (Nat.length_toDigits_le_iff (by decide) hk).mpr h

end Json
