import OpenclawNode.Base.Json

/-! The texts that the printer writes. -/
namespace Json

open BoundedWriter (Serialization)
open Text (utf8)

/-- The text of an escape sequence, or the character itself. -/
def escapeText (c : Char) : List Char :=
  match escape c with
  | some sequence => sequence.toList
  | none => [c]

def quoted (s : String) : List Char := '"' :: s.toList.flatMap escapeText ++ ['"']

/-- The texts with commas between them. -/
def listText : List (List Char) → List Char
  | [] => []
  | text :: texts => text ++ texts.flatMap (',' :: ·)

theorem utf8_append (cs ds : List Char) :
    utf8 (String.ofList (cs ++ ds)) = utf8 (String.ofList cs) ++ utf8 (String.ofList ds) := by
  rw [Text.utf8_ofList, Text.utf8_ofList, Text.utf8_ofList, List.flatMap_append]

/-- A serialization writes this text. -/
structure Prints (s : Serialization) (text : List Char) : Prop where
  failed : s.failed = false
  output : s.output = utf8 (String.ofList text)

theorem Prints.append {s t : Serialization} {text text' : List Char} (h : Prints s text)
    (h' : Prints t text') : Prints (s ++ t) (text ++ text') where
  failed := by rw [BoundedWriter.Serialization.failed_append, h.failed, h'.failed, Bool.or_self]
  output := by
    rw [BoundedWriter.Serialization.output_append t h.failed, h.output, h'.output, utf8_append]

theorem prints_literal (s : String) : Prints (literal s) s.toList :=
  ⟨rfl, by rw [literal, BoundedWriter.Serialization.output_ofBytes, String.ofList_toList]⟩

theorem flatten_escapedRuns (run cs : List Char) :
    (escapedRuns run cs).flatten = utf8 (String.ofList (run.reverse ++ cs.flatMap escapeText)) := by
  have hrun : ∀ run : List Char, (if run = [] then [] else
      [utf8 (String.ofList run.reverse)]).flatten = utf8 (String.ofList run.reverse) := by
    intro run
    split
    · next h =>
      rw [h]
      rfl
    · exact List.append_nil _
  induction cs generalizing run with
  | nil =>
    rw [escapedRuns, List.flatMap_nil, List.append_nil]
    exact hrun run
  | cons c cs ih =>
    have htext : escapeText c = (escape c).elim [c] String.toList := by
      unfold escapeText
      split <;> simp [*]
    rw [escapedRuns, List.flatMap_cons, htext]
    cases he : escape c with
    | none => simp only [ih, List.reverse_cons, Option.elim_none, List.append_assoc]
    | some sequence =>
      simp only [List.flatten_append, List.flatten_cons, ih, List.reverse_nil, List.nil_append,
        Option.elim_some, hrun, utf8_append, String.ofList_toList]

theorem prints_string (s : String) : Prints (string s) (quoted s) := by
  have hbody : Prints ⟨escapedRuns [] s.toList, false⟩ (s.toList.flatMap escapeText) :=
    ⟨rfl, flatten_escapedRuns [] s.toList⟩
  exact ((prints_literal "\"").append hbody).append (prints_literal "\"")

theorem prints_commaSeparated {parts : List Serialization} {texts : List (List Char)}
    (h : List.Forall₂ Prints parts texts) : Prints (commaSeparated parts) (listText texts) := by
  induction h with
  | nil => exact ⟨rfl, rfl⟩
  | @cons part text parts texts hpart hparts ih =>
    cases hparts with
    | nil => simpa [commaSeparated, listText] using hpart
    | cons _ _ =>
      have happend := (hpart.append (prints_literal ",")).append ih
      simpa [commaSeparated, listText] using happend

theorem prints_array {parts : List Serialization} {texts : List (List Char)}
    (h : List.Forall₂ Prints parts texts) :
    Prints (array parts) ('[' :: listText texts ++ [']']) :=
  ((prints_literal "[").append (prints_commaSeparated h)).append (prints_literal "]")

def memberText (name : String) (text : List Char) : List Char := quoted name ++ ':' :: text

theorem prints_object {members : List (String × Serialization)} {texts : List (String × List Char)}
    (h : List.Forall₂ (fun m t => m.1 = t.1 ∧ Prints m.2 t.2) members texts) :
    Prints (object members)
      ('\x7b' :: listText (texts.map fun t => memberText t.1 t.2) ++ ['\x7d']) := by
  refine ((prints_literal "\x7b").append (prints_commaSeparated ?_)).append (prints_literal "\x7d")
  rw [List.forall₂_map_left_iff, List.forall₂_map_right_iff]
  refine h.imp ?_
  rintro ⟨name, part⟩ ⟨_, text⟩ ⟨rfl, hpart⟩
  simpa [memberText] using ((prints_string name).append (prints_literal ":")).append hpart

section

variable (formatDouble : Double → String)

def Number.text : Number → List Char
  | .posInt n => Nat.toDigits 10 n.toNat
  | .negInt n => (toString n.toInt).toList
  | .float d => (formatDouble d).toList

mutual

/-- The text of a printed value. -/
def Value.text : Value → List Char
  | .null => "null".toList
  | .bool b => (if b then "true" else "false").toList
  | .number n => n.text formatDouble
  | .string s => quoted s
  | .array values => '[' :: listText (allText values) ++ [']']
  | .object members => '\x7b' :: listText (membersText members) ++ ['\x7d']

def allText : List Value → List (List Char)
  | [] => []
  | value :: values => value.text :: allText values

def membersText : List (String × Value) → List (List Char)
  | [] => []
  | (name, value) :: members => memberText name value.text :: membersText members

end

theorem membersText_eq (members : List (String × Value)) :
    membersText formatDouble members =
      members.map fun m => memberText m.1 (m.2.text formatDouble) := by
  induction members with
  | nil => rfl
  | cons member members ih => rw [membersText, ih, List.map_cons]

variable {formatDouble}

theorem prints_number : ∀ n : Number, Prints (n.serialize formatDouble) (n.text formatDouble)
  | .posInt n => by
    have h := prints_literal (Nat.repr n.toNat)
    rw [Nat.toList_repr] at h
    exact h
  | .negInt n => prints_literal _
  | .float d => prints_literal _

mutual

/-- A value is printed as its text. -/
theorem Value.prints : ∀ value : Value,
    Prints (value.serialize formatDouble) (value.text formatDouble)
  | .null => prints_literal _
  | .bool _ => prints_literal _
  | .number n => prints_number n
  | .string s => prints_string s
  | .array values => prints_array (prints_all values)
  | .object members => by
    have h := prints_object (prints_members members)
    rw [List.map_map] at h
    rw [Value.serialize, Value.text, membersText_eq]
    exact h

theorem prints_all : ∀ values : List Value,
    List.Forall₂ Prints (serializeAll formatDouble values) (allText formatDouble values)
  | [] => .nil
  | value :: values => .cons value.prints (prints_all values)

theorem prints_members : ∀ members : List (String × Value),
    List.Forall₂ (fun m t => m.1 = t.1 ∧ Prints m.2 t.2) (serializeMembers formatDouble members)
      (members.map fun m => (m.1, m.2.text formatDouble))
  | [] => .nil
  | (_, value) :: members => .cons ⟨rfl, value.prints⟩ (prints_members members)

end

end

end Json
