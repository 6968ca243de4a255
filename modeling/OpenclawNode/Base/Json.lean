import OpenclawNode.Base.BoundedWriter
import OpenclawNode.Base.Text

/-! JSON values and the writes of a compact printer. -/
namespace Json

open BigEndian (Bytes)
open BoundedWriter (Serialization)
open Text (utf8)

/-- A finite double by its bits. -/
structure Double where
  bits : UInt64
  finite : bits.toNat / 2 ^ 52 % 2 ^ 11 ≠ 2047
  deriving DecidableEq, Repr

/-- The exact value of a finite double. -/
def Double.value (d : Double) : ℚ :=
  let exponent : ℕ := d.bits.toNat / 2 ^ 52 % 2 ^ 11
  let fraction : ℕ := d.bits.toNat % 2 ^ 52
  let mantissa : ℕ := if exponent = 0 then fraction else 2 ^ 52 + fraction
  let sign : ℚ := if d.bits.toNat / 2 ^ 63 = 1 then -1 else 1
  sign * mantissa * 2 ^ (max exponent 1 - 1075 : ℤ)

/-- An unsigned integer, a negative integer or a finite double. -/
inductive Number
  | posInt (n : UInt64)
  | negInt (n : Int64)
  | float (d : Double)
  deriving DecidableEq, Repr

inductive Value
  | null
  | bool (b : Bool)
  | number (n : Number)
  | string (s : String)
  | array (values : List Value)
  | object (members : List (String × Value))
  deriving Repr

/-- One write of fixed text. -/
def literal (s : String) : Serialization := .ofBytes (utf8 s)

/-- The escape sequence of a character, for those that have one. -/
def escape (c : Char) : Option String :=
  match c with
  | '"' => some "\\\""
  | '\\' => some "\\\\"
  | '\n' => some "\\n"
  | '\r' => some "\\r"
  | '\t' => some "\\t"
  | '\x08' => some "\\b"
  | '\x0c' => some "\\f"
  | c =>
    if c.toNat < 0x20 then
      some (String.ofList ['\\', 'u', '0', '0', Nat.digitChar (c.toNat / 16),
        Nat.digitChar (c.toNat % 16)])
    else none

/-- The writes of a string's contents: runs of plain characters between escape sequences. The
plain characters seen last are still to be written. -/
def escapedRuns (run : List Char) : List Char → List Bytes
  | [] => if run = [] then [] else [utf8 (String.ofList run.reverse)]
  | c :: cs =>
    match escape c with
    | none => escapedRuns (c :: run) cs
    | some sequence =>
      (if run = [] then [] else [utf8 (String.ofList run.reverse)]) ++
        utf8 sequence :: escapedRuns [] cs

def string (s : String) : Serialization :=
  literal "\"" ++ ⟨escapedRuns [] s.toList, false⟩ ++ literal "\""

def nat (n : Nat) : Serialization := literal (Nat.repr n)

def optional {α : Type} (write : α → Serialization) : Option α → Serialization
  | none => literal "null"
  | some a => write a

/-- The parts in order with commas between them. -/
def commaSeparated : List Serialization → Serialization
  | [] => ⟨[], false⟩
  | [part] => part
  | part :: next :: parts => part ++ literal "," ++ commaSeparated (next :: parts)

def array (parts : List Serialization) : Serialization :=
  literal "[" ++ commaSeparated parts ++ literal "]"

def object (members : List (String × Serialization)) : Serialization :=
  literal "\x7b" ++
    commaSeparated (members.map fun (name, part) => string name ++ literal ":" ++ part) ++
    literal "\x7d"

variable (formatDouble : Double → String)

def Number.serialize : Number → Serialization
  | .posInt n => nat n.toNat
  | .negInt n => literal (toString n.toInt)
  | .float d => literal (formatDouble d)

mutual

/-- The printer, given how doubles are formatted. -/
def Value.serialize : Value → Serialization
  | .null => literal "null"
  | .bool b => literal (if b then "true" else "false")
  | .number n => n.serialize formatDouble
  | .string s => string s
  | .array values => array (serializeAll values)
  | .object members => object (serializeMembers members)

def serializeAll : List Value → List Serialization
  | [] => []
  | value :: values => value.serialize :: serializeAll values

def serializeMembers : List (String × Value) → List (String × Serialization)
  | [] => []
  | (name, value) :: members => (name, value.serialize) :: serializeMembers members

end

variable {formatDouble}

theorem failed_commaSeparated {parts : List Serialization} :
    (commaSeparated parts).failed = parts.any Serialization.failed := by
  induction parts with
  | nil => rfl
  | cons part parts ih =>
    cases parts with
    | nil => simp [commaSeparated]
    | cons next parts => simp [commaSeparated, ih, literal]

@[simp] theorem failed_literal (s : String) : (literal s).failed = false := rfl

@[simp] theorem failed_string (s : String) : (string s).failed = false := by
  simp [string]

theorem failed_array (parts : List Serialization) :
    (array parts).failed = parts.any Serialization.failed := by
  simp [array, failed_commaSeparated]

theorem failed_object (members : List (String × Serialization)) :
    (object members).failed = members.any fun member => member.2.failed := by
  simp [object, failed_commaSeparated, List.any_map, Function.comp_def]

mutual

/-- Printing a value never fails. -/
theorem Value.failed_serialize : ∀ value : Value,
    (value.serialize formatDouble).failed = false
  | .null => rfl
  | .bool _ => rfl
  | .number (.posInt _) => rfl
  | .number (.negInt _) => rfl
  | .number (.float _) => rfl
  | .string s => failed_string s
  | .array values => by rw [Value.serialize, failed_array, failed_serializeAll values]
  | .object members => by rw [Value.serialize, failed_object, failed_serializeMembers members]

theorem failed_serializeAll : ∀ values : List Value,
    (serializeAll formatDouble values).any Serialization.failed = false
  | [] => rfl
  | value :: values => by
    rw [serializeAll, List.any_cons, value.failed_serialize, failed_serializeAll values]
    rfl

theorem failed_serializeMembers : ∀ members : List (String × Value),
    ((serializeMembers formatDouble members).any fun member => member.2.failed) = false
  | [] => rfl
  | (name, value) :: members => by
    rw [serializeMembers, List.any_cons, value.failed_serialize, failed_serializeMembers members]
    rfl

end

end Json
