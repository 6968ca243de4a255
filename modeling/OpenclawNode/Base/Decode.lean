import OpenclawNode.Base.Json

/-! Decoding JSON values into structs that deny unknown fields, as derived decoders do. -/
namespace Json

/-- The values of a struct's fields: by name from an object, by position from an array. -/
def structFields (names : List String) : Value → Option (String → Option Value)
  | .object members =>
    if (∀ m ∈ members, m.1 ∈ names) ∧ (members.map Prod.fst).Nodup then
      some fun name => (members.find? (·.1 = name)).map Prod.snd
    else none
  | .array values =>
    if values.length ≤ names.length then some fun name => values[names.idxOf name]? else none
  | _ => none

/-- A struct with one more field at its end finds the others where they were. -/
theorem structFields_snoc {names : List String} {v : Value} {field : String → Option Value}
    (h : structFields names v = some field) {extra : String} (hextra : extra ∉ names) :
    ∃ field', structFields (names ++ [extra]) v = some field' ∧ field' extra = none ∧
      ∀ name ∈ names, field' name = field name := by
  cases v with
  | object members =>
    rw [structFields] at h
    split at h
    · next hm =>
      cases h
      refine ⟨_, if_pos ⟨fun m hmem => List.mem_append_left _ (hm.1 m hmem), hm.2⟩, ?_,
        fun _ _ => rfl⟩
      rw [Option.map_eq_none_iff, List.find?_eq_none]
      intro m hmem he
      rw [← of_decide_eq_true he] at hextra
      exact hextra (hm.1 m hmem)
    · cases h
  | array values =>
    rw [structFields] at h
    split at h
    · next hlength =>
      cases h
      have hlength' : values.length ≤ (names ++ [extra]).length := by
        rw [List.length_append]
        omega
      refine ⟨_, if_pos hlength', ?_, ?_⟩
      · rw [List.idxOf_append_of_notMem hextra]
        exact List.getElem?_eq_none (by omega)
      · intro name hname
        rw [List.idxOf_append_of_mem hname]
    · cases h
  | null | bool _ | number _ | string _ => cases h

def asString : Value → Option String
  | .string s => some s
  | _ => none

def asU64 : Value → Option UInt64
  | .number (.posInt n) => some n
  | .number (.negInt n) => if 0 ≤ n then some n.toUInt64 else none
  | _ => none

/-- A field that must be there. -/
def required {α : Type*} (decode : Value → Option α) (field : Option Value) : Option α :=
  field.bind decode

/-- A field that may be left out but may not be null. -/
def optionalNonNull {α : Type*} (decode : Value → Option α) : Option Value → Option (Option α)
  | none => some none
  | some v => (decode v).map some

/-- A field that may be left out or null. -/
def nullable {α : Type*} (decode : Value → Option α) : Option Value → Option (Option α)
  | none => some none
  | some .null => some none
  | some v => (decode v).map some

/-- What may be left out but not be null may be left out or null. -/
theorem nullable_of_optionalNonNull {field : Option Value} {text : Option String}
    (h : optionalNonNull asString field = some text) : nullable asString field = some text := by
  cases field with
  | none => exact h
  | some v =>
    cases v with
    | null => cases h
    | bool _ | number _ | string _ | array _ | object _ => exact h

end Json
