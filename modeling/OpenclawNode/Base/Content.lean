import OpenclawNode.Base.Decode

/-! Decoding JSON values into structs and internally tagged enums, as derived decoders do from what
they have buffered. -/
namespace Json

/-- The values of a struct's fields: by name from an object, by position from an array, which then
gives all of them. -/
def exactFields (names : List String) : Value → Option (String → Option Value)
  | .object members =>
    if (∀ m ∈ members, m.1 ∈ names) ∧ (members.map Prod.fst).Nodup then
      some fun name => (members.find? (·.1 = name)).map Prod.snd
    else none
  | .array values =>
    if values.length = names.length then some fun name => values[names.idxOf name]? else none
  | _ => none

/-- The tag of an internally tagged enum, and the content that is left for its variant. -/
def splitTag (tag : String) : Value → Option (Value × Value)
  | .object members =>
    match members.filter (·.1 = tag) with
    | [(_, value)] => some (value, .object (members.filter (·.1 ≠ tag)))
    | _ => none
  | .array (value :: values) => some (value, .array values)
  | _ => none

/-- A variant by its name or by its place. -/
def asVariant (names : List String) : Value → Option String
  | .string s => if s ∈ names then some s else none
  | .number (.posInt n) => names[n.toNat]?
  | _ => none

/-- A unit variant as a name, or as an object that gives the name nothing. -/
def asUnitVariant {α : Type} (ofName : String → Option α) : Value → Option α
  | .string s => ofName s
  | .object [(s, .null)] => ofName s
  | .object [(s, .object [])] => ofName s
  | _ => none

def asU16 (v : Value) : Option UInt16 :=
  (asU64 v).bind fun n => if n.toNat < 2 ^ 16 then some n.toUInt16 else none

def asU32 (v : Value) : Option UInt32 :=
  (asU64 v).bind fun n => if n.toNat < 2 ^ 32 then some n.toUInt32 else none

def asList {α : Type} (decode : Value → Option α) : Value → Option (List α)
  | .array values => values.mapM decode
  | _ => none

/-- A field that must be there and may be null. -/
def orNull {α : Type} (decode : Value → Option α) : Value → Option (Option α)
  | .null => some none
  | v => (decode v).map some

/-- Put a member where its name belongs. The last one of a name stays. -/
def insertMember (name : String) (value : Value) : List (String × Value) → List (String × Value)
  | [] => [(name, value)]
  | (other, v) :: members =>
    if name < other then (name, value) :: (other, v) :: members
    else if name = other then (name, value) :: members
    else (other, v) :: insertMember name value members

mutual

/-- A value whose objects hold each name once, in order. -/
def Value.normal : Value → Value
  | .array values => .array (normalAll values)
  | .object members => .object (normalMembers [] members)
  | .null => .null
  | .bool b => .bool b
  | .number n => .number n
  | .string s => .string s

def normalAll : List Value → List Value
  | [] => []
  | value :: values => value.normal :: normalAll values

def normalMembers (read : List (String × Value)) : List (String × Value) → List (String × Value)
  | [] => read
  | (name, value) :: members => normalMembers (insertMember name value.normal read) members

end

/-- A value is written with these fields, each of which is as it should be: as an object, or where
arrays are taken also by position. -/
def WrittenAs (arrays : Bool) (names : List String) (component : String → Value → Prop) :
    Value → Prop
  | .object members => (members.map Prod.fst).Nodup ∧
      ∀ m ∈ members, m.1 ∈ names ∧ component m.1 m.2
  | .array values => arrays = true ∧ values.length = names.length ∧
      ∀ (i : Nat) (name : String) (value : Value), names[i]? = some name →
        values[i]? = some value → component name value
  | _ => False

/-- An array all of whose values are of a kind. -/
def asArrayOf (P : Value → Prop) : Value → Prop
  | .array values => ∀ value ∈ values, P value
  | _ => False

theorem asArrayOf.imp {P Q : Value → Prop} {v : Value} (h : asArrayOf P v) (hpq : ∀ v, P v → Q v) :
    asArrayOf Q v := by
  cases v with
  | array values => exact fun value hm => hpq value (h value hm)
  | null | bool _ | number _ | string _ | object _ => exact h

theorem required_eq_some {α : Type} {decode : Value → Option α} {found : Option Value} {a : α} :
    required decode found = some a ↔ ∃ value, found = some value ∧ decode value = some a :=
  Option.bind_eq_some_iff

theorem forall_of_mapM {α : Type} {decode : Value → Option α} {values : List Value} {as : List α}
    (h : values.mapM decode = some as) : ∀ value ∈ values, ∃ a, decode value = some a := by
  induction values generalizing as with
  | nil => exact fun _ hm => nomatch hm
  | cons value values ih =>
    simp only [List.mapM_cons, Option.bind_eq_bind, Option.bind_eq_some_iff] at h
    obtain ⟨a, ha, as, has, -⟩ := h
    exact List.forall_mem_cons.mpr ⟨⟨a, ha⟩, ih has⟩

theorem asArrayOf_of_asList {α : Type} {decode : Value → Option α} {v : Value} {as : List α}
    (h : asList decode v = some as) : asArrayOf (fun value => ∃ a, decode value = some a) v := by
  cases v with
  | array values => exact forall_of_mapM h
  | null | bool _ | number _ | string _ | object _ => cases h

variable {names : List String} {component : String → Value → Prop} {v : Value}

/-- In an object without repetition a member is what its name finds. -/
theorem find_member {members : List (String × Value)} (h : (members.map Prod.fst).Nodup)
    {m : String × Value} (hm : m ∈ members) : members.find? (·.1 = m.1) = some m := by
  induction members with
  | nil => cases hm
  | cons head members ih =>
    rw [List.map_cons, List.nodup_cons] at h
    rcases List.mem_cons.mp hm with rfl | hm
    · simp
    · have hne : head.1 ≠ m.1 := fun he => h.1 (he ▸ List.mem_map_of_mem hm)
      rw [List.find?_cons_of_neg (by simpa using hne)]
      exact ih h.2 hm

/-- What fields are read from is written with these fields and no others. -/
theorem writtenAs_of_exactFields (hn : names.Nodup) {field : String → Option Value}
    (h : exactFields names v = some field)
    (hc : ∀ name ∈ names, ∀ value, field name = some value → component name value) :
    WrittenAs true names component v := by
  cases v with
  | object members =>
    rw [exactFields] at h
    split at h
    · next hm =>
      cases h
      refine ⟨hm.2, fun m hmem => ⟨hm.1 m hmem, hc m.1 (hm.1 m hmem) m.2 ?_⟩⟩
      show (members.find? (·.1 = m.1)).map Prod.snd = some m.2
      rw [find_member hm.2 hmem]
      rfl
    · cases h
  | array values =>
    rw [exactFields] at h
    split at h
    · next hl =>
      cases h
      refine ⟨rfl, hl, fun i name value hi hv => ?_⟩
      obtain ⟨hlt, rfl⟩ := List.getElem?_eq_some_iff.mp hi
      refine hc _ (List.getElem_mem hlt) value ?_
      show values[names.idxOf names[i]]? = some value
      rw [hn.idxOf_getElem]
      exact hv
    · cases h
  | null | bool _ | number _ | string _ => cases h

/-- Names that come once each without the tag, which comes once, come once each. -/
theorem nodup_of_filter (tag : String) {members : List (String × Value)}
    (h : ((members.filter (·.1 ≠ tag)).map Prod.fst).Nodup)
    (htag : (members.filter (·.1 = tag)).length ≤ 1) : (members.map Prod.fst).Nodup := by
  induction members with
  | nil => exact List.nodup_nil
  | cons head members ih =>
    rw [List.map_cons, List.nodup_cons]
    by_cases he : head.1 = tag
    · rw [List.filter_cons_of_neg (by simpa using he)] at h
      rw [List.filter_cons_of_pos (by simpa using he), List.length_cons] at htag
      refine ⟨fun hm => ?_, ih h (by omega)⟩
      obtain ⟨m, hm, hname⟩ := List.mem_map.mp hm
      have hfound : m ∈ members.filter (·.1 = tag) :=
        List.mem_filter.mpr ⟨hm, by simpa using hname.trans he⟩
      have hpos := List.length_pos_of_mem hfound
      omega
    · rw [List.filter_cons_of_pos (by simpa using he), List.map_cons, List.nodup_cons] at h
      rw [List.filter_cons_of_neg (by simpa using he)] at htag
      refine ⟨fun hm => h.1 ?_, ih h.2 htag⟩
      obtain ⟨m, hm, hname⟩ := List.mem_map.mp hm
      exact List.mem_map.mpr ⟨m, List.mem_filter.mpr ⟨hm, by simpa [hname] using he⟩, hname⟩

/-- The tag is one more field, the first. -/
theorem writtenAs_of_splitTag {tag : String} {value content : Value}
    (h : splitTag tag v = some (value, content)) (hc : WrittenAs true names component content)
    (ht : ∀ value, component tag value) : WrittenAs true (tag :: names) component v := by
  cases v with
  | object members =>
    rw [splitTag] at h
    split at h
    · next name found hfound =>
      cases h
      obtain ⟨hnodup, hfields⟩ := hc
      refine ⟨nodup_of_filter tag hnodup (by rw [hfound]; exact le_rfl), fun m hm => ?_⟩
      by_cases he : m.1 = tag
      · exact ⟨he ▸ List.mem_cons_self, he ▸ ht m.2⟩
      · obtain ⟨hname, hcomponent⟩ := hfields m (List.mem_filter.mpr ⟨hm, by simpa using he⟩)
        exact ⟨List.mem_cons_of_mem _ hname, hcomponent⟩
    · cases h
  | array values =>
    cases values with
    | nil => cases h
    | cons head values =>
      cases h
      obtain ⟨-, hl, hfields⟩ := hc
      refine ⟨rfl, by simpa using hl, fun i name value hi hv => ?_⟩
      cases i with
      | zero =>
        cases hi
        exact ht value
      | succ i => exact hfields i name value hi hv
  | null | bool _ | number _ | string _ => cases h

end Json
