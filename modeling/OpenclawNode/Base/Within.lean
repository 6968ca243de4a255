import OpenclawNode.Base.JsonTree

/-! Values that have all that another value has, and may have more members. -/
namespace Json

mutual

/-- The other value has all that this one has: each member once, in any order and among members of
other names. -/
def Value.Within : Value → Value → Prop
  | .object members, v => ∃ others, v = .object others ∧ MembersWithin members others
  | .null, v => v = .null
  | .bool b, v => v = .bool b
  | .number n, v => v = .number n
  | .string s, v => v = .string s
  | .array values, v => v = .array values

def MembersWithin : List (String × Value) → List (String × Value) → Prop
  | [], _ => True
  | (name, value) :: members, others =>
    (∃ other, others.filter (·.1 = name) = [(name, other)] ∧ value.Within other) ∧
      MembersWithin members others

end

variable {members others others' : List (String × Value)} {name : String} {value : Value}

theorem MembersWithin.mem (h : MembersWithin members others) (hm : (name, value) ∈ members) :
    ∃ other, others.filter (·.1 = name) = [(name, other)] ∧ value.Within other := by
  induction members with
  | nil => cases hm
  | cons head members ih =>
    rcases List.mem_cons.mp hm with rfl | hm
    · exact h.1
    · exact ih h.2 hm

/-- Only the members of these names count. -/
theorem MembersWithin.congr (h : MembersWithin members others)
    (hsame : ∀ name ∈ members.map Prod.fst,
      others'.filter (·.1 = name) = others.filter (·.1 = name)) :
    MembersWithin members others' := by
  induction members with
  | nil => trivial
  | cons head members ih =>
    obtain ⟨⟨other, hother, hvalue⟩, hrest⟩ := h
    refine ⟨⟨other, ?_, hvalue⟩, ih hrest fun name hm => hsame name (List.mem_cons_of_mem _ hm)⟩
    rw [hsame head.1 List.mem_cons_self, hother]

/-- What its name finds of a member that comes once. -/
theorem find_of_filter {other : Value} (h : others.filter (·.1 = name) = [(name, other)]) :
    others.find? (·.1 = name) = some (name, other) := by
  rw [← List.head?_filter, h]
  rfl

theorem filter_of_nodup (h : (members.map Prod.fst).Nodup) (hm : (name, value) ∈ members) :
    members.filter (·.1 = name) = [(name, value)] := by
  induction members with
  | nil => cases hm
  | cons head members ih =>
    rw [List.map_cons, List.nodup_cons] at h
    rcases List.mem_cons.mp hm with rfl | hm
    · have hnone : members.filter (·.1 = name) = [] := by
        refine List.filter_eq_nil_iff.mpr fun m hm he => h.1 ?_
        have hname : m.1 = name := of_decide_eq_true he
        exact List.mem_map.mpr ⟨m, hm, hname⟩
      rw [List.filter_cons_of_pos (by simp), hnone]
    · have hne : head.1 ≠ name := fun he => h.1 (he ▸ List.mem_map_of_mem hm)
      rw [List.filter_cons_of_neg (by simpa using hne)]
      exact ih h.2 hm

variable {number : Number → Prop}

mutual

/-- A value whose objects hold each name once has all that it has. -/
theorem Value.Within.refl : ∀ v : Value, v.Forall number List.Nodup → v.Within v
  | .object members, h => ⟨members, rfl, MembersWithin.refl members members h.2
      fun _ _ hm => filter_of_nodup h.1 hm⟩
  | .null, _ => rfl
  | .bool _, _ => rfl
  | .number _, _ => rfl
  | .string _, _ => rfl
  | .array _, _ => rfl

theorem MembersWithin.refl : ∀ members others : List (String × Value),
    ForallMembers number List.Nodup members →
    (∀ name value, (name, value) ∈ members → others.filter (·.1 = name) = [(name, value)]) →
    MembersWithin members others
  | [], _, _, _ => trivial
  | (name, value) :: members, others, h, hm =>
    ⟨⟨value, hm name value List.mem_cons_self, Value.Within.refl value h.1⟩,
      MembersWithin.refl members others h.2 fun name value hmem =>
        hm name value (List.mem_cons_of_mem _ hmem)⟩

end

end Json
