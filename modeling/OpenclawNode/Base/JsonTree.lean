import OpenclawNode.Base.Content

/-! What holds at every depth of a value. -/
namespace Json

section

variable (number : Number → Prop) (names : List String → Prop)

mutual

/-- Every number in the value is of this kind, and the names of every object are of that kind. -/
def Value.Forall : Value → Prop
  | .null => True
  | .bool _ => True
  | .number n => number n
  | .string _ => True
  | .array values => ForallAll values
  | .object members => names (members.map Prod.fst) ∧ ForallMembers members

def ForallAll : List Value → Prop
  | [] => True
  | value :: values => value.Forall ∧ ForallAll values

def ForallMembers : List (String × Value) → Prop
  | [] => True
  | (_, value) :: members => value.Forall ∧ ForallMembers members

end

end

mutual

/-- How deep arrays and objects nest. -/
def Value.depth : Value → Nat
  | .null => 0
  | .bool _ => 0
  | .number _ => 0
  | .string _ => 0
  | .array values => depthAll values + 1
  | .object members => depthMembers members + 1

def depthAll : List Value → Nat
  | [] => 0
  | value :: values => max value.depth (depthAll values)

def depthMembers : List (String × Value) → Nat
  | [] => 0
  | (_, value) :: members => max value.depth (depthMembers members)

end

section

variable {number number' number'' : Number → Prop} {names names' names'' : List String → Prop}

mutual

theorem Value.Forall.both (hnumber : ∀ n, number n → number' n → number'' n)
    (hnames : ∀ ns, names ns → names' ns → names'' ns) : ∀ v : Value, v.Forall number names →
    v.Forall number' names' → v.Forall number'' names''
  | .null, _, _ => trivial
  | .bool _, _, _ => trivial
  | .number n, h, h' => hnumber n h h'
  | .string _, _, _ => trivial
  | .array values, h, h' => ForallAll.both hnumber hnames values h h'
  | .object members, h, h' =>
    ⟨hnames _ h.1 h'.1, ForallMembers.both hnumber hnames members h.2 h'.2⟩

theorem ForallAll.both (hnumber : ∀ n, number n → number' n → number'' n)
    (hnames : ∀ ns, names ns → names' ns → names'' ns) : ∀ values : List Value,
    ForallAll number names values → ForallAll number' names' values →
    ForallAll number'' names'' values
  | [], _, _ => trivial
  | value :: values, h, h' =>
    ⟨Value.Forall.both hnumber hnames value h.1 h'.1,
      ForallAll.both hnumber hnames values h.2 h'.2⟩

theorem ForallMembers.both (hnumber : ∀ n, number n → number' n → number'' n)
    (hnames : ∀ ns, names ns → names' ns → names'' ns) : ∀ members : List (String × Value),
    ForallMembers number names members → ForallMembers number' names' members →
    ForallMembers number'' names'' members
  | [], _, _ => trivial
  | (_, value) :: members, h, h' =>
    ⟨Value.Forall.both hnumber hnames value h.1 h'.1,
      ForallMembers.both hnumber hnames members h.2 h'.2⟩

end

theorem forallAll_map {α : Type} (value : α → Value) (h : ∀ a, (value a).Forall number names) :
    ∀ as : List α, ForallAll number names (as.map value)
  | [] => trivial
  | a :: as => ⟨h a, forallAll_map value h as⟩

end

theorem depthAll_map_le {α : Type} (value : α → Value) {d : Nat} (h : ∀ a, (value a).depth ≤ d) :
    ∀ as : List α, depthAll (as.map value) ≤ d
  | [] => Nat.zero_le d
  | a :: as => max_le (h a) (depthAll_map_le value h as)

/-- A map holds its names in order, and an integer is stored as negative only if it is. -/
def Value.Canonical (v : Value) : Prop :=
  v.Forall (fun | .negInt n => n < 0 | _ => True) (List.Pairwise (· < ·))

def Value.FloatFree (v : Value) : Prop :=
  v.Forall (fun | .float _ => False | _ => True) fun _ => True

theorem insertMember_last {name : String} {value : Value} {read : List (String × Value)}
    (h : ∀ m ∈ read, m.1 < name) : insertMember name value read = read ++ [(name, value)] := by
  induction read with
  | nil => rfl
  | cons m read ih =>
    have hm : m.1 < name := h m List.mem_cons_self
    rw [insertMember, if_neg (String.lt_asymm hm), if_neg (String.ne_of_lt hm).symm,
      ih fun m hmem => h m (List.mem_cons_of_mem _ hmem)]
    rfl

mutual

/-- A value whose objects are in order is already as it is kept. -/
theorem Value.normal_eq {number : Number → Prop} : ∀ v : Value,
    v.Forall number (List.Pairwise (· < ·)) → v.normal = v
  | .null, _ => rfl
  | .bool _, _ => rfl
  | .number _, _ => rfl
  | .string _, _ => rfl
  | .array values, h => congrArg Value.array (normalAll_eq values h)
  | .object members, h => congrArg Value.object (normalMembers_eq [] members h.1 h.2)

theorem normalAll_eq {number : Number → Prop} : ∀ values : List Value,
    ForallAll number (List.Pairwise (· < ·)) values → normalAll values = values
  | [], _ => rfl
  | value :: values, h => by rw [normalAll, value.normal_eq h.1, normalAll_eq values h.2]

theorem normalMembers_eq {number : Number → Prop} : ∀ read members : List (String × Value),
    ((read ++ members).map Prod.fst).Pairwise (· < ·) →
    ForallMembers number (List.Pairwise (· < ·)) members →
    normalMembers read members = read ++ members
  | read, [], _, _ => (List.append_nil read).symm
  | read, (name, value) :: members, hnames, h => by
    have hlast : ∀ m ∈ read, m.1 < name := by
      intro m hm
      rw [List.map_append, List.pairwise_append] at hnames
      exact hnames.2.2 m.1 (List.mem_map_of_mem hm) name List.mem_cons_self
    rw [normalMembers, value.normal_eq h.1, insertMember_last hlast,
      normalMembers_eq (read ++ [(name, value)]) members (by simpa using hnames) h.2,
      List.append_assoc]
    rfl

end

end Json
