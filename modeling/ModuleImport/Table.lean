namespace ModuleImport

variable {α : Type}

/-- Entries in ascending order of their names, which excludes two entries of one name. -/
abbrev Ascending (entries : List (String × α)) : Prop :=
  entries.Pairwise fun a b => a.1 < b.1

structure Table (α : Type) where
  entries : List (String × α)
  ascending : Ascending entries

namespace Table

def lookupIn (name : String) : List (String × α) → Option α
  | [] => none
  | (key, value) :: rest => if name = key then some value else lookupIn name rest

def insertInto (name : String) (value : α) : List (String × α) → List (String × α)
  | [] => [(name, value)]
  | (key, old) :: rest =>
    if name = key then (name, value) :: rest
    else if name < key then (name, value) :: (key, old) :: rest
    else (key, old) :: insertInto name value rest

theorem mem_insertInto {name : String} {value : α} {entries : List (String × α)}
    {entry : String × α} (h : entry ∈ insertInto name value entries) :
    entry = (name, value) ∨ entry ∈ entries := by
  induction entries with
  | nil => simpa [insertInto] using h
  | cons head rest ih =>
    rw [insertInto] at h
    split at h
    · rcases List.mem_cons.1 h with h | h
      · exact .inl h
      · exact .inr (List.mem_cons_of_mem _ h)
    · split at h
      · exact List.mem_cons.1 h
      · rcases List.mem_cons.1 h with h | h
        · exact .inr (h ▸ List.mem_cons_self)
        · exact (ih h).imp_right (List.mem_cons_of_mem _)

theorem lt_of_not_lt {a b : String} (ne : a ≠ b) (h : ¬a < b) : b < a := by
  apply String.not_le.1
  intro le
  exact ne (String.le_antisymm le (String.not_lt.1 h))

theorem ascending_insertInto {name : String} {value : α} {entries : List (String × α)}
    (h : Ascending entries) : Ascending (insertInto name value entries) := by
  induction entries with
  | nil => simp [insertInto]
  | cons head rest ih =>
    obtain ⟨below, rest_ascending⟩ := List.pairwise_cons.1 h
    rw [insertInto]
    split
    · rename_i same
      exact List.pairwise_cons.2 ⟨fun b hb => same ▸ below b hb, rest_ascending⟩
    · rename_i ne
      split
      · rename_i lt
        refine List.pairwise_cons.2 ⟨fun b hb => ?_, h⟩
        rcases List.mem_cons.1 hb with rfl | hb
        · exact lt
        · exact String.lt_trans lt (below b hb)
      · rename_i notLt
        refine List.pairwise_cons.2 ⟨fun b hb => ?_, ih rest_ascending⟩
        rcases mem_insertInto hb with rfl | hb
        · exact lt_of_not_lt ne notLt
        · exact below b hb

theorem lookupIn_insertInto (name other : String) (value : α) (entries : List (String × α)) :
    lookupIn other (insertInto name value entries) =
      if other = name then some value else lookupIn other entries := by
  induction entries with
  | nil => simp [insertInto, lookupIn]
  | cons head rest ih =>
    obtain ⟨key, old⟩ := head
    by_cases same : name = key
    · by_cases hother : other = name <;> simp_all [insertInto, lookupIn]
    · by_cases lt : name < key
      · simp [insertInto, lookupIn, same, lt]
      · by_cases hkey : other = key
        · simp [insertInto, lookupIn, same, lt, hkey, Ne.symm same]
        · simp [insertInto, lookupIn, same, lt, hkey, ih]

theorem lookupIn_filter (name other : String) (entries : List (String × α)) :
    lookupIn other (entries.filter (·.1 ≠ name)) =
      if other = name then none else lookupIn other entries := by
  induction entries with
  | nil => simp [lookupIn]
  | cons head rest ih =>
    obtain ⟨key, value⟩ := head
    by_cases hkey : key = name
    · by_cases hother : other = name
      · simpa [hkey, hother] using ih
      · simpa [hkey, hother, lookupIn] using ih
    · by_cases hother : other = key
      · simp [hkey, hother, lookupIn]
      · simpa [hkey, hother, lookupIn] using ih

def empty : Table α := ⟨[], .nil⟩

instance : Inhabited (Table α) := ⟨empty⟩

instance [DecidableEq α] : DecidableEq (Table α) := fun a b =>
  if h : a.entries = b.entries then isTrue (by cases a; cases b; cases h; rfl)
  else isFalse fun eq => h (eq ▸ rfl)

def get? (t : Table α) (name : String) : Option α :=
  lookupIn name t.entries

def contains (t : Table α) (name : String) : Bool :=
  (t.get? name).isSome

def insert (t : Table α) (name : String) (value : α) : Table α :=
  ⟨insertInto name value t.entries, ascending_insertInto t.ascending⟩

def erase (t : Table α) (name : String) : Table α :=
  ⟨t.entries.filter (·.1 ≠ name), t.ascending.filter _⟩

def names (t : Table α) : List String :=
  t.entries.map Prod.fst

@[simp] theorem get?_empty (name : String) : (empty : Table α).get? name = none := rfl

@[simp] theorem get?_insert (t : Table α) (name other : String) (value : α) :
    (t.insert name value).get? other = if other = name then some value else t.get? other :=
  lookupIn_insertInto name other value t.entries

@[simp] theorem get?_erase (t : Table α) (name other : String) :
    (t.erase name).get? other = if other = name then none else t.get? other :=
  lookupIn_filter name other t.entries

theorem ascending_names (t : Table α) : t.names.Pairwise (· < ·) :=
  List.pairwise_map.2 t.ascending

theorem nodup_names (t : Table α) : t.names.Nodup := by
  apply t.ascending_names.imp
  intro a b lt same
  rw [same] at lt
  exact String.lt_irrefl _ lt

theorem mem_names_iff (t : Table α) (name : String) : name ∈ t.names ↔ (t.get? name).isSome := by
  have h (entries : List (String × α)) :
      name ∈ entries.map Prod.fst ↔ (lookupIn name entries).isSome := by
    induction entries with
    | nil => simp [lookupIn]
    | cons head rest ih =>
      by_cases hkey : name = head.1
      · simp [lookupIn, hkey]
      · simp only [List.map_cons, List.mem_cons, hkey, false_or, lookupIn, if_false]
        exact ih
  exact h t.entries

end Table

end ModuleImport
