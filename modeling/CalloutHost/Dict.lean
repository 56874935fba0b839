/-!
# Dictionaries

A dictionary holds at most one value for each name, in the order of the names. Giving a name a value
changes what is found under this name and nothing else (`Dict.get?_insert`).
-/

namespace CalloutHost

/-- Names with a value each, in strictly ascending order. -/
structure Dict (α : Type) where
  toList : List (String × α)
  ascending : toList.Pairwise fun a b => a.1 < b.1

namespace Dict

variable {α : Type}

/-- No names. -/
def empty : Dict α := ⟨[], .nil⟩

instance : Inhabited (Dict α) := ⟨empty⟩

/-- Dictionaries are the same when their lists are. -/
@[ext] theorem ext {d e : Dict α} (h : d.toList = e.toList) : d = e := by
  cases d; cases e; simp_all

instance [DecidableEq α] : DecidableEq (Dict α) := fun d e =>
  decidable_of_iff (d.toList = e.toList) ⟨ext, fun h => h ▸ rfl⟩

/-- The value of a name. -/
def get? (d : Dict α) (name : String) : Option α := (d.toList.find? (·.1 = name)).map (·.2)

/-- Whether a name has a value. -/
def contains (d : Dict α) (name : String) : Bool := d.toList.any (·.1 = name)

/-- The number of names. -/
def size (d : Dict α) : Nat := d.toList.length

/-- Whether there is no name. -/
def isEmpty (d : Dict α) : Bool := d.toList.isEmpty

/-- Puts a value at its place in a list. -/
def insertList (name : String) (value : α) : List (String × α) → List (String × α)
  | [] => [(name, value)]
  | (key, old) :: rest =>
    if name < key then (name, value) :: (key, old) :: rest
    else if name = key then (name, value) :: rest
    else (key, old) :: insertList name value rest

/-- What is in a list after a value was put into it. -/
theorem mem_insertList {name : String} {value : α} {entry : String × α} :
    ∀ {l : List (String × α)}, entry ∈ insertList name value l →
      entry = (name, value) ∨ entry ∈ l
  | [], h => by simpa [insertList] using h
  | (key, old) :: rest, h => by
    rw [insertList] at h
    split at h
    · rcases List.mem_cons.1 h with h | h
      · exact .inl h
      · exact .inr h
    · split at h
      · rcases List.mem_cons.1 h with h | h
        · exact .inl h
        · exact .inr (List.mem_cons_of_mem _ h)
      · rcases List.mem_cons.1 h with h | h
        · exact .inr (h ▸ List.mem_cons_self ..)
        · rcases mem_insertList h with h | h
          · exact .inl h
          · exact .inr (List.mem_cons_of_mem _ h)

/-- Names that are neither below nor the same are above. -/
theorem lt_of_not {a b : String} (h : ¬a < b) (hne : a ≠ b) : b < a :=
  Decidable.byContradiction fun hba =>
    hne (String.le_antisymm (String.not_lt.1 hba) (String.not_lt.1 h))

/-- The names still ascend after a value was put in its place. -/
theorem insertList_ascending (name : String) (value : α) :
    ∀ {l : List (String × α)}, (l.Pairwise fun a b => a.1 < b.1) →
      (insertList name value l).Pairwise fun a b => a.1 < b.1
  | [], _ => by simp [insertList]
  | (key, old) :: rest, h => by
    obtain ⟨hkey, hrest⟩ := List.pairwise_cons.1 h
    rw [insertList]
    split
    · next hlt =>
      refine List.pairwise_cons.2 ⟨fun entry hmem => ?_, h⟩
      rcases List.mem_cons.1 hmem with rfl | hmem
      · exact hlt
      · exact String.lt_trans hlt (hkey entry hmem)
    · split
      · next heq =>
        subst heq
        exact List.pairwise_cons.2 ⟨hkey, hrest⟩
      · next hlt hne =>
        refine List.pairwise_cons.2 ⟨fun entry hmem => ?_, insertList_ascending name value hrest⟩
        rcases mem_insertList hmem with rfl | hmem
        · exact lt_of_not hlt hne
        · exact hkey entry hmem

/-- Gives a name a value, in place of the one that it had. -/
def insert (d : Dict α) (name : String) (value : α) : Dict α :=
  ⟨insertList name value d.toList, insertList_ascending name value d.ascending⟩

/-- The names and values of a list, of two values for one name the later. -/
def ofList (entries : List (String × α)) : Dict α :=
  entries.foldl (fun d (name, value) => d.insert name value) empty

/-! ## Looking up -/

/-- Looking a name up in a list into which a value was put. -/
theorem find?_insertList (name key : String) (value : α) (l : List (String × α)) :
    (insertList name value l).find? (·.1 = key) =
      if key = name then some (name, value) else l.find? (·.1 = key) := by
  induction l with
  | nil => by_cases hkey : key = name <;> simp [insertList, hkey, eq_comm]
  | cons entry rest ih =>
    obtain ⟨first, old⟩ := entry
    rw [insertList]
    by_cases hkey : key = name
    · subst hkey
      split
      · simp
      · split
        · simp
        · next hne => simp [ih, Ne.symm hne]
    · split
      · simp [Ne.symm hkey]
      · split
        · next heq => simp [← heq, Ne.symm hkey]
        · simp [List.find?_cons, ih, hkey]

/-- The value of a name after a name was given one. -/
theorem get?_insert (d : Dict α) (name key : String) (value : α) :
    (d.insert name value).get? key = if key = name then some value else d.get? key := by
  rw [get?, insert, find?_insertList]
  split <;> rfl

theorem contains_eq_isSome (d : Dict α) (name : String) :
    d.contains name = (d.get? name).isSome := by
  rw [contains, get?, Option.isSome_map, List.isSome_find?]

theorem length_insertList {name : String} {l : List (String × α)}
    (h : ∀ entry ∈ l, entry.1 ≠ name) (value : α) :
    (insertList name value l).length = l.length + 1 := by
  induction l with
  | nil => rfl
  | cons entry rest ih =>
    obtain ⟨first, old⟩ := entry
    have hrest := ih fun entry hmem => h entry (List.mem_cons_of_mem _ hmem)
    rw [insertList, if_neg (h (first, old) (List.mem_cons_self ..)).symm]
    split
    · rfl
    · rw [List.length_cons, hrest, List.length_cons]

/-- A name that had no value makes one more. -/
theorem size_insert {d : Dict α} {name : String} (h : d.get? name = none) (value : α) :
    (d.insert name value).size = d.size + 1 := by
  refine length_insertList (fun entry hmem heq => ?_) value
  rw [get?, Option.map_eq_none_iff, List.find?_eq_none] at h
  exact h entry hmem (decide_eq_true heq)

end Dict

end CalloutHost
