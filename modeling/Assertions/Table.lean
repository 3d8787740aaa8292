/-!
Tables: values under names, in the order in which the names came. A value that is put under a
known name takes the place of the one that was there, so of the values that are put under one name
the last one stays.
-/

namespace Assertions

namespace Table

variable {α β : Type}

def put (table : List (String × α)) (name : String) (value : α) : List (String × α) :=
  match table with
  | [] => [(name, value)]
  | (name', value') :: rest =>
      if name' = name then (name, value) :: rest else (name', value') :: put rest name value

def putAll (table : List (String × α)) (entries : List (String × α)) : List (String × α) :=
  entries.foldl (fun table entry => put table entry.1 entry.2) table

def ofList (entries : List (String × α)) : List (String × α) :=
  putAll [] entries

theorem lookup_put (table : List (String × α)) (name other : String) (value : α) :
    (put table name value).lookup other =
      if other = name then some value else table.lookup other := by
  have found (name : String) : (other == name) = decide (other = name) := rfl
  induction table with
  | nil => by_cases h : other = name <;> simp [put, List.lookup_cons, found, h]
  | cons entry rest ih =>
      obtain ⟨name', value'⟩ := entry
      by_cases hn : name' = name
      · by_cases h : other = name <;> simp [put, List.lookup_cons, found, hn, h]
      · by_cases hother : other = name'
        · simp [put, hn, hother]
        · simp [put, List.lookup_cons, found, hn, hother, ih]

theorem lookup_putAll (table entries : List (String × α)) (name : String) :
    (putAll table entries).lookup name = (entries.reverse.lookup name).or (table.lookup name) := by
  induction entries generalizing table with
  | nil => rfl
  | cons entry entries ih =>
      rw [putAll, List.foldl_cons, ← putAll, ih, lookup_put, List.reverse_cons, List.lookup_append,
        Option.or_assoc, List.lookup_cons, List.lookup_nil]
      by_cases same : name = entry.1
      · rw [if_pos same, beq_iff_eq.mpr same, Option.some_or]
      · rw [if_neg same, beq_eq_false_iff_ne.mpr same, Option.none_or]

/-- The last value under a name counts. -/
theorem lookup_ofList (entries : List (String × α)) (name : String) :
    (ofList entries).lookup name = entries.reverse.lookup name := by
  rw [ofList, lookup_putAll, List.lookup_nil, Option.or_none]

theorem lookup_map (f : α → β) (entries : List (String × α)) (name : String) :
    (entries.map fun entry => (entry.1, f entry.2)).lookup name = (entries.lookup name).map f := by
  induction entries with
  | nil => rfl
  | cons entry entries ih =>
      rw [List.map_cons, List.lookup_cons, List.lookup_cons, ih]
      cases name == entry.1 <;> rfl

theorem names_put (table : List (String × α)) (name : String) (value : α) :
    (put table name value).map (·.1) =
      if name ∈ table.map (·.1) then table.map (·.1) else table.map (·.1) ++ [name] := by
  induction table with
  | nil => rfl
  | cons entry rest ih =>
      obtain ⟨name', value'⟩ := entry
      by_cases same : name' = name
      · simp [put, same]
      · have apart : name ≠ name' := fun h => same h.symm
        by_cases known : name ∈ rest.map (·.1)
        · rw [if_pos known] at ih
          simp [put, same, ih, known]
        · rw [if_neg known] at ih
          simp [put, same, ih, known, apart]

theorem nodup_putAll {table : List (String × α)} (distinct : (table.map (·.1)).Nodup)
    (entries : List (String × α)) : ((putAll table entries).map (·.1)).Nodup := by
  induction entries generalizing table with
  | nil => exact distinct
  | cons entry entries ih =>
      refine ih ?_
      rw [names_put]
      split
      · exact distinct
      · rename_i new
        refine List.nodup_append.mpr ⟨distinct, List.nodup_cons.mpr ⟨List.not_mem_nil, .nil⟩, ?_⟩
        rintro other known name last rfl
        exact new (List.mem_singleton.mp last ▸ known)

/-- In a table that is made of a list no name stands twice. -/
theorem nodup_ofList (entries : List (String × α)) : ((ofList entries).map (·.1)).Nodup := by
  have empty : (([] : List (String × α)).map (·.1)).Nodup := .nil
  exact nodup_putAll empty entries

end Table

end Assertions
