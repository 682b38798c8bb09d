/-!
# Tables

A finite table with one value per key. The order of its entries says nothing.
-/

namespace FeatureFlags

/-- A list of entries with distinct keys. -/
structure Table (κ α : Type) where
  entries : List (κ × α)
  distinct : (entries.map Prod.fst).Nodup

namespace Table

variable {κ α : Type} [DecidableEq κ]

def empty : Table κ α := ⟨[], List.nodup_nil⟩

instance : EmptyCollection (Table κ α) := ⟨empty⟩

instance : Inhabited (Table κ α) := ⟨empty⟩

/-- The value of a key. -/
def get? (t : Table κ α) (key : κ) : Option α := t.entries.lookup key

/-- The table without a key. -/
def erase (t : Table κ α) (key : κ) : Table κ α :=
  ⟨t.entries.filter (·.1 ≠ key), t.distinct.sublist (List.filter_sublist.map _)⟩

/-- The table with a key given a value. -/
def insert (t : Table κ α) (key : κ) (value : α) : Table κ α :=
  ⟨(key, value) :: (t.erase key).entries, by
    rw [List.map_cons, List.nodup_cons]
    refine ⟨fun h => ?_, (t.erase key).distinct⟩
    obtain ⟨entry, hmem, hkey⟩ := List.mem_map.1 h
    have := (List.mem_filter.1 hmem).2
    simp [hkey] at this⟩

def contains (t : Table κ α) (key : κ) : Bool := (t.get? key).isSome

def size (t : Table κ α) : Nat := t.entries.length

def isEmpty (t : Table κ α) : Bool := t.entries.isEmpty

/-- The table of a list of entries; of several with one key the last is kept. -/
def ofList (entries : List (κ × α)) : Table κ α :=
  entries.foldl (fun t entry => t.insert entry.1 entry.2) ∅

/-! ## What lookups answer -/

@[simp] theorem get?_empty (key : κ) : (∅ : Table κ α).get? key = none := rfl

theorem lookup_cons_eq_ite (entry : κ × α) (rest : List (κ × α)) (key : κ) :
    (entry :: rest).lookup key = if key = entry.1 then some entry.2 else rest.lookup key := by
  obtain ⟨k, v⟩ := entry
  by_cases h : key = k
  · simp [h]
  · simp [List.lookup_cons, h, beq_eq_false_iff_ne.2 h]

theorem lookup_filter_ne (entries : List (κ × α)) (gone key : κ) :
    (entries.filter (·.1 ≠ gone)).lookup key =
      if key = gone then none else entries.lookup key := by
  induction entries with
  | nil => simp
  | cons entry rest ih =>
    rw [List.filter_cons, lookup_cons_eq_ite]
    by_cases hg : entry.1 = gone
    · rw [if_neg (by simp [hg]), ih]
      by_cases hk : key = gone
      · simp [hk]
      · simp [hk, hg]
    · rw [if_pos (by simp [hg]), lookup_cons_eq_ite, ih]
      by_cases hk : key = entry.1
      · simp [hk, hg]
      · simp [hk]

theorem get?_erase (t : Table κ α) (gone key : κ) :
    (t.erase gone).get? key = if key = gone then none else t.get? key :=
  lookup_filter_ne t.entries gone key

theorem get?_insert (t : Table κ α) (k : κ) (v : α) (key : κ) :
    (t.insert k v).get? key = if key = k then some v else t.get? key := by
  rw [get?, insert, lookup_cons_eq_ite]
  by_cases hk : key = k
  · simp [hk]
  · rw [if_neg hk, if_neg hk]
    exact (t.get?_erase k key).trans (if_neg hk)

theorem get?_foldl_insert (t : Table κ α) (entries : List (κ × α)) (key : κ) :
    (entries.foldl (fun t entry => t.insert entry.1 entry.2) t).get? key =
      ((entries.filter (·.1 = key)).getLast?.map Prod.snd).or (t.get? key) := by
  induction entries generalizing t with
  | nil => simp
  | cons entry rest ih =>
    rw [List.foldl_cons, ih, get?_insert]
    by_cases same : entry.1 = key
    · rw [List.filter_cons_of_pos (by simp [same]), List.getLast?_cons, if_pos same.symm]
      cases (rest.filter (·.1 = key)).getLast? <;> rfl
    · rw [List.filter_cons_of_neg (by simp [same]), if_neg (Ne.symm same)]

/-- The last entry of a key has its value. -/
theorem get?_ofList (entries : List (κ × α)) (key : κ) :
    (ofList entries).get? key = (entries.filter (·.1 = key)).getLast?.map Prod.snd := by
  rw [ofList, get?_foldl_insert, get?_empty, Option.or_none]

end Table

end FeatureFlags
