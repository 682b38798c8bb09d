import FeatureFlags.Json.Basic

/-!
# Lemmas about objects

An object is determined by what `get?` answers (`Members.ext`), and `put` changes
that answer at one key alone (`Tree.get?_put`).
-/

namespace FeatureFlags

namespace Members

/-- Induction on the members of one object, leaving their values alone. -/
@[elab_as_elim, induction_eliminator]
theorem induct {motive : {lo : Option String} → Members lo → Prop}
    (nil : ∀ {lo : Option String}, motive (Members.nil : Members lo))
    (cons : ∀ {lo : Option String} (key : String) (value : Json) (above : Above lo key)
      (rest : Members (some key)), motive rest → motive (Members.cons key value above rest)) :
    {lo : Option String} → (m : Members lo) → motive m
  | _, .nil => nil
  | _, .cons key value above rest => cons key value above rest (induct nil cons rest)

variable {lo : Option String}

@[simp] theorem get?_nil (k : String) : (nil : Members lo).get? k = none := by simp [get?]

@[simp] theorem get?_cons (key : String) (value : Json) (above : Above lo key)
    (rest : Members (some key)) (k : String) :
    (cons key value above rest).get? k = if k = key then some value else rest.get? k := by
  simp [get?]

/-- Keys up to the bound are absent. -/
theorem above_of_get?_eq_some (m : Members lo) {k : String} {v : Json}
    (h : m.get? k = some v) : Above lo k := by
  induction m with
  | nil => simp at h
  | cons key value above rest ih =>
    rw [get?_cons] at h
    split at h
    · next e => exact e ▸ above
    · have hlt : key < k := ih h key rfl
      intro l hl
      exact String.lt_trans (above l hl) hlt

theorem get?_eq_none_of_le (m : Members (some l)) {k : String} (h : ¬ l < k) :
    m.get? k = none := by
  cases hk : m.get? k with
  | none => rfl
  | some v => exact absurd (m.above_of_get?_eq_some hk l rfl) h

theorem get?_insert (m : Members lo) (k : String) (h : Above lo k) (v : Json) (q : String) :
    (m.insert k h v).get? q = if q = k then some v else m.get? q := by
  induction m with
  | nil => simp [insert]
  | cons key value above rest ih =>
    rw [insert]
    split
    · simp
    · split
      · next hk hlt =>
        rw [get?_cons, ih, get?_cons]
        by_cases hq : q = key
        · subst hq
          simp [show q ≠ k from fun e => String.lt_irrefl k (e ▸ hlt)]
        · simp [hq]
      · next hk hlt =>
        have same : key = k := String.le_antisymm (String.not_lt.1 hk) (String.not_lt.1 hlt)
        subst same
        by_cases hq : q = key <;> simp [hq]

theorem mem_keys_iff (m : Members lo) (k : String) : k ∈ m.keys ↔ (m.get? k).isSome := by
  induction m with
  | nil => simp [keys, toList]
  | cons key value above rest ih =>
    rw [keys, toList, List.map_cons, List.mem_cons, ← keys, ih, get?_cons]
    by_cases same : k = key <;> simp [same]

/-- Objects with the same answers are equal. -/
theorem ext {m n : Members lo} (h : ∀ k, m.get? k = n.get? k) : m = n := by
  induction m with
  | nil =>
    cases n with
    | nil => rfl
    | cons key value above rest => simpa using h key
  | cons key value above rest ih =>
    cases n with
    | nil => simpa using h key
    | cons key' value' above' rest' =>
      have hkey : key = key' := by
        by_cases hne : key = key'
        · exact hne
        · have h1 := h key
          have h2 := h key'
          simp only [get?_cons, if_pos, hne, Ne.symm hne, if_false] at h1 h2
          have a := rest'.above_of_get?_eq_some h1.symm key' rfl
          have b := rest.above_of_get?_eq_some h2 key rfl
          exact absurd (String.lt_trans a b) (String.lt_irrefl _)
      subst hkey
      have hv : value = value' := by simpa using h key
      subst hv
      have hrest : rest = rest' := by
        apply ih
        intro k
        have hk := h k
        simp only [get?_cons] at hk
        by_cases e : k = key
        · subst e
          rw [rest.get?_eq_none_of_le (String.lt_irrefl k),
            rest'.get?_eq_none_of_le (String.lt_irrefl k)]
        · simpa [e] using hk
      rw [hrest]

end Members

namespace Tree

@[simp] theorem get?_empty (k : String) : (∅ : Tree).get? k = none := Members.get?_nil k

theorem get?_put (t : Tree) (k : String) (v : Json) (q : String) :
    (t.put k v).get? q = if q = k then some v else t.get? q :=
  Members.get?_insert t k _ v q

theorem get?_put_of_ne (t : Tree) (v : Json) {k q : String} (differ : q ≠ k) :
    (t.put k v).get? q = t.get? q := by
  rw [get?_put, if_neg differ]

/-- Putting what is there changes nothing. -/
theorem put_self {t : Tree} {k : String} {v : Json} (found : t.get? k = some v) :
    t.put k v = t := by
  apply Members.ext
  intro q
  rw [get?_put]
  by_cases same : q = k
  · rw [if_pos same, same, found]
  · rw [if_neg same]

/-- Of two values put at one key the second stays. -/
@[simp] theorem put_put (t : Tree) (k : String) (v w : Json) :
    (t.put k v).put k w = t.put k w := by
  apply Members.ext
  intro q
  simp only [get?_put]
  by_cases same : q = k <;> simp [same]

theorem put_comm (t : Tree) {k k' : String} (differ : k ≠ k') (v w : Json) :
    (t.put k v).put k' w = (t.put k' w).put k v := by
  apply Members.ext
  intro q
  simp only [get?_put]
  by_cases first : q = k
  · subst first
    simp [differ]
  · simp [first]

theorem mem_keys_put_iff {t : Tree} {key key' : String} {value : Json} :
    key ∈ (t.put key' value).keys ↔ key ∈ t.keys ∨ key = key' := by
  simp only [Members.mem_keys_iff, get?_put]
  split <;> simp [*]

/-- A tree has the keys of the list it is made of. -/
theorem mem_keys_ofList_iff {members : List (String × Json)} {key : String} :
    key ∈ (ofList members).keys ↔ key ∈ members.map Prod.fst := by
  have onto (t : Tree) : key ∈ (members.foldl (fun t m => t.put m.1 m.2) t).keys ↔
      key ∈ t.keys ∨ key ∈ members.map Prod.fst := by
    induction members generalizing t with
    | nil => simp
    | cons member rest ih =>
      rw [List.foldl_cons, ih, mem_keys_put_iff, List.map_cons, List.mem_cons, or_assoc]
  rw [ofList, onto]
  simp [Members.mem_keys_iff]

theorem toList_eq_singleton_iff {members : Tree} {key : String} {value : Json} :
    members.toList = [(key, value)] ↔ members = .ofList [(key, value)] := by
  constructor
  · intro listed
    cases members with
    | nil => cases listed
    | cons key' value' above rest =>
      cases rest with
      | nil =>
        cases listed
        rfl
      | cons => cases listed
  · rintro rfl
    rfl

end Tree

end FeatureFlags
