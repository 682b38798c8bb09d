import FeatureFlags.Proofs.Json.Sameness
import FeatureFlags.Proofs.Tree.Lists

/-!
# Trees of lists

A sync lays lists over one another and never anything else, so that its trees hold lists
of strings, and maps on the way to them that are never empty. Such a tree is determined by
the lists that can be read from it, is the same as no other tree, and takes every write
that no list stands in the way of.
-/

namespace FeatureFlags

/-- A list of strings, or a map with at least one member, all of them of this kind. -/
inductive Json.OnlyLists : Json → Prop
  | list (list : List String) : OnlyLists (.ofStrings list)
  | map (m : Tree) (nonempty : m ≠ ∅)
      (below : ∀ key v, m.get? key = some v → OnlyLists v) : OnlyLists (.object m)

/-- A tree of lists of strings. It may be empty, the maps in it may not. -/
def Tree.OnlyLists (t : Tree) : Prop := ∀ key v, t.get? key = some v → v.OnlyLists

theorem Members.exists_get? {m : Tree} (nonempty : m ≠ ∅) : ∃ key v, m.get? key = some v := by
  cases m with
  | nil => exact absurd rfl nonempty
  | cons key v above rest => exact ⟨key, v, by simp⟩

namespace Json

theorem OnlyLists.members {v : Json} (h : v.OnlyLists) : v.members.OnlyLists := by
  cases h with
  | list list => exact fun key v found => by simp at found
  | map m nonempty below => exact below

theorem OnlyLists.exists_listAt {v : Json} (h : v.OnlyLists) :
    ∃ p list, v.listAt p = some list := by
  induction h with
  | list list => exact ⟨[], list, by simp⟩
  | map m nonempty below ih =>
    obtain ⟨key, v, found⟩ := Members.exists_get? nonempty
    obtain ⟨p, list, read⟩ := ih key v found
    exact ⟨key :: p, list, by simpa [found] using read⟩

theorem OnlyLists.ext {v w : Json} (hv : v.OnlyLists) (hw : w.OnlyLists)
    (h : ∀ p, v.listAt p = w.listAt p) : v = w := by
  induction hv generalizing w with
  | list list =>
    have root := h []
    rw [listAt_nil, stringList?_ofStrings] at root
    exact (stringList?_eq_some_iff.1 root.symm).symm
  | map m nonempty below ih =>
    cases hw with
    | list list => simpa using h []
    | map n nonempty' below' =>
      congr 1
      apply Members.ext
      intro key
      have answers (p : Path) := h (key :: p)
      simp only [listAt_cons, child_object] at answers
      cases hm : m.get? key with
      | none =>
        cases hn : n.get? key with
        | none => rfl
        | some w =>
          obtain ⟨p, list, read⟩ := (below' key w hn).exists_listAt
          simpa [hm, hn, read] using answers p
      | some v =>
        cases hn : n.get? key with
        | none =>
          obtain ⟨p, list, read⟩ := (below key v hm).exists_listAt
          simpa [hm, hn, read] using answers p
        | some w =>
          simp only [hm, hn, Option.getD_some] at answers
          rw [ih key v hm (below' key w hn) answers]

/-- A list put in below a value makes a value of lists, if the members were so already. -/
theorem onlyLists_merge_nest {v : Json} (h : v.members.OnlyLists) (p : Path)
    (list : List String) : (v.merge ((ofStrings list).nest p)).OnlyLists := by
  induction p generalizing v with
  | nil => simpa [nest] using OnlyLists.list list
  | cons key rest ih =>
    have under : (v.child key).members.OnlyLists := by
      cases found : v.members.get? key with
      | none => exact fun k w absent => by simp [child, found] at absent
      | some w => simpa [child, found] using (h key w found).members
    have there := child_merge_nest v (ofStrings list) key rest
    rw [nest, merge_object] at there ⊢
    refine .map _ ?_ ?_
    · intro empty
      have found := Tree.get?_merge v.members ((∅ : Tree).put key ((ofStrings list).nest rest)) key
      rw [empty, Tree.get?_put] at found
      simp at found
    · intro k w found
      have here := there k
      simp only [child_object, found, Option.getD_some] at here
      by_cases same : k = key
      · rw [here, if_pos same]
        exact ih under
      · rw [if_neg same] at here
        rw [Tree.get?_merge, Tree.get?_put, if_neg same] at found
        exact h k w (by simpa using found)

end Json

namespace Tree

theorem onlyLists_empty : (∅ : Tree).OnlyLists := fun key v found => by simp at found

theorem OnlyLists.merge_only {t : Tree} (h : t.OnlyLists) (p : Path) (list : List String) :
    (t.merge (only p (.ofStrings list))).OnlyLists := by
  cases p with
  | nil => simpa [only] using h
  | cons key rest =>
    have merged : ((Json.object t).merge ((Json.ofStrings list).nest (key :: rest))).OnlyLists :=
      Json.onlyLists_merge_nest (v := .object t) h (key :: rest) list
    rw [← object_merge_only t _ (List.cons_ne_nil key rest)] at merged
    exact merged.members

/-- Trees of lists are equal if the same lists can be read from them. -/
theorem ext_listAt {t u : Tree} (ht : t.OnlyLists) (hu : u.OnlyLists)
    (h : ∀ p, t.listAt p = u.listAt p) : t = u := by
  simp only [listAt_eq] at h
  -- An empty tree is no value of lists, so the two cases of emptiness stand apart.
  by_cases et : t = ∅
  · by_cases eu : u = ∅
    · rw [et, eu]
    · obtain ⟨p, list, read⟩ := (Json.OnlyLists.map u eu hu).exists_listAt
      rw [← h p, ← listAt_eq, et, listAt_empty] at read
      cases read
  · by_cases eu : u = ∅
    · obtain ⟨p, list, read⟩ := (Json.OnlyLists.map t et ht).exists_listAt
      rw [h p, ← listAt_eq, eu, listAt_empty] at read
      cases read
    · exact Json.object.inj ((Json.OnlyLists.map t et ht).ext (.map u eu hu) h)

/-! ## Writing a list -/

theorem put_eq_merge (t : Tree) (key : String) (list : List String) :
    t.put key (.ofStrings list) = t.merge (only [key] (.ofStrings list)) := by
  apply Members.ext
  intro k
  rw [get?_put, get?_merge, only, get?_put]
  by_cases same : k = key
  · cases found : t.get? k <;> simp [same, Json.nest]
  · simp [same]

theorem put_object_eq_merge (t : Tree) (key next : String) (rest : Path) (v : Json) :
    t.put key (.object (((Json.object t).child key).members.merge (only (next :: rest) v))) =
      t.merge (only (key :: next :: rest) v) := by
  apply Members.ext
  intro k
  have nested : v.nest (next :: rest) = .object (only (next :: rest) v) := rfl
  have outer : only (key :: next :: rest) v = (∅ : Tree).put key (v.nest (next :: rest)) := rfl
  rw [get?_put, get?_merge, outer, get?_put]
  by_cases same : k = key
  · subst same
    cases found : t.get? k <;> simp [found, nested, Json.merge_object]
  · simp [same]

/-- A write of a list that no list stands in the way of lays it over the tree. -/
theorem OnlyLists.writeBelow {t : Tree} (h : t.OnlyLists) (whole walked : Path) (key : String)
    (rest : Path) (list : List String)
    (free : ∀ q, q <+: key :: rest → q ≠ key :: rest → t.listAt q = none) :
    t.writeBelow whole walked (.ofStrings list) (key :: rest) =
      ⟨t.merge (only (key :: rest) (.ofStrings list)), none⟩ := by
  induction rest generalizing t walked key with
  | nil => rw [← put_eq_merge]; rfl
  | cons next rest ih =>
    rw [writeBelow_cons_cons, ← put_object_eq_merge, Json.child_object]
    cases found : t.get? key with
    | none => simp [writeBelow_empty]
    | some v =>
      cases h key v found with
      | list there =>
        have blocked : t.listAt [key] = some there := by simp [listAt_eq, found]
        rw [free [key] (by simp) (by simp)] at blocked
        cases blocked
      | map m _ below =>
        have inside : m.writeBelow whole (walked ++ [key]) (.ofStrings list) (next :: rest) = _ :=
          ih below (walked ++ [key]) next fun q above proper => by
            have := free (key :: q) (by simpa using above) (by simpa using proper)
            simpa [listAt_eq, found] using this
        simp [inside]

theorem OnlyLists.writeList {t : Tree} (h : t.OnlyLists) {p : Path} (nonempty : p ≠ [])
    (list : List String) (free : ∀ q, q <+: p → q ≠ p → t.listAt q = none) :
    t.writeList p list = ⟨t.merge (only p (.ofStrings list)), none⟩ := by
  cases p with
  | nil => exact absurd rfl nonempty
  | cons key rest => exact h.writeBelow _ _ key rest list free

end Tree

/-! ## Sameness -/

theorem eq_of_sameItems {items : List Json} {list : List String}
    (h : sameItems items (list.map .string) = true) : items = list.map .string := by
  induction list generalizing items with
  | nil => cases items <;> simp [sameItems] at h ⊢
  | cons s list ih =>
    cases items with
    | nil => simp [sameItems] at h
    | cons item rest =>
      simp only [List.map_cons, sameItems, Bool.and_eq_true] at h
      cases item with
      | string t => simp [Json.same] at h; simp [h.1, ih h.2]
      | _ => simp [Json.same] at h

/-- Where sameness of the values is equality, that of the objects is too. -/
theorem Members.eq_of_same {lo : Option String} {m n : Members lo} (h : m.same n = true)
    (values : ∀ key v w, n.get? key = some w → v.same w = true → v = w) : m = n := by
  induction m with
  | nil =>
    cases n with
    | nil => rfl
    | cons key w above rest => simp [Members.same] at h
  | cons key v above rest ih =>
    cases n with
    | nil => simp [Members.same] at h
    | cons key' w above' rest' =>
      simp only [Members.same, Bool.and_eq_true, beq_iff_eq] at h
      obtain ⟨⟨rfl, hv⟩, hrest⟩ := h
      have hvalue : v = w := values key v w (by simp) hv
      have htail : rest = rest' := by
        refine ih hrest fun k u x found => values k u x ?_
        have beyond : k ≠ key := fun e =>
          String.lt_irrefl key (e ▸ rest'.above_of_get?_eq_some found key rfl)
        simpa [beyond] using found
      rw [hvalue, htail]

theorem Json.OnlyLists.eq_of_same {v w : Json} (hw : w.OnlyLists) (h : v.same w = true) :
    v = w := by
  induction hw generalizing v with
  | list list =>
    cases v with
    | array items =>
      rw [ofStrings, Json.same] at h
      rw [eq_of_sameItems h, ofStrings]
    | _ => simp [ofStrings, Json.same] at h
  | map m _ _ ih =>
    cases v with
    | object n =>
      rw [Json.same] at h
      rw [Members.eq_of_same h fun key u w found => ih key w found]
    | _ => simp [Json.same] at h

/-- No other tree is the same as a tree of lists, which holds no numbers. -/
theorem Tree.OnlyLists.same_iff {t u : Tree} (hu : u.OnlyLists) : t.same u = true ↔ t = u := by
  constructor
  · intro h
    exact Members.eq_of_same h fun key v w found => (hu key w found).eq_of_same
  · rintro rfl
    exact Members.same_iff.2 rfl

end FeatureFlags
