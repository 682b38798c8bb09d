import FeatureFlags.Proofs.Tree.OnlyLists
import Mathlib.Data.List.Induction
import Mathlib.Data.List.Pairwise

/-!
# Lists laid over one another

A sync lays the lists offered by its observers over one another, each at a path of its own
choosing. Paths may overlap, and then the later offer takes away what the earlier ones left
in its way: at any path it is the last offer touching it that decides what is read there
(`Tree.listAt_stack`). Offers at paths apart do not meet, and laying them over one another
comes to the same as writing them (`Tree.writeLists_eq_stack`).
-/

namespace FeatureFlags

/-- A list of strings offered for a path, or nothing. -/
structure Offer where
  path : Path
  list : Option (List String)
  deriving DecidableEq

namespace Offer

/-- The tree with the offered list and nothing else. -/
def fragment (offer : Offer) : Tree :=
  match offer.list with
  | some list => Tree.only offer.path (.ofStrings list)
  | none => ∅

/-- Whether laying the offer over a tree bears on what is read at a path. -/
def Touches (offer : Offer) (q : Path) : Prop :=
  offer.path ≠ [] ∧ offer.list.isSome ∧ offer.path.Overlaps q

/-- What an offer that touches a path leaves to be read there. -/
def listAt (offer : Offer) (q : Path) : Option (List String) :=
  if offer.path = q then offer.list else none

/-- The offered list with its path. -/
def entry? (offer : Offer) : Option (Path × List String) :=
  offer.list.map fun list => (offer.path, list)

instance (offer : Offer) (q : Path) : Decidable (offer.Touches q) :=
  inferInstanceAs (Decidable (_ ∧ _ ∧ _))

theorem listAt_self (offer : Offer) : offer.listAt offer.path = offer.list := if_pos rfl

theorem listAt_of_ne {offer : Offer} {q : Path} (h : offer.path ≠ q) : offer.listAt q = none :=
  if_neg h

end Offer

namespace Tree

/-- The offers laid over one another, the later over the earlier. -/
def stack (offers : List Offer) : Tree :=
  offers.foldl (fun t offer => t.merge offer.fragment) ∅

/-- Lists written one after the other, up to the first write that fails. -/
def writeLists (t : Tree) : List (Path × List String) → Written
  | [] => ⟨t, none⟩
  | (path, list) :: rest =>
    match t.writeList path list with
    | ⟨written, none⟩ => written.writeLists rest
    | failed => failed

theorem OnlyLists.merge_fragment {t : Tree} (h : t.OnlyLists) (offer : Offer) :
    (t.merge offer.fragment).OnlyLists := by
  cases found : offer.list with
  | none => simpa [Offer.fragment, found] using h
  | some list => simpa [Offer.fragment, found] using h.merge_only offer.path list

theorem onlyLists_stack (offers : List Offer) : (stack offers).OnlyLists := by
  induction offers using List.reverseRecOn with
  | nil => exact onlyLists_empty
  | append_singleton offers offer ih => simpa [stack] using ih.merge_fragment offer

theorem listAt_merge_fragment (t : Tree) (offer : Offer) (q : Path) :
    (t.merge offer.fragment).listAt q =
      if offer.Touches q then offer.listAt q else t.listAt q := by
  cases found : offer.list with
  | none => simp [Offer.fragment, Offer.Touches, found]
  | some list =>
    by_cases empty : offer.path = []
    · simp [Offer.fragment, Offer.Touches, found, empty, only]
    · simp only [Offer.fragment, found]
      rw [listAt_merge_only t empty]
      by_cases same : q = offer.path
      · simp [same, Offer.Touches, Offer.listAt, found, empty]
      · simp [same, Ne.symm same, Offer.Touches, Offer.listAt, found, empty]

theorem listAt_stack_concat (offers : List Offer) (offer : Offer) (q : Path) :
    (stack (offers ++ [offer])).listAt q =
      if offer.Touches q then offer.listAt q else (stack offers).listAt q := by
  simp [stack, listAt_merge_fragment]

/-- What an offer leaves at a path it touches is read there, unless a later one that
    touches the path too says otherwise. -/
theorem listAt_stack (before : List Offer) (offer : Offer) (after : List Offer) {q : Path}
    (touches : offer.Touches q)
    (agree : ∀ later ∈ after, later.Touches q → later.listAt q = offer.listAt q) :
    (stack (before ++ offer :: after)).listAt q = offer.listAt q := by
  induction after using List.reverseRecOn with
  | nil => rw [listAt_stack_concat, if_pos touches]
  | append_singleton after last ih =>
    rw [← List.cons_append, ← List.append_assoc, listAt_stack_concat]
    split
    · next touched => exact agree last (by simp) touched
    · exact ih fun later member => agree later (by simp [member])

/-- Whatever is read was offered, and nothing offered later touches it. -/
theorem exists_offer_of_listAt_stack {offers : List Offer} {q : Path} {list : List String}
    (read : (stack offers).listAt q = some list) :
    ∃ before after, offers = before ++ ⟨q, some list⟩ :: after ∧
      ∀ later ∈ after, ¬ later.Touches q := by
  induction offers using List.reverseRecOn with
  | nil => simp [stack] at read
  | append_singleton offers offer ih =>
    rw [listAt_stack_concat] at read
    split at read
    · rw [Offer.listAt] at read
      split at read
      · next same =>
        exact ⟨offers, [], by rw [← same, ← read], by simp⟩
      · cases read
    · next untouched =>
      obtain ⟨before, after, rfl, apart⟩ := ih read
      refine ⟨before, after ++ [offer], by simp, fun later member => ?_⟩
      rcases List.mem_append.1 member with inside | last
      · exact apart later inside
      · rw [List.mem_singleton.1 last]
        exact untouched

/-! ## Offers at paths apart -/

/-- Offers that do not meet are all read back. -/
theorem listAt_stack_of_pairwise {offers : List Offer}
    (apart : offers.Pairwise fun a b => a.path.Apart b.path) {offer : Offer}
    (member : offer ∈ offers) (nonempty : offer.path ≠ []) :
    (stack offers).listAt offer.path = offer.list := by
  obtain ⟨before, after, rfl⟩ := List.append_of_mem member
  cases found : offer.list with
  | some list =>
    rw [← found, ← offer.listAt_self]
    refine listAt_stack before offer after ⟨nonempty, by simp [found], by simp⟩ ?_
    intro later there touches
    have beyond := (List.pairwise_cons.1 (List.pairwise_append.1 apart).2.1).1 later there
    exact absurd touches.2.2 beyond.symm
  | none =>
    cases read : (stack (before ++ offer :: after)).listAt offer.path with
    | none => rfl
    | some list =>
      obtain ⟨first, last, split, -⟩ := exists_offer_of_listAt_stack read
      have other : ⟨offer.path, some list⟩ ∈ before ++ offer :: after := by simp [split]
      have differ : offer ≠ ⟨offer.path, some list⟩ := fun e => by
        rw [e] at found
        cases found
      have symmetric : Std.Symm fun a b : Offer => a.path.Apart b.path := ⟨fun _ _ h => h.symm⟩
      have away := apart.forall member other differ
      exact absurd (Path.overlaps_refl offer.path) away

/-- Of offers that do not meet exactly those are read that hold a list. -/
theorem listAt_stack_eq_some_iff {offers : List Offer}
    (apart : offers.Pairwise fun a b => a.path.Apart b.path)
    (nonempty : ∀ offer ∈ offers, offer.path ≠ []) {q : Path} {list : List String} :
    (stack offers).listAt q = some list ↔ ⟨q, some list⟩ ∈ offers := by
  constructor
  · intro read
    obtain ⟨before, after, rfl, -⟩ := exists_offer_of_listAt_stack read
    simp
  · intro member
    exact listAt_stack_of_pairwise apart member (nonempty _ member)

/-- Offers that do not meet may be laid over one another in any order. -/
theorem stack_perm {offers offers' : List Offer} (order : offers.Perm offers')
    (apart : offers.Pairwise fun a b => a.path.Apart b.path)
    (nonempty : ∀ offer ∈ offers, offer.path ≠ []) : stack offers = stack offers' := by
  have apart' : offers'.Pairwise fun a b => a.path.Apart b.path :=
    order.pairwise apart fun h => h.symm
  have nonempty' : ∀ offer ∈ offers', offer.path ≠ [] := fun offer member =>
    nonempty offer (order.mem_iff.2 member)
  apply ext_listAt (onlyLists_stack offers) (onlyLists_stack offers')
  intro q
  apply Option.ext
  intro list
  rw [listAt_stack_eq_some_iff apart nonempty, listAt_stack_eq_some_iff apart' nonempty',
    order.mem_iff]

theorem writeLists_eq_foldl {t : Tree} (h : t.OnlyLists) (offers : List Offer)
    (apart : offers.Pairwise fun a b => a.path.Apart b.path)
    (nonempty : ∀ offer ∈ offers, offer.path ≠ [])
    (free : ∀ offer ∈ offers, ∀ q, q.Overlaps offer.path → t.listAt q = none) :
    t.writeLists (offers.filterMap Offer.entry?) =
      ⟨offers.foldl (fun t offer => t.merge offer.fragment) t, none⟩ := by
  induction offers generalizing t with
  | nil => rfl
  | cons offer rest ih =>
    obtain ⟨meet, apart⟩ := List.pairwise_cons.1 apart
    have later := ih (h.merge_fragment offer) apart
      (fun offer member => nonempty offer (by simp [member])) fun next member q overlaps => by
        rw [listAt_merge_fragment]
        split
        · rw [Offer.listAt, if_neg]
          rintro rfl
          exact meet next member overlaps
        · exact free next (by simp [member]) q overlaps
    rw [List.foldl_cons, ← later]
    cases found : offer.list with
    | none => simp [Offer.entry?, Offer.fragment, found]
    | some list =>
      have written := h.writeList (nonempty offer (by simp)) list fun q above _ =>
        free offer (by simp) q (.inl above)
      simp [Offer.entry?, Offer.fragment, found, writeLists, written]

theorem writeLists_eq_stack (offers : List Offer)
    (apart : offers.Pairwise fun a b => a.path.Apart b.path)
    (nonempty : ∀ offer ∈ offers, offer.path ≠ []) :
    (∅ : Tree).writeLists (offers.filterMap Offer.entry?) = ⟨stack offers, none⟩ :=
  writeLists_eq_foldl onlyLists_empty offers apart nonempty fun _ _ q _ => listAt_empty q

end Tree

end FeatureFlags
