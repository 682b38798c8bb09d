import FeatureFlags.Text.Dotted
import Mathlib.Algebra.Ring.Nat

/-!
# Joining and splitting

A text is split at every dot, and joining what stands between its dots gives the text back
(`Path.ofDotted_eq_iff`). The other way round a path is given back if none of its segments holds
a dot; each dot that one of them holds makes one segment more (`Path.length_ofDotted_dotted`).
-/

namespace FeatureFlags

theorem splitDots_ne_nil (cs : List Char) : splitDots cs ≠ [] := by
  induction cs with
  | nil => simp [splitDots]
  | cons c rest ih =>
    rw [splitDots]
    split
    · simp
    · split <;> simp

theorem splitDots_dot (rest : List Char) : splitDots ('.' :: rest) = [] :: splitDots rest := rfl

theorem splitDots_cons {c : Char} (other : c ≠ '.') {rest run : List Char}
    {runs : List (List Char)} (split : splitDots rest = run :: runs) :
    splitDots (c :: rest) = (c :: run) :: runs := by
  rw [splitDots, if_neg other, split]

theorem splitDots_eq_splitOn (cs : List Char) : splitDots cs = cs.splitOn '.' := by
  induction cs with
  | nil => rfl
  | cons c rest ih =>
    rw [List.splitOn, List.splitOnP_cons_eq_if_modifyHead, ← List.splitOn, ← ih]
    by_cases dot : c = '.'
    · rw [dot]
      rfl
    · obtain ⟨run, runs, split⟩ := List.exists_cons_of_ne_nil (splitDots_ne_nil rest)
      rw [splitDots_cons dot split, split]
      simp [dot]

theorem not_mem_of_mem_splitDots {cs run : List Char} (member : run ∈ splitDots cs) :
    '.' ∉ run := by
  induction cs generalizing run with
  | nil => simp_all [splitDots]
  | cons c rest ih =>
    by_cases dot : c = '.'
    · rw [dot, splitDots_dot] at member
      rcases List.mem_cons.1 member with rfl | later
      · simp
      · exact ih later
    · obtain ⟨first, runs, split⟩ := List.exists_cons_of_ne_nil (splitDots_ne_nil rest)
      rw [splitDots_cons dot split] at member
      rcases List.mem_cons.1 member with rfl | later
      · have inside : '.' ∉ first := ih (by simp [split])
        simp [inside, Ne.symm dot]
      · exact ih (by simp [split, later])

theorem length_splitDots (cs : List Char) : (splitDots cs).length = cs.count '.' + 1 := by
  induction cs with
  | nil => rfl
  | cons c rest ih =>
    by_cases dot : c = '.'
    · rw [dot, splitDots_dot, List.length_cons, ih, List.count_cons_self]
    · obtain ⟨run, runs, split⟩ := List.exists_cons_of_ne_nil (splitDots_ne_nil rest)
      rw [splitDots_cons dot split, List.count_cons_of_ne dot, ← ih, split]
      rfl

/-- Where an empty run can stand: at the front, at the end, or between two dots. -/
theorem nil_mem_of_splitDots {cs run : List Char} {runs : List (List Char)}
    (split : splitDots cs = run :: runs) :
    (run = [] ↔ cs = [] ∨ ['.'] <+: cs) ∧
      ([] ∈ runs ↔ ['.'] <:+ cs ∨ ['.', '.'] <:+: cs) := by
  induction cs generalizing run runs with
  | nil =>
    obtain ⟨rfl, rfl⟩ := List.cons.inj split
    simp
  | cons c rest ih =>
    obtain ⟨first, others, below⟩ := List.exists_cons_of_ne_nil (splitDots_ne_nil rest)
    obtain ⟨front, behind⟩ := ih below
    by_cases dot : c = '.'
    · subst dot
      rw [splitDots_dot, below] at split
      obtain ⟨rfl, rfl⟩ := List.cons.inj split
      have before : ['.'] <:+ '.' :: rest ↔ rest = [] ∨ ['.'] <:+ rest := by
        simp [List.suffix_cons_iff, eq_comm]
      have pair : ['.', '.'] <:+: '.' :: rest ↔ ['.'] <+: rest ∨ ['.', '.'] <:+: rest := by
        simp [List.infix_cons_iff]
      have first_empty : [] = first ↔ rest = [] ∨ ['.'] <+: rest := by rw [eq_comm, front]
      refine ⟨by simp, ?_⟩
      rw [List.mem_cons, first_empty, behind, before, pair, or_or_or_comm]
    · rw [splitDots_cons dot below] at split
      obtain ⟨rfl, rfl⟩ := List.cons.inj split
      rw [behind, List.suffix_cons_iff, List.infix_cons_iff]
      simp [Ne.symm dot]

/-- The segments of the path are what stands between the dots of the text. -/
structure Path.Between (path : Path) (s : String) : Prop where
  nonempty : path ≠ []
  joined : path.dotted = s
  undotted : ∀ segment ∈ path, '.' ∉ segment.toList

namespace Path

theorem toList_dotted (path : Path) :
    path.dotted.toList = ['.'].intercalate (path.map String.toList) :=
  String.toList_intercalate

theorem map_toList_ofDotted (s : String) :
    (ofDotted s).map String.toList = splitDots s.toList := by
  simp [ofDotted, Function.comp_def]

/-- Joining what stands between the dots gives the text back. -/
theorem dotted_ofDotted (s : String) : (ofDotted s).dotted = s := by
  rw [← String.toList_inj, toList_dotted, map_toList_ofDotted, splitDots_eq_splitOn]
  exact List.intercalate_splitOn '.'

theorem between_ofDotted (s : String) : (ofDotted s).Between s where
  nonempty := by
    rw [ofDotted, ne_eq, List.map_eq_nil_iff]
    exact splitDots_ne_nil s.toList
  joined := dotted_ofDotted s
  undotted := by
    intro segment member
    have run := List.mem_map_of_mem (f := String.toList) member
    rw [map_toList_ofDotted] at run
    exact not_mem_of_mem_splitDots run

/-- A path whose segments hold no dots is given back. -/
theorem ofDotted_dotted {path : Path} (nonempty : path ≠ [])
    (undotted : ∀ segment ∈ path, '.' ∉ segment.toList) : ofDotted path.dotted = path := by
  have runs : splitDots path.dotted.toList = path.map String.toList := by
    rw [splitDots_eq_splitOn, toList_dotted]
    apply List.splitOn_intercalate
    · simpa using undotted
    · simpa using nonempty
  rw [ofDotted, runs, List.map_map]
  simp [Function.comp_def]

/-- There is one way to split a text. -/
theorem ofDotted_eq_iff {path : Path} {s : String} : ofDotted s = path ↔ path.Between s := by
  constructor
  · rintro rfl
    exact between_ofDotted s
  · rintro ⟨nonempty, rfl, undotted⟩
    exact ofDotted_dotted nonempty undotted

theorem empty_mem_ofDotted_iff (s : String) :
    "" ∈ ofDotted s ↔
      s = "" ∨ ['.'] <+: s.toList ∨ ['.'] <:+ s.toList ∨ ['.', '.'] <:+: s.toList := by
  obtain ⟨run, runs, split⟩ := List.exists_cons_of_ne_nil (splitDots_ne_nil s.toList)
  obtain ⟨front, behind⟩ := nil_mem_of_splitDots split
  have runs : "" ∈ ofDotted s ↔ [] ∈ splitDots s.toList := by
    rw [← map_toList_ofDotted]
    simp
  rw [runs, split, List.mem_cons, eq_comm, front, behind, String.toList_eq_nil_iff, or_assoc]

/-- How many dots the segments of a path hold. -/
def dots (path : Path) : Nat := (path.map fun segment => segment.toList.count '.').sum

theorem dots_eq_zero_iff {path : Path} :
    path.dots = 0 ↔ ∀ segment ∈ path, '.' ∉ segment.toList := by
  simp [dots, List.sum_eq_zero_iff_forall_eq_nat, List.count_eq_zero]

theorem count_toList_dotted (segment : String) (path : Path) :
    (dotted (segment :: path)).toList.count '.' = dots (segment :: path) + path.length := by
  induction path generalizing segment with
  | nil => simp [toList_dotted, dots]
  | cons next rest ih =>
    have joined := ih next
    rw [toList_dotted] at joined ⊢
    rw [List.map_cons, List.map_cons, List.intercalate_cons_cons]
    simp [dots] at joined ⊢
    omega

/-- Each dot in a segment makes one segment more. -/
theorem length_ofDotted_dotted {path : Path} (nonempty : path ≠ []) :
    (ofDotted path.dotted).length = path.length + path.dots := by
  obtain ⟨segment, rest, rfl⟩ := List.exists_cons_of_ne_nil nonempty
  rw [ofDotted, List.length_map, length_splitDots, count_toList_dotted, List.length_cons]
  omega

end Path

end FeatureFlags
