import FeatureFlags.Tree.Error

/-!
# What an excerpt keeps

Of a text that is too long an excerpt keeps as many whole characters as fit the limit
(`LongestWithin`), since every beginning made of whole characters ends at a boundary and stepping
back stops at the last one. The next character did not fit and takes four bytes at most, so the
search stops within three steps and the excerpt stays close to the limit. The last section says
what the error of a mismatched value shows (`TreeError.mismatch_shows`).
-/

namespace FeatureFlags

variable {limit : Nat} {s head rest p q : String}

/-! ## The longest beginning within a limit -/

/-- `head` is made of whole characters that `s` begins with, it takes at most `limit` bytes, and
    nothing longer does. -/
structure LongestWithin (limit : Nat) (s head : String) : Prop where
  begins : head.toList <+: s.toList
  fits : head.utf8ByteSize ≤ limit
  longest : ∀ p : String, p.toList <+: s.toList → p.utf8ByteSize ≤ limit → p.toList <+: head.toList

theorem toList_prefix_iff : p.toList <+: s.toList ↔ ∃ rest, s = p ++ rest := by
  constructor
  · intro begins
    obtain ⟨cs, parts⟩ := begins
    refine ⟨String.ofList cs, ?_⟩
    rw [← String.toList_inj, String.toList_append, String.toList_ofList, parts]
  · intro split
    obtain ⟨rest, rfl⟩ := split
    rw [String.toList_append]
    exact List.prefix_append _ _

theorem isBoundary_of_begins (begins : p.toList <+: s.toList) : isBoundary s p.utf8ByteSize := by
  obtain ⟨rest, parts⟩ := toList_prefix_iff.1 begins
  exact isBoundary_iff.2 ⟨p, rest, parts, rfl⟩

/-- Of two beginnings of one text the one with fewer bytes is a beginning of the other. -/
theorem prefix_of_utf8ByteSize_le (begins : p.toList <+: s.toList) (begins' : q.toList <+: s.toList)
    (le : p.utf8ByteSize ≤ q.utf8ByteSize) : p.toList <+: q.toList := by
  rcases List.prefix_or_prefix_of_prefix begins begins' with before | after
  · exact before
  · obtain ⟨rest, rfl⟩ := toList_prefix_iff.1 after
    rw [String.utf8ByteSize_append] at le
    have nothing : rest = "" := String.utf8ByteSize_eq_zero_iff.1 (by omega)
    simp [nothing]

theorem LastBoundary.longestWithin (last : LastBoundary (head ++ rest) limit head.utf8ByteSize) :
    LongestWithin limit (head ++ rest) head := by
  have begins : head.toList <+: (head ++ rest).toList := toList_prefix_iff.2 ⟨rest, rfl⟩
  refine ⟨begins, last.within, ?_⟩
  intro p begins' fits
  have le := last.last p.utf8ByteSize fits (isBoundary_of_begins begins')
  exact prefix_of_utf8ByteSize_le begins' begins le

/-- A beginning that is not all of a text goes on with a character. -/
theorem exists_push_begins (begins : head.toList <+: s.toList)
    (more : head.utf8ByteSize < s.utf8ByteSize) : ∃ c, (head.push c).toList <+: s.toList := by
  obtain ⟨cs, parts⟩ := begins
  cases cs with
  | nil =>
    rw [List.append_nil, String.toList_inj] at parts
    rw [parts] at more
    exact absurd more (Nat.lt_irrefl _)
  | cons c rest =>
    refine ⟨c, rest, ?_⟩
    rw [String.toList_push, List.append_assoc, List.singleton_append, parts]

/-- The character behind the longest beginning does not fit, and takes four bytes at most. -/
theorem LongestWithin.lt_add_four (whole : LongestWithin limit s head)
    (long : limit < s.utf8ByteSize) : limit < head.utf8ByteSize + 4 := by
  obtain ⟨c, begins⟩ := exists_push_begins whole.begins (Nat.lt_of_le_of_lt whole.fits long)
  have size := c.utf8Size_le_four
  apply Nat.lt_of_not_le
  intro room
  have fits : (head.push c).utf8ByteSize ≤ limit := by
    rw [String.utf8ByteSize_push]
    omega
  have shorter := (whole.longest (head.push c) begins fits).length_le
  rw [String.toList_push, List.length_append, List.length_singleton] at shorter
  omega

/-! ## Excerpts of any text -/

theorem excerpt_of_le (fits : s.utf8ByteSize ≤ limit) : excerpt limit s = s :=
  shorten_eq_ok_iff.1 (shorten_of_le fits)

theorem exists_excerpt_of_lt (long : limit < s.utf8ByteSize) :
    ∃ head, LongestWithin limit s head ∧ stepBack s limit = .ok head.utf8ByteSize ∧
      limit < head.utf8ByteSize + 4 ∧ excerpt limit s = head ++ "..." := by
  obtain ⟨head, rest, rfl, last, found, cut⟩ := exists_shorten_of_lt long
  have whole := last.longestWithin
  exact ⟨head, whole, found, whole.lt_add_four long, shorten_eq_ok_iff.1 cut⟩

theorem utf8ByteSize_excerpt_le (limit : Nat) (s : String) :
    (excerpt limit s).utf8ByteSize ≤ limit + 3 := by
  rcases Nat.lt_or_ge limit s.utf8ByteSize with long | fits
  · obtain ⟨head, whole, _, _, cut⟩ := exists_excerpt_of_lt long
    have fits := whole.fits
    rw [cut, String.utf8ByteSize_append]
    exact Nat.add_le_add_right fits 3
  · rw [excerpt_of_le fits]
    exact Nat.le_add_right_of_le fits

/-! ## What an error shows -/

namespace TreeError

/-- The error for a value shows its text where that takes at most 64 bytes, and otherwise the
    longest beginning of whole characters that does, followed by three dots. Cutting it never
    fails: the search for a boundary ends within three steps. What is shown then takes 64 to 67
    bytes, and it never takes more. -/
theorem mismatch_shows (path expected : String) (value : Json) :
    ∃ found, mismatch path expected value = .wrongType path expected found value.kind ∧
      shorten 64 value.render = .ok found ∧
      (value.render.utf8ByteSize ≤ 64 → found = value.render) ∧
      (64 < value.render.utf8ByteSize →
        ∃ head, LongestWithin 64 value.render head ∧ found = head ++ "..." ∧
          stepBack value.render 64 = .ok head.utf8ByteSize ∧ 61 ≤ head.utf8ByteSize ∧
          64 ≤ found.utf8ByteSize) ∧
      found.utf8ByteSize ≤ 67 := by
  refine ⟨excerpt 64 value.render, rfl, shorten_eq_ok_iff.2 rfl, excerpt_of_le, ?_,
    utf8ByteSize_excerpt_le 64 value.render⟩
  intro long
  obtain ⟨head, whole, stop, close, cut⟩ := exists_excerpt_of_lt long
  have dots : "...".utf8ByteSize = 3 := rfl
  refine ⟨head, whole, cut, stop, by omega, ?_⟩
  rw [cut, String.utf8ByteSize_append]
  omega

/-- Behind a quote and 60 letters a character of four bytes lies across the limit, and the search
    goes back over three of them. -/
theorem mismatch_shows_straddling :
    let value := Json.string (String.ofList (List.replicate 60 'a' ++ ['😀', '😀']))
    64 < value.render.utf8ByteSize ∧ stepBack value.render 64 = .ok 61 ∧
      ∃ found, mismatch "a" "map" value = .wrongType "a" "map" found .string ∧
        shorten 64 value.render = .ok found ∧ found.utf8ByteSize = 64 := by
  intro value
  have long : 64 < value.render.utf8ByteSize := by decide +kernel
  have inside : ∀ n ∈ [62, 63, 64], isBoundary value.render n = false := by decide +kernel
  have boundary : isBoundary value.render 61 = true := by decide +kernel
  have search : stepBack value.render 64 = .ok 61 := by simp [stepBack, inside, boundary]
  obtain ⟨found, shown, cut, _, straddles, _⟩ := mismatch_shows "a" "map" value
  obtain ⟨head, _, dotted, stop, _, _⟩ := straddles long
  rw [search, Except.ok.injEq] at stop
  have dots : "...".utf8ByteSize = 3 := rfl
  refine ⟨long, search, found, shown, cut, ?_⟩
  rw [dotted, String.utf8ByteSize_append]
  omega

end TreeError

end FeatureFlags
