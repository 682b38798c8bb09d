/-!
# Excerpts

Text cut to a number of UTF-8 bytes without cutting a character. The place to cut at is found by
stepping back from the limit, byte by byte, until a boundary between two characters is met. To
step back at the front of the text and to cut where there is no boundary are faults. Neither comes
about, as the front is a boundary (`exists_shorten`), so an excerpt is the text that the cut
leaves.
-/

namespace FeatureFlags

/-- What can go wrong in cutting a text. -/
inductive CutFault
  /-- There is no byte to step back over. -/
  | underflow
  /-- The bytes to keep end inside a character. -/
  | insideCharacter
  deriving DecidableEq, Inhabited

/-- Whether the first `n` bytes of a text are whole characters: a character begins there, or the
    text ends. -/
def isBoundary (s : String) (n : Nat) : Bool := String.Pos.Raw.isValid s ⟨n⟩

/-- The first boundary met on the way back from `n`. -/
def stepBack (s : String) (n : Nat) : Except CutFault Nat :=
  if isBoundary s n then .ok n
  else
    match n with
    | 0 => .error .underflow
    | n + 1 => stepBack s n

/-- The first `n` bytes of a text, or all of it where there are no more. -/
def firstBytes (n : Nat) (s : String) : Except CutFault String :=
  if s.utf8ByteSize ≤ n then .ok s
  else if boundary : isBoundary s n then
    .ok (s.sliceTo ⟨⟨n⟩, String.Pos.Raw.isValid_eq_true_iff.1 boundary⟩).copy
  else .error .insideCharacter

/-- The text itself where it takes at most `limit` bytes; otherwise its bytes up to the boundary
    met on the way back from there, marked as cut. -/
def shorten (limit : Nat) (s : String) : Except CutFault String :=
  if s.utf8ByteSize ≤ limit then .ok s
  else do
    let stop ← stepBack s limit
    let head ← firstBytes stop s
    return head ++ "..."

/-! ## No cut fails -/

theorem isBoundary_iff {s : String} {n : Nat} :
    isBoundary s n ↔ ∃ head rest, s = head ++ rest ∧ head.utf8ByteSize = n := by
  rw [isBoundary, String.Pos.Raw.isValid_eq_true_iff, String.Pos.Raw.isValid_iff_exists_append]
  simp [String.Pos.Raw.ext_iff, eq_comm]

theorem isBoundary_zero (s : String) : isBoundary s 0 := isBoundary_iff.2 ⟨"", s, by simp⟩

/-- `stop` is a boundary, and between it and `n` there is no other. -/
structure LastBoundary (s : String) (n stop : Nat) : Prop where
  within : stop ≤ n
  boundary : isBoundary s stop
  last : ∀ m ≤ n, isBoundary s m → m ≤ stop

/-- Stepping back ends, at the front of the text at the latest. -/
theorem exists_stepBack (s : String) (n : Nat) :
    ∃ stop, stepBack s n = .ok stop ∧ LastBoundary s n stop := by
  induction n with
  | zero =>
    have front := isBoundary_zero s
    refine ⟨0, ?_, Nat.le_refl 0, front, fun m within _ => within⟩
    rw [stepBack, if_pos front]
  | succ n ih =>
    by_cases here : isBoundary s (n + 1)
    · refine ⟨n + 1, ?_, Nat.le_refl (n + 1), here, fun m within _ => within⟩
      rw [stepBack, if_pos here]
    · obtain ⟨stop, found, last⟩ := ih
      refine ⟨stop, ?_, Nat.le_succ_of_le last.within, last.boundary, ?_⟩
      · rw [stepBack, if_neg here, found]
      · intro m within boundary
        have other : m ≠ n + 1 := by
          intro same
          exact here (same ▸ boundary)
        exact last.last m (by omega) boundary

/-- Whole characters are kept as they are. -/
theorem firstBytes_append (head rest : String) :
    firstBytes head.utf8ByteSize (head ++ rest) = .ok head := by
  unfold firstBytes
  split
  case isTrue all =>
    have nothing : rest = "" := by
      rw [String.utf8ByteSize_append] at all
      exact String.utf8ByteSize_eq_zero_iff.1 (by omega)
    rw [nothing, String.append_empty]
  case isFalse more =>
    have boundary : isBoundary (head ++ rest) head.utf8ByteSize :=
      isBoundary_iff.2 ⟨head, rest, rfl, rfl⟩
    rw [dif_pos boundary]
    have parts : String.Pos.Splits (s := head ++ rest)
        ⟨⟨head.utf8ByteSize⟩, String.Pos.Raw.isValid_eq_true_iff.1 boundary⟩ head rest := ⟨rfl, rfl⟩
    rw [parts.copy_sliceTo_eq]

theorem shorten_of_le {limit : Nat} {s : String} (fits : s.utf8ByteSize ≤ limit) :
    shorten limit s = .ok s := if_pos fits

/-- A text that is too long is cut at the last boundary within the limit. -/
theorem exists_shorten_of_lt {limit : Nat} {s : String} (long : limit < s.utf8ByteSize) :
    ∃ head rest, s = head ++ rest ∧ LastBoundary s limit head.utf8ByteSize ∧
      stepBack s limit = .ok head.utf8ByteSize ∧ shorten limit s = .ok (head ++ "...") := by
  obtain ⟨stop, found, last⟩ := exists_stepBack s limit
  obtain ⟨head, rest, rfl, rfl⟩ := isBoundary_iff.1 last.boundary
  refine ⟨head, rest, rfl, last, found, ?_⟩
  have kept := firstBytes_append head rest
  rw [shorten, if_neg (Nat.not_le_of_lt long), found]
  simp only [bind, Except.bind, kept, pure, Except.pure]

theorem exists_shorten (limit : Nat) (s : String) : ∃ text, shorten limit s = .ok text := by
  rcases Nat.lt_or_ge limit s.utf8ByteSize with long | fits
  · obtain ⟨head, _, _, _, _, cut⟩ := exists_shorten_of_lt long
    exact ⟨_, cut⟩
  · exact ⟨s, shorten_of_le fits⟩

theorem shorten_ne_error (limit : Nat) (s : String) (fault : CutFault) :
    shorten limit s ≠ .error fault := by
  obtain ⟨text, cut⟩ := exists_shorten limit s
  simp [cut]

/-- The text that shortening leaves. -/
def excerpt (limit : Nat) (s : String) : String :=
  match cut : shorten limit s with
  | .ok text => text
  | .error fault => absurd cut (shorten_ne_error limit s fault)

theorem shorten_eq_ok_iff {limit : Nat} {s text : String} :
    shorten limit s = .ok text ↔ excerpt limit s = text := by
  unfold excerpt
  split
  case h_1 text' cut => rw [cut, Except.ok.injEq]
  case h_2 fault cut => exact absurd cut (shorten_ne_error limit s fault)

end FeatureFlags
