import ReleaseControl.Event.Basic

/-!
# Notes of events

The note of an event is as much of its message, from the start, as whole characters fit into it.

* `LastBoundary`: where a search backwards should stop; `lastBoundary_of_boundaryUpTo?`: it does.
* `LongestStart`: the longest start of a text within a limit; **`note_maximal`**: a note is that.
-/

namespace ReleaseControl

/-- The position is the last boundary between characters at or before a byte. -/
structure LastBoundary {s : String} (limit : Nat) (p : s.Pos) : Prop where
  le : p.offset.byteIdx ≤ limit
  last : ∀ q : s.Pos, q.offset.byteIdx ≤ limit → q.offset.byteIdx ≤ p.offset.byteIdx

/-- Of the starts of a text that have at most so many bytes, this is the longest: all others are starts
of it. -/
structure LongestStart (limit : Nat) (s start : String) : Prop where
  starts : ∃ rest, s = start ++ rest
  fits : start.utf8ByteSize ≤ limit
  longest : ∀ other rest, s = other ++ rest → other.utf8ByteSize ≤ limit → ∃ more, start = other ++ more

variable {s : String} {limit : Nat} {p : s.Pos}

/-! ## The search -/

theorem exists_boundaryUpTo? (s : String) (limit : Nat) : ∃ p, boundaryUpTo? s limit = some p :=
  Option.isSome_iff_exists.1 (isSome_boundaryUpTo? s limit)

/-- **The search stops at the last boundary.** -/
theorem lastBoundary_of_boundaryUpTo? (h : boundaryUpTo? s limit = some p) : LastBoundary limit p := by
  induction limit with
  | zero =>
    rw [boundaryUpTo?] at h
    split at h
    · cases h
      exact ⟨Nat.le_refl 0, fun q hq => hq⟩
    · cases h
  | succ below ih =>
    rw [boundaryUpTo?] at h
    split at h
    · cases h
      exact ⟨Nat.le_refl _, fun q hq => hq⟩
    · next invalid =>
      obtain ⟨le, last⟩ := ih h
      refine ⟨Nat.le_succ_of_le le, fun q hq => last q ?_⟩
      -- a boundary is no place where the search went on
      have passed : q.offset.byteIdx ≠ below + 1 := by
        intro at_limit
        have valid := q.isValid
        rw [← at_limit] at invalid
        exact invalid valid
      omega

namespace LastBoundary

/-- The character behind the last boundary goes past the limit, and it has at most four bytes. -/
theorem lt_add_four (h : LastBoundary limit p) (within : limit ≤ s.utf8ByteSize) :
    limit < p.offset.byteIdx + 4 := by
  by_cases atEnd : p = s.endPos
  · subst atEnd
    have : s.endPos.offset.byteIdx = s.utf8ByteSize := by simp
    omega
  · have next : (p.next atEnd).offset.byteIdx = p.offset.byteIdx + (p.get atEnd).utf8Size := by
      simp
    have width := (p.get atEnd).utf8Size_le_four
    have positive := (p.get atEnd).utf8Size_pos
    have beyond : ¬ (p.next atEnd).offset.byteIdx ≤ limit := by
      intro inside
      have := h.last _ inside
      omega
    omega

/-- **The text up to the last boundary is the longest start within the limit**: every other start ends at
a boundary as well. -/
theorem longestStart (h : LastBoundary limit p) : LongestStart limit s (s.sliceTo p).copy := by
  have split := p.splits
  have size : (s.sliceTo p).copy.utf8ByteSize = p.offset.byteIdx := by simp
  refine ⟨⟨_, split.eq_append⟩, size ▸ h.le, fun other rest whole fits => ?_⟩
  have boundary : String.Pos.Raw.IsValid s other.rawEndPos :=
    String.Pos.Raw.isValid_iff_exists_append.2 ⟨other, rest, whole, rfl⟩
  let q : s.Pos := ⟨other.rawEndPos, boundary⟩
  have split_other : q.Splits other rest := ⟨whole, rfl⟩
  have before : q ≤ p := String.Pos.le_iff.2 (h.last q fits)
  obtain ⟨more, longer, -⟩ := (split_other.le_iff_exists_eq_append split).1 before
  exact ⟨more, longer⟩

end LastBoundary

/-! ## Cutting -/

theorem longestStart_cutText (limit : Nat) (s : String) : LongestStart limit s (cutText limit s) := by
  unfold cutText
  split
  · next fits => exact ⟨⟨"", String.append_empty.symm⟩, fits, fun other rest whole _ => ⟨rest, whole⟩⟩
  · exact (lastBoundary_of_boundaryUpTo? (Option.some_get _).symm).longestStart

/-- The limit is inside the second character. -/
example : cutText 3 "éé" = "é" := by decide

theorem lt_utf8ByteSize_cutText (too_long : limit < s.utf8ByteSize) :
    limit < (cutText limit s).utf8ByteSize + 4 := by
  have cut : cutText limit s = (s.sliceTo (boundaryUpTo s limit)).copy := if_neg (by omega)
  have size : (cutText limit s).utf8ByteSize = (boundaryUpTo s limit).offset.byteIdx := by simp [cut]
  have found : LastBoundary limit (boundaryUpTo s limit) :=
    lastBoundary_of_boundaryUpTo? (Option.some_get _).symm
  rw [size]
  exact found.lt_add_four (Nat.le_of_lt too_long)

/-- **The note of an event is the longest start of its message** that has at most 1024 bytes. It is the
whole message if that fits, and has at least 1021 bytes if it does not. The search for the boundary to
cut at comes to an end wherever it starts: at the last boundary up to there, which in a text is at most
three bytes back. -/
theorem note_maximal (reporter : EventReporter) (now : Instant) (o : HelmRelease) (n : Notice) :
    ∃ note, (reporter.event now o n).field "note" = .str note ∧ LongestStart 1024 n.message note ∧
      (n.message.utf8ByteSize ≤ 1024 → note = n.message) ∧
      (1024 < n.message.utf8ByteSize → 1021 ≤ note.utf8ByteSize) ∧
      ∀ limit, ∃ p, boundaryUpTo? n.message limit = some p ∧ LastBoundary limit p ∧
        (limit ≤ n.message.utf8ByteSize → limit < p.offset.byteIdx + 4) := by
  refine ⟨eventNote n.message, rfl, longestStart_cutText 1024 n.message, fun fits => if_pos fits,
    fun too_long => ?_, fun limit => ?_⟩
  · have long : 1024 < (eventNote n.message).utf8ByteSize + 4 := lt_utf8ByteSize_cutText too_long
    omega
  · obtain ⟨p, found⟩ := exists_boundaryUpTo? n.message limit
    have last := lastBoundary_of_boundaryUpTo? found
    exact ⟨p, found, last, last.lt_add_four⟩

end ReleaseControl
