import ReleaseControl.Proofs.Codec.Once
import ReleaseControl.Proofs.Codec.Record
import ReleaseControl.Proofs.Json.Canonical
import ReleaseControl.Release.Basic

/-!
# Records are known by their text

The canonical text of a release record holds all of it but the order of the entries in its values.

* `Release.normalize`: the record with its values in key order.
* **`Release.recoverable`**: a record is recovered from its canonical text.
-/

namespace ReleaseControl

open Codec

variable {g : Json → Json}

/-! ## The parts of a record -/

theorem HookEvent.codec_survives (hg : Json.Reorders g) : HookEvent.codec.Survives g :=
  survives_enumeration hg fun x => by cases x <;> rfl

theorem HookPhase.codec_survives (hg : Json.Reorders g) : HookPhase.codec.Survives g :=
  survives_enumeration hg fun x => by cases x <;> rfl

theorem ReleaseStatus.codec_survives (hg : Json.Reorders g) : ReleaseStatus.codec.Survives g :=
  survives_enumeration hg fun x => by cases x <;> rfl

theorem ChartMetadata.codec_survives (hg : Json.Reorders g) : ChartMetadata.codec.Survives g := by
  have text := survives_string hg
  exact Record.survives_record hg fun m => ⟨_, ⟨by decide,
    .cons text.required <| .cons text.required <| .cons text.optional .nil, by simp⟩, rfl⟩

theorem HookRun.codec_survives (hg : Json.Reorders g) : HookRun.codec.Survives g := by
  have instant := survives_instant hg
  have phase := HookPhase.codec_survives hg
  exact Record.survives_record hg fun run => ⟨_, ⟨by decide,
    .cons instant.optional <| .cons instant.optional <| .cons phase.required .nil, by simp⟩, rfl⟩

theorem Hook.codec_survives (hg : Json.Reorders g) : Hook.codec.Survives g := by
  have text := survives_string hg
  have events := (HookEvent.codec_survives hg).list hg
  have run := HookRun.codec_survives hg
  exact Record.survives_record hg fun h => ⟨_, ⟨by decide,
    .cons text.required <| .cons events.required <| .cons run.optional .nil, by simp⟩, rfl⟩

namespace Release

variable {r : Release}

/-- The record with its values in key order, as it is once it has been read. -/
def normalize (r : Release) : Release := { r with config := r.config.normalize }

theorem normalize_eq (h : r.config.InKeyOrder) : r.normalize = r := by rw [normalize, h.normalize_eq]

/-- **A record reads back** from its text in canonical form, but for the order of its values. -/
theorem decode_encode (r : Release) : codec.decode (codec.encode r).normalize = .ok r.normalize := by
  have hg := Json.reorders_normalize
  have text := survives_string hg
  have time := survives_instant hg
  have chart := ChartMetadata.codec_survives hg
  have status := ReleaseStatus.codec_survives hg
  have hooks := (Hook.codec_survives hg).list hg
  have restored : record.RestoredBy Json.normalize r _ := ⟨by decide,
    .cons text.required <| .cons text.required <| .cons (survives_int32 hg).required <|
    .cons chart.required <| .cons (Field.restores_required rfl) <| .cons status.required <|
    .cons time.optional <| .cons time.optional <| .cons time.optional <| .cons hooks.defaulted .nil,
    by simp⟩
  exact Record.decode_encode restored hg

theorem canonicalText_normalize (r : Release) : r.normalize.canonicalText = r.canonicalText := by
  have same : (codec.encode r.normalize).normalize = (codec.encode r).normalize :=
    Record.normalize_encode_congr <| by
      simp [record, Field.required, Field.optional, Field.defaulted, normalize, json]
  exact congrArg Json.text same

/-- **Records with one text** are the same up to the order of their values. -/
theorem canonicalText_eq_iff {s : Release} : r.canonicalText = s.canonicalText ↔ r.normalize = s.normalize := by
  constructor
  · intro h
    have same : (codec.encode r).normalize = (codec.encode s).normalize :=
      (Json.canonicalText_eq_iff_normalize _ _).1 h
    have read := r.decode_encode
    rw [same, s.decode_encode] at read
    exact (Except.ok.inj read).symm
  · intro h
    rw [← canonicalText_normalize r, ← canonicalText_normalize s, h]

/-- **A record is recovered from its canonical text**: the text reads back as JSON, and as a record it is
the record again, with its values in key order; no field of it is repeated. So two records have one text
only if they are the same, and one digest only if they are the same or their texts collide. -/
theorem recoverable (r : Release) :
    (∃ v, Json.read? r.canonicalText = some v ∧ codec.decodeOnce v = .ok r.normalize ∧
        (r.config.InKeyOrder → codec.decodeOnce v = .ok r)) ∧
      ∀ s : Release,
        (r.canonicalText = s.canonicalText ↔ r.normalize = s.normalize) ∧
          (r.digest = s.digest ↔
            r.normalize = s.normalize ∨ Sha256.Collide r.canonicalText s.canonicalText) := by
  have distinct := (Json.inKeyOrder_normalize (codec.encode r)).keysDistinct
  have read : codec.decodeOnce (codec.encode r).normalize = .ok r.normalize := by
    rw [codec.decodeOnce_eq distinct, decode_encode]
  refine ⟨⟨_, Json.read?_text _, read, fun h => ?_⟩, fun s => ?_⟩
  · rw [read, normalize_eq h]
  · have texts : r.canonicalText = s.canonicalText ↔ r.normalize = s.normalize := canonicalText_eq_iff
    exact ⟨texts, digestText_eq_iff.trans (or_congr_left texts)⟩

/-- A record with a leap second and a year of five digits; another revision has another text. -/
theorem recoverable_leap_second :
    let r : Release :=
      { name := "app", ns := "prod", version := 1, chart := { name := "web", version := "1.0.0" }
        config := .obj [("a", .arr [.int (.ofInt64 1), .null]), ("b", .double .zero)]
        firstDeployed := some ⟨⟨12016, 12, 31, by decide⟩, 23, 59, 60, 1500000⟩
        hooks := [{ name := "smoke", events := [.test], lastRun := some { phase := .running } }] }
    (∃ v, Json.read? r.canonicalText = some v ∧ codec.decodeOnce v = .ok r) ∧
      r.canonicalText ≠ { r with version := 2 }.canonicalText := by
  intro r
  have order : r.config.InKeyOrder :=
    .obj (by decide) (by simp [Json.InKeyOrder.arr, Json.InKeyOrder.int, Json.InKeyOrder.null,
      Json.InKeyOrder.double])
  obtain ⟨⟨v, hv, -, same⟩, others⟩ := recoverable r
  refine ⟨⟨v, hv, same order⟩, fun h => ?_⟩
  have versions := congrArg Release.version ((others { r with version := 2 }).1.1 h)
  exact absurd versions (by decide)

end Release

end ReleaseControl
