import ReleaseControl.Object.Codec
import ReleaseControl.Proofs.Codec.Decoded
import ReleaseControl.Proofs.Codec.Record

/-!
# Objects read back

What an object is written as reads back to the object. The one exception is an object whose values are
said to be `null`, which reads back as an object without values; no object that was read is such.
-/

namespace ReleaseControl

open Codec

variable {g : Json → Json}

/-! ## Histories and conditions -/

theorem TestHookStatus.codec_survives (hg : Json.Reorders g) : TestHookStatus.codec.Survives g := by
  have text := survives_string hg
  exact Record.survives_record hg fun h => ⟨_, ⟨by decide,
    .cons text.optional <| .cons text.optional <| .cons text.optional .nil, by simp⟩, rfl⟩

theorem Snapshot.codec_survives (hg : Json.Reorders g) : Snapshot.codec.Survives g := by
  have text := survives_string hg
  have hooks := (TestHookStatus.codec_survives hg).table hg
  exact Record.survives_record hg fun s => ⟨_, ⟨by decide,
    .cons text.required <| .cons text.required <| .cons text.required <|
    .cons (survives_int32 hg).required <| .cons text.required <| .cons text.required <|
    .cons text.required <| .cons text.optional <| .cons text.required <| .cons text.optional <|
    .cons text.optional <| .cons text.optional <| .cons hooks.optional .nil, by simp⟩, rfl⟩

theorem ConditionType.codec_survives (hg : Json.Reorders g) : ConditionType.codec.Survives g :=
  survives_enumeration hg fun x => by cases x <;> rfl

theorem ConditionStatus.codec_survives (hg : Json.Reorders g) : ConditionStatus.codec.Survives g :=
  survives_enumeration hg fun x => by cases x <;> rfl

theorem Condition.codec_survives (hg : Json.Reorders g) : Condition.codec.Survives g := by
  have text := survives_string hg
  have type := ConditionType.codec_survives hg
  have status := ConditionStatus.codec_survives hg
  exact Record.survives_record hg fun c => ⟨_, ⟨by decide,
    .cons type.required <| .cons status.required <| .cons text.defaulted <| .cons text.defaulted <|
    .cons (survives_int64 hg).defaulted <| .cons text.optional .nil, by simp⟩, rfl⟩

theorem ReleaseAction.codec_survives (hg : Json.Reorders g) : ReleaseAction.codec.Survives g :=
  survives_enumeration hg fun x => by cases x <;> rfl

theorem HelmReleaseStatus.codec_survives (hg : Json.Reorders g) :
    HelmReleaseStatus.codec.Survives g := by
  have count := survives_int64 hg
  have action := ReleaseAction.codec_survives hg
  have history := (Snapshot.codec_survives hg).list hg
  have conditions := (Condition.codec_survives hg).list hg
  exact Record.survives_record hg fun s => ⟨_, ⟨by decide,
    .cons count.defaulted <| .cons action.optional <| .cons count.defaulted <|
    .cons count.defaulted <| .cons count.defaulted <| .cons history.defaulted <|
    .cons conditions.defaulted .nil, by simp⟩, rfl⟩

theorem HelmReleaseStatus.codec_lawful : HelmReleaseStatus.codec.Lawful :=
  (codec_survives Json.reorders_id).lawful

/-! ## Declarations -/

theorem ObjectMeta.codec_survives (hg : Json.Reorders g) : ObjectMeta.codec.Survives g := by
  have text := survives_string hg
  have table := text.table hg
  exact Record.survives_record hg fun m => ⟨_, ⟨by decide,
    .cons table.optional <| .cons (survives_int64 hg).optional <| .cons table.optional <|
    .cons text.optional <| .cons text.optional <| .cons text.optional <| .cons text.optional .nil,
    by simp⟩, rfl⟩

theorem ChartRef.codec_survives (hg : Json.Reorders g) : ChartRef.codec.Survives g := by
  have text := survives_string hg
  exact Record.survives_record hg fun c => ⟨_, ⟨by decide,
    .cons text.required <| .cons text.optional .nil, by simp⟩, rfl⟩

theorem InstallRemediation.codec_survives (hg : Json.Reorders g) :
    InstallRemediation.codec.Survives g := by
  have truth := survives_bool hg
  exact Record.survives_record hg fun r => ⟨_, ⟨by decide,
    .cons (survives_int64 hg).defaulted <| .cons truth.optional <| .cons truth.optional .nil,
    by simp⟩, rfl⟩

theorem InstallSpec.codec_survives (hg : Json.Reorders g) : InstallSpec.codec.Survives g := by
  have remediation := InstallRemediation.codec_survives hg
  exact Record.survives_record hg fun s => ⟨_, ⟨by decide,
    .cons remediation.optional <| .cons (survives_bool hg).defaulted .nil, by simp⟩, rfl⟩

theorem TestSpec.codec_survives (hg : Json.Reorders g) : TestSpec.codec.Survives g := by
  have truth := survives_bool hg
  exact Record.survives_record hg fun s => ⟨_, ⟨by decide,
    .cons truth.defaulted <| .cons truth.defaulted .nil, by simp⟩, rfl⟩

/-- **A specification reads back** unless its values are `null`. -/
theorem HelmReleaseSpec.decode_encode {s : HelmReleaseSpec} (h : s.values ≠ some .null) :
    codec.decode (codec.encode s) = .ok s := by
  have hg := Json.reorders_id
  have text := survives_string hg
  have chart := ChartRef.codec_survives hg
  have install := InstallSpec.codec_survives hg
  have test := TestSpec.codec_survives hg
  have values : ∀ v, s.values = some v → json.decode (id (json.encode v)) = .ok v ∧
      id (json.encode v) ≠ .null := fun v hv => ⟨rfl, fun hnull => h (hv.trans (congrArg some hnull))⟩
  have restored : record.RestoredBy id s _ := ⟨by decide,
    .cons chart.required <| .cons text.optional <| .cons text.optional <| .cons text.optional <|
    .cons install.optional <| .cons test.optional <| .cons (Field.restores_optional values) <|
    .cons (survives_bool hg).defaulted .nil, by simp⟩
  exact Record.decode_encode restored hg

/-! ## Objects -/

namespace HelmRelease

variable {o : HelmRelease}

/-- The API version and the kind are no fields of an object. -/
theorem name_ne_of_mem_fields {f : Field HelmRelease} (hf : f ∈ record.fields) :
    f.name ≠ "apiVersion" ∧ f.name ≠ "kind" := by
  revert f
  simp [record, Field.required, Field.nullable, Field.optional]

/-- **An object reads back** unless its values are `null`. -/
theorem decode_encode (h : o.spec.values ≠ some .null) : codec.decode (codec.encode o) = .ok o := by
  have hg := Json.reorders_id
  have metadata := ObjectMeta.codec_survives hg
  have status := HelmReleaseStatus.codec_survives hg
  have restored : record.RestoredBy id o _ := ⟨by decide,
    .cons metadata.required <| .cons (Field.restores_required (HelmReleaseSpec.decode_encode h)) <|
    .cons status.nullable .nil, by simp⟩
  have own {e : String × Json} (he : e ∈ record.entries o) : e.1 ≠ "apiVersion" ∧ e.1 ≠ "kind" := by
    obtain ⟨f, hf, hname, -⟩ := Record.mem_entries.1 he
    exact hname ▸ name_ne_of_mem_fields hf
  have distinct : DistinctKeys (("apiVersion", Json.str apiVersion) :: ("kind", .str objectKind) ::
      record.entries o) := by
    refine List.nodup_cons.2 ⟨fun hm => ?_, List.nodup_cons.2 ⟨fun hm => ?_,
      Record.distinctKeys_entries restored.names o⟩⟩
    · rcases List.mem_cons.1 hm with hm | hm
      · exact absurd hm (by decide)
      · obtain ⟨e, he, hk⟩ := List.mem_map.1 hm
        exact (own he).1 hk
    · obtain ⟨e, he, hk⟩ := List.mem_map.1 hm
      exact (own he).2 hk
  refine Record.decode_entries restored hg distinct fun f hf => ?_
  obtain ⟨version, kind⟩ := name_ne_of_mem_fields hf
  rw [lookup_cons_eq, if_neg version, lookup_cons_eq, if_neg kind,
    Record.lookup_entries restored.names hf]

end HelmRelease

/-! ## Objects that were read -/

theorem none_ne_some_null : none ≠ some Json.null := (Option.some_ne_none _).symm

theorem ne_some_null_of_decodeOption {v : Json} {x : Option Json}
    (h : Field.decodeOption .json v = .ok x) : x ≠ some .null := by
  cases v with
  | null => exact Except.ok.inj h ▸ none_ne_some_null
  | _ => exact Except.ok.inj h ▸ fun heq => by cases heq

theorem HelmReleaseSpec.values_ne_null {v : Json} {s : HelmReleaseSpec}
    (h : HelmReleaseSpec.codec.decode v = .ok s) : s.values ≠ some .null := by
  refine Record.of_decode (P := fun s => s.values ≠ some .null) none_ne_some_null ?_ h
  -- of all fields only the values matter
  simp only [record, List.forall_mem_cons]
  exact ⟨Field.preserves_required fun _ _ _ _ hs => hs,
    Field.preserves_optional (fun _ _ _ _ hs => hs) fun _ hs => hs,
    Field.preserves_optional (fun _ _ _ _ hs => hs) fun _ hs => hs,
    Field.preserves_optional (fun _ _ _ _ hs => hs) fun _ hs => hs,
    Field.preserves_optional (fun _ _ _ _ hs => hs) fun _ hs => hs,
    Field.preserves_optional (fun _ _ _ _ hs => hs) fun _ hs => hs,
    Field.preserves_optional (fun _ _ hx _ _ => ne_some_null_of_decodeOption hx)
      fun _ _ => none_ne_some_null,
    Field.preserves_defaulted fun _ _ hs => hs, fun _ hf => absurd hf List.not_mem_nil⟩

/-- **An object that was read has no `null` for its values.** -/
theorem HelmRelease.values_ne_null {v : Json} {o : HelmRelease}
    (h : HelmRelease.codec.decode v = .ok o) : o.spec.values ≠ some .null := by
  refine Record.of_decode (P := fun o => o.spec.values ≠ some .null) none_ne_some_null ?_ h
  simp only [record, List.forall_mem_cons]
  exact ⟨Field.preserves_required fun _ _ _ _ hs => hs,
    Field.preserves_required fun _ _ hx _ _ => HelmReleaseSpec.values_ne_null hx,
    Field.preserves_nullable (fun _ _ _ _ hs => hs) fun _ hs => hs,
    fun _ hf => absurd hf List.not_mem_nil⟩

end ReleaseControl
