import ReleaseControl.Storage.Witness

/-!
# The witness is transparent

* `Driver.runWitnessed`: a sequence of operations on witnessed storage, each at its time.
* `Witnessed`: what one operation comes to through a witness; `WitnessedRun`: what a sequence comes to.
* `witnessed_stamp`: one operation; **`witness_transparent`**: every sequence on every driver.
-/

namespace ReleaseControl

variable {σ : Type}

/-- The results of a sequence of operations on witnessed storage, each at a time, and the state and the
reports after it. -/
def Driver.runWitnessed (d : Driver σ) :
    List (Instant × StorageOp) → σ × List Release → List Exchange × σ × List Release
  | [], s => ([], s)
  | (now, op) :: ops, s =>
    let (result, s) := (d.witnessed now).perform op s
    let (exchanges, s) := d.runWitnessed ops s
    (⟨op, result⟩ :: exchanges, s)

/-- What an operation at a time comes to: the exchange with storage itself, the same as it is seen
through a witness, and the record that the witness reports. -/
inductive Witnessed (now : Instant) : Exchange → Exchange → Option Release → Prop
  | failed (op : StorageOp) (e : StorageError) : Witnessed now ⟨op, .error e⟩ ⟨op, .error e⟩ none
  | got (key : String) (r : Release) : Witnessed now ⟨.get key, .ok r⟩ ⟨.get key, .ok r⟩ none
  | listed (name : String) (rs : List Release) :
      Witnessed now ⟨.list name, .ok rs⟩ ⟨.list name, .ok rs⟩ none
  | created (key : String) (r : Release) :
      Witnessed now ⟨.create key r, .ok ()⟩ ⟨.create key r, .ok ()⟩ (some r)
  | updated (key : String) (r : Release) :
      Witnessed now ⟨.update key r, .ok ()⟩ ⟨.update key r, .ok ()⟩ (some r)
  /-- A record that does not carry the time of its removal is given it. -/
  | removed (key : String) (r : Release) (unmarked : r.deleted = none) :
      Witnessed now ⟨.delete key, .ok r⟩ ⟨.delete key, .ok { r with deleted := some now }⟩
        (some { r with deleted := some now })
  /-- One that carries a time of removal keeps it. -/
  | removedBefore (key : String) (r : Release) (marked : r.deleted ≠ none) :
      Witnessed now ⟨.delete key, .ok r⟩ ⟨.delete key, .ok r⟩ (some r)

/-- What a sequence of operations at some times comes to, operation by operation. -/
inductive WitnessedRun : List Instant → List Exchange → List Exchange → List Release → Prop
  | nil : WitnessedRun [] [] [] []
  | cons {now : Instant} {bare seen : Exchange} {reported? : Option Release} {times : List Instant}
      {bares seens : List Exchange} {reports : List Release} (one : Witnessed now bare seen reported?)
      (others : WitnessedRun times bares seens reports) :
      WitnessedRun (now :: times) (bare :: bares) (seen :: seens) (reported?.toList ++ reports)

theorem Release.deletedAt_of_marked {r : Release} (h : r.deleted ≠ none) (now : Instant) :
    r.deletedAt now = r := by
  obtain ⟨time, ht⟩ := Option.ne_none_iff_exists'.1 h
  unfold deletedAt
  rw [ht, Option.getD_some, ← ht]

theorem Release.deletedAt_of_unmarked {r : Release} (h : r.deleted = none) (now : Instant) :
    r.deletedAt now = { r with deleted := some now } := by
  unfold deletedAt
  rw [h, Option.getD_none]

/-- **One operation through a witness**, whatever its result is. -/
theorem witnessed_stamp (now : Instant) (op : StorageOp) (result : op.Result) :
    Witnessed now ⟨op, result⟩ ⟨op, op.stamp now result⟩ (op.report? (op.stamp now result)) := by
  cases result with
  | error e => cases op <;> exact .failed _ e
  | ok answer =>
    cases op with
    | get key => exact .got key answer
    | list name => exact .listed name answer
    | create key r => exact .created key r
    | update key r => exact .updated key r
    | delete key =>
      let r : Release := answer
      change Witnessed now ⟨.delete key, .ok r⟩ ⟨.delete key, .ok (r.deletedAt now)⟩
        (some (r.deletedAt now))
      by_cases h : r.deleted = none
      · rw [r.deletedAt_of_unmarked h]
        exact .removed key r h
      · rw [r.deletedAt_of_marked h]
        exact .removedBefore key r h

theorem witnessedRun_runWitnessed (d : Driver σ) (ops : List (Instant × StorageOp)) (s : σ)
    (reports : List Release) :
    (d.runWitnessed ops (s, reports)).2.1 = (d.runAll (ops.map Prod.snd) s).2 ∧
      ∃ made, (d.runWitnessed ops (s, reports)).2.2 = reports ++ made ∧
        WitnessedRun (ops.map Prod.fst) (d.runAll (ops.map Prod.snd) s).1
          (d.runWitnessed ops (s, reports)).1 made := by
  induction ops generalizing s reports with
  | nil => exact ⟨rfl, [], (List.append_nil reports).symm, .nil⟩
  | cons timed ops ih =>
    obtain ⟨now, op⟩ := timed
    have one := witnessed_stamp now op (d.perform op s).1
    obtain ⟨state, made, added, others⟩ := ih (d.perform op s).2
      (reports ++ (op.report? (op.stamp now (d.perform op s).1)).toList)
    refine ⟨state, _, ?_, .cons one others⟩
    rw [← List.append_assoc]
    exact added

/-- **The witness is transparent and exact.** Any sequence of operations on any driver, run through a
witness: storage ends in the same state as without one, the results are those without one except for
the time of removal in removed records, and the reports are those of the writes that succeeded. -/
theorem witness_transparent (d : Driver σ) (ops : List (Instant × StorageOp)) (s : σ) :
    let bare := d.runAll (ops.map Prod.snd) s
    let seen := d.runWitnessed ops (s, [])
    seen.2.1 = bare.2 ∧ WitnessedRun (ops.map Prod.fst) bare.1 seen.1 seen.2.2 := by
  intro bare seen
  obtain ⟨state, made, reported, run⟩ := witnessedRun_runWitnessed d ops s []
  have exactly : seen.2.2 = made := reported.trans (List.nil_append made)
  rw [exactly]
  exact ⟨state, run⟩

end ReleaseControl
