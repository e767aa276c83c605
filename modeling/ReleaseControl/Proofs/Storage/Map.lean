import ReleaseControl.Proofs.Storage.Steady
import ReleaseControl.Proofs.Table.Sorting
import ReleaseControl.Proofs.Text.ByteOrder

/-!
# Records in memory are a map

* `Exchange.left?`, `standing?`: what an exchange leaves under a key, and what stands there after a log.
* `Answered`: what each operation is answered after a log.
* `Logged`: a table and the log of how it came about; **`records_as_map`**.
-/

namespace ReleaseControl

def StorageOp.key? : StorageOp → Option String
  | .get key | .create key _ | .update key _ | .delete key => some key
  | .list _ => none

/-- What a write that succeeded has left under a key: a record, or none after a removal. -/
def Exchange.left? (key : String) : Exchange → Option (Option Release)
  | ⟨.create k r, .ok _⟩ => if k = key then some (some r) else none
  | ⟨.update k r, .ok _⟩ => if k = key then some (some r) else none
  | ⟨.delete k, .ok _⟩ => if k = key then some none else none
  | _ => none

/-- The record that stands under a key after a log: what the last write there that succeeded has left. -/
def standing? (key : String) (log : List Exchange) : Option Release :=
  (log.reverse.findSome? (·.left? key)).join

/-- What each operation is answered after a log. -/
inductive Answered (log : List Exchange) : Exchange → Prop
  | got {key : String} {r : Release} (stands : standing? key log = some r) :
      Answered log ⟨.get key, .ok r⟩
  | gotNothing {key : String} (free : standing? key log = none) :
      Answered log ⟨.get key, .error (.notFound key)⟩
  | created {key : String} (r : Release) (free : standing? key log = none) :
      Answered log ⟨.create key r, .ok ()⟩
  | taken {key : String} (r : Release) (stands : (standing? key log).isSome) :
      Answered log ⟨.create key r, .error (.alreadyExists key)⟩
  | updated {key : String} (r : Release) (stands : (standing? key log).isSome) :
      Answered log ⟨.update key r, .ok ()⟩
  | updatedNothing {key : String} (r : Release) (free : standing? key log = none) :
      Answered log ⟨.update key r, .error (.notFound key)⟩
  | removed {key : String} {r : Release} (stands : standing? key log = some r) :
      Answered log ⟨.delete key, .ok r⟩
  | removedNothing {key : String} (free : standing? key log = none) :
      Answered log ⟨.delete key, .error (.notFound key)⟩
  /-- The listed records are those that stand somewhere and are of the name, each once, in the order of
  the bytes of their keys. -/
  | listed {name : String} {entries : List (String × Release)}
      (ordered : entries.Pairwise fun a b => bytesOf a.1 < bytesOf b.1)
      (exact : ∀ key r, (key, r) ∈ entries ↔ standing? key log = some r ∧ r.name = name) :
      Answered log ⟨.list name, .ok (entries.map Prod.snd)⟩

/-- A table holds what stands after a log. -/
def Logged (log : List Exchange) (t : Records) : Prop := ∀ key, t.find? key = standing? key log

/-! ## Operations -/

namespace Records

variable {t : Records} {op : StorageOp}

theorem runAll_cons (op : StorageOp) (ops : List StorageOp) (t : Records) :
    driver.runAll (op :: ops) t =
      (⟨op, (perform op t).1⟩ :: (driver.runAll ops (perform op t).2).1,
        (driver.runAll ops (perform op t).2).2) := rfl

theorem ops_runAll (ops : List StorageOp) (t : Records) :
    (driver.runAll ops t).1.map Exchange.op = ops := by
  induction ops generalizing t with
  | nil => rfl
  | cons op ops ih => rw [runAll_cons, List.map_cons, ih]

theorem perform_of_error {e : StorageError} (failed : (perform op t).1 = .error e) :
    (perform op t).2 = t := by
  rcases steady_driver op t with same | ⟨-, answer, ok⟩
  · exact same
  · cases failed.symm.trans ok

theorem find?_perform_of_ne {key : String} (other : op.key? ≠ some key) :
    (perform op t).2.find? key = t.find? key := by
  have ne : ∀ k, op.key? = some k → key ≠ k := fun k about same => other (same ▸ about)
  cases op with
  | get k => simp only [perform]; split <;> rfl
  | list name => rfl
  | create k r =>
    simp only [perform]
    split
    · rfl
    · rw [Table.find?_insert, if_neg (ne k rfl)]
  | update k r =>
    simp only [perform]
    split
    · rw [Table.find?_insert, if_neg (ne k rfl)]
    · rfl
  | delete k =>
    simp only [perform]
    split
    · rw [Table.find?_erase, if_neg (ne k rfl)]
    · rfl

end Records

/-! ## Logs -/

theorem standing?_concat (key : String) (log : List Exchange) (x : Exchange) :
    standing? key (log ++ [x]) = ((x.left? key).getD (standing? key log)) := by
  rw [standing?, List.reverse_append, List.reverse_singleton, List.singleton_append,
    List.findSome?_cons]
  cases x.left? key <;> rfl

namespace Logged

variable {log : List Exchange} {t : Records}

theorem empty : Logged [] .empty := fun _ => rfl

theorem contains_iff (h : Logged log t) {key : String} :
    t.contains key = true ↔ (standing? key log).isSome := by
  rw [Table.contains, h key]

theorem not_contains_iff (h : Logged log t) {key : String} :
    ¬ t.contains key = true ↔ standing? key log = none := by
  rw [h.contains_iff, Option.not_isSome_iff_eq_none]

theorem quiet (h : Logged log t) {x : Exchange} (hx : ∀ key, x.left? key = none) :
    Logged (log ++ [x]) t := by
  intro key
  rw [standing?_concat, hx, Option.getD_none, h key]

theorem write (h : Logged log t) {x : Exchange} {key : String} {left : Option Release} {t' : Records}
    (hx : ∀ k, x.left? k = if key = k then some left else none)
    (ht : ∀ k, t'.find? k = if k = key then left else t.find? k) : Logged (log ++ [x]) t' := by
  intro k
  rw [standing?_concat, hx, ht]
  by_cases hk : key = k
  · rw [if_pos hk, if_pos hk.symm, Option.getD_some]
  · rw [if_neg hk, if_neg (Ne.symm hk), Option.getD_none, h k]

theorem answered_list (h : Logged log t) (name : String) :
    Answered log ⟨.list name, .ok (t.values.filter (·.name == name))⟩ := by
  have entries : t.values.filter (·.name == name) =
      (t.entries.filter (·.2.name == name)).map Prod.snd := by
    rw [Table.values, List.filter_map]
    rfl
  rw [entries]
  refine .listed ((t.sorted.filter _).imp fun lt => bytesOf_lt_of_lt lt) fun key r => ?_
  rw [← h key, Table.find?, lookup_eq_some_iff t.sorted.distinctKeys, List.mem_filter, beq_iff_eq]

/-- **The step**: an operation is answered as the log has it, and logged. -/
theorem perform (h : Logged log t) (op : StorageOp) :
    Answered log ⟨op, (Records.perform op t).1⟩ ∧
      Logged (log ++ [⟨op, (Records.perform op t).1⟩]) (Records.perform op t).2 := by
  cases op with
  | get key =>
    simp only [Records.perform]
    split
    · next r found => exact ⟨.got (h key ▸ found), h.quiet fun _ => rfl⟩
    · next free => exact ⟨.gotNothing (h key ▸ free), h.quiet fun _ => rfl⟩
  | create key r =>
    simp only [Records.perform]
    split
    · next stands => exact ⟨.taken r (h.contains_iff.1 stands), h.quiet fun _ => rfl⟩
    · next free => exact ⟨.created r (h.not_contains_iff.1 free),
        h.write (fun _ => rfl) fun k => Table.find?_insert ..⟩
  | update key r =>
    simp only [Records.perform]
    split
    · next stands => exact ⟨.updated r (h.contains_iff.1 stands),
        h.write (fun _ => rfl) fun k => Table.find?_insert ..⟩
    · next free => exact ⟨.updatedNothing r (h.not_contains_iff.1 free), h.quiet fun _ => rfl⟩
  | delete key =>
    simp only [Records.perform]
    split
    · next r found => exact ⟨.removed (h key ▸ found),
        h.write (fun _ => rfl) fun k => Table.find?_erase ..⟩
    · next free => exact ⟨.removedNothing (h key ▸ free), h.quiet fun _ => rfl⟩
  | list name => exact ⟨h.answered_list name, h.quiet fun _ => rfl⟩

/-- **The run**: every operation is answered as the log before it has it, and all are logged. -/
theorem runAll (h : Logged log t) (ops : List StorageOp) :
    (∀ before x after, (Records.driver.runAll ops t).1 = before ++ x :: after →
        Answered (log ++ before) x) ∧
      Logged (log ++ (Records.driver.runAll ops t).1) (Records.driver.runAll ops t).2 := by
  -- the log grows by each answer, so the rest of the run starts behind a longer log
  induction ops generalizing log t with
  | nil => exact ⟨fun before x after split => absurd split (by simp [Driver.runAll]),
      (List.append_nil log).symm ▸ h⟩
  | cons op ops ih =>
    obtain ⟨answer, logged⟩ := h.perform op
    obtain ⟨answers, all⟩ := ih logged
    rw [Records.runAll_cons]
    refine ⟨fun before x after split => ?_, by rwa [List.append_assoc] at all⟩
    cases before with
    | nil =>
      obtain ⟨rfl, -⟩ := List.cons.inj split
      rwa [List.append_nil]
    | cons first before =>
      obtain ⟨rfl, rest⟩ := List.cons.inj split
      rw [List.append_cons]
      exact answers before x after rest

end Logged

/-- **Records in memory are a map.** In every run from the empty table, each operation is answered as the
log before it has it. And after the run, an operation that fails leaves the table as it is, while any
operation leaves the keys alone that it is not about. -/
theorem records_as_map (ops : List StorageOp) :
    let run := Records.driver.runAll ops .empty
    run.1.map Exchange.op = ops ∧
      (∀ before x after, run.1 = before ++ x :: after → Answered before x) ∧
      ∀ op, (∀ e, (Records.perform op run.2).1 = .error e → (Records.perform op run.2).2 = run.2) ∧
        ∀ key, op.key? ≠ some key → (Records.perform op run.2).2.find? key = run.2.find? key := by
  intro run
  obtain ⟨answers, -⟩ := Logged.runAll .empty ops
  refine ⟨Records.ops_runAll ops .empty, answers, fun op => ⟨?_, ?_⟩⟩
  · exact fun e failed => Records.perform_of_error failed
  · exact fun key other => Records.find?_perform_of_ne other

end ReleaseControl
