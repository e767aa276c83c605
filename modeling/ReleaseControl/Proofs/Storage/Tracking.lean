import ReleaseControl.Proofs.Engine.Journal
import ReleaseControl.Proofs.Storage.Key
import ReleaseControl.Storage.Records

/-!
# Storage and journal side by side

* `Records.Keyed`, `Entry.KeepsKeys`: records stand, and are written, under their own keys.
* `Driver.Serves`: a driver that works on a table and may fail at any operation.
* `Tracks`: the table and the journal agree; `Tracks.perform` is the step, **`Tracks.run`** the run.
-/

namespace ReleaseControl

/-- Every record stands under its own key. -/
def Records.Keyed (t : Records) : Prop := ∀ key r, t.find? key = some r → r.key = key

theorem Records.Keyed.insert {t : Records} (h : t.Keyed) (r : Release) :
    Records.Keyed (t.insert r.key r) := by
  intro key q hq
  rw [Table.find?_insert] at hq
  split at hq
  · next hk =>
    cases hq
    exact hk.symm
  · exact h key q hq

theorem Records.Keyed.erase {t : Records} (h : t.Keyed) (key : String) :
    Records.Keyed (t.erase key) := by
  intro k q hq
  rw [Table.find?_erase] at hq
  split at hq
  · cases hq
  · exact h k q hq

variable {σ : Type}

/-- The driver works on the table of its state: an operation does what it does to the table, or it
fails and leaves the table alone. -/
def Driver.Serves (d : Driver σ) (table : σ → Records) : Prop :=
  ∀ op s, ((d.perform op s).1, table (d.perform op s).2) = Records.perform op (table s) ∨
    (∃ e, (d.perform op s).1 = .error e) ∧ table (d.perform op s).2 = table s

theorem serves_driver : Records.driver.Serves id := fun _ _ => .inl rfl

/-! ## Journals by key -/

namespace Entry

/-- A record that the step creates or updates goes under its own key, and through storage. -/
def KeepsKeys : Entry → Prop
  | .performed _ (.create key r) _ => r.key = key
  | .performed _ (.update key r) _ => r.key = key
  | .reported _ => False
  | _ => True

/-- Only writes to storage make records known, unless a record is reported without one. -/
theorem record?_eq_none {e : Entry} (own : e.KeepsKeys) (h : e.writtenKey? = none) :
    e.record? = none := by
  cases e with
  | performed now op result => cases op <;> cases result <;> first | rfl | cases h
  | reported r => exact own.elim
  | logged line => rfl
  | cancelled => rfl

theorem removed?_eq_none {e : Entry} (h : e.writtenKey? = none) (key : String) :
    e.removed? key = none := by
  cases e with
  | performed now op result => cases op <;> cases result <;> first | rfl | cases h
  | reported r => rfl
  | logged line => rfl
  | cancelled => rfl

theorem removed?_delete (time : Instant) (key k : String) (r : Release) :
    (performed time (.delete key) (.ok r)).removed? k = if key = k then some (r.deletedAt time) else none :=
  rfl

theorem deleted_of_removed? {e : Entry} {key : String} {r : Release} (h : e.removed? key = some r) :
    r.deleted.isSome := by
  unfold removed? at h
  split at h
  · split at h
    · cases h
      rfl
    · cases h
  · cases h

end Entry

/-- The record that a journal last removed from a key, marked as deleted. -/
def lastRemoved? (key : String) (journal : List Entry) : Option Release :=
  journal.reverse.findSome? (·.removed? key)

theorem deleted_of_lastRemoved? {key : String} {j : List Entry} {r : Release}
    (h : lastRemoved? key j = some r) : r.deleted.isSome := by
  obtain ⟨e, -, he⟩ := List.exists_of_findSome?_eq_some h
  exact Entry.deleted_of_removed? he

theorem lastRemoved?_concat (key : String) (j : List Entry) (e : Entry) :
    lastRemoved? key (j ++ [e]) = (e.removed? key).or (lastRemoved? key j) := by
  rw [lastRemoved?, List.reverse_append, List.reverse_singleton, List.singleton_append,
    List.findSome?_cons, ← lastRemoved?]
  cases e.removed? key <;> rfl

theorem lastUnder?_concat_of_none {e : Entry} (h : e.record? = none) (key : String) (j : List Entry) :
    lastUnder? key (j ++ [e]) = lastUnder? key j := by
  rw [lastUnder?, written_append, written_cons, h]
  simp [lastUnder?]

theorem lastUnder?_concat_of_some {e : Entry} {r : Release} (h : e.record? = some r) (key : String)
    (j : List Entry) :
    lastUnder? key (j ++ [e]) = if r.key = key then some r else lastUnder? key j := by
  rw [lastUnder?, written_append, written_cons, h]
  by_cases hk : r.key = key <;> simp [hk, lastUnder?]

/-! ## Agreement -/

/-- What a table holds under a key, as a journal has it: what the table held before if the journal
made nothing known there, else the record that it made known last, unless it removed that one. -/
def Agrees (before now removed : Option Release) : Option Release → Prop
  | none => now = before
  | some r => now = some r ∨ now = none ∧ removed = some r

/-- A table and the journal of how it came about, from the table before. -/
structure Tracks (before now : Records) (j : List Entry) : Prop where
  keyed : now.Keyed
  ownKeys : ∀ e ∈ j, e.writtenKey? = e.record?.map Release.key
  agrees : ∀ key, Agrees (before.find? key) (now.find? key) (lastRemoved? key j) (lastUnder? key j)

namespace Tracks

variable {before now : Records} {j : List Entry}

theorem nil (h : before.Keyed) : Tracks before before [] where
  keyed := h
  ownKeys := List.forall_mem_nil _
  agrees := fun _ => rfl

theorem ownKeys_concat (h : Tracks before now j) {e : Entry}
    (he : e.writtenKey? = e.record?.map Release.key) :
    ∀ x ∈ j ++ [e], x.writtenKey? = x.record?.map Release.key := by
  intro x hx
  rcases List.mem_append.1 hx with hx | hx
  · exact h.ownKeys x hx
  · rwa [List.mem_singleton.1 hx]

theorem quiet (h : Tracks before now j) {e : Entry} (own : e.KeepsKeys) (hk : e.writtenKey? = none) :
    Tracks before now (j ++ [e]) where
  keyed := h.keyed
  ownKeys := h.ownKeys_concat (by rw [hk, e.record?_eq_none own hk, Option.map_none])
  agrees := fun key => by
    rw [lastRemoved?_concat, e.removed?_eq_none hk, lastUnder?_concat_of_none (e.record?_eq_none own hk)]
    exact h.agrees key

theorem store (h : Tracks before now j) {e : Entry} {r : Release} (hk : e.writtenKey? = some r.key)
    (hr : e.record? = some r) (hd : ∀ key, e.removed? key = none) :
    Tracks before (now.insert r.key r) (j ++ [e]) where
  keyed := h.keyed.insert r
  ownKeys := h.ownKeys_concat (by rw [hk, hr, Option.map_some])
  agrees := fun key => by
    rw [lastRemoved?_concat, hd, lastUnder?_concat_of_some hr, Table.find?_insert]
    by_cases hkey : r.key = key
    · rw [if_pos hkey, if_pos hkey.symm]
      exact .inl rfl
    · rw [if_neg hkey, if_neg (Ne.symm hkey)]
      exact h.agrees key

theorem remove (h : Tracks before now j) {key : String} {r : Release} (hf : now.find? key = some r)
    (time : Instant) :
    Tracks before (now.erase key) (j ++ [.performed time (.delete key) (.ok r)]) where
  keyed := h.keyed.erase key
  ownKeys := h.ownKeys_concat (congrArg some (h.keyed key r hf).symm)
  agrees := fun k => by
    have hkey : (r.deletedAt time).key = key := h.keyed key r hf
    rw [lastRemoved?_concat, lastUnder?_concat_of_some rfl, Table.find?_erase, Entry.removed?_delete,
      hkey]
    by_cases hk : key = k
    · rw [if_pos hk, if_pos hk, if_pos hk.symm]
      exact .inr ⟨rfl, rfl⟩
    · rw [if_neg hk, if_neg hk, if_neg (Ne.symm hk)]
      exact h.agrees k

/-- **The step**: an operation on the table, whatever the answer. -/
theorem perform (h : Tracks before now j) (time : Instant) (op : StorageOp)
    (own : (Entry.performed time op (Records.perform op now).1).KeepsKeys) :
    Tracks before (Records.perform op now).2
      (j ++ [.performed time op (Records.perform op now).1]) := by
  cases op with
  | get key =>
    simp only [Records.perform]
    split <;> exact h.quiet trivial rfl
  | list name => exact h.quiet trivial rfl
  | create key r =>
    obtain rfl : r.key = key := own
    simp only [Records.perform]
    split
    · exact h.quiet rfl rfl
    · exact h.store rfl rfl fun _ => rfl
  | update key r =>
    obtain rfl : r.key = key := own
    simp only [Records.perform]
    split
    · exact h.store rfl rfl fun _ => rfl
    · exact h.quiet rfl rfl
  | delete key =>
    simp only [Records.perform]
    split
    · next r hf => exact h.remove hf time
    · exact h.quiet trivial rfl

variable {d : Driver σ} {table : σ → Records}

theorem step (serves : d.Serves table) {s : σ} (h : Tracks before (table s) j) (time : Instant)
    (op : StorageOp) (own : (Entry.performed time op (d.perform op s).1).KeepsKeys) :
    Tracks before (table (d.perform op s).2) (j ++ [.performed time op (d.perform op s).1]) := by
  rcases serves op s with hp | ⟨⟨e, he⟩, hs⟩
  · obtain ⟨h₁, h₂⟩ := Prod.mk.inj hp
    rw [h₁] at own ⊢
    rw [h₂]
    exact h.perform time op own
  · rw [he] at own ⊢
    rw [hs]
    exact h.quiet own (by cases op <;> rfl)

/-- **After every run** of a program that keeps to the keys of records, the table and the journal
agree. -/
theorem run (serves : d.Serves table) (clock : Nat → Instant) (p : Program) (progress : Progress σ)
    (h : Tracks before (table progress.state) j)
    (own : ∀ e ∈ p.journal d clock progress.state progress.operations, e.KeepsKeys) :
    Tracks before (table (p.run d clock progress).state)
      (j ++ p.journal d clock progress.state progress.operations) := by
  induction p generalizing progress j with
  | finish _ => simpa [Program.run, Program.journal] using h
  | hang => simpa [Program.run, Program.journal] using h
  | panic _ => simpa [Program.run, Program.journal] using h
  | log line next ih =>
    rw [Program.journal, List.append_cons]
    exact ih { progress with log := progress.log.log line }
      (h.quiet (own _ List.mem_cons_self) rfl) fun e he => own e (List.mem_cons_of_mem _ he)
  | storage op next ih =>
    rw [Program.journal] at own ⊢
    rw [Program.run, witnessed_perform, List.append_cons]
    exact ih _ _ (h.step serves _ op (own _ List.mem_cons_self)) fun e he =>
      own e (List.mem_cons_of_mem _ he)
  | report r next ih => exact (own _ List.mem_cons_self).elim
  | cancel next ih =>
    rw [Program.journal, List.append_cons]
    exact ih { progress with cancelled := true }
      (h.quiet (own _ List.mem_cons_self) rfl) fun e he => own e (List.mem_cons_of_mem _ he)

theorem exists_writtenKey_iff (h : Tracks before now j) (key : String) :
    (∃ e ∈ j, e.writtenKey? = some key) ↔ ∃ r, lastUnder? key j = some r := by
  rw [← Option.isSome_iff_exists, lastUnder?, List.find?_isSome]
  simp only [List.mem_reverse, written, List.mem_filterMap, decide_eq_true_eq]
  constructor
  · rintro ⟨e, he, hk⟩
    rw [h.ownKeys e he, Option.map_eq_some_iff] at hk
    obtain ⟨r, hr, hkey⟩ := hk
    exact ⟨r, ⟨e, he, hr⟩, hkey⟩
  · rintro ⟨r, ⟨e, he, hr⟩, hkey⟩
    exact ⟨e, he, by rw [h.ownKeys e he, hr, Option.map_some, hkey]⟩

end Tracks

end ReleaseControl
