import ReleaseControl.History.Observed
import ReleaseControl.Proofs.Number.Digits

/-!
# Storage keys

The last separator of a key stands before the version, whatever the name holds, and a version is read off
its decimal text.
-/

namespace ReleaseControl

/-! ## Decimal text -/

theorem toDigits_inj {m n : Nat} : Nat.toDigits 10 m = Nat.toDigits 10 n ↔ m = n := by
  refine ⟨fun h => ?_, fun h => h ▸ rfl⟩
  rw [← Nat.ofDigitChars_ten_toDigits (n := m), h, Nat.ofDigitChars_ten_toDigits]

theorem minus_cons_ne_toDigits (l : List Char) (n : Nat) : '-' :: l ≠ Nat.toDigits 10 n := by
  intro h
  have : '-' ∈ Nat.toDigits 10 n := h ▸ List.mem_cons_self
  exact absurd (isDigit_of_mem_toDigits this) (by decide)

theorem intChars_inj {a b : Int} : intChars a = intChars b ↔ a = b := by
  refine ⟨fun h => ?_, fun h => h ▸ rfl⟩
  unfold intChars at h
  split at h <;> split at h
  · rw [List.cons.injEq, toDigits_inj] at h
    omega
  · exact absurd h (minus_cons_ne_toDigits _ _)
  · exact absurd h.symm (minus_cons_ne_toDigits _ _)
  · rw [toDigits_inj] at h
    omega

theorem v_notMem_intChars (a : Int) : 'v' ∉ intChars a := by
  have hd : 'v' ∉ Nat.toDigits 10 a.natAbs := fun h => absurd (isDigit_of_mem_toDigits h) (by decide)
  unfold intChars
  split
  · rw [List.mem_cons]
    exact fun h => h.elim (by decide) hd
  · exact hd

theorem v_notMem_versionText (u : Int32) : 'v' ∉ (versionText u).toList := by
  rw [versionText, String.toList_ofList]
  exact v_notMem_intChars _

theorem versionText_inj {u v : Int32} : versionText u = versionText v ↔ u = v := by
  rw [versionText, versionText, String.ofList_inj, intChars_inj, Int32.toInt_inj]

/-! ## Keys -/

/-- Two texts that end in a separator and a rest without it agree in both parts. -/
theorem append_separator_inj {α : Type} {s : α} {a b x y : List α} (hx : s ∉ x) (hy : s ∉ y) :
    a ++ s :: x = b ++ s :: y ↔ a = b ∧ x = y := by
  refine ⟨fun h => ?_, fun ⟨h₁, h₂⟩ => h₁ ▸ h₂ ▸ rfl⟩
  rcases List.append_eq_append_iff.1 h with ⟨w, hb, hw⟩ | ⟨w, ha, hw⟩
  · cases w with
    | nil => exact ⟨by simpa using hb.symm, (List.cons.inj hw).2⟩
    | cons c w =>
      have : s ∈ x := (List.cons.inj hw).2 ▸ List.mem_append_right w List.mem_cons_self
      exact absurd this hx
  · cases w with
    | nil => exact ⟨by simpa using ha, ((List.cons.inj hw).2).symm⟩
    | cons c w =>
      have : s ∈ y := (List.cons.inj hw).2 ▸ List.mem_append_right w List.mem_cons_self
      exact absurd this hy

theorem toList_joined (p n v : String) :
    (p ++ n ++ ".v" ++ v).toList = p.toList ++ ((n.toList ++ ['.']) ++ 'v' :: v.toList) := by
  have hv : ".v".toList = ['.', 'v'] := by decide
  simp only [String.toList_append, hv, List.append_assoc, List.cons_append, List.nil_append]

/-- **A storage key determines the name and the version.** -/
theorem storageKey_inj {n m : String} {u v : Int32} :
    storageKey n u = storageKey m v ↔ n = m ∧ u = v := by
  refine ⟨fun h => ?_, fun ⟨h₁, h₂⟩ => h₁ ▸ h₂ ▸ rfl⟩
  have hl := congrArg String.toList h
  change (_ ++ n ++ ".v" ++ versionText u).toList = (_ ++ m ++ ".v" ++ versionText v).toList at hl
  rw [toList_joined, toList_joined, List.append_cancel_left_eq,
    append_separator_inj (v_notMem_versionText u) (v_notMem_versionText v),
    List.append_cancel_right_eq, String.toList_inj, String.toList_inj, versionText_inj] at hl
  exact hl

/-! ## Revisions -/

/-- What the key of a record stands for. -/
def Release.revision (r : Release) : String × Int32 := (r.name, r.version)

def Snapshot.revision (s : Snapshot) : String × Int32 := (s.name, s.version)

@[simp] theorem revision_toSnapshot (r : Release) : r.toSnapshot.revision = r.revision := rfl

@[simp] theorem key_toSnapshot (r : Release) : r.toSnapshot.key = r.key := rfl

theorem Snapshot.key_eq_iff {s t : Snapshot} : s.key = t.key ↔ s.revision = t.revision := by
  rw [Snapshot.key, Snapshot.key, storageKey_inj, revision, revision, Prod.mk.injEq]

end ReleaseControl
