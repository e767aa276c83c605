import ReleaseControl.Codec.Record

/-!
# What a reader yields

* `Field.Preserves`: reading the field and filling it in keep a property of records.
* **`of_decode`**: what holds of the blank record and is kept by every field holds of all that is read.
-/

namespace ReleaseControl

variable {σ α : Type} {P : σ → Prop}

theorem exists_of_map_eq_ok {β ε : Type} {e : Except ε α} {f : α → β} {y : β} (h : e.map f = .ok y) :
    ∃ x, e = .ok x ∧ f x = y := by
  cases e with
  | error e => cases h
  | ok x => exact ⟨x, rfl, Except.ok.inj h⟩

namespace Field

/-- Reading the field and filling it in keep a property of records. -/
structure Preserves (P : σ → Prop) (f : Field σ) : Prop where
  decode {v s t} : P s → f.decode v s = .ok t → P t
  missing {s t} : P s → f.missing s = .ok t → P t
  missingAtEnd {s t} : P s → f.missingAtEnd s = some t → P t

variable {name : String} {c : Codec α}

theorem preserves_required {get : σ → α} {set : α → σ → σ}
    (h : ∀ v x, c.decode v = .ok x → ∀ s, P s → P (set x s)) :
    (required name c get set).Preserves P where
  decode hs ht := by
    obtain ⟨x, hx, rfl⟩ := exists_of_map_eq_ok ht
    exact h _ x hx _ hs
  missing _ ht := nomatch ht
  missingAtEnd _ ht := nomatch ht

theorem preserves_defaulted {default : α} {get : σ → α} {set : α → σ → σ}
    (h : ∀ x s, P s → P (set x s)) : (defaulted name c default get set).Preserves P where
  decode hs ht := by
    obtain ⟨x, -, rfl⟩ := exists_of_map_eq_ok ht
    exact h x _ hs
  missing hs ht := Except.ok.inj ht ▸ h default _ hs
  missingAtEnd hs ht := Option.some.inj ht ▸ h default _ hs

theorem preserves_optional {get : σ → Option α} {set : Option α → σ → σ}
    (h : ∀ v x, decodeOption c v = .ok x → ∀ s, P s → P (set x s)) (hnone : ∀ s, P s → P (set none s)) :
    (optional name c get set).Preserves P where
  decode hs ht := by
    obtain ⟨x, hx, rfl⟩ := exists_of_map_eq_ok ht
    exact h _ x hx _ hs
  missing hs ht := Except.ok.inj ht ▸ hnone _ hs
  missingAtEnd hs ht := Option.some.inj ht ▸ hnone _ hs

theorem preserves_nullable {get : σ → Option α} {set : Option α → σ → σ}
    (h : ∀ v x, decodeOption c v = .ok x → ∀ s, P s → P (set x s)) (hnone : ∀ s, P s → P (set none s)) :
    (nullable name c get set).Preserves P :=
  have base : (optional name c get set).Preserves P := preserves_optional h hnone
  { decode := base.decode, missing := base.missing, missingAtEnd := nofun }

end Field

namespace Record

variable {r : Record σ} {fields : List (Field σ)} {entries : List (String × Json)}

theorem of_readPresent (h : ∀ f ∈ fields, f.Preserves P) {s t : σ} (hs : P s)
    (ht : readPresent entries fields s = .ok t) : P t := by
  induction fields generalizing s with
  | nil => exact Except.ok.inj ht ▸ hs
  | cons f fields ih =>
    obtain ⟨hf, hfields⟩ := List.forall_mem_cons.1 h
    rw [readPresent] at ht
    split at ht
    · next v _ =>
      cases hv : f.decode v s with
      | error e => rw [hv] at ht; cases ht
      | ok u =>
        rw [hv] at ht
        exact ih hfields (hf.decode hs hv) ht
    · exact ih hfields hs ht

theorem of_fillMissing (h : ∀ f ∈ fields, f.Preserves P) {s t : σ} (hs : P s)
    (ht : fillMissing entries fields s = .ok t) : P t := by
  induction fields generalizing s with
  | nil => exact Except.ok.inj ht ▸ hs
  | cons f fields ih =>
    obtain ⟨hf, hfields⟩ := List.forall_mem_cons.1 h
    rw [fillMissing] at ht
    split at ht
    · exact ih hfields hs ht
    · cases hv : f.missing s with
      | error e => rw [hv] at ht; cases ht
      | ok u =>
        rw [hv] at ht
        exact ih hfields (hf.missing hs hv) ht

theorem of_decodeItems (h : ∀ f ∈ fields, f.Preserves P) {items : List Json} {index : Nat} {s t : σ}
    (hs : P s) (ht : r.decodeItems index fields items s = .ok t) : P t := by
  induction fields generalizing s index items with
  | nil =>
    cases items with
    | nil => exact Except.ok.inj ht ▸ hs
    | cons v items => cases ht
  | cons f fields ih =>
    obtain ⟨hf, hfields⟩ := List.forall_mem_cons.1 h
    cases items with
    | nil =>
      rw [decodeItems] at ht
      split at ht
      · next u hu => exact ih hfields (hf.missingAtEnd hs hu) ht
      · cases ht
    | cons v items =>
      rw [decodeItems] at ht
      cases hv : f.decode v s with
      | error e => rw [hv] at ht; cases ht
      | ok u =>
        rw [hv] at ht
        exact ih hfields (hf.decode hs hv) ht

/-- **What no field takes away, every record that is read has.** -/
theorem of_decode (blank : P r.blank) (h : ∀ f ∈ r.fields, f.Preserves P) {v : Json} {t : σ}
    (ht : r.codec.decode v = .ok t) : P t := by
  cases v with
  | obj entries =>
    cases hs : readPresent entries.reverse r.fieldsByName r.blank with
    | error e => simp [codec, decodeEntries, hs] at ht; cases ht
    | ok s =>
      have byName : ∀ f ∈ r.fieldsByName, f.Preserves P := fun f hf => h f (List.mem_mergeSort.1 hf)
      simp only [codec, decodeEntries, hs] at ht
      exact of_fillMissing h (of_readPresent byName blank hs) ht
  | arr items =>
    simp only [codec] at ht
    split at ht
    · cases ht
    · exact of_decodeItems h blank ht
  | _ => cases ht

end Record

end ReleaseControl
