import NubiSync.Library.Indexing

set_option autoImplicit false

/-! # Keyed tables

A table of a relational store: rows with a primary key. The structure carries the key constraint, so
every operation has to keep it, and a lookup by key is as good as membership
(`find?_eq_some_iff`). Row order carries no meaning. -/

/-- Rows no two of which share a key. -/
structure Table {ρ κ : Type} (key : ρ → κ) where
  rows : List ρ
  nodup_keys : (rows.map key).Nodup

namespace Table

variable {ρ κ : Type} {key : ρ → κ}

instance : EmptyCollection (Table key) := ⟨⟨[], List.nodup_nil⟩⟩

@[simp] theorem rows_empty : (∅ : Table key).rows = [] := rfl

theorem eq_of_key (t : Table key) {r r' : ρ} (hr : r ∈ t.rows) (hr' : r' ∈ t.rows)
    (h : key r = key r') : r = r' :=
  List.inj_on_of_nodup_map t.nodup_keys hr hr' h

/-- `DELETE … WHERE p`. -/
def deleteWhere (t : Table key) (p : ρ → Bool) : Table key :=
  ⟨t.rows.filter (!p ·), t.nodup_keys.sublist (List.filter_sublist.map _)⟩

@[simp] theorem mem_deleteWhere {t : Table key} {p : ρ → Bool} {r : ρ} :
    r ∈ (t.deleteWhere p).rows ↔ r ∈ t.rows ∧ p r = false := by
  simp [deleteWhere]

/-- `UPDATE … SET`, for an update that leaves the key alone. -/
def update (t : Table key) (f : ρ → ρ) (hf : ∀ r, key (f r) = key r) : Table key :=
  ⟨t.rows.map f, by
    rw [List.map_map, show key ∘ f = key from funext hf]
    exact t.nodup_keys⟩

@[simp] theorem mem_update {t : Table key} {f : ρ → ρ} {hf : ∀ r, key (f r) = key r} {r : ρ} :
    r ∈ (t.update f hf).rows ↔ ∃ r' ∈ t.rows, f r' = r := by
  simp [update]

variable [DecidableEq κ]

/-- `SELECT … WHERE key = k`. -/
def find? (t : Table key) (k : κ) : Option ρ := t.rows.find? (key · = k)

theorem find?_eq_some_iff {t : Table key} {k : κ} {r : ρ} :
    t.find? k = some r ↔ r ∈ t.rows ∧ key r = k := by
  constructor
  · intro h
    exact ⟨List.mem_of_find?_eq_some h, by simpa using List.find?_some h⟩
  · rintro ⟨hr, rfl⟩
    exact Indexing.find?_key_of_mem t.nodup_keys hr

theorem find?_eq_none_iff {t : Table key} {k : κ} :
    t.find? k = none ↔ ∀ r ∈ t.rows, key r ≠ k := by
  simp [find?]

/-- `INSERT … ON CONFLICT DO UPDATE`. -/
def upsert (t : Table key) (r : ρ) : Table key :=
  ⟨t.rows.filter (key · ≠ key r) ++ [r], by
    rw [List.map_append, List.nodup_append]
    refine ⟨t.nodup_keys.sublist (List.filter_sublist.map _), by simp, ?_⟩
    intro k hk k' hk' hsame
    obtain ⟨r', hr', rfl⟩ := List.mem_map.mp hk
    obtain rfl : k' = key r := by simpa using hk'
    exact absurd hsame (by simpa using (List.mem_filter.mp hr').2)⟩

@[simp] theorem mem_upsert {t : Table key} {r r' : ρ} :
    r' ∈ (t.upsert r).rows ↔ (r' ∈ t.rows ∧ key r' ≠ key r) ∨ r' = r := by
  simp [upsert]

theorem rows_upsert_of_absent {t : Table key} {row : ρ} (h : t.find? (key row) = none) :
    (t.upsert row).rows = t.rows ++ [row] := by
  have hkept : t.rows.filter (key · ≠ key row) = t.rows :=
    List.filter_eq_self.mpr fun r hr => by simpa using find?_eq_none_iff.mp h r hr
  show t.rows.filter (key · ≠ key row) ++ [row] = _
  rw [hkept]

theorem find?_upsert (t : Table key) (r : ρ) (k : κ) :
    (t.upsert r).find? k = if key r = k then some r else t.find? k := by
  split
  · next hk => exact find?_eq_some_iff.mpr ⟨mem_upsert.mpr (Or.inr rfl), hk⟩
  · next hk =>
      refine Option.ext fun r' => ?_
      simp only [find?_eq_some_iff, mem_upsert]
      constructor
      · rintro ⟨⟨hr', -⟩ | rfl, hkey⟩
        · exact ⟨hr', hkey⟩
        · exact absurd hkey hk
      · rintro ⟨hr', hkey⟩
        exact ⟨Or.inl ⟨hr', fun h => hk (h.symm.trans hkey)⟩, hkey⟩

theorem find?_deleteWhere (t : Table key) (p : ρ → Bool) (k : κ) :
    (t.deleteWhere p).find? k = (t.find? k).filter (!p ·) := by
  refine Option.ext fun r => ?_
  simp only [find?_eq_some_iff, mem_deleteWhere, Option.filter_eq_some_iff, Bool.not_eq_true']
  exact ⟨fun ⟨⟨hr, hp⟩, hk⟩ => ⟨⟨hr, hk⟩, hp⟩, fun ⟨⟨hr, hk⟩, hp⟩ => ⟨⟨hr, hp⟩, hk⟩⟩

/-- Deleting the rows of some keys leaves the rows of the other keys as they are. -/
theorem find?_deleteWhere_keys (t : Table key) {p : ρ → Bool} {keys : List κ}
    (hp : ∀ r, p r = true ↔ key r ∈ keys) (k : κ) [Decidable (k ∈ keys)] :
    (t.deleteWhere p).find? k = if k ∈ keys then none else t.find? k := by
  refine Option.ext fun r => ?_
  rw [find?_deleteWhere, Option.filter_eq_some_iff, find?_eq_some_iff]
  split
  · next hin =>
      simp only [reduceCtorEq, iff_false, not_and]
      rintro ⟨-, rfl⟩
      simpa using (hp r).mpr hin
  · next hout =>
      rw [find?_eq_some_iff]
      refine ⟨And.left, fun h => ⟨h, ?_⟩⟩
      have hno : ¬ p r = true := fun hr => hout (h.2 ▸ (hp r).mp hr)
      simpa using hno

/-- A table of rows inserted one after the other. -/
def ofRows (rows : List ρ) : Table key := rows.foldl upsert ∅

theorem mem_foldl_upsert {rows : List ρ} (hnodup : (rows.map key).Nodup) {t : Table key} {r : ρ} :
    r ∈ (rows.foldl upsert t).rows ↔
      r ∈ rows ∨ r ∈ t.rows ∧ ∀ r' ∈ rows, key r' ≠ key r := by
  induction rows generalizing t with
  | nil => simp
  | cons first rest ih =>
      obtain ⟨hfirst, hrest⟩ := List.nodup_cons.mp hnodup
      rw [List.foldl_cons, ih hrest, mem_upsert, List.mem_cons, List.forall_mem_cons]
      constructor
      · rintro (hr | ⟨⟨hr, hne⟩ | rfl, hno⟩)
        · exact Or.inl (Or.inr hr)
        · exact Or.inr ⟨hr, Ne.symm hne, hno⟩
        · exact Or.inl (Or.inl rfl)
      · rintro ((rfl | hr) | ⟨hr, hne, hno⟩)
        · refine Or.inr ⟨Or.inr rfl, fun r' hr' hsame => hfirst ?_⟩
          exact List.mem_map.mpr ⟨r', hr', hsame⟩
        · exact Or.inl hr
        · exact Or.inr ⟨Or.inl ⟨hr, Ne.symm hne⟩, hno⟩

theorem mem_ofRows {rows : List ρ} (hnodup : (rows.map key).Nodup) {r : ρ} :
    r ∈ (ofRows rows : Table key).rows ↔ r ∈ rows := by
  simp [ofRows, mem_foldl_upsert hnodup]

end Table
