import NubiSync.Library.Table

set_option autoImplicit false

/-! # Partial unique indexes

`CREATE UNIQUE INDEX … WHERE` lets at most one of the selected rows of a table have a value. Two tables
with indexes of their own can still share keys and selected values; when they do not, they are apart.
Both survive whatever takes rows out of a table or out of the selection, and an upsert keeps them exactly
when the new row is compatible with the rows there are. -/

/-- A column, with the rows that an index on it is about. -/
structure PartialIndex (ρ ν : Type) where
  value : ρ → ν
  selected : ρ → Prop

namespace PartialIndex

variable {ρ ρ' κ ν : Type} {key : ρ → κ} {key' : ρ' → κ}

/-! ## One table -/

/-- At most one selected row has a value. -/
def UniqueIn (index : PartialIndex ρ ν) (t : Table key) : Prop :=
  ∀ r ∈ t.rows, ∀ r' ∈ t.rows, index.selected r → index.selected r' →
    index.value r = index.value r' → r = r'

/-- The same of the list of the selected values. -/
theorem uniqueIn_iff_nodup (index : PartialIndex ρ ν) [DecidablePred index.selected]
    (t : Table key) :
    index.UniqueIn t ↔ ((t.rows.filter (index.selected ·)).map index.value).Nodup := by
  have hrows : (t.rows.filter (index.selected ·)).Nodup := t.nodup_keys.of_map.filter _
  rw [List.nodup_map_iff_inj_on hrows]
  simp only [List.mem_filter, decide_eq_true_eq, UniqueIn]
  constructor
  · rintro hunique r ⟨hr, hselected⟩ r' ⟨hr', hselected'⟩ hsame
    exact hunique r hr r' hr' hselected hselected' hsame
  · intro hinj r hr r' hr' hselected hselected' hsame
    exact hinj r ⟨hr, hselected⟩ r' ⟨hr', hselected'⟩ hsame

/-- Every row was there before with its key and its value, and no row is newly selected. -/
def Shrinks (index : PartialIndex ρ ν) (t t' : Table key) : Prop :=
  ∀ r' ∈ t'.rows, ∃ r ∈ t.rows, key r' = key r ∧ index.value r' = index.value r
    ∧ (index.selected r' → index.selected r)

variable {index : PartialIndex ρ ν} {t t' t'' : Table key}

theorem Shrinks.refl (index : PartialIndex ρ ν) (t : Table key) : index.Shrinks t t :=
  fun r hr => ⟨r, hr, rfl, rfl, id⟩

theorem Shrinks.trans (h : index.Shrinks t t') (h' : index.Shrinks t' t'') :
    index.Shrinks t t'' := by
  intro r'' hr''
  obtain ⟨r', hr', hkey', hvalue', hselected'⟩ := h' r'' hr''
  obtain ⟨r, hr, hkey, hvalue, hselected⟩ := h r' hr'
  exact ⟨r, hr, hkey'.trans hkey, hvalue'.trans hvalue, hselected ∘ hselected'⟩

theorem Shrinks.deleteWhere (index : PartialIndex ρ ν) (t : Table key) (p : ρ → Bool) :
    index.Shrinks t (t.deleteWhere p) :=
  fun r hr => ⟨r, (Table.mem_deleteWhere.mp hr).1, rfl, rfl, id⟩

theorem Shrinks.update (t : Table key) {f : ρ → ρ} (hf : ∀ r, key (f r) = key r)
    (hvalue : ∀ r, index.value (f r) = index.value r)
    (hselected : ∀ r, index.selected (f r) → index.selected r) :
    index.Shrinks t (t.update f hf) := by
  intro r' hr'
  obtain ⟨r, hr, rfl⟩ := Table.mem_update.mp hr'
  exact ⟨r, hr, hf r, hvalue r, hselected r⟩

theorem UniqueIn.shrinks (h : index.UniqueIn t) (hshrinks : index.Shrinks t t') :
    index.UniqueIn t' := by
  intro r hr s hs hselected hselected' hsame
  obtain ⟨r₀, hr₀, hkey, hvalue, hkept⟩ := hshrinks r hr
  obtain ⟨s₀, hs₀, hkey', hvalue', hkept'⟩ := hshrinks s hs
  have hrow : r₀ = s₀ := h r₀ hr₀ s₀ hs₀ (hkept hselected) (hkept' hselected')
    (hvalue.symm.trans (hsame.trans hvalue'))
  exact t'.eq_of_key hr hs (hkey.trans (hrow ▸ hkey'.symm))

/-- The row may be inserted: no other selected row has its value. -/
theorem UniqueIn.upsert [DecidableEq κ] (h : index.UniqueIn t) {row : ρ}
    (hfree : ∀ r ∈ t.rows, index.selected r → index.value r = index.value row → key r = key row) :
    index.UniqueIn (t.upsert row) := by
  intro r hr s hs hselected hselected' hsame
  rcases Table.mem_upsert.mp hr with ⟨hold, hne⟩ | rfl
  · rcases Table.mem_upsert.mp hs with ⟨hold', -⟩ | rfl
    · exact h r hold s hold' hselected hselected' hsame
    · exact absurd (hfree r hold hselected hsame) hne
  · rcases Table.mem_upsert.mp hs with ⟨hold', hne⟩ | rfl
    · exact absurd (hfree s hold' hselected' hsame.symm) hne
    · rfl

/-- Selected rows were upserted one after the other, each of them a row that may be inserted. -/
structure Written [DecidableEq κ] (index : PartialIndex ρ ν) (t : Table key) (rows : List ρ)
    (t' : Table key) : Prop where
  table : t' = rows.foldl Table.upsert t
  selected : ∀ row ∈ rows, index.selected row
  unique : index.UniqueIn t → index.UniqueIn t'

theorem Written.nil [DecidableEq κ] (index : PartialIndex ρ ν) (t : Table key) :
    index.Written t [] t :=
  ⟨rfl, nofun, id⟩

theorem Written.snoc [DecidableEq κ] {rows : List ρ} (h : index.Written t rows t') {row : ρ}
    (hselected : index.selected row)
    (hfree : ∀ r ∈ t'.rows, index.selected r → index.value r = index.value row → key r = key row) :
    index.Written t (rows ++ [row]) (t'.upsert row) where
  table := by rw [List.foldl_append, ← h.table]; rfl
  selected := by
    intro r hr
    rcases List.mem_append.mp hr with hold | hlast
    · exact h.selected r hold
    · rwa [List.mem_singleton.mp hlast]
  unique hunique := (h.unique hunique).upsert hfree

/-! ## Two tables -/

/-- The row shares neither its key nor, if both are selected, its value with a row of the other
    table. -/
def RowApart (index : PartialIndex ρ ν) (other : PartialIndex ρ' ν) (key : ρ → κ) (row : ρ)
    (u : Table key') : Prop :=
  ∀ s ∈ u.rows, key row ≠ key' s
    ∧ (index.selected row → other.selected s → index.value row ≠ other.value s)

/-- No key, and no value of selected rows, is in both tables. -/
def Apart (index : PartialIndex ρ ν) (other : PartialIndex ρ' ν) (t : Table key) (u : Table key') :
    Prop :=
  ∀ r ∈ t.rows, index.RowApart other key r u

variable {other : PartialIndex ρ' ν} {u u' : Table key'}

/-- The same of the lists of the keys and of the selected values. -/
theorem apart_iff_disjoint (index : PartialIndex ρ ν) (other : PartialIndex ρ' ν)
    [DecidablePred index.selected] [DecidablePred other.selected] (t : Table key) (u : Table key') :
    index.Apart other t u ↔ (t.rows.map key).Disjoint (u.rows.map key')
      ∧ ((t.rows.filter (index.selected ·)).map index.value).Disjoint
          ((u.rows.filter (other.selected ·)).map other.value) := by
  simp only [List.disjoint_left, List.mem_map, List.mem_filter, decide_eq_true_eq]
  constructor
  · intro hapart
    constructor
    · rintro _ ⟨r, hr, rfl⟩ ⟨s, hs, hsame⟩
      exact (hapart r hr s hs).1 hsame.symm
    · rintro _ ⟨r, ⟨hr, hselected⟩, rfl⟩ ⟨s, ⟨hs, hselected'⟩, hsame⟩
      exact (hapart r hr s hs).2 hselected hselected' hsame.symm
  · rintro ⟨hkeys, hvalues⟩ r hr s hs
    exact ⟨fun hsame => hkeys ⟨r, hr, rfl⟩ ⟨s, hs, hsame.symm⟩, fun hselected hselected' hsame =>
      hvalues ⟨r, ⟨hr, hselected⟩, rfl⟩ ⟨s, ⟨hs, hselected'⟩, hsame.symm⟩⟩

theorem Apart.symm (h : index.Apart other t u) : other.Apart index u t := by
  intro s hs r hr
  obtain ⟨hkey, hvalue⟩ := h r hr s hs
  exact ⟨hkey.symm, fun hselected hselected' => (hvalue hselected' hselected).symm⟩

theorem Apart.shrinks_left (h : index.Apart other t u) (hshrinks : index.Shrinks t t') :
    index.Apart other t' u := by
  intro r' hr' s hs
  obtain ⟨r, hr, hkey, hvalue, hkept⟩ := hshrinks r' hr'
  obtain ⟨hother, hapart⟩ := h r hr s hs
  rw [hkey, hvalue]
  exact ⟨hother, fun hselected => hapart (hkept hselected)⟩

theorem Apart.shrinks (h : index.Apart other t u) (ht : index.Shrinks t t')
    (hu : other.Shrinks u u') : index.Apart other t' u' :=
  ((h.shrinks_left ht).symm.shrinks_left hu).symm

/-- **Writes into one of two tables** keep them apart exactly when no row of the other table has the key of
    a row that is written, and no selected one its value. -/
theorem Written.apart_iff [DecidableEq κ] {rows : List ρ} (h : index.Written t rows t')
    (hnodup : (rows.map key).Nodup) (hapart : index.Apart other t u) :
    index.Apart other t' u ↔ ∀ claim ∈ rows.map fun row => (key row, index.value row),
      ∀ s ∈ u.rows, key' s ≠ claim.1 ∧ (other.selected s → other.value s ≠ claim.2) := by
  rw [h.table]
  constructor
  · intro hafter claim hclaim s hs
    obtain ⟨row, hrow, rfl⟩ := List.mem_map.mp hclaim
    obtain ⟨hkey, hvalue⟩ :=
      hafter row ((Table.mem_foldl_upsert hnodup).mpr (Or.inl hrow)) s hs
    exact ⟨hkey.symm, fun hselected => (hvalue (h.selected row hrow) hselected).symm⟩
  · intro hfree r hr
    rcases (Table.mem_foldl_upsert hnodup).mp hr with hrow | ⟨hold, -⟩
    · intro s hs
      obtain ⟨hkey, hvalue⟩ := hfree (key r, index.value r)
        (List.mem_map_of_mem (f := fun row => (key row, index.value row)) hrow) s hs
      exact ⟨hkey.symm, fun _ hselected => (hvalue hselected).symm⟩
    · exact hapart r hold

end PartialIndex
