import NubiSync.Library.Search
import NubiSync.Library.Table

set_option autoImplicit false

/-! # Tables whose rows link to a parent

Rows that name another row as their parent, by its key. A recursive query over the parent links
collects everything below a key, whatever the links look like: a link may point nowhere, and links may
close a cycle. `find?_deleteSubtree` is what deleting by such a query does to the table. -/

namespace Table

variable {ρ κ : Type} [DecidableEq κ] {key : ρ → κ} (parentOf : ρ → Option κ) (t : Table key)

/-- The keys of the rows that link to a key. -/
def childKeys (parent : κ) : List κ := (t.rows.filter (parentOf · = some parent)).map key

/-- The recursive query: a key, and the keys that lead to it along the links. -/
def subtreeKeys (k : κ) : List κ :=
  Worklist.search (t.childKeys parentOf) (t.rows.length + 1) [k] [k]

/-- Delete what the recursive query collects. -/
def deleteSubtree (k : κ) : Table key :=
  t.deleteWhere fun row => (t.subtreeKeys parentOf k).contains (key row)

theorem mem_childKeys (parent child : κ) :
    child ∈ t.childKeys parentOf parent ↔ (t.find? child).map parentOf = some (some parent) := by
  simp only [childKeys, List.mem_map, List.mem_filter, decide_eq_true_eq, Option.map_eq_some_iff,
    find?_eq_some_iff]
  constructor
  · rintro ⟨row, ⟨hrow, hparent⟩, hkey⟩
    exact ⟨row, ⟨hrow, hkey⟩, hparent⟩
  · rintro ⟨row, ⟨hrow, hkey⟩, hparent⟩
    exact ⟨row, ⟨hrow, hparent⟩, hkey⟩

/-- The recursive query selects what the key reaches. -/
theorem mem_subtreeKeys (k k' : κ) :
    k' ∈ t.subtreeKeys parentOf k ↔ Worklist.Reach (t.childKeys parentOf) [k] k' := by
  have hnodes : ∀ parent, ∀ child ∈ t.childKeys parentOf parent, child ∈ t.rows.map key := by
    intro parent child hchild
    obtain ⟨row, hrow, rfl⟩ := List.mem_map.mp hchild
    exact List.mem_map.mpr ⟨row, (List.mem_filter.mp hrow).1, rfl⟩
  exact Worklist.mem_search_seed_iff hnodes (by rw [List.length_map]) k k'

/-- A key and the key its row links to. -/
def Link (child parent : κ) : Prop := (t.find? child).map parentOf = some (some parent)

/-- The recursive query selects what leads to the key along the links. -/
theorem mem_subtreeKeys_iff_links (k k' : κ) :
    k' ∈ t.subtreeKeys parentOf k ↔ Relation.ReflTransGen (t.Link parentOf) k' k := by
  have hstep : Worklist.Step (t.childKeys parentOf) = Function.swap (t.Link parentOf) := by
    funext parent child
    exact propext (t.mem_childKeys parentOf parent child)
  rw [mem_subtreeKeys, Worklist.Reach, hstep]
  simp only [List.mem_singleton, exists_eq_left, Relation.reflTransGen_swap]

theorem find?_deleteSubtree (k k' : κ) [Decidable (k' ∈ t.subtreeKeys parentOf k)] :
    (t.deleteSubtree parentOf k).find? k' =
      if k' ∈ t.subtreeKeys parentOf k then none else t.find? k' :=
  t.find?_deleteWhere_keys (fun _ => List.contains_iff_mem) k'

end Table
