import NubiSync.Daemon.LocalFiles

set_option autoImplicit false

/-! # Setting aside

What an executor is going to delete it first renames to a scratch name beside it, so that the deletion can
be taken back until its receipts are gone. `MovedAside` is one such rename; renames of several paths do
not touch one another (`MovedAside.swap`), so a batch of them can be taken back also when one of them has
to stay. -/

namespace NubiSync

open Checks Methods FileTrees

/-- A scratch name in the directory of a path. -/
def Beside (scratch path : LocalPath) : Prop :=
  ∃ kind processId n, scratch = path.dropLast ++ [scratchName kind processId n]

theorem Beside.isScratch {scratch path : LocalPath} (h : Beside scratch path) : IsScratch scratch := by
  obtain ⟨kind, processId, n, rfl⟩ := h
  exact isScratch_concat _ _ _ _

theorem Beside.dropLast_eq {scratch path : LocalPath} (h : Beside scratch path) :
    scratch.dropLast = path.dropLast := by
  obtain ⟨kind, processId, n, rfl⟩ := h
  rw [List.dropLast_concat]

/-- A scratch name beside a child is a child as well. -/
theorem Beside.child {scratch path : LocalPath} {name : FileName} (h : Beside scratch (path ++ [name])) :
    ∃ other, scratch = path ++ [other] := by
  obtain ⟨kind, processId, n, rfl⟩ := h
  exact ⟨_, by rw [List.dropLast_concat]⟩

/-- What is beside a path stands below another if the path does. -/
theorem Beside.child_of {scratch path above : LocalPath} {name : FileName} (h : Beside scratch path)
    (hpath : path ≠ []) (hchild : scratch = above ++ [name]) : ∃ other, path = above ++ [other] := by
  obtain ⟨kind, processId, n, rfl⟩ := h
  obtain ⟨habove, -⟩ := List.append_inj' hchild rfl
  exact ⟨path.getLast hpath, by rw [← habove, List.dropLast_append_getLast]⟩

/-- What stood at a path, with nothing below it, stands at a scratch name beside it that was free. -/
structure MovedAside (target quarantine : LocalPath) (node : Node) (m m' : LocalNodes) : Prop where
  proper : target ≠ []
  stood : m target = some node
  bare : ∀ name, m (target ++ [name]) = none
  free : m quarantine = none
  freeBelow : ∀ name, m (quarantine ++ [name]) = none
  beside : Beside quarantine target
  moved : m' = Function.update (Function.update m target none) quarantine (some node)

namespace MovedAside

variable {target quarantine target₂ quarantine₂ path : LocalPath} {node node₂ : Node}
  {m m' m'' : LocalNodes} {store : RootStore} {d : LocalRoot}

theorem target_ne (h : MovedAside target quarantine node m m') : target ≠ quarantine := by
  rintro rfl
  have hstood := h.stood
  rw [h.free] at hstood
  cases hstood

theorem at_quarantine (h : MovedAside target quarantine node m m') : m' quarantine = some node := by
  rw [h.moved, Function.update_self]

theorem at_target (h : MovedAside target quarantine node m m') : m' target = none := by
  rw [h.moved, Function.update_of_ne h.target_ne, Function.update_self]

theorem elsewhere (h : MovedAside target quarantine node m m') (htarget : path ≠ target)
    (hquarantine : path ≠ quarantine) : m' path = m path := by
  rw [h.moved, Function.update_of_ne hquarantine, Function.update_of_ne htarget]

theorem undone (h : MovedAside target quarantine node m m') :
    Function.update (Function.update m' quarantine none) target (some node) = m := by
  funext path
  rw [h.moved]
  by_cases htarget : path = target
  · rw [htarget, Function.update_self, h.stood]
  · rw [Function.update_of_ne htarget]
    by_cases hquarantine : path = quarantine
    · rw [hquarantine, Function.update_self, h.free]
    · rw [Function.update_of_ne hquarantine, Function.update_of_ne hquarantine,
        Function.update_of_ne htarget]

/-- **Two moves do not touch one another**, unless one of the targets is a scratch name itself. -/
theorem swap (h : MovedAside target quarantine node m m')
    (h₂ : MovedAside target₂ quarantine₂ node₂ m' m'') (hplain : ¬ IsScratch target)
    (hplain₂ : ¬ IsScratch target₂) :
    ∃ t, MovedAside target₂ quarantine₂ node₂ m t ∧ MovedAside target quarantine node t m'' := by
  have htargets : target₂ ≠ target := by
    rintro rfl
    have hstood := h₂.stood
    rw [h.at_target] at hstood
    cases hstood
  have hquarantines : quarantine₂ ≠ quarantine := by
    rintro rfl
    have hfree := h₂.free
    rw [h.at_quarantine] at hfree
    cases hfree
  have hcross : target₂ ≠ quarantine := fun hsame => hplain₂ (hsame ▸ h.beside.isScratch)
  have hcross₂ : quarantine₂ ≠ target := fun hsame => hplain (hsame ▸ h₂.beside.isScratch)
  have hstood₂ : m target₂ = some node₂ := by rw [← h.elsewhere htargets hcross, h₂.stood]
  -- a path that is empty after the first move was empty before, or it is the target
  have hbefore : ∀ path name, (∀ name, m' (path ++ [name]) = none) → m (path ++ [name]) = none := by
    intro path name hnone
    by_cases htarget : path ++ [name] = target
    · obtain ⟨other, hother⟩ := (htarget ▸ h.beside).child
      have hstands := h.at_quarantine
      rw [hother, hnone] at hstands
      cases hstands
    · by_cases hquarantine : path ++ [name] = quarantine
      · rw [hquarantine, h.free]
      · rw [← h.elsewhere htarget hquarantine, hnone]
  have hmoved₂ : MovedAside target₂ quarantine₂ node₂ m
      (Function.update (Function.update m target₂ none) quarantine₂ (some node₂)) := by
    constructor
    · exact h₂.proper
    · exact hstood₂
    · exact fun name => hbefore target₂ name h₂.bare
    · rw [← h.elsewhere hcross₂ hquarantines, h₂.free]
    · exact fun name => hbefore quarantine₂ name h₂.freeBelow
    · exact h₂.beside
    · rfl
  -- what is empty before both moves is empty after the second alone
  have hafter : ∀ path name, (∀ name, m (path ++ [name]) = none) →
      Function.update (Function.update m target₂ none) quarantine₂ (some node₂) (path ++ [name]) = none := by
    intro path name hnone
    have hquarantine : path ++ [name] ≠ quarantine₂ := by
      intro hsame
      obtain ⟨other, hother⟩ := h₂.beside.child_of h₂.proper hsame.symm
      rw [hother, hnone] at hstood₂
      cases hstood₂
    rw [Function.update_of_ne hquarantine]
    by_cases htarget : path ++ [name] = target₂
    · rw [htarget, Function.update_self]
    · rw [Function.update_of_ne htarget, hnone]
  refine ⟨_, hmoved₂, ?_⟩
  constructor
  · exact h.proper
  · rw [hmoved₂.elsewhere htargets.symm hcross₂.symm, h.stood]
  · exact fun name => hafter target name h.bare
  · rw [hmoved₂.elsewhere hcross.symm hquarantines.symm, h.free]
  · exact fun name => hafter quarantine name h.freeBelow
  · exact h.beside
  · rw [h₂.moved, h.moved]
    funext path
    simp only [Function.update_apply]
    split_ifs <;> simp_all

/-- A scratch name that is taken goes before the move as after it. -/
theorem erase (h : MovedAside target quarantine node m m') (hplain : ¬ IsScratch target)
    (hscratch : IsScratch path) (htaken : m path ≠ none) :
    m' path = m path ∧
      MovedAside target quarantine node (Function.update m path none) (Function.update m' path none) := by
  have htarget : path ≠ target := by
    rintro rfl
    exact hplain hscratch
  have hquarantine : path ≠ quarantine := by
    rintro rfl
    exact htaken h.free
  have hgone : ∀ other, m other = none → Function.update m path none other = none := by
    intro other hnone
    rw [Function.update_apply]
    split_ifs
    · rfl
    · exact hnone
  refine ⟨h.elsewhere htarget hquarantine, ?_⟩
  constructor
  · exact h.proper
  · rw [Function.update_of_ne htarget.symm, h.stood]
  · exact fun name => hgone _ (h.bare name)
  · exact hgone _ h.free
  · exact fun name => hgone _ (h.freeBelow name)
  · exact h.beside
  · rw [h.moved]
    funext other
    simp only [Function.update_apply]
    split_ifs <;> simp_all

/-- Once the scratch name goes, the target alone is missing. -/
theorem erased (h : MovedAside target quarantine node m m') :
    Function.update m' quarantine none = Function.update m target none := by
  rw [h.moved, Function.update_idem, Function.update_eq_self_iff,
    Function.update_of_ne h.target_ne.symm, h.free]

/-- What stands in a tree, with nothing below it, can be moved to a free scratch name. -/
theorem of_free {files : FileTree FileName} (hfiles : files.node? = m) (hproper : target ≠ [])
    (hstood : m target = some node) (hbare : ∀ name, m (target ++ [name]) = none)
    (hfree : m quarantine = none) (hbeside : Beside quarantine target) :
    MovedAside target quarantine node m
      (Function.update (Function.update m target none) quarantine (some node)) where
  proper := hproper
  stood := hstood
  bare := hbare
  free := hfree
  freeBelow := by
    subst hfiles
    apply FileTree.childless_of_not_directory
    rintro ⟨id, hid⟩
    rw [hfree] at hid
    cases hid
  beside := hbeside
  moved := rfl

theorem quarantine_proper (h : MovedAside target quarantine node m m') : quarantine ≠ [] := by
  obtain ⟨kind, processId, n, hname⟩ := h.beside
  simp [hname]

theorem rename (h : MovedAside target quarantine node m m') (hd : Looks m store d) :
    ∃ files, d.files.rename target quarantine = .ok (files, ()) ∧
      Looks m' store { d with files := files } := by
  obtain ⟨files, hrename, hfiles⟩ := FileTree.rename_of_free ((hd.node? target).trans h.stood)
    (fun name => (hd.node? _).trans (h.bare name)) h.proper h.quarantine_proper h.beside.dropLast_eq.symm
    ((hd.node? quarantine).trans h.free)
  refine ⟨files, hrename, ?_, hd.store⟩
  rw [hfiles, hd.nodes, h.moved]

theorem rename_back (h : MovedAside target quarantine node m m') (hd : Looks m' store d) :
    ∃ files, d.files.rename quarantine target = .ok (files, ()) ∧
      Looks m store { d with files := files } := by
  have hbare : ∀ name, m' (quarantine ++ [name]) = none := by
    intro name
    rw [h.elsewhere, h.freeBelow]
    · intro hsame
      obtain ⟨kind, processId, n, hname⟩ := h.beside
      have hlength := congrArg List.length hsame
      rw [hname] at hlength
      simp only [List.length_append, List.length_dropLast, List.length_singleton] at hlength
      have := List.length_pos_iff.mpr h.proper
      omega
    · simp
  obtain ⟨files, hrename, hfiles⟩ := FileTree.rename_of_free ((hd.node? quarantine).trans h.at_quarantine)
    (fun name => (hd.node? _).trans (hbare name)) h.quarantine_proper h.proper h.beside.dropLast_eq
    ((hd.node? target).trans h.at_target)
  refine ⟨files, hrename, ?_, hd.store⟩
  rw [hfiles, hd.nodes, h.undone]

end MovedAside

/-! ## Taking back -/

namespace ExecutorWorld

variable (world : ExecutorWorld)

/-- `if fs::symlink_metadata(path).is_ok() { return Err(error) }`: an error counts as absence. -/
def requireGone (path : LocalPath) (error : LocalExecutorError) : LocalMethod Unit := do
  match ← world.look (·.metadata path) with
  | .ok _ => throw error
  | .error _ => pure ()

/-- `rollback_deletion_quarantine`, and `rollback_directory_deletion_quarantine` with its error. -/
def moveBack (error : LocalExecutorError) (quarantinePath targetPath : LocalPath) :
    LocalMethod Unit := do
  world.requireGone targetPath error
  orThrow (world.call fun _ files => files.rename quarantinePath targetPath) error
  world.syncDirectory targetPath.dropLast error

section Rules

variable {world} {m m' : LocalNodes} {store : RootStore} {E : LocalExecutorError → LocalRoot → Prop}

theorem requireGone_rule {path : LocalPath} {error : LocalExecutorError} (hgone : m path = none) :
    LocalTriple (Looks m store) (world.requireGone path error) (fun _ => Looks m store) E := by
  apply metadata_bind
  · intro node hnode
    rw [hgone] at hnode
    cases hnode
  · exact fun _ => .pure fun _ hd => hd
  · exact fun _ _ => .pure fun _ hd => hd

theorem moveBack_rule {target quarantine : LocalPath} {node : Node} {error : LocalExecutorError}
    (h : MovedAside target quarantine node m m')
    (hE : ∀ d, Looks m store d ∨ Looks m' store d → E error d) :
    LocalTriple (Looks m' store) (world.moveBack error quarantine target) (fun _ => Looks m store) E := by
  apply Triple.bind (requireGone_rule h.at_target)
  intro _
  apply callOrThrow_bind (S := fun _ => Looks m store)
  · intro d now hd
    obtain ⟨files, hrename, hafter⟩ := h.rename_back hd
    exact ⟨files, (), hrename, hafter⟩
  · exact fun d hd => hE d (.inr hd)
  · exact fun _ => syncDirectory_rule fun d hd => hE d (.inl hd)

end Rules

end ExecutorWorld

/-! ## Taking away -/

/-- The nodes without those at some paths. -/
def without (m : LocalNodes) (paths : List LocalPath) : LocalNodes :=
  paths.foldl (fun m path => Function.update m path none) m

@[simp] theorem without_nil (m : LocalNodes) : without m [] = m := rfl

@[simp] theorem without_cons (m : LocalNodes) (path : LocalPath) (paths : List LocalPath) :
    without m (path :: paths) = without (Function.update m path none) paths := rfl

theorem without_apply (m : LocalNodes) (paths : List LocalPath) (path : LocalPath) :
    without m paths path = if path ∈ paths then none else m path := by
  induction paths generalizing m with
  | nil => simp
  | cons other rest ih =>
      rw [without_cons, ih]
      by_cases hrest : path ∈ rest
      · simp [hrest]
      · by_cases hother : path = other
        · simp [hother]
        · simp [hrest, hother]

/-! ## What a batch leaves -/

section Left

variable {moved moved' fresh fresh' : LocalPath → Node → Prop} {m m' m'' : LocalNodes}
  {target quarantine : LocalPath} {node : Node}

/-- Every node is where it was, or it may be moved and stands at a scratch name beside its place; what is
    new is among what may be new. -/
structure Aside (moved fresh : LocalPath → Node → Prop) (m m' : LocalNodes) : Prop where
  kept : ∀ path node, m path = some node → m' path = some node ∨
    moved path node ∧ ∃ other, Beside other path ∧ m' other = some node
  known : ∀ path node, m' path = some node → m path = some node ∨ fresh path node

/-- A scratch name at which a node may stand that was moved from its place. -/
def MovedBeside (moved : LocalPath → Node → Prop) (m : LocalNodes) (path : LocalPath) (node : Node) : Prop :=
  ∃ target, Beside path target ∧ moved target node ∧ m target = some node

theorem Aside.refl (moved fresh : LocalPath → Node → Prop) (m : LocalNodes) : Aside moved fresh m m :=
  ⟨fun _ _ h => .inl h, fun _ _ h => .inl h⟩

/-- What has come to stand at scratch names moves nothing. -/
theorem Aside.of_grown (h : GrownAt IsScratch m m')
    (hscratch : ∀ path node, IsScratch path → fresh path node) :
    Aside moved fresh m m' := by
  constructor
  · exact fun path node hnode => .inl (h.kept hnode)
  · intro path node hnode
    rcases h path with hsame | ⟨-, hpath⟩
    · exact .inl (hsame ▸ hnode)
    · exact .inr (hscratch path node hpath)

/-- One more change, of a node that may be moved and is beside its place after it. -/
theorem Aside.step (h : Aside moved fresh m m') (hplain : ∀ path node, moved path node → ¬ IsScratch path)
    (htarget : moved target node) (hstood : m target = some node) (hfree : m' quarantine = none)
    (hbeside : Beside quarantine target) (haside : m'' quarantine = some node)
    (helsewhere : ∀ path, path ≠ target → path ≠ quarantine → m'' path = m' path)
    (hnew : ∀ found, m'' target = some found → fresh target found) (hquarantine : fresh quarantine node) :
    Aside moved fresh m m'' := by
  have hstays : ∀ path found, path ≠ target → m' path = some found → m'' path = some found := by
    intro path found hpath hfound
    rw [helsewhere path hpath, hfound]
    rintro rfl
    rw [hfree] at hfound
    cases hfound
  constructor
  · intro path found hpath
    by_cases hsame : path = target
    · subst hsame
      obtain rfl := Option.some.inj (hpath.symm.trans hstood)
      exact .inr ⟨htarget, quarantine, hbeside, haside⟩
    · rcases h.kept path found hpath with hkept | ⟨hpathMoved, other, hother, hfound⟩
      · exact .inl (hstays path found hsame hkept)
      · refine .inr ⟨hpathMoved, other, hother, hstays other found ?_ hfound⟩
        rintro rfl
        exact hplain _ _ htarget hother.isScratch
  · intro path found hpath
    by_cases hsame : path = target
    · subst hsame
      exact .inr (hnew found hpath)
    · by_cases hpathQuarantine : path = quarantine
      · subst hpathQuarantine
        obtain rfl := Option.some.inj (haside.symm.trans hpath)
        exact .inr hquarantine
      · rw [helsewhere path hsame hpathQuarantine] at hpath
        exact h.known path found hpath

/-- What may be moved stands where it stood, as long as it has no scratch name. -/
theorem Aside.stood (h : Aside moved (MovedBeside moved m) m m')
    (hplain : ∀ path node, moved path node → ¬ IsScratch path) (htarget : moved target node)
    (hnode : m' target = some node) : m target = some node := by
  rcases h.known _ _ hnode with hstood | ⟨_, hbeside, -⟩
  · exact hstood
  · exact absurd hbeside.isScratch (hplain _ _ htarget)

theorem Aside.move (h : Aside moved (MovedBeside moved m) m m')
    (hplain : ∀ path node, moved path node → ¬ IsScratch path)
    (hmoved : MovedAside target quarantine node m' m'') (htarget : moved target node) :
    Aside moved (MovedBeside moved m) m m'' := by
  have hstood := h.stood hplain htarget hmoved.stood
  apply h.step hplain htarget hstood hmoved.free hmoved.beside hmoved.at_quarantine
  · exact fun path hpath hquarantine => hmoved.elsewhere hpath hquarantine
  · intro found hfound
    rw [hmoved.at_target] at hfound
    cases hfound
  · exact ⟨target, hmoved.beside, htarget, hstood⟩

/-- Every node is where it was, or among those that may go; what is new is among what may be new. -/
structure Withdrawn (moved fresh : LocalPath → Node → Prop) (m m' : LocalNodes) : Prop where
  kept : ∀ path node, m path = some node → m' path = some node ∨ moved path node
  known : ∀ path node, m' path = some node → m path = some node ∨ fresh path node

theorem Aside.withdrawn (h : Aside moved fresh m m') : Withdrawn moved fresh m m' :=
  ⟨fun path node hnode => (h.kept path node hnode).imp_right And.left, h.known⟩

theorem Withdrawn.mono (h : Withdrawn moved fresh m m')
    (hmoved : ∀ path node, moved path node → moved' path node)
    (hfresh : ∀ path node, fresh path node → fresh' path node) : Withdrawn moved' fresh' m m' :=
  ⟨fun path node hnode => (h.kept path node hnode).imp_right (hmoved path node),
    fun path node hnode => (h.known path node hnode).imp_right (hfresh path node)⟩

/-- What was done before, to nodes that may go and to what may be new. -/
theorem Withdrawn.after {first : LocalNodes} (h : Withdrawn moved fresh first m')
    (hkept : ∀ path node, m path = some node → first path = some node ∨ moved path node)
    (hknown : ∀ path node, first path = some node → m path = some node ∨ fresh path node) :
    Withdrawn moved fresh m m' := by
  constructor
  · intro path node hnode
    rcases hkept path node hnode with hfirst | hmoved
    · exact h.kept path node hfirst
    · exact .inr hmoved
  · intro path node hnode
    rcases h.known path node hnode with hfirst | hfresh
    · exact hknown path node hfirst
    · exact .inr hfresh

end Left

/-! ## Batches -/

/-- A failed batch left everything as it was, or some of its changes. -/
abbrev ChangesFail {β : Type} (change : β → LocalNodes → LocalNodes → Prop)
    (leak : LocalExecutorError → Prop) (m : LocalNodes) (store : RootStore) :
    LocalExecutorError → LocalRoot → Prop :=
  Fails (Looks m store) leak fun d => ∃ items m', Changes change m items m' ∧ Looks m' store d

/-- A failed item left everything as it was, or its own change. -/
abbrev ChangeFails {β : Type} (change : β → LocalNodes → LocalNodes → Prop)
    (leak : LocalExecutorError → Prop) (m : LocalNodes) (store : RootStore) :
    LocalExecutorError → LocalRoot → Prop :=
  Fails (Looks m store) leak fun d => ∃ item m', change item m m' ∧ Looks m' store d

/-- An undoing takes one change back, or stays at it. -/
def Undoes {β : Type} (change : β → LocalNodes → LocalNodes → Prop) (undo : β → LocalMethod Unit)
    (leak : LocalExecutorError → Prop) : Prop :=
  ∀ item m m' store, change item m m' →
    LocalTriple (Looks m' store) (undo item) (fun _ => Looks m store) fun error d =>
      leak error ∧ (Looks m store d ∨ Looks m' store d)

/-- Changes that can be made in any order. -/
def Commute {β : Type} (change : β → LocalNodes → LocalNodes → Prop) : Prop :=
  ∀ item other m m' m'', change item m m' → change other m' m'' →
    ∃ t, change other m t ∧ change item t m''

section Batch

variable {β : Type} {change : β → LocalNodes → LocalNodes → Prop} {undo : β → LocalMethod Unit}
  {leak : LocalExecutorError → Prop} {m m' : LocalNodes} {store : RootStore} {completed : List β}

/-- **A batch is undone**, or the first of its changes stay. -/
theorem undoAll_rule (hundo : Undoes change undo leak) :
    LocalTriple (fun d => ∃ m', Changes change m completed m' ∧ Looks m' store d)
      (undoAll undo completed) (fun _ => Looks m store) fun error d =>
        leak error ∧ ∃ items m', items <+: completed ∧ Changes change m items m' ∧ Looks m' store d := by
  apply Triple.undoChanges
  rintro before item s t ⟨after, hsplit⟩ hbefore hchange
  have hbegins : before ++ [item] <+: completed := ⟨after, by simp [hsplit]⟩
  apply (hundo item s t store hchange).mono (fun _ h => h) (fun _ _ h => h)
  rintro error d ⟨hleak, hd | hd⟩
  · exact ⟨hleak, before, s, (List.prefix_append _ _).trans hbegins, hbefore, hd⟩
  · exact ⟨hleak, before ++ [item], t, hbegins, hbefore.concat hchange, hd⟩

theorem undoAll_fails (hundo : Undoes change undo leak) (hchanges : Changes change m completed m')
    (error : LocalExecutorError) :
    LocalTriple (Looks m' store) (undoAll undo completed)
      (fun _ => ChangesFail change leak m store error) (ChangesFail change leak m store) := by
  apply (undoAll_rule hundo).mono
  · exact fun d hd => ⟨m', hchanges, hd⟩
  · exact fun _ d hd => .of_clean hd
  · rintro error d ⟨hleak, items, m'', -, hitems, hd⟩
    exact .of_dirty hleak ⟨items, m'', hitems, hd⟩

/-- **The batch is undone after an item that failed itself** and has left something of its own: what it
    has left may as well have come first. -/
theorem undoAll_after {own : LocalNodes → LocalNodes → Prop} {dirty : LocalRoot → Prop}
    (hundo : Undoes change undo leak)
    (hswap : ∀ item ∈ completed, ∀ s t u, change item s t → own t u → ∃ t', own s t' ∧ change item t' u)
    (hchanges : Changes change m completed m')
    (hdirty : ∀ first items m'' d, (first = m ∨ own m first) → items <+: completed →
      Changes change first items m'' → Looks m'' store d → dirty d) (error : LocalExecutorError) :
    LocalTriple (Fails (Looks m' store) leak (fun d => ∃ m'', own m' m'' ∧ Looks m'' store d) error)
      (undoAll undo completed) (fun _ => Fails (Looks m store) leak dirty error)
      (Fails (Looks m store) leak dirty) := by
  rintro state (hclean | ⟨hleak, m'', hown, hd⟩)
  · apply ((undoAll_rule hundo).mono (fun _ h => h) (fun _ d hd => ?_) fun failed d hd => ?_) state
      ⟨m', hchanges, hclean⟩
    · exact .of_clean hd
    · obtain ⟨hleaked, items, m₂, hbegins, hitems, hd⟩ := hd
      exact .of_dirty hleaked (hdirty m items m₂ d (.inl rfl) hbegins hitems hd)
  · obtain ⟨first, hfirst, hrest⟩ := hchanges.swap hswap hown
    apply ((undoAll_rule hundo).mono (fun _ h => h) (fun _ d hd => ?_) fun failed d hd => ?_) state
      ⟨m'', hrest, hd⟩
    · exact .of_dirty hleak (hdirty first [] first d (.inr hfirst) List.nil_prefix .nil hd)
    · obtain ⟨hleaked, items, m₂, hbegins, hitems, hd⟩ := hd
      exact .of_dirty hleaked (hdirty first items m₂ d (.inr hfirst) hbegins hitems hd)

/-- The same, where the item has left its own change. -/
theorem undoAll_after_item (hundo : Undoes change undo leak) (hcommute : Commute change)
    (hchanges : Changes change m completed m') (error : LocalExecutorError) :
    LocalTriple (ChangeFails change leak m' store error) (undoAll undo completed)
      (fun _ => ChangesFail change leak m store error) (ChangesFail change leak m store) := by
  have hswap : ∀ item ∈ completed, ∀ s t u, change item s t → (∃ other, change other t u) →
      ∃ t', (∃ other, change other s t') ∧ change item t' u := by
    rintro item - s t u hitem ⟨other, hother⟩
    obtain ⟨t', hother, hitem⟩ := hcommute item other s t u hitem hother
    exact ⟨t', ⟨other, hother⟩, hitem⟩
  apply (undoAll_after hundo hswap hchanges ?_ error).mono
  · rintro d (hclean | ⟨hleak, item, m'', hitem, hd⟩)
    · exact .of_clean hclean
    · exact .of_dirty hleak ⟨m'', ⟨item, hitem⟩, hd⟩
  · exact fun _ _ h => h
  · exact fun _ _ h => h
  · rintro first items m'' d (rfl | ⟨item, hitem⟩) - hitems hd
    · exact ⟨items, m'', hitems, hd⟩
    · exact ⟨item :: items, m'', .cons hitem hitems, hd⟩

end Batch

end NubiSync
