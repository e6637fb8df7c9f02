import NubiSync.Cli.CreateConfirmation
import NubiSync.Daemon.WindowCollection

set_option autoImplicit false

/-! # The page loop, cut off and begun again

The loop that collects a window keeps nothing but what it stages, so a loop that is begun again goes
on where the cut left it. Only the count of pages starts again. -/

namespace NubiSync

open Checks Transactions

variable {provider : SelectedRootChangeProvider} {limit : CliError}

/-- An open window on the base it had, if it had one, and the rest as it was but for the window. -/
structure Collects (store staged : RootStore) : Prop where
  remoteOnly : RemoteOnly store staged
  catalog_eq : staged.catalog = store.catalog
  window : ∃ window, staged.windowState = some window
    ∧ ∀ earlier, store.windowState = some earlier → window.baseCursor = earlier.baseCursor

theorem Collects.trans {store middle last : RootStore} (h : Collects store middle)
    (h' : Collects middle last) : Collects store last := by
  obtain ⟨window, hwindow, hbase⟩ := h.window
  obtain ⟨window', hwindow', hbase'⟩ := h'.window
  refine ⟨h.remoteOnly.trans h'.remoteOnly, h'.catalog_eq.trans h.catalog_eq, window', hwindow', ?_⟩
  intro earlier hearlier
  exact (hbase' window hwindow).trans (hbase earlier hearlier)

theorem Collected.collects {store staged : RootStore}
    {collection : SelectedRootChangeWindowCollection} (h : Collected store staged collection) :
    Collects store staged := by
  obtain ⟨window, hwindow, -, hbase⟩ := h.window
  exact ⟨h.remoteOnly, h.catalog_eq, window, hwindow, hbase⟩

/-- A complete window ends the loop in its first round. -/
theorem collectChangeWindow_of_complete {store : RootStore} {window : SyncRootChangeWindowState}
    (hwindow : store.windowState = some window) (hcomplete : window.isComplete = true) (pages : ℕ) :
    collectChangeWindow provider limit (pages + 1) store = ⟨[], .ok store⟩ := by
  have hpage : collectSelectedRootChangeWindowPage provider store
      = ⟨[], .ok (store, window.collection)⟩ := by
    unfold collectSelectedRootChangeWindowPage
    rw [hwindow]
    simp only [hcomplete, ↓reduceIte]
    rfl
  rw [collectChangeWindow, cliExecutor, hpage, Trace.bind_of_ok rfl]
  simp [SyncRootChangeWindowState.collection, hcomplete]

/-- The rounds of the loop: the window was complete; a page completes it; a page does not; or the page
    fails. -/
theorem collectChangeWindow_cases (provider : SelectedRootChangeProvider) (limit : CliError)
    (store : RootStore) :
    (∃ window, store.windowState = some window ∧
        ∀ pages, collectChangeWindow provider limit (pages + 1) store = ⟨[], .ok store⟩)
      ∨ (∃ staged window, Collects store staged ∧ staged.windowState = some window
        ∧ window.isComplete = true
        ∧ ∀ pages, collectChangeWindow provider limit (pages + 1) store = ⟨[staged], .ok staged⟩)
      ∨ (∃ staged, Collects store staged
        ∧ ∀ pages, collectChangeWindow provider limit (pages + 1) store
          = ⟨staged :: (collectChangeWindow provider limit pages staged).stores,
              (collectChangeWindow provider limit pages staged).result⟩)
      ∨ ∃ error, ∀ pages, collectChangeWindow provider limit (pages + 1) store
          = ⟨[], .error error⟩ := by
  obtain ⟨window, hwindow, hcomplete, hpage⟩ | ⟨staged, collection, hpage, hcollected⟩
      | ⟨error, hpage⟩ := collectPage_cases provider store
  · left
    exact ⟨window, hwindow, collectChangeWindow_of_complete hwindow hcomplete⟩
  · right
    obtain ⟨window, hwindow, hcollection, -⟩ := hcollected.window
    cases hcomplete : window.isComplete with
    | true =>
        left
        refine ⟨staged, window, hcollected.collects, hwindow, hcomplete, fun pages => ?_⟩
        rw [collectChangeWindow, cliExecutor, hpage, Trace.bind_of_ok rfl]
        simp [hcollection, SyncRootChangeWindowState.collection, hcomplete]
    | false =>
        right
        left
        refine ⟨staged, hcollected.collects, fun pages => ?_⟩
        rw [collectChangeWindow, cliExecutor, hpage, Trace.bind_of_ok rfl]
        simp [hcollection, SyncRootChangeWindowState.collection, hcomplete]
  · right
    right
    right
    refine ⟨error.map .executor, fun pages => ?_⟩
    rw [collectChangeWindow, cliExecutor, hpage, Trace.bind_of_error rfl]
    rfl

/-- What the loop stages, store by store and at its end. -/
theorem collectChangeWindow_leaves (provider : SelectedRootChangeProvider) (limit : CliError)
    (pages : ℕ) (store : RootStore) :
    (collectChangeWindow provider limit pages store).Leaves (Collects store) (Collects store) := by
  induction pages generalizing store with
  | zero => exact .error
  | succ pages ih =>
      obtain ⟨window, hwindow, heq⟩ | ⟨next, window, hnext, -, -, heq⟩ | ⟨next, hnext, heq⟩
          | ⟨error, heq⟩ := collectChangeWindow_cases provider limit store
      · rw [heq pages]
        refine ⟨fun _ h => (nomatch h), fun collected h => ?_⟩
        obtain rfl := Except.ok.inj h
        refine ⟨RemoteOnly.refl _, rfl, window, hwindow, fun earlier hearlier => ?_⟩
        rw [Option.some.inj (hwindow.symm.trans hearlier)]
      · rw [heq pages]
        exact ⟨fun staged h => List.mem_singleton.mp h ▸ hnext, fun staged h => Except.ok.inj h ▸ hnext⟩
      · rw [heq pages]
        obtain ⟨hstores, hresult⟩ := ih next
        exact ⟨List.forall_mem_cons.mpr ⟨hnext, fun staged h => hnext.trans (hstores staged h)⟩,
          fun staged h => hnext.trans (hresult staged h)⟩
      · rw [heq pages]
        exact .error

theorem collects_of_mem {pages : ℕ} {store staged : RootStore}
    (h : staged ∈ (collectChangeWindow provider limit pages store).stores) :
    Collects store staged :=
  (collectChangeWindow_leaves provider limit pages store).stores staged h

theorem collects_of_result {pages : ℕ} {store collected : RootStore}
    (h : (collectChangeWindow provider limit pages store).result = .ok collected) :
    Collects store collected :=
  (collectChangeWindow_leaves provider limit pages store).result collected h

/-- A loop that its limit does not stop ends the same under a higher one. -/
theorem collectChangeWindow_mono {pages pages' : ℕ} (hpages : pages ≤ pages') {store : RootStore}
    (hlimit : (collectChangeWindow provider limit pages store).result ≠ .error (.failed limit)) :
    (collectChangeWindow provider limit pages' store).result
      = (collectChangeWindow provider limit pages store).result := by
  induction pages generalizing store pages' with
  | zero => exact absurd rfl hlimit
  | succ pages ih =>
      obtain ⟨pages', rfl⟩ := Nat.exists_eq_add_of_le' (Nat.one_le_of_lt hpages)
      obtain ⟨window, -, heq⟩ | ⟨next, window, -, -, -, heq⟩ | ⟨next, -, heq⟩
        | ⟨error, heq⟩ :=
        collectChangeWindow_cases provider limit store
      · rw [heq pages, heq pages']
      · rw [heq pages, heq pages']
      · rw [heq pages] at hlimit
        rw [heq pages, heq pages']
        exact ih (by omega) hlimit
      · rw [heq pages, heq pages']

/-- **The loop goes on where it was cut off.** From any store it staged, it ends as it would have
    ended, unless its limit stopped it. -/
theorem collectChangeWindow_resume {pages pages' : ℕ} (hpages : pages ≤ pages')
    {store staged : RootStore}
    (hstaged : staged ∈ (collectChangeWindow provider limit pages store).stores)
    (hlimit : (collectChangeWindow provider limit pages store).result ≠ .error (.failed limit)) :
    (collectChangeWindow provider limit pages' staged).result
      = (collectChangeWindow provider limit pages store).result := by
  induction pages generalizing store with
  | zero => cases hstaged
  | succ pages ih =>
      obtain ⟨window, -, heq⟩ | ⟨next, window, -, hwindow, hcomplete, heq⟩ | ⟨next, -, heq⟩
          | ⟨error, heq⟩ := collectChangeWindow_cases provider limit store
      · rw [heq pages] at hstaged
        cases hstaged
      · rw [heq pages] at hstaged ⊢
        obtain rfl := List.mem_singleton.mp hstaged
        -- the window is complete already, so the first round ends the loop
        obtain ⟨pages', rfl⟩ := Nat.exists_eq_add_of_le' (Nat.one_le_of_lt hpages)
        rw [collectChangeWindow_of_complete hwindow hcomplete pages']
      · rw [heq pages] at hstaged hlimit ⊢
        rcases List.mem_cons.mp hstaged with rfl | hrest
        · exact collectChangeWindow_mono (by omega) hlimit
        · exact ih (by omega) hrest hlimit
      · rw [heq pages] at hstaged
        cases hstaged

end NubiSync
