import NubiSync.Library.FileTree
import NubiSync.Sync.CatalogTree

set_option autoImplicit false

/-! # Paths below a local root

The executors join safe relative paths to the local root, and the scan joins the names it reads to
relative paths. A local path is the list of the names below the root. Names need not be text; where they
are, the path and its text determine each other. -/

namespace NubiSync

/-- A name that a directory can hold: a text that can stand in a path, or bytes that are not UTF-8. -/
inductive FileName where
  | utf8 (text : Text) (valid : isSafeRemoteName text = true)
  | nonUtf8 (bytes : ByteArray) (invalid : ¬ bytes.IsValidUTF8)
      (valid : 0x2F ∉ bytes.data ∧ 0x00 ∉ bytes.data)

instance : DecidableEq FileName
  | .utf8 text _, .utf8 other _ => decidable_of_iff (text = other) (by simp)
  | .nonUtf8 bytes .., .nonUtf8 other .. =>
      decidable_of_iff (bytes.data = other.data) (by simp [ByteArray.ext_iff])
  | .utf8 .., .nonUtf8 .. => isFalse (by simp)
  | .nonUtf8 .., .utf8 .. => isFalse (by simp)

def FileName.intoString : FileName → Option Text
  | .utf8 text _ => some text
  | .nonUtf8 .. => none

/-- A component of a path, where it is a name. -/
def FileName.ofText? (text : Text) : Option FileName :=
  if h : isSafeRemoteName text = true then some (.utf8 text h) else none

theorem FileName.ofText?_eq_some {text : Text} {name : FileName} :
    FileName.ofText? text = some name ↔ name.intoString = some text := by
  unfold FileName.ofText?
  split
  · cases name with
    | utf8 other hother => simp [intoString, eq_comm]
    | nonUtf8 => simp [intoString]
  · next hunsafe =>
      cases name with
      | utf8 other hother =>
          simp only [intoString, Option.some.injEq, reduceCtorEq, false_iff]
          rintro rfl
          exact hunsafe hother
      | nonUtf8 => simp [intoString]

theorem FileName.safe_of_intoString {name : FileName} {text : Text} (h : name.intoString = some text) :
    isSafeRemoteName text = true := by
  cases name with
  | utf8 other hother => exact Option.some.inj h ▸ hother
  | nonUtf8 => cases h

theorem FileName.slash_free {name : FileName} {text : Text} (h : name.intoString = some text) :
    '/' ∉ text :=
  ((isSafeRemoteName_iff _).mp (safe_of_intoString h)).2.2.1

/-- The names from the root down. -/
abbrev LocalPath := List FileName

/-- `root_path.join(relative_path)`: the components, as `Path::components` gives them. -/
def localPath (relativePath : Text) : LocalPath := relativePath.components.filterMap FileName.ofText?

/-- The path of a scanned entry, as its text. -/
def LocalPath.relative (path : LocalPath) : Text :=
  ['/'].intercalate (path.filterMap FileName.intoString)

/-- Every name of the path is a text. -/
def LocalPath.IsUtf8 (path : LocalPath) : Prop := ∀ name ∈ path, name.intoString.isSome = true

namespace LocalPath

theorem isUtf8_concat {path : LocalPath} {name : FileName} :
    IsUtf8 (path ++ [name]) ↔ path.IsUtf8 ∧ name.intoString.isSome = true := by
  simp [IsUtf8, or_imp, forall_and]

theorem components_relative {path : LocalPath} (h : path.filterMap FileName.intoString ≠ []) :
    path.relative.components = path.filterMap FileName.intoString := by
  refine List.splitOn_intercalate '/' (fun text htext => ?_) h
  obtain ⟨name, -, hname⟩ := List.mem_filterMap.mp htext
  exact FileName.slash_free hname

theorem filterMap_intoString_ne_nil {path : LocalPath} (h : path ≠ []) (hutf8 : path.IsUtf8) :
    path.filterMap FileName.intoString ≠ [] := by
  obtain ⟨name, rest, rfl⟩ := List.exists_cons_of_ne_nil h
  obtain ⟨text, htext⟩ := Option.isSome_iff_exists.mp (hutf8 name List.mem_cons_self)
  rw [List.filterMap_cons_some htext]
  exact List.cons_ne_nil _ _

theorem localPath_relative {path : LocalPath} (h : path ≠ []) (hutf8 : path.IsUtf8) :
    localPath path.relative = path := by
  rw [localPath, components_relative (filterMap_intoString_ne_nil h hutf8), List.filterMap_filterMap]
  calc
    path.filterMap (fun name => name.intoString.bind FileName.ofText?) = path.filterMap some :=
      List.filterMap_congr fun name hname => by
        obtain ⟨text, htext⟩ := Option.isSome_iff_exists.mp (hutf8 name hname)
        rw [htext, Option.bind_some]
        exact FileName.ofText?_eq_some.mpr htext
    _ = path := List.filterMap_some

theorem relative_of_filterMap_eq_nil {path : LocalPath} (h : path.filterMap FileName.intoString = [])
    {name : FileName} {text : Text} (htext : name.intoString = some text) :
    LocalPath.relative (path ++ [name]) = text := by
  simp [relative, h, htext]

theorem relative_concat {path : LocalPath} (h : path.filterMap FileName.intoString ≠ [])
    {name : FileName} {text : Text} (htext : name.intoString = some text) :
    LocalPath.relative (path ++ [name]) = path.relative.child text := by
  refine Text.components_injective ?_
  rw [Text.components_child _ _ (FileName.slash_free htext), components_relative h,
    components_relative (by simp [htext]), List.filterMap_append, List.filterMap_cons_some htext,
    List.filterMap_nil]

theorem safe_relative {path : LocalPath} (h : path.filterMap FileName.intoString ≠ []) :
    isSafeRelativePath path.relative = true := by
  induction path using List.reverseRecOn with
  | nil => exact absurd rfl h
  | append_singleton above name ih =>
      cases htext : name.intoString with
      | none =>
          have hsame : (above ++ [name]).filterMap FileName.intoString
              = above.filterMap FileName.intoString := by
            simp [htext]
          rw [relative, hsame]
          exact ih (hsame ▸ h)
      | some text =>
          have hname := FileName.safe_of_intoString htext
          by_cases habove : above.filterMap FileName.intoString = []
          · rw [relative_of_filterMap_eq_nil habove htext]
            exact isSafeRelativePath_name hname
          · rw [relative_concat habove htext]
            exact isSafeRelativePath_child (ih habove) hname

theorem relative_injective {path path' : LocalPath} (h : path ≠ []) (hutf8 : path.IsUtf8)
    (h' : path' ≠ []) (hutf8' : path'.IsUtf8) (hsame : path.relative = path'.relative) :
    path = path' := by
  rw [← localPath_relative h hutf8, hsame, localPath_relative h' hutf8']

end LocalPath

/-- The components of a safe path are names. -/
theorem safe_components {path : Text} (h : isSafeRelativePath path = true) :
    ∀ component ∈ path.components, isSafeRemoteName component = true := by
  obtain ⟨⟨-, -, -, hnul⟩, hcomponents⟩ := (isSafeRelativePath_iff path).mp h
  have hfree : ∀ t : Text, '\x00' ∉ t → ∀ component ∈ t.components, '/' ∉ component ∧ '\x00' ∉ component := by
    intro t
    induction t using Text.path_induction with
    | top name hname =>
        intro hnul component hmem
        rw [Text.components_of_slash_free name hname, List.mem_singleton] at hmem
        exact hmem ▸ ⟨hname, hnul⟩
    | below parent name hname ih =>
        intro hnul component hmem
        simp only [Text.child, List.mem_append, List.mem_cons, not_or] at hnul
        rw [Text.components_child parent name hname, List.mem_append, List.mem_singleton] at hmem
        rcases hmem with hmem | rfl
        · exact ih hnul.1 component hmem
        · exact ⟨hname, hnul.2.2⟩
  intro component hmem
  obtain ⟨hne, hdot⟩ := hcomponents component hmem
  exact (isSafeRemoteName_iff _).mpr ⟨hne, hdot, hfree path hnul component hmem⟩

theorem intoString_localPath {path : Text} (h : isSafeRelativePath path = true) :
    (localPath path).filterMap FileName.intoString = path.components := by
  rw [localPath, List.filterMap_filterMap]
  calc
    path.components.filterMap (fun text => (FileName.ofText? text).bind FileName.intoString)
        = path.components.filterMap some :=
      List.filterMap_congr fun component hcomponent => by
        rw [FileName.ofText?, dif_pos (safe_components h component hcomponent)]
        rfl
    _ = path.components := List.filterMap_some

theorem localPath_ne_nil {path : Text} (h : isSafeRelativePath path = true) : localPath path ≠ [] := by
  intro hnil
  have htexts := intoString_localPath h
  rw [hnil] at htexts
  exact Text.components_ne_nil path htexts.symm

/-- A safe path is spelled by its names. -/
theorem relative_localPath {path : Text} (h : isSafeRelativePath path = true) :
    (localPath path).relative = path := by
  rw [LocalPath.relative, intoString_localPath h]
  exact List.intercalate_splitOn '/'

theorem localPath_injective {path path' : Text} (h : isSafeRelativePath path = true)
    (h' : isSafeRelativePath path' = true) (hsame : localPath path = localPath path') : path = path' := by
  rw [← relative_localPath h, hsame, relative_localPath h']

end NubiSync
