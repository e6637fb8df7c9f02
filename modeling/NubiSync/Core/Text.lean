import Mathlib.Data.Char
import Mathlib.Data.List.Lex

set_option autoImplicit false

/-! # Text

Provider identifiers, item names and relative paths are Rust `String`s. The model keeps them as lists
of Unicode scalar values: every string operation the planners and the store use (comparison, prefix
tests, `split`, `trim`, `contains`) is an operation on the scalar values, the order of the UTF-8
encodings is the lexicographic order of the scalar values, and lists compute in the kernel. -/

namespace NubiSync

/-- A Rust string, as its list of Unicode scalar values. -/
abbrev Text := List Char

instance : LawfulBEq Text := inferInstanceAs (LawfulBEq (List Char))

namespace Text

/-- The Unicode `White_Space` property, which `str::trim` strips. -/
def isWhitespace (c : Char) : Bool :=
  let n := c.toNat
  (0x9 ≤ n && n ≤ 0xD) || n == 0x20 || n == 0x85 || n == 0xA0 || n == 0x1680
    || (0x2000 ≤ n && n ≤ 0x200A) || n == 0x2028 || n == 0x2029 || n == 0x202F || n == 0x205F
    || n == 0x3000

/-- `str::trim`: drop leading and trailing white space. -/
def trim (t : Text) : Text := ((t.dropWhile isWhitespace).reverse.dropWhile isWhitespace).reverse

/-- `t.trim().is_empty()`, the test every identifier has to fail. -/
def isBlank (t : Text) : Bool := (trim t).isEmpty

/-- `t.split('/')`: the slash-separated components, always at least one. -/
def components (t : Text) : List Text := t.splitOn '/'

/-- `t.rsplit('/').next()`: the last component. -/
def basename (t : Text) : Text := (components t).getLastD []

/-- `format!("{parent}/{name}")`. -/
def child (parent name : Text) : Text := parent ++ '/' :: name

/-- `path` lies strictly below `parent`: it starts with `parent` and a slash. -/
def IsBelow (parent path : Text) : Prop := parent ++ ['/'] <+: path

/-! ## Components of a joined path -/

theorem components_child (parent name : Text) (hname : '/' ∉ name) :
    components (child parent name) = components parent ++ [name] := by
  unfold components child
  rw [List.splitOn_append_cons_self, List.splitOn_eq_singleton hname]

theorem components_of_slash_free (name : Text) (hname : '/' ∉ name) : components name = [name] :=
  List.splitOn_eq_singleton hname

theorem components_injective : Function.Injective components := fun a b h => by
  calc
    a = _ := (List.intercalate_splitOn '/').symm
    _ = _ := congrArg _ h
    _ = b := List.intercalate_splitOn '/'

theorem components_ne_nil (t : Text) : components t ≠ [] := List.splitOn_ne_nil '/' t

/-- Two joined paths with slash-free last components agree on both parts. -/
theorem child_inj {p q a b : Text} (ha : '/' ∉ a) (hb : '/' ∉ b) (h : child p a = child q b) :
    p = q ∧ a = b := by
  have hcomps := congrArg components h
  rw [components_child p a ha, components_child q b hb] at hcomps
  obtain ⟨hp, hab⟩ := List.append_inj' hcomps rfl
  exact ⟨components_injective hp, List.singleton_inj.mp hab⟩

/-! ## Paths, one component at a time -/

/-- A path with a slash is what stands before its last slash joined to what stands after it:
    `rsplit_once('/')`. -/
theorem exists_child_of_slash {t : Text} (h : '/' ∈ t) :
    ∃ parent name, t = child parent name ∧ '/' ∉ name := by
  obtain ⟨after, before, hsplit, hafter⟩ :=
    List.eq_append_cons_of_mem (List.mem_reverse.mpr h)
  refine ⟨before.reverse, after.reverse, ?_, by simpa using hafter⟩
  have hrev := congrArg List.reverse hsplit
  simpa [child] using hrev

theorem length_lt_child (parent name : Text) : parent.length < (child parent name).length := by
  rw [child, List.length_append, List.length_cons]
  omega

/-- Induction along a path: a single component, or a path with one more component. -/
theorem path_induction {motive : Text → Prop} (top : ∀ name, '/' ∉ name → motive name)
    (below : ∀ parent name, '/' ∉ name → motive parent → motive (child parent name)) (t : Text) :
    motive t := by
  induction hlength : t.length using Nat.strong_induction_on generalizing t with
  | _ length ih =>
      by_cases h : '/' ∈ t
      · obtain ⟨parent, name, rfl, hname⟩ := exists_child_of_slash h
        exact below parent name hname (ih _ (hlength ▸ length_lt_child parent name) parent rfl)
      · exact top t h

/-! ## Below a path -/

theorem not_isBelow_of_slash_free {parent name : Text} (hname : '/' ∉ name) :
    ¬ IsBelow parent name := fun h => hname (h.subset (by simp))

/-- What lies strictly above a joined path is its parent or lies above its parent. -/
theorem isBelow_child {parent path name : Text} (hname : '/' ∉ name) :
    IsBelow parent (child path name) ↔ parent = path ∨ IsBelow parent path := by
  constructor
  · rintro ⟨rest, hrest⟩
    rw [child, List.append_eq_append_iff] at hrest
    rcases hrest with ⟨middle, hpath, -⟩ | ⟨middle, hparent, htail⟩
    · exact Or.inr ⟨middle, hpath.symm⟩
    · -- the slash after `parent` is the one after `path`, or lies before it
      rcases List.eq_nil_or_concat middle with rfl | ⟨front, last, rfl⟩
      · exact Or.inr ⟨[], by simpa using hparent⟩
      · rw [List.concat_eq_append, ← List.append_assoc] at hparent
        obtain ⟨rfl, hlast⟩ := List.append_inj' hparent rfl
        obtain rfl := List.singleton_inj.mp hlast
        cases front with
        | nil => exact Or.inl (by simp)
        | cons c front =>
            simp only [List.concat_eq_append, List.cons_append, List.cons.injEq] at htail
            exact absurd (by simp [htail.2]) hname
  · rintro (rfl | h)
    · exact ⟨name, by simp [child]⟩
    · exact h.trans (List.prefix_append _ _)

end Text

/-! ## Safe relative paths -/

/-- The dot components `.` and `..`. -/
def isDotName (t : Text) : Bool := t == ".".toList || t == "..".toList

/-- The test every crate makes of a relative path before it trusts it: `validate_safe_relative_path`,
    `validate_local_snapshot_relative_path`, `is_safe_local_event_relative_path` and the receipt
    validators all spell it out. -/
def isSafeRelativePath (path : Text) : Bool :=
  !(path.isEmpty || path.head? == some '/' || path.getLast? == some '/' || path.contains '\x00')
    && path.components.all fun component => !(component.isEmpty || isDotName component)

theorem basename_ne_nil {path : Text} (h : isSafeRelativePath path = true) : path.basename ≠ [] := by
  have hcomponents : path.components ≠ [] := List.splitOn_ne_nil _ _
  rw [Text.basename, List.getLastD_eq_getLast?, List.getLast?_eq_some_getLast hcomponents,
    Option.getD_some]
  have hlast := List.all_eq_true.mp (Bool.and_eq_true_iff.mp h).2 _ (List.getLast_mem hcomponents)
  intro hnil
  rw [hnil] at hlast
  cases hlast

end NubiSync
