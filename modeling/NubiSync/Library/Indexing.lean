import Mathlib.Data.List.AList

set_option autoImplicit false

/-! # Association lists built by a loop

The two ways a loop over a list fills a map. `indexBy` inserts every element under its key, and on
distinct keys `lookup_indexBy` reads it back as a search of the list. `pushEntry` is the
`entry(k).or_default().push(v)` idiom and `groupBy` the loop around it; `bucket_groupBy` says that the
bucket of a key is the sublist of the elements with that key, in order. -/

namespace Indexing

variable {α κ ν : Type*} [DecidableEq κ]

/-! ## One value a key -/

/-- Insert every element under its key. -/
def indexBy (key : α → κ) (value : α → ν) (index : AList fun _ : κ => ν) (xs : List α) :
    AList fun _ : κ => ν :=
  xs.foldl (fun index x => index.insert (key x) (value x)) index

section IndexBy

variable {key : α → κ} {value : α → ν} {xs : List α}

/-- Keys stay distinct when the lists put together share none. -/
theorem nodup_map_append {α κ : Type*} {key : α → κ} {xs ys : List α} (hxs : (xs.map key).Nodup)
    (hys : (ys.map key).Nodup) (hapart : ∀ x ∈ xs, ∀ y ∈ ys, key x ≠ key y) :
    ((xs ++ ys).map key).Nodup := by
  rw [List.map_append]
  refine List.nodup_append.mpr ⟨hxs, hys, ?_⟩
  intro _ hkey _ hkey'
  obtain ⟨x, hx, rfl⟩ := List.mem_map.mp hkey
  obtain ⟨y, hy, rfl⟩ := List.mem_map.mp hkey'
  exact hapart x hx y hy

theorem find?_key_of_mem (hnodup : (xs.map key).Nodup) {x : α} (hx : x ∈ xs) :
    xs.find? (key · = key x) = some x := by
  cases h : xs.find? (key · = key x) with
  | none => exact absurd (List.find?_eq_none.mp h x hx) (by simp)
  | some y =>
      have hkey : key y = key x := by simpa using List.find?_some h
      rw [List.inj_on_of_nodup_map hnodup (List.mem_of_find?_eq_some h) hx hkey]

theorem find?_key_map_eq_some (hnodup : (xs.map key).Nodup) (k : κ) (v : ν) :
    (xs.find? (key · = k)).map value = some v ↔ ∃ x ∈ xs, key x = k ∧ value x = v := by
  constructor
  · intro h
    obtain ⟨x, hx, hv⟩ := Option.map_eq_some_iff.mp h
    exact ⟨x, List.mem_of_find?_eq_some hx, by simpa using List.find?_some hx, hv⟩
  · intro ⟨x, hx, hkey, hv⟩
    rw [← hkey, find?_key_of_mem hnodup hx, Option.map_some, hv]

/-- A lookup in a list of pairs with distinct keys is membership. -/
theorem lookup_eq_some_iff_mem {κ : Type*} [BEq κ] [LawfulBEq κ] {pairs : List (κ × ν)}
    (hnodup : (pairs.map Prod.fst).Nodup) (k : κ) (v : ν) :
    pairs.lookup k = some v ↔ (k, v) ∈ pairs := by
  induction pairs with
  | nil => simp
  | cons pair rest ih =>
      obtain ⟨k', v'⟩ := pair
      obtain ⟨hfresh, hnodup⟩ := List.nodup_cons.mp hnodup
      rw [List.lookup_cons]
      by_cases hk : k = k'
      · subst hk
        have hrest : (k, v) ∉ rest := fun hmem => hfresh (List.mem_map.mpr ⟨(k, v), hmem, rfl⟩)
        simp [hrest, eq_comm]
      · rw [beq_false_of_ne hk]
        simp [ih hnodup, hk]

/-- **Reading an index back**: on distinct keys a lookup is a search of the list, falling back to what
    the map held before. -/
theorem lookup_indexBy (index : AList fun _ : κ => ν) (hnodup : (xs.map key).Nodup) (k : κ) :
    (indexBy key value index xs).lookup k =
      ((xs.find? (key · = k)).map value).or (index.lookup k) := by
  induction xs generalizing index with
  | nil => simp [indexBy]
  | cons x rest ih =>
      obtain ⟨hfresh, hnodup⟩ := List.nodup_cons.mp hnodup
      rw [show indexBy key value index (x :: rest) =
        indexBy key value (index.insert (key x) (value x)) rest from rfl, ih _ hnodup]
      by_cases hk : key x = k
      · subst hk
        have hnone : rest.find? (key · = key x) = none := by
          rw [List.find?_eq_none]
          intro y hy hsame
          exact hfresh (List.mem_map.mpr ⟨y, hy, by simpa using hsame⟩)
        simp [hnone]
      · rw [AList.lookup_insert_ne (Ne.symm hk), List.find?_cons_of_neg (by simp [hk])]

/-- A search by a distinct key does not depend on the order of the list. -/
theorem find?_key_perm {ys : List α} (hperm : xs.Perm ys) (hnodup : (xs.map key).Nodup) (k : κ) :
    xs.find? (key · = k) = ys.find? (key · = k) := by
  cases hfound : xs.find? (key · = k) with
  | none =>
      refine (List.find?_eq_none.mpr fun y hy => ?_).symm
      exact List.find?_eq_none.mp hfound y (hperm.mem_iff.mpr hy)
  | some x =>
      have hx := hperm.mem_iff.mp (List.mem_of_find?_eq_some hfound)
      obtain rfl : key x = k := by simpa using List.find?_some hfound
      exact (find?_key_of_mem ((hperm.map key).nodup_iff.mp hnodup) hx).symm

/-- Neither does an index on distinct keys. -/
theorem lookup_indexBy_perm {ys : List α} (hperm : xs.Perm ys) (hnodup : (xs.map key).Nodup) (k : κ) :
    (indexBy key value ∅ xs).lookup k = (indexBy key value ∅ ys).lookup k := by
  rw [lookup_indexBy ∅ hnodup, lookup_indexBy ∅ ((hperm.map key).nodup_iff.mp hnodup),
    find?_key_perm hperm hnodup]

theorem lookup_indexBy_of_mem (hnodup : (xs.map key).Nodup) {x : α} (hx : x ∈ xs) :
    (indexBy key value ∅ xs).lookup (key x) = some (value x) := by
  rw [lookup_indexBy ∅ hnodup, find?_key_of_mem hnodup hx]
  rfl

theorem lookup_indexBy_eq_none (hnodup : (xs.map key).Nodup) (k : κ) :
    (indexBy key value ∅ xs).lookup k = none ↔ ∀ x ∈ xs, key x ≠ k := by
  rw [lookup_indexBy ∅ hnodup]
  simp

theorem lookup_indexBy_eq_some (hnodup : (xs.map key).Nodup) (k : κ) (v : ν) :
    (indexBy key value ∅ xs).lookup k = some v ↔ ∃ x ∈ xs, key x = k ∧ value x = v := by
  rw [lookup_indexBy ∅ hnodup, AList.lookup_empty, Option.or_none]
  exact find?_key_map_eq_some hnodup k v

end IndexBy

/-! ## A bucket of values a key -/

/-- The values grouped under a key, empty when the key is absent. -/
def bucket (groups : AList fun _ : κ => List ν) (k : κ) : List ν := (groups.lookup k).getD []

/-- Append a value to the bucket of a key. -/
def pushEntry (groups : AList fun _ : κ => List ν) (k : κ) (v : ν) : AList fun _ : κ => List ν :=
  groups.insert k (bucket groups k ++ [v])

theorem bucket_pushEntry (groups : AList fun _ : κ => List ν) (k k' : κ) (v : ν) :
    bucket (pushEntry groups k v) k' = bucket groups k' ++ if k = k' then [v] else [] := by
  unfold pushEntry
  by_cases hk : k = k'
  · subst hk
    rw [bucket, AList.lookup_insert]
    simp
  · rw [bucket, AList.lookup_insert_ne (Ne.symm hk), if_neg hk, List.append_nil, bucket]

@[simp] theorem bucket_empty (k : κ) : bucket (∅ : AList fun _ : κ => List ν) k = [] := rfl

/-! ## Buckets as sets -/

section Sets

variable [DecidableEq ν]

/-- Add a value to the bucket of a key unless it is there. -/
def insertEntry (groups : AList fun _ : κ => List ν) (k : κ) (v : ν) : AList fun _ : κ => List ν :=
  groups.insert k (v :: (bucket groups k).filter (· ≠ v))

/-- Remove a value from the bucket of a key; an emptied bucket is dropped. -/
def dropEntry (groups : AList fun _ : κ => List ν) (k : κ) (v : ν) : AList fun _ : κ => List ν :=
  match groups.lookup k with
  | none => groups
  | some values =>
      let kept := values.filter (· ≠ v)
      if kept.isEmpty then groups.erase k else groups.insert k kept

/-- Buckets that list a value at most once and are dropped when they are empty. -/
structure BucketSets (groups : AList fun _ : κ => List ν) : Prop where
  nodup : ∀ k, (bucket groups k).Nodup
  no_empty : ∀ k, groups.lookup k ≠ some []

omit [DecidableEq ν] in
theorem bucket_insert (groups : AList fun _ : κ => List ν) (k k' : κ) (values : List ν) :
    bucket (groups.insert k values) k' = if k = k' then values else bucket groups k' := by
  split
  · next hk =>
      subst hk
      rw [bucket, AList.lookup_insert]
      rfl
  · next hk => rw [bucket, AList.lookup_insert_ne (Ne.symm hk), bucket]

omit [DecidableEq ν] in
theorem bucket_erase (groups : AList fun _ : κ => List ν) (k k' : κ) :
    bucket (groups.erase k) k' = if k = k' then [] else bucket groups k' := by
  split
  · next hk =>
      subst hk
      rw [bucket, AList.lookup_erase]
      rfl
  · next hk => rw [bucket, AList.lookup_erase_ne (Ne.symm hk), bucket]

theorem bucket_dropEntry (groups : AList fun _ : κ => List ν) (k k' : κ) (v : ν) :
    bucket (dropEntry groups k v) k' =
      if k = k' then (bucket groups k').filter (· ≠ v) else bucket groups k' := by
  unfold dropEntry
  split
  · next hnone =>
      split
      · next hk =>
          subst hk
          simp [bucket, hnone]
      · rfl
  next values hvalues =>
  have hbucket : bucket groups k = values := by rw [bucket, hvalues, Option.getD_some]
  simp only
  split
  · next hempty =>
      rw [bucket_erase]
      refine ite_congr rfl (fun hk => ?_) fun _ => rfl
      rw [← hk, hbucket, List.isEmpty_iff.mp hempty]
  · rw [bucket_insert]
    refine ite_congr rfl (fun hk => ?_) fun _ => rfl
    rw [← hk, hbucket]

theorem mem_bucket_insertEntry (groups : AList fun _ : κ => List ν) (k k' : κ) (v w : ν) :
    w ∈ bucket (insertEntry groups k v) k' ↔ (k = k' ∧ w = v) ∨ w ∈ bucket groups k' := by
  rw [insertEntry, bucket_insert]
  split
  · next hk =>
      subst hk
      by_cases hw : w = v <;> simp [hw]
  · next hk => simp [hk]

theorem mem_bucket_dropEntry (groups : AList fun _ : κ => List ν) (k k' : κ) (v w : ν) :
    w ∈ bucket (dropEntry groups k v) k' ↔ w ∈ bucket groups k' ∧ ¬ (k = k' ∧ w = v) := by
  rw [bucket_dropEntry]
  split
  · next hk => simp [hk]
  · next hk => simp [hk]

omit [DecidableEq ν] in
theorem mem_bucket_erase (groups : AList fun _ : κ => List ν) (k k' : κ) (w : ν) :
    w ∈ bucket (groups.erase k) k' ↔ k ≠ k' ∧ w ∈ bucket groups k' := by
  rw [bucket_erase]
  split
  · next hk => simp [hk]
  · next hk => simp [hk]

theorem BucketSets.insertEntry {groups : AList fun _ : κ => List ν} (h : BucketSets groups) (k : κ)
    (v : ν) : BucketSets (insertEntry groups k v) := by
  refine ⟨fun k' => ?_, fun k' => ?_⟩
  · rw [Indexing.insertEntry, bucket_insert]
    split
    · exact List.nodup_cons.mpr ⟨by simp, (h.nodup k).filter _⟩
    · exact h.nodup k'
  · unfold Indexing.insertEntry
    by_cases hk : k' = k
    · subst hk
      rw [AList.lookup_insert]
      simp
    · rw [AList.lookup_insert_ne hk]
      exact h.no_empty k'

omit [DecidableEq ν] in
theorem BucketSets.erase {groups : AList fun _ : κ => List ν} (h : BucketSets groups) (k : κ) :
    BucketSets (groups.erase k) := by
  refine ⟨fun k' => ?_, fun k' => ?_⟩
  · rw [bucket_erase]
    split
    · exact List.nodup_nil
    · exact h.nodup k'
  · by_cases hk : k' = k
    · subst hk
      rw [AList.lookup_erase]
      simp
    · rw [AList.lookup_erase_ne hk]
      exact h.no_empty k'

theorem BucketSets.dropEntry {groups : AList fun _ : κ => List ν} (h : BucketSets groups) (k : κ)
    (v : ν) : BucketSets (dropEntry groups k v) := by
  refine ⟨fun k' => ?_, ?_⟩
  · rw [bucket_dropEntry]
    split
    · exact (h.nodup k').filter _
    · exact h.nodup k'
  · unfold Indexing.dropEntry
    split
    · exact h.no_empty
    next values hvalues =>
    simp only
    split
    · exact (h.erase k).no_empty
    · next hne =>
        intro k'
        by_cases hk : k' = k
        · subst hk
          rw [AList.lookup_insert]
          exact fun hempty => hne (List.isEmpty_iff.mpr (Option.some.inj hempty))
        · rw [AList.lookup_insert_ne hk]
          exact h.no_empty k'

end Sets

/-! ## Grouping a list -/

/-- Push every element under its key, elements without a key left out. -/
def groupBy (key : ν → Option κ) (groups : AList fun _ : κ => List ν) :
    List ν → AList fun _ : κ => List ν
  | [] => groups
  | v :: rest =>
      match key v with
      | some k => groupBy key (pushEntry groups k v) rest
      | none => groupBy key groups rest

/-- **The bucket of a key** holds what it held before the loop, then the elements with that key. -/
theorem bucket_groupBy (key : ν → Option κ) (values : List ν)
    (groups : AList fun _ : κ => List ν) (k : κ) :
    bucket (groupBy key groups values) k = bucket groups k ++ values.filter (key · = some k) := by
  induction values generalizing groups with
  | nil => simp [groupBy]
  | cons v rest ih =>
      simp only [groupBy]
      split
      · next k' hk' =>
          rw [ih, bucket_pushEntry, List.append_assoc]
          by_cases hk : k' = k
          · simp [hk', hk]
          · simp [hk', hk]
      · next hnone => rw [ih, List.filter_cons_of_neg (by simp [hnone])]

end Indexing
