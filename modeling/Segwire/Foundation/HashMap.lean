import Mathlib.Data.Finmap
import Mathlib.Data.List.Sort
import Mathlib.Data.String.Basic

/-!
# Hash maps, keyed stores and loops over them

A hash map is a finite map together with an iteration order that its user does
not control. This file fixes both: `HashMap` is Mathlib's `Finmap` at a constant
family, and an `IterOrder` is any way of listing a finite set of keys. A loop over
a map takes an `IterOrder`, so a theorem about it holds for every order.

A `KeyedMap` is a hash map in which every value sits under its own key, the
invariant of a store that only ever inserts a value under the name it carries.

## Main definitions

* `HashMap`, `HashMap.retain`, `HashMap.mapVal` — the map and its bulk operations
* `IterOrder`, `HashMap.iter` — the entries in a chosen order
* `KeyedMap` — a map whose values determine their keys
* `LocalStep` — a loop body that acts on one component only

## Main results

* `HashMap.mem_iter` — every order lists exactly the entries
* `LocalStep.exists_foldl`, `LocalStep.foldl_of_notMem` — a loop with a local body
  acts on each component as the body does at its own entry
-/

namespace Foundation

universe u v w

/-- A hash map: a finite partial function with extensional equality. -/
abbrev HashMap (K : Type u) (V : Type v) := Finmap fun _ : K => V

namespace HashMap

variable {K : Type u} {V : Type v} {W : Type w}

/-- Keep the entries that satisfy `p`. -/
def retain (p : K → V → Bool) (m : HashMap K V) : HashMap K V where
  entries := m.entries.filter fun entry => p entry.1 entry.2
  nodupKeys := Multiset.nodup_keys.mp
    (Multiset.nodup_of_le (Multiset.map_le_map (Multiset.filter_le _ _))
      (Multiset.nodup_keys.mpr m.nodupKeys))

@[simp] theorem lookup_retain [DecidableEq K] (p : K → V → Bool) (m : HashMap K V) (k : K) :
    (m.retain p).lookup k = (m.lookup k).filter (p k) := by
  apply Option.ext
  intro value
  rw [Finmap.lookup_eq_some_iff, Option.filter_eq_some_iff, Finmap.lookup_eq_some_iff]
  exact Multiset.mem_filter

private theorem keys_map_val (f : K → V → W) (entries : Multiset (Σ _ : K, V)) :
    Multiset.keys (entries.map fun entry => (⟨entry.1, f entry.1 entry.2⟩ : Σ _ : K, W)) =
      Multiset.keys entries := by
  simp [Multiset.keys, Multiset.map_map]

/-- Apply `f` to every value. -/
def mapVal (f : K → V → W) (m : HashMap K V) : HashMap K W where
  entries := m.entries.map fun entry => ⟨entry.1, f entry.1 entry.2⟩
  nodupKeys := Multiset.nodup_keys.mp
    (keys_map_val f m.entries ▸ Multiset.nodup_keys.mpr m.nodupKeys)

@[simp] theorem lookup_mapVal [DecidableEq K] (f : K → V → W) (m : HashMap K V) (k : K) :
    (m.mapVal f).lookup k = (m.lookup k).map (f k) := by
  apply Option.ext
  intro value
  rw [Finmap.lookup_eq_some_iff, Option.map_eq_some_iff]
  constructor
  · intro member
    obtain ⟨⟨key, original⟩, hentry, heq⟩ := Multiset.mem_map.mp member
    cases heq
    exact ⟨original, Finmap.lookup_eq_some_iff.mpr hentry, rfl⟩
  · rintro ⟨original, hlookup, rfl⟩
    exact Multiset.mem_map.mpr ⟨⟨k, original⟩, Finmap.lookup_eq_some_iff.mp hlookup, rfl⟩

section Lookup

variable [DecidableEq K]

theorem lookup_insert_eq_ite (m : HashMap K V) (k k' : K) (value : V) :
    (m.insert k' value).lookup k = if k = k' then some value else m.lookup k := by
  split_ifs with h
  · subst h
    exact Finmap.lookup_insert _
  · exact Finmap.lookup_insert_of_ne _ h

theorem lookup_erase_eq_ite (m : HashMap K V) (k k' : K) :
    (m.erase k').lookup k = if k = k' then none else m.lookup k := by
  split_ifs with h
  · subst h
    exact Finmap.lookup_erase _ _
  · exact Finmap.lookup_erase_ne h

end Lookup

end HashMap

/-! ### Iteration orders -/

/-- A way of listing finite sets of keys. The order a hash map is iterated in is
an arbitrary one of these. -/
structure IterOrder (K : Type u) where
  order : Finset K → List K
  enumerates : ∀ s, (order s : Multiset K) = s.val

namespace IterOrder

variable {K : Type u}

/-- The order that sorts the keys. -/
def sorted [LinearOrder K] : IterOrder K where
  order s := Quot.liftOn s.val (List.insertionSort (· ≤ ·)) fun _ _ perm =>
    List.Perm.eq_of_pairwise' (List.pairwise_insertionSort _ _) (List.pairwise_insertionSort _ _)
      ((List.perm_insertionSort _ _).trans (perm.trans (List.perm_insertionSort _ _).symm))
  enumerates s := by
    -- sorting permutes the keys, so the multiset is the same
    obtain ⟨keys, hnodup⟩ := s
    induction keys using Quot.inductionOn with
    | h keys => exact Multiset.coe_eq_coe.mpr (List.perm_insertionSort _ _)

theorem mem_order (o : IterOrder K) {s : Finset K} {k : K} : k ∈ o.order s ↔ k ∈ s := by
  rw [← Multiset.mem_coe, o.enumerates, Finset.mem_val]

theorem nodup_order (o : IterOrder K) (s : Finset K) : (o.order s).Nodup := by
  rw [← Multiset.coe_nodup, o.enumerates]
  exact s.nodup

end IterOrder

namespace HashMap

variable {K : Type u} {V : Type v} [DecidableEq K]

/-- The entries of `m` in the order `o` lists its keys. -/
def iter (o : IterOrder K) (m : HashMap K V) : List (K × V) :=
  (o.order m.keys).filterMap fun k => (m.lookup k).map (k, ·)

theorem mem_iter {o : IterOrder K} {m : HashMap K V} {entry : K × V} :
    entry ∈ m.iter o ↔ m.lookup entry.1 = some entry.2 := by
  simp only [iter, List.mem_filterMap, o.mem_order, Finmap.mem_keys, Option.map_eq_some_iff]
  constructor
  · rintro ⟨k, -, value, hlookup, rfl⟩
    exact hlookup
  · intro hlookup
    exact ⟨entry.1, Finmap.mem_of_lookup_eq_some hlookup, entry.2, hlookup, rfl⟩

theorem map_fst_iter (o : IterOrder K) (m : HashMap K V) :
    (m.iter o).map Prod.fst = o.order m.keys := by
  -- every key of the order has a value, so the lookups drop none
  have keep : ∀ keys : List K, (∀ k ∈ keys, k ∈ m) →
      (keys.filterMap fun k => (m.lookup k).map (k, ·)).map Prod.fst = keys := by
    intro keys hkeys
    induction keys with
    | nil => rfl
    | cons k keys ih =>
      obtain ⟨value, hlookup⟩ := Finmap.mem_iff.mp (hkeys k List.mem_cons_self)
      simp [hlookup, ih fun k' hk' => hkeys k' (List.mem_cons_of_mem _ hk')]
  exact keep _ fun k hk => Finmap.mem_keys.mp (o.mem_order.mp hk)

theorem nodup_map_fst_iter (o : IterOrder K) (m : HashMap K V) :
    ((m.iter o).map Prod.fst).Nodup := by
  rw [map_fst_iter]
  exact o.nodup_order _

theorem mem_map_fst_iter {o : IterOrder K} {m : HashMap K V} {k : K} :
    k ∈ (m.iter o).map Prod.fst ↔ k ∈ m := by
  rw [map_fst_iter, o.mem_order, Finmap.mem_keys]

end HashMap

/-! ### Loops whose body touches one component

`view k s` is the part of the loop's state that belongs to key `k`. -/

section LocalStep

variable {K : Type u} {V : Type v} {S C : Type*}

/-- A loop body that, at each of the entries, leaves the component of every key but
the entry's own alone. -/
def LocalStep (view : K → S → C) (body : S → K × V → S) (entries : List (K × V)) : Prop :=
  ∀ s, ∀ entry ∈ entries, ∀ k, entry.1 ≠ k → view k (body s entry) = view k s

variable {view : K → S → C} {body : S → K × V → S} {entries : List (K × V)}

theorem LocalStep.foldl_of_notMem (h : LocalStep view body entries) {k : K}
    (hk : k ∉ entries.map Prod.fst) (s : S) :
    view k (entries.foldl body s) = view k s := by
  induction entries generalizing s with
  | nil => rfl
  | cons entry entries ih =>
    rw [List.map_cons, List.mem_cons, not_or] at hk
    have htail : LocalStep view body entries := fun s entry hentry =>
      h s entry (List.mem_cons_of_mem _ hentry)
    rw [List.foldl_cons, ih htail hk.2, h s entry List.mem_cons_self k (Ne.symm hk.1)]

/-- A loop over entries with distinct keys reaches the entry of `k` with the
component of `k` as it was, and keeps it afterwards. -/
theorem LocalStep.exists_foldl (h : LocalStep view body entries)
    (hnodup : (entries.map Prod.fst).Nodup) {entry : K × V} (hmem : entry ∈ entries) (s : S) :
    ∃ before after, entries = before ++ entry :: after ∧
      view entry.1 (before.foldl body s) = view entry.1 s ∧
      view entry.1 (entries.foldl body s) =
        view entry.1 (body (before.foldl body s) entry) := by
  obtain ⟨before, after, rfl⟩ := List.append_of_mem hmem
  rw [List.map_append, List.map_cons, List.nodup_append] at hnodup
  -- the keys are distinct, so that of the entry occurs on neither side
  have notBefore : entry.1 ∉ before.map Prod.fst := fun hin =>
    hnodup.2.2 _ hin _ List.mem_cons_self rfl
  have notAfter : entry.1 ∉ after.map Prod.fst := (List.nodup_cons.mp hnodup.2.1).1
  have hbefore : LocalStep view body before := fun s e he => h s e (List.mem_append_left _ he)
  have hafter : LocalStep view body after := fun s e he =>
    h s e (List.mem_append_right _ (List.mem_cons_of_mem _ he))
  refine ⟨before, after, rfl, hbefore.foldl_of_notMem notBefore s, ?_⟩
  rw [List.foldl_append, List.foldl_cons, hafter.foldl_of_notMem notAfter]

/-- What an iteration preserves when it finds the component of its entry as it was at
the start, a loop over entries with distinct keys preserves. -/
theorem LocalStep.foldl_preserves (h : LocalStep view body entries)
    (hnodup : (entries.map Prod.fst).Nodup) (P : S → Prop) {s : S}
    (hbody : ∀ mid, ∀ entry ∈ entries, view entry.1 mid = view entry.1 s → P mid →
      P (body mid entry))
    (hs : P s) : P (entries.foldl body s) := by
  -- the remaining entries find their components as they were
  suffices H : ∀ mid, (∀ entry ∈ entries, view entry.1 mid = view entry.1 s) → P mid →
      P (entries.foldl body mid) from H s (fun _ _ => rfl) hs
  clear hs
  induction entries with
  | nil => exact fun mid _ hmid => hmid
  | cons entry entries ih =>
    intro mid hview hmid
    obtain ⟨hfresh, hnodup⟩ := List.nodup_cons.mp hnodup
    refine ih (fun s e he => h s e (List.mem_cons_of_mem _ he)) hnodup
      (fun mid e he => hbody mid e (List.mem_cons_of_mem _ he)) _ (fun e he => ?_)
      (hbody mid entry List.mem_cons_self (hview entry List.mem_cons_self) hmid)
    have hne : entry.1 ≠ e.1 := fun heq => hfresh (heq ▸ List.mem_map_of_mem he)
    rw [h mid entry List.mem_cons_self e.1 hne, hview e (List.mem_cons_of_mem _ he)]

/-- What every iteration preserves, the loop preserves. -/
theorem foldl_preserves (P : S → Prop) (hbody : ∀ s entry, P s → P (body s entry))
    (entries : List (K × V)) {s : S} (hs : P s) : P (entries.foldl body s) := by
  induction entries generalizing s with
  | nil => exact hs
  | cons entry entries ih => exact ih (hbody s entry hs)

end LocalStep

/-! ### Keyed stores -/

/-- A hash map in which every value sits under its own key. -/
structure KeyedMap {K : Type u} {V : Type v} [DecidableEq K] (key : V → K) where
  toMap : HashMap K V
  keyed : ∀ k value, toMap.lookup k = some value → key value = k

namespace KeyedMap

variable {K : Type u} {V : Type v} [DecidableEq K] {key : V → K}

/-- The value stored under `k`. -/
def lookup (m : KeyedMap key) (k : K) : Option V := m.toMap.lookup k

/-- `k` has a value. -/
def contains (m : KeyedMap key) (k : K) : Bool := (m.lookup k).isSome

/-- The entries in the order `o`. -/
def iter (o : IterOrder K) (m : KeyedMap key) : List (K × V) := m.toMap.iter o

/-- The store without entries. -/
def empty : KeyedMap key where
  toMap := ∅
  keyed k value h := by simp at h

/-- Store `value` under its own key. -/
def insert (value : V) (m : KeyedMap key) : KeyedMap key where
  toMap := m.toMap.insert (key value) value
  keyed k stored h := by
    rw [HashMap.lookup_insert_eq_ite] at h
    split_ifs at h with hk
    · rw [Option.some_inj.mp h.symm, hk]
    · exact m.keyed k stored h

/-- Forget the value stored under `k`. -/
def erase (k : K) (m : KeyedMap key) : KeyedMap key where
  toMap := m.toMap.erase k
  keyed k' stored h := by
    rw [HashMap.lookup_erase_eq_ite] at h
    split_ifs at h with hk
    exact m.keyed k' stored h

/-- Keep the entries that satisfy `p`. -/
def retain (p : K → V → Bool) (m : KeyedMap key) : KeyedMap key where
  toMap := m.toMap.retain p
  keyed k stored h := by
    rw [HashMap.lookup_retain, Option.filter_eq_some_iff] at h
    exact m.keyed k stored h.1

@[simp] theorem lookup_empty (k : K) : (empty : KeyedMap key).lookup k = none :=
  Finmap.lookup_empty k

theorem lookup_insert (m : KeyedMap key) (value : V) (k : K) :
    (m.insert value).lookup k = if k = key value then some value else m.lookup k :=
  HashMap.lookup_insert_eq_ite _ _ _ _

@[simp] theorem lookup_insert_self (m : KeyedMap key) (value : V) :
    (m.insert value).lookup (key value) = some value := by
  rw [lookup_insert, if_pos rfl]

theorem lookup_insert_of_ne (m : KeyedMap key) {value : V} {k : K} (h : k ≠ key value) :
    (m.insert value).lookup k = m.lookup k := by
  rw [lookup_insert, if_neg h]

theorem lookup_erase (m : KeyedMap key) (k k' : K) :
    (m.erase k').lookup k = if k = k' then none else m.lookup k :=
  HashMap.lookup_erase_eq_ite _ _ _

@[simp] theorem lookup_retain (p : K → V → Bool) (m : KeyedMap key) (k : K) :
    (m.retain p).lookup k = (m.lookup k).filter (p k) :=
  HashMap.lookup_retain _ _ _

theorem key_eq_of_lookup {m : KeyedMap key} {k : K} {value : V} (h : m.lookup k = some value) :
    key value = k :=
  m.keyed k value h

theorem contains_iff {m : KeyedMap key} {k : K} :
    m.contains k = true ↔ ∃ value, m.lookup k = some value :=
  Option.isSome_iff_exists

theorem contains_eq_false_iff {m : KeyedMap key} {k : K} :
    m.contains k = false ↔ m.lookup k = none := by
  simp [contains]

theorem mem_iter {o : IterOrder K} {m : KeyedMap key} {entry : K × V} :
    entry ∈ m.iter o ↔ m.lookup entry.1 = some entry.2 :=
  HashMap.mem_iter

theorem nodup_map_fst_iter (o : IterOrder K) (m : KeyedMap key) :
    ((m.iter o).map Prod.fst).Nodup :=
  HashMap.nodup_map_fst_iter o m.toMap

theorem nodup_iter (o : IterOrder K) (m : KeyedMap key) : (m.iter o).Nodup :=
  (nodup_map_fst_iter o m).of_map _

/-- Two orders list the same entries. -/
theorem perm_iter (o o' : IterOrder K) (m : KeyedMap key) : (m.iter o).Perm (m.iter o') := by
  rw [List.perm_ext_iff_of_nodup (nodup_iter o m) (nodup_iter o' m)]
  intro entry
  rw [mem_iter, mem_iter]

theorem filter_iter (o : IterOrder K) (m : KeyedMap key) (k : K) :
    ((m.iter o).filter fun entry => entry.1 = k) = ((m.lookup k).map (k, ·)).toList := by
  cases hk : m.lookup k with
  | none =>
    rw [Option.map_none, Option.toList_none, List.filter_eq_nil_iff]
    rintro ⟨k', value⟩ hmem heq
    obtain rfl : k' = k := of_decide_eq_true heq
    rw [mem_iter, hk] at hmem
    cases hmem
  | some value =>
    rw [Option.map_some, Option.toList_some]
    apply List.perm_singleton.mp
    rw [List.perm_ext_iff_of_nodup ((nodup_iter o m).filter _) (List.nodup_singleton _)]
    rintro ⟨k', value'⟩
    rw [List.mem_filter, List.mem_singleton, mem_iter, Prod.mk.injEq, decide_eq_true_eq]
    constructor
    · rintro ⟨hvalue, rfl⟩
      exact ⟨rfl, Option.some.inj (hvalue.symm.trans hk)⟩
    · rintro ⟨rfl, rfl⟩
      exact ⟨hk, rfl⟩

theorem mem_map_fst_iter {o : IterOrder K} {m : KeyedMap key} {k : K} :
    k ∈ (m.iter o).map Prod.fst ↔ m.contains k = true := by
  rw [contains, lookup, Finmap.lookup_isSome]
  exact HashMap.mem_map_fst_iter

section All

variable {p : K → Prop} {m : KeyedMap key}

/-- Every key of the store satisfies `p`. -/
def All (p : K → Prop) (m : KeyedMap key) : Prop := ∀ k, m.contains k = true → p k

theorem all_of_iter (o : IterOrder K) (h : ∀ k ∈ (m.iter o).map Prod.fst, p k) : m.All p :=
  fun k hk => h k (mem_map_fst_iter.mpr hk)

theorem all_empty : (empty : KeyedMap key).All p := by
  intro k hk
  simp [contains] at hk

theorem All.insert {value : V} (h : m.All p) (hvalue : p (key value)) : (m.insert value).All p := by
  intro k hk
  rw [contains, lookup_insert] at hk
  split_ifs at hk with hkey
  · exact hkey ▸ hvalue
  · exact h k hk

theorem All.erase (h : m.All p) (k : K) : (m.erase k).All p := by
  intro k' hk
  rw [contains, lookup_erase] at hk
  split_ifs at hk
  · cases hk
  · exact h k' hk

theorem All.retain (h : m.All p) (q : K → V → Bool) : (m.retain q).All p := by
  intro k hk
  obtain ⟨value, hvalue⟩ := contains_iff.mp hk
  rw [lookup_retain, Option.filter_eq_some_iff] at hvalue
  exact h k (contains_iff.mpr ⟨value, hvalue.1⟩)

end All

section Forall

variable {P : V → Prop} {m : KeyedMap key}

/-- Every value of the store satisfies `P`. -/
def Forall (P : V → Prop) (m : KeyedMap key) : Prop := ∀ k value, m.lookup k = some value → P value

theorem forall_empty : (empty : KeyedMap key).Forall P := by
  intro k value h
  rw [lookup_empty] at h
  cases h

theorem Forall.insert {value : V} (h : m.Forall P) (hvalue : P value) :
    (m.insert value).Forall P := by
  intro k stored hstored
  rw [lookup_insert] at hstored
  split_ifs at hstored with hkey
  · exact Option.some.inj hstored ▸ hvalue
  · exact h k stored hstored

theorem Forall.erase (h : m.Forall P) (k : K) : (m.erase k).Forall P := by
  intro k' value hvalue
  rw [lookup_erase] at hvalue
  split_ifs at hvalue
  exact h k' value hvalue

theorem Forall.retain (h : m.Forall P) (q : K → V → Bool) : (m.retain q).Forall P := by
  intro k stored hstored
  rw [lookup_retain, Option.filter_eq_some_iff] at hstored
  exact h k stored hstored.1

/-- A property of the keys is one of the values, which carry their keys. -/
theorem all_iff_forall {p : K → Prop} : m.All p ↔ m.Forall fun value => p (key value) := by
  constructor
  · intro h k value hvalue
    rw [key_eq_of_lookup hvalue]
    exact h k (contains_iff.mpr ⟨value, hvalue⟩)
  · intro h k hk
    obtain ⟨value, hvalue⟩ := contains_iff.mp hk
    exact key_eq_of_lookup hvalue ▸ h k value hvalue

end Forall

section Collect

variable {α : Type w}

/-- Insert what `load` makes of the elements of a list, one after the other. -/
def collect (load : α → Option V) (m : KeyedMap key) (xs : List α) : KeyedMap key :=
  xs.foldl (fun m x => (load x).elim m m.insert) m

theorem contains_collect_iff {load : α → Option V} {m : KeyedMap key} {xs : List α} {k : K} :
    (m.collect load xs).contains k = true ↔
      m.contains k = true ∨ k ∈ xs.filterMap fun x => (load x).map key := by
  induction xs generalizing m with
  | nil => simp [collect]
  | cons x xs ih =>
    have hcollect : m.collect load (x :: xs) = ((load x).elim m m.insert).collect load xs := rfl
    rw [hcollect, ih]
    cases hload : load x with
    | none => simp [hload]
    | some value =>
      have hinsert : (m.insert value).contains k = true ↔ m.contains k = true ∨ k = key value := by
        unfold contains
        rw [lookup_insert]
        split_ifs with hk <;> simp [hk]
      simp [hload, hinsert, or_assoc]

omit [DecidableEq K] in
/-- The keys are all different iff no two elements give the same one. -/
theorem nodup_filterMap_iff {f : α → Option K} {xs : List α} (hxs : xs.Nodup) :
    (xs.filterMap f).Nodup ↔ ∀ x ∈ xs, ∀ y ∈ xs, ∀ k, f x = some k → f y = some k → x = y := by
  rw [List.Nodup, List.pairwise_filterMap]
  constructor
  · intro h x hx y hy k hxk hyk
    by_contra hne
    have hsymm : Std.Symm fun x y => ∀ k, f x = some k → ∀ k', f y = some k' → k ≠ k' :=
      ⟨fun x y hxy k hk k' hk' => (hxy k' hk' k hk).symm⟩
    exact h.forall hx hy hne k hxk k hyk rfl
  · intro h
    apply hxs.pairwise_of_forall_ne
    rintro x hx y hy hne k hxk k' hyk rfl
    exact hne (h x hx y hy k hxk hyk)

/-- When different elements give values of different keys, the store holds exactly
what the elements give. -/
theorem lookup_collect_iff {load : α → Option V} {xs : List α}
    (hdistinct : ∀ x ∈ xs, ∀ y ∈ xs, ∀ value value', load x = some value → load y = some value' →
      key value = key value' → x = y) {k : K} {value : V} :
    (empty.collect load xs : KeyedMap key).lookup k = some value ↔
      ∃ x ∈ xs, load x = some value ∧ key value = k := by
  -- from the right: the last insertion decides what is stored under its key
  induction xs using List.reverseRecOn with
  | nil => simp [collect]
  | append_singleton xs x ih =>
    have hcollect : (empty.collect load (xs ++ [x]) : KeyedMap key) =
        (load x).elim (empty.collect load xs) (empty.collect load xs).insert := by
      rw [collect, List.foldl_append]
      rfl
    have hxs := ih fun y hy z hz => hdistinct y (List.mem_append_left _ hy) z
      (List.mem_append_left _ hz)
    have hx : x ∈ xs ++ [x] := List.mem_append_right _ (List.mem_singleton_self x)
    rw [hcollect]
    cases hload : load x with
    | none =>
      rw [Option.elim_none, hxs]
      constructor
      · rintro ⟨y, hy, hvalue⟩
        exact ⟨y, List.mem_append_left _ hy, hvalue⟩
      · rintro ⟨y, hy, hvalue, hkey⟩
        rcases List.mem_append.mp hy with hy | hy
        · exact ⟨y, hy, hvalue, hkey⟩
        · rw [List.mem_singleton.mp hy, hload] at hvalue
          cases hvalue
    | some latest =>
      rw [Option.elim_some, lookup_insert]
      split_ifs with hkey
      · constructor
        · intro heq
          obtain rfl := Option.some.inj heq
          exact ⟨x, hx, hload, hkey.symm⟩
        · rintro ⟨y, hy, hvalue, hvalueKey⟩
          -- two elements give this key, so they are the same one
          obtain rfl := hdistinct y hy x hx value latest hvalue hload (hvalueKey.trans hkey)
          rw [← hvalue, hload]
      · rw [hxs]
        constructor
        · rintro ⟨y, hy, hvalue⟩
          exact ⟨y, List.mem_append_left _ hy, hvalue⟩
        · rintro ⟨y, hy, hvalue, hvalueKey⟩
          rcases List.mem_append.mp hy with hy | hy
          · exact ⟨y, hy, hvalue, hvalueKey⟩
          · rw [List.mem_singleton.mp hy, hload] at hvalue
            obtain rfl := Option.some.inj hvalue
            exact absurd hvalueKey.symm hkey

end Collect

instance [DecidableEq V] : DecidableEq (KeyedMap key) := fun m₁ m₂ =>
  decidable_of_iff (m₁.toMap = m₂.toMap) <| by
    cases m₁
    cases m₂
    simp

@[ext] theorem ext {m₁ m₂ : KeyedMap key} (h : ∀ k, m₁.lookup k = m₂.lookup k) : m₁ = m₂ := by
  cases m₁
  cases m₂
  congr
  exact Finmap.ext_lookup h

end KeyedMap

end Foundation
