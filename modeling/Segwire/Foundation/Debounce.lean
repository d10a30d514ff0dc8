import Mathlib.Logic.Function.Basic
import Mathlib.Order.Nat
import Mathlib.Tactic.SplitIfs

/-!
# Leading-edge debouncing

A debouncer keeps an item of a stream unless an item of the same key was kept less
than a window before it. Keys do not influence each other, and items without a key
are never kept.

## Main definitions

* `Debounce.decisions` — for each item of a stream, whether it is kept
* `Debounce.Kept` — the same without a memory, by the items kept before

## Main results

* `Debounce.kept_or_within_window` — an item is kept, or follows a kept item of its
  key by less than the window
* `Debounce.decisions_getElem?_iff` — at non-decreasing times both keep the same items
* `Debounce.decisions_filter` — the items of other keys do not matter
-/

namespace Foundation.Debounce

section Decisions

variable {α K : Type} [DecidableEq K] (key : α → Option K) (time : α → Nat) (window : Nat)

/-- An item at time `t` is suppressed by the last kept time of its key. -/
def suppressed (last : Option Nat) (t : Nat) : Bool :=
  last.any fun kept => decide (t - kept < window)

/-- Whether each item of a stream is kept, where `last` holds the time of the last
item kept for each key. -/
def decisions : (K → Option Nat) → List α → List Bool
  | _, [] => []
  | last, item :: items =>
    match key item with
    | none => false :: decisions last items
    | some k =>
      if suppressed window (last k) (time item) then false :: decisions last items
      else true :: decisions (Function.update last k (some (time item))) items

@[simp] theorem length_decisions (last : K → Option Nat) (items : List α) :
    (decisions key time window last items).length = items.length := by
  induction items generalizing last with
  | nil => rfl
  | cons item items ih =>
    rw [decisions]
    split
    · rw [List.length_cons, List.length_cons, ih]
    · split_ifs <;> rw [List.length_cons, List.length_cons, ih]

variable {key}

/-- An item with a key is kept, or follows by less than the window a kept item of
its key; the latter may lie before the stream. -/
theorem kept_or_within_window (last : K → Option Nat) {items : List α} {i : Nat} {item : α} {k : K}
    (hitem : items[i]? = some item) (hkey : key item = some k) :
    (decisions key time window last items)[i]? = some true ∨
      (∃ j earlier, j < i ∧ items[j]? = some earlier ∧ key earlier = some k ∧
        (decisions key time window last items)[j]? = some true ∧
        time item - time earlier < window) ∨
      ∃ t, last k = some t ∧ time item - t < window := by
  -- `last` is generalized, since every kept item changes it
  induction items generalizing last i with
  | nil => simp at hitem
  | cons head items ih =>
    rw [decisions]
    cases i with
    | zero =>
      obtain rfl := Option.some.inj hitem
      simp only [hkey]
      by_cases hsuppressed : suppressed window (last k) (time head) = true
      · cases hlast : last k with
        | none => simp [suppressed, hlast] at hsuppressed
        | some t => exact Or.inr (Or.inr ⟨t, rfl, by simpa [suppressed, hlast] using hsuppressed⟩)
      · rw [if_neg hsuppressed]
        exact Or.inl rfl
    | succ i =>
      -- an item behind the head was suppressed by one behind it, by the head, or by
      -- one from before the stream
      have later {decided : Bool} {last' : K → Option Nat}
          (hlast : ∀ t, last' k = some t → last k = some t ∨
            decided = true ∧ key head = some k ∧ time head = t) :
          (decided :: decisions key time window last' items)[i + 1]? = some true ∨
            (∃ j earlier, j < i + 1 ∧ (head :: items)[j]? = some earlier ∧ key earlier = some k ∧
              (decided :: decisions key time window last' items)[j]? = some true ∧
              time item - time earlier < window) ∨
            ∃ t, last k = some t ∧ time item - t < window := by
        rcases ih last' hitem with h | ⟨j, earlier, hj, hearlier, hkey', hkept, hwithin⟩ |
          ⟨t, ht, hwithin⟩
        · exact Or.inl h
        · exact Or.inr (Or.inl ⟨j + 1, earlier, by omega, hearlier, hkey', hkept, hwithin⟩)
        · rcases hlast t ht with ht | ⟨hdecided, hhead, htime⟩
          · exact Or.inr (Or.inr ⟨t, ht, hwithin⟩)
          · exact Or.inr
              (Or.inl ⟨0, head, by omega, rfl, hhead, by simp [hdecided], by rwa [htime]⟩)
      split
      · exact later fun t ht => Or.inl ht
      · rename_i k' hk'
        split_ifs
        · exact later fun t ht => Or.inl ht
        · refine later fun t ht => ?_
          by_cases hkk : k = k'
          · subst hkk
            rw [Function.update_self] at ht
            exact Or.inr ⟨rfl, hk', Option.some.inj ht⟩
          · rw [Function.update_of_ne hkk] at ht
            exact Or.inl ht

end Decisions

/-! ### The filter without a memory -/

section Filter

variable {α K : Type} (key : α → Option K) (time : α → Nat) (window : Nat)

/-- The item at position `i` has a key, and no kept item of that key lies less than the window
before it. -/
def Kept (items : List α) (i : Nat) : Prop :=
  ∃ item k, items[i]? = some item ∧ key item = some k ∧
    ∀ (j : Nat) (_ : j < i) (earlier : α), items[j]? = some earlier → key earlier = some k →
      Kept items j → window ≤ time item - time earlier
termination_by i

variable {key time window} {items : List α} {last : K → Option Nat} {n : Nat} {item : α} {k : K}

theorem kept_iff (hitem : items[n]? = some item) (hkey : key item = some k) :
    Kept key time window items n ↔
      ∀ j < n, ∀ earlier, items[j]? = some earlier → key earlier = some k →
        Kept key time window items j → window ≤ time item - time earlier := by
  rw [Kept]
  constructor
  · rintro ⟨item', k', hitem', hkey', h⟩
    obtain rfl := Option.some.inj (hitem.symm.trans hitem')
    obtain rfl := Option.some.inj (hkey.symm.trans hkey')
    exact h
  · intro h
    exact ⟨item, k, hitem, hkey, h⟩

theorem exists_of_kept (h : Kept key time window items n) :
    ∃ item k, items[n]? = some item ∧ key item = some k := by
  rw [Kept] at h
  obtain ⟨item, k, hitem, hkey, -⟩ := h
  exact ⟨item, k, hitem, hkey⟩

theorem not_kept_of_key_eq_none (hitem : items[n]? = some item) (hkey : key item = none) :
    ¬ Kept key time window items n := by
  intro h
  obtain ⟨item', k, hitem', hkey'⟩ := exists_of_kept h
  obtain rfl := Option.some.inj (hitem.symm.trans hitem')
  rw [hkey] at hkey'
  cases hkey'

variable (key time window) in
/-- For each key, `last` holds the latest time of the items kept among the first `n`. -/
structure Remembers (items : List α) (n : Nat) (last : K → Option Nat) : Prop where
  source : ∀ k t, last k = some t → ∃ j < n, ∃ item, items[j]? = some item ∧ key item = some k ∧
    Kept key time window items j ∧ time item = t
  latest : ∀ j < n, ∀ item k, items[j]? = some item → key item = some k →
    Kept key time window items j → ∃ t, last k = some t ∧ time item ≤ t

theorem remembers_zero : Remembers key time window items 0 fun _ => none where
  source _ _ ht := nomatch ht
  latest j hj := absurd hj (Nat.not_lt_zero j)

/-- The latest kept time of a key decides about its next item. -/
theorem Remembers.kept_iff_not_suppressed (h : Remembers key time window items n last)
    (hitem : items[n]? = some item) (hkey : key item = some k) :
    Kept key time window items n ↔ suppressed window (last k) (time item) = false := by
  rw [kept_iff hitem hkey]
  cases hlast : last k with
  | none =>
    refine iff_of_true (fun j hj earlier hearlier hsame hkept => ?_) rfl
    obtain ⟨t, ht, -⟩ := h.latest j hj earlier k hearlier hsame hkept
    rw [hlast] at ht
    cases ht
  | some t =>
    rw [suppressed, Option.any_some, decide_eq_false_iff_not, not_lt]
    constructor
    · intro hkept
      obtain ⟨j, hj, earlier, hearlier, hsame, hkeptj, rfl⟩ := h.source k t hlast
      exact hkept j hj earlier hearlier hsame hkeptj
    · intro hwindow j hj earlier hearlier hsame hkept
      obtain ⟨t', ht', hle⟩ := h.latest j hj earlier k hearlier hsame hkept
      obtain rfl := Option.some.inj (hlast.symm.trans ht')
      exact hwindow.trans (Nat.sub_le_sub_left hle _)

/-- An item that is not kept leaves the memory as it is. -/
theorem Remembers.succ_of_not_kept (h : Remembers key time window items n last)
    (hkept : ¬ Kept key time window items n) : Remembers key time window items (n + 1) last where
  source k t ht := by
    obtain ⟨j, hj, rest⟩ := h.source k t ht
    exact ⟨j, Nat.lt_succ_of_lt hj, rest⟩
  latest j hj item k hitem hkey hkeptj := by
    rcases Nat.lt_succ_iff_lt_or_eq.mp hj with hj | rfl
    · exact h.latest j hj item k hitem hkey hkeptj
    · exact absurd hkeptj hkept

variable [DecidableEq K]

/-- A kept item is the latest one of its key. -/
theorem Remembers.succ_of_kept (h : Remembers key time window items n last)
    (hordered : items.Pairwise (time · ≤ time ·)) (hitem : items[n]? = some item)
    (hkey : key item = some k) (hkept : Kept key time window items n) :
    Remembers key time window items (n + 1) (Function.update last k (some (time item))) where
  source k' t ht := by
    by_cases hsame : k' = k
    · subst hsame
      rw [Function.update_self] at ht
      exact ⟨n, Nat.lt_succ_self n, item, hitem, hkey, hkept, Option.some.inj ht⟩
    · rw [Function.update_of_ne hsame] at ht
      obtain ⟨j, hj, rest⟩ := h.source k' t ht
      exact ⟨j, Nat.lt_succ_of_lt hj, rest⟩
  latest j hj earlier k' hearlier hkey' hkeptj := by
    by_cases hsame : k' = k
    · subst hsame
      refine ⟨time item, Function.update_self .., ?_⟩
      rcases Nat.lt_succ_iff_lt_or_eq.mp hj with hj | rfl
      · obtain ⟨hjlt, rfl⟩ := List.getElem?_eq_some_iff.mp hearlier
        obtain ⟨hnlt, rfl⟩ := List.getElem?_eq_some_iff.mp hitem
        exact List.pairwise_iff_getElem.mp hordered j n hjlt hnlt hj
      · obtain rfl := Option.some.inj (hitem.symm.trans hearlier)
        exact le_rfl
    · rw [Function.update_of_ne hsame]
      rcases Nat.lt_succ_iff_lt_or_eq.mp hj with hj | rfl
      · exact h.latest j hj earlier k' hearlier hkey' hkeptj
      · obtain rfl := Option.some.inj (hitem.symm.trans hearlier)
        exact absurd (Option.some.inj (hkey'.symm.trans hkey)) hsame

/-- The decisions about the items from position `n` on. -/
theorem Remembers.decisions_getElem?_iff {rest : List α}
    (h : Remembers key time window items n last) (hordered : items.Pairwise (time · ≤ time ·))
    (hrest : items.drop n = rest) (i : Nat) :
    (decisions key time window last rest)[i]? = some true ↔ Kept key time window items (n + i) := by
  -- the position moves along the list, and the memory with it
  induction rest generalizing n last i with
  | nil =>
    have hlen : items.length ≤ n + i := by
      have := List.drop_eq_nil_iff.mp hrest
      omega
    refine iff_of_false (by simp [decisions]) fun hkept => ?_
    obtain ⟨item, k, hitem, -⟩ := exists_of_kept hkept
    rw [List.getElem?_eq_none hlen] at hitem
    cases hitem
  | cons item rest ih =>
    have hitem : items[n]? = some item := by
      rw [← List.head?_drop, hrest, List.head?_cons]
    have hnext : items.drop (n + 1) = rest := by
      rw [← List.tail_drop, hrest, List.tail_cons]
    -- the head is decided by the memory, the other items by that of the next position
    have step {decided : Bool} {last' : K → Option Nat}
        (hhead : decided = true ↔ Kept key time window items n)
        (hlast' : Remembers key time window items (n + 1) last') :
        (decided :: decisions key time window last' rest)[i]? = some true ↔
          Kept key time window items (n + i) := by
      cases i with
      | zero => simpa using hhead
      | succ i =>
        rw [List.getElem?_cons_succ, ih hlast' hnext i, Nat.add_right_comm, Nat.add_assoc]
    rw [decisions]
    cases hkey : key item with
    | none =>
      have hkept : ¬ Kept key time window items n := not_kept_of_key_eq_none hitem hkey
      exact step (by simp [hkept]) (h.succ_of_not_kept hkept)
    | some k =>
      have hdecides := h.kept_iff_not_suppressed hitem hkey
      dsimp only
      split_ifs with hsuppressed
      · rw [hsuppressed] at hdecides
        have hkept : ¬ Kept key time window items n := fun hkept => nomatch hdecides.mp hkept
        exact step (by simp [hkept]) (h.succ_of_not_kept hkept)
      · have hkept := hdecides.mpr (Bool.not_eq_true _ ▸ hsuppressed)
        exact step (by simp [hkept]) (h.succ_of_kept hordered hitem hkey hkept)

/-- At non-decreasing times, the debouncer keeps exactly what the filter does. -/
theorem decisions_getElem?_iff (hordered : items.Pairwise (time · ≤ time ·)) (i : Nat) :
    (decisions key time window (fun _ => none) items)[i]? = some true ↔
      Kept key time window items i := by
  have h : (decisions key time window (fun _ => none) items)[i]? = some true ↔
      Kept key time window items (0 + i) :=
    remembers_zero.decisions_getElem?_iff hordered List.drop_zero i
  rwa [Nat.zero_add] at h

/-- What is decided about the items of a key does not depend on the others. -/
theorem decisions_filter {last last' : K → Option Nat} (h : last k = last' k) :
    (items.zip (decisions key time window last items)).filter (fun x => key x.1 = some k) =
      (items.filter fun item => key item = some k).zip
        (decisions key time window last' (items.filter fun item => key item = some k)) := by
  induction items generalizing last last' with
  | nil => rfl
  | cons item items ih =>
    by_cases hkey : key item = some k
    · rw [List.filter_cons_of_pos (by simpa using hkey), decisions, decisions, hkey]
      dsimp only
      rw [h]
      split_ifs with hsuppressed
      · rw [List.zip_cons_cons, List.zip_cons_cons, List.filter_cons_of_pos (by simpa using hkey),
          ih h]
      · have hlast : Function.update last k (some (time item)) k =
            Function.update last' k (some (time item)) k := by
          rw [Function.update_self, Function.update_self]
        rw [List.zip_cons_cons, List.zip_cons_cons, List.filter_cons_of_pos (by simpa using hkey),
          ih hlast]
    · -- the item of another key changes nothing that is remembered for this one
      have skip {decided : Bool} {last'' : K → Option Nat} (hlast : last'' k = last' k) :
          ((item :: items).zip (decided :: decisions key time window last'' items)).filter
              (fun x => key x.1 = some k) =
            (items.filter fun item => key item = some k).zip
              (decisions key time window last' (items.filter fun item => key item = some k)) := by
        rw [List.zip_cons_cons, List.filter_cons_of_neg (by simpa using hkey), ih hlast]
      rw [List.filter_cons_of_neg (by simpa using hkey), decisions]
      cases hkey' : key item with
      | none => exact skip h
      | some k' =>
        have hne : k ≠ k' := fun heq => hkey (hkey'.trans (congrArg some heq.symm))
        dsimp only
        split_ifs
        · exact skip h
        · exact skip ((Function.update_of_ne hne ..).trans h)

end Filter

end Foundation.Debounce
