import Segwire.Foundation.HashMap

/-!
# Descriptor tables

The descriptors of a process are numbers for what it has opened. A new descriptor gets a
number that is not in use; which one does not matter. A descriptor may be marked to be closed
when the process becomes another program.

## Main definitions

* `Descriptor`, `Descriptors` — open descriptors, and the table of a process
* `Numbering` — a choice of unused numbers
* `Descriptors.openWith`, `Descriptors.close`, `Descriptors.inherited` — the operations
* `Descriptors.count` — how many are open

## Main results

* `Descriptors.close_openWith` — closing what was opened last gives the table back
* `Descriptors.inherited_openWith` — a descriptor that is closed on exec is not inherited
-/

namespace Foundation

variable {ρ : Type}

/-- An open descriptor: what it refers to, and whether another program inherits it. -/
structure Descriptor (ρ : Type) where
  resource : ρ
  closeOnExec : Bool
  deriving DecidableEq

/-- The open descriptors of a process. -/
abbrev Descriptors (ρ : Type) := HashMap Nat (Descriptor ρ)

/-- How the number of a new descriptor is chosen among those that are not in use. -/
structure Numbering where
  next : Finset Nat → Nat
  fresh : ∀ used, next used ∉ used

namespace Numbering

theorem exists_unused (used : Finset Nat) : ∃ n ∈ List.range (used.card + 1), n ∉ used := by
  have hmore : used.card < (Finset.range (used.card + 1)).card := by
    rw [Finset.card_range]
    exact Nat.lt_succ_self _
  obtain ⟨n, hn, hunused⟩ := Finset.exists_mem_notMem_of_card_lt_card hmore
  exact ⟨n, List.mem_range.mpr (Finset.mem_range.mp hn), hunused⟩

/-- The lowest number that is not in use. -/
def lowest : Numbering where
  next used := ((List.range (used.card + 1)).find? (· ∉ used)).getD 0
  fresh used := by
    obtain ⟨n, hn, hunused⟩ := exists_unused used
    have hfound : ((List.range (used.card + 1)).find? (· ∉ used)).isSome = true :=
      List.find?_isSome.mpr ⟨n, hn, decide_eq_true hunused⟩
    obtain ⟨m, hm⟩ := Option.isSome_iff_exists.mp hfound
    rw [hm, Option.getD_some]
    exact of_decide_eq_true (List.find?_some hm :)

end Numbering

namespace Descriptors

variable (numbering : Numbering) (table : Descriptors ρ) (descriptor : Descriptor ρ)

/-- Open something under a new number. -/
def openWith : Nat × Descriptors ρ :=
  let fd := numbering.next table.keys
  (fd, table.insert fd descriptor)

/-- Close a number, open or not. -/
def close (fd : Nat) : Descriptors ρ := table.erase fd

/-- What is left when the process becomes another program. -/
def inherited : Descriptors ρ := table.retain fun _ descriptor => !descriptor.closeOnExec

theorem fst_openWith_notMem : (openWith numbering table descriptor).1 ∉ table := by
  rw [← Finmap.mem_keys]
  exact numbering.fresh table.keys

@[simp] theorem lookup_openWith_self :
    (openWith numbering table descriptor).2.lookup (openWith numbering table descriptor).1 =
      some descriptor := Finmap.lookup_insert _

theorem lookup_openWith_of_ne {fd : Nat} (h : fd ≠ (openWith numbering table descriptor).1) :
    (openWith numbering table descriptor).2.lookup fd = table.lookup fd :=
  Finmap.lookup_insert_of_ne _ h

variable {descriptor} in
/-- A descriptor that is closed on exec makes no difference to the next program. -/
theorem inherited_openWith (h : descriptor.closeOnExec = true) :
    inherited (openWith numbering table descriptor).2 = inherited table := by
  have hfresh := fst_openWith_notMem numbering table descriptor
  apply Finmap.ext_lookup
  intro fd
  rw [inherited, inherited, HashMap.lookup_retain, HashMap.lookup_retain]
  by_cases hfd : fd = (openWith numbering table descriptor).1
  · rw [hfd, lookup_openWith_self, Finmap.lookup_eq_none.mpr hfresh]
    simp [h]
  · rw [lookup_openWith_of_ne _ _ _ hfd]

@[simp] theorem inherited_inherited : inherited (inherited table) = inherited table := by
  apply Finmap.ext_lookup
  intro fd
  rw [inherited, HashMap.lookup_retain, inherited, HashMap.lookup_retain, Option.filter_filter]
  simp only [Bool.and_self]

variable {table} {descriptor} in
/-- A descriptor that was new is closed without a trace. -/
theorem erase_insert {fd : Nat} (h : fd ∉ table) :
    (table.insert fd descriptor).erase fd = table := by
  apply Finmap.ext_lookup
  intro fd'
  rw [HashMap.lookup_erase_eq_ite]
  split_ifs with hfd
  · rw [hfd, Finmap.lookup_eq_none.mpr h]
  · exact Finmap.lookup_insert_of_ne _ hfd

@[simp] theorem close_openWith :
    close (openWith numbering table descriptor).2 (openWith numbering table descriptor).1 =
      table := erase_insert (fst_openWith_notMem numbering table descriptor)

/-! ### How many descriptors are open -/

/-- The number of open descriptors. -/
def count : Nat := table.keys.card

@[simp] theorem count_empty : count (∅ : Descriptors ρ) = 0 := rfl

variable {table} {descriptor} {fd : Nat}

theorem count_insert (h : fd ∉ table) : count (table.insert fd descriptor) = count table + 1 := by
  have hkeys : (table.insert fd descriptor).keys = insert fd table.keys := by
    ext fd'
    simp only [Finmap.mem_keys, Finmap.mem_insert, Finset.mem_insert]
  rw [count, hkeys, Finset.card_insert_of_notMem (Finmap.mem_keys.not.mpr h), count]

theorem count_erase (h : fd ∈ table) : count (table.erase fd) + 1 = count table := by
  rw [count, Finmap.keys_erase, Finset.card_erase_add_one (Finmap.mem_keys.mpr h), count]

end Descriptors

end Foundation
