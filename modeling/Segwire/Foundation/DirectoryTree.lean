import Mathlib.Logic.Relation
import Mathlib.Order.Lattice.Nat
import Segwire.Foundation.FileSystem

/-!
# Directories in directories

A `DirectoryTree` is the behaviour of the file-system calls where directories hold what is below
them: a listing has each of its entries once, and no chain of directories is longer than `depth`.
Any call may still fail.

## Main definitions

* `DirectoryTree` — answers of the file-system calls, with directories that form a tree
* `DirectoryTree.Reached` — a directory that a traversal comes to
* `DirectoryTree.Found` — a file in such a directory
* `Disk.tree` — the directory tree of a disk, whose listings are `Disk.lists_tree_iff`

## Main results

* `DirectoryTree.reached_iff`, `DirectoryTree.found_iff` — a traversal, one directory at a time
* `DirectoryTree.Found.isPrefix` — what is found in a directory is below it
-/

namespace Foundation

/-- Answers of the file-system calls, where directories form a tree. -/
structure DirectoryTree extends FileSystem where
  isDir : PathBuf → Bool
  depth : ℕ
  exists_of_isDir : ∀ dir, isDir dir = true → pathExists dir = true
  length_le : ∀ dir, isDir dir = true → dir.components.length ≤ depth
  listed : ∀ dir entries path, readDir dir = .ok entries → .ok path ∈ entries →
    path.parent = dir ∧ path ≠ dir
  nodup : ∀ dir entries, readDir dir = .ok entries → (entries.filterMap Except.toOption).Nodup

namespace DirectoryTree

variable {tree : DirectoryTree} {recursive : Bool} {dir dir' path : PathBuf}

/-- The path is listed in the directory. -/
def Lists (tree : DirectoryTree) (dir path : PathBuf) : Prop :=
  ∃ entries, tree.readDir dir = .ok entries ∧ .ok path ∈ entries

/-- The directory is listed without a fault. -/
def Listed (tree : DirectoryTree) (dir : PathBuf) : Prop :=
  ∃ entries, tree.readDir dir = .ok entries ∧ ∀ e, .error e ∉ entries

/-- The listing of the directory fails, as a whole or at an entry. -/
def Fails (tree : DirectoryTree) (dir : PathBuf) (e : IoError) : Prop :=
  tree.readDir dir = .error e ∨ ∃ entries, tree.readDir dir = .ok entries ∧ .error e ∈ entries

/-- A traversal goes from a directory to a directory in it. -/
def Enters (tree : DirectoryTree) (recursive : Bool) (dir path : PathBuf) : Prop :=
  recursive = true ∧ tree.Lists dir path ∧ tree.isFile path = false ∧ tree.isDir path = true

/-- A traversal comes from a directory to another. -/
def Reached (tree : DirectoryTree) (recursive : Bool) : PathBuf → PathBuf → Prop :=
  Relation.ReflTransGen (tree.Enters recursive)

/-- A traversal finds the file. -/
def Found (tree : DirectoryTree) (recursive : Bool) (select : PathBuf → Prop)
    (dir path : PathBuf) : Prop :=
  ∃ dir', tree.Reached recursive dir dir' ∧ tree.Lists dir' path ∧ tree.isFile path = true ∧
    select path

theorem Listed.not_fails (h : tree.Listed dir) (e : IoError) : ¬ tree.Fails dir e := by
  obtain ⟨entries, hentries, hok⟩ := h
  rintro (he | ⟨entries', hentries', he⟩)
  · cases hentries.symm.trans he
  · obtain rfl := Except.ok.inj (hentries.symm.trans hentries')
    exact hok e he

theorem Lists.components_eq (h : tree.Lists dir path) :
    ∃ name, path.components = dir.components ++ [name] := by
  obtain ⟨entries, hentries, hpath⟩ := h
  obtain ⟨hparent, hne⟩ := tree.listed dir entries path hentries hpath
  have hdrop : path.components.dropLast = dir.components := congrArg PathBuf.components hparent
  have hnil : path.components ≠ [] := by
    intro hnil
    rw [hnil] at hdrop
    apply hne
    cases path
    cases dir
    exact congrArg PathBuf.mk (hnil.trans hdrop)
  refine ⟨path.components.getLast hnil, ?_⟩
  rw [← hdrop, List.dropLast_append_getLast hnil]

theorem Lists.length_eq (h : tree.Lists dir path) :
    path.components.length = dir.components.length + 1 := by
  obtain ⟨name, hname⟩ := h.components_eq
  rw [hname, List.length_append, List.length_singleton]

theorem Lists.isPrefix (h : tree.Lists dir path) : dir.components <+: path.components := by
  obtain ⟨name, hname⟩ := h.components_eq
  exact hname ▸ List.prefix_append _ _

/-- What a traversal comes to is the directory itself or in one of its directories. -/
theorem reached_iff : tree.Reached recursive dir dir' ↔
    dir' = dir ∨ ∃ path, tree.Enters recursive dir path ∧ tree.Reached recursive path dir' := by
  constructor
  · intro h
    rcases Relation.ReflTransGen.cases_head h with rfl | ⟨path, henters, hreached⟩
    · exact Or.inl rfl
    · exact Or.inr ⟨path, henters, hreached⟩
  · rintro (rfl | ⟨path, henters, hreached⟩)
    · exact .refl
    · exact .head henters hreached

/-- What a traversal finds is in the directory itself or in one of its directories. -/
theorem found_iff {select : PathBuf → Prop} : tree.Found recursive select dir path ↔
    (tree.Lists dir path ∧ tree.isFile path = true ∧ select path) ∨
      ∃ dir', tree.Enters recursive dir dir' ∧ tree.Found recursive select dir' path := by
  constructor
  · rintro ⟨dir', hreached, hfile⟩
    rcases reached_iff.mp hreached with rfl | ⟨first, henters, hrest⟩
    · exact Or.inl hfile
    · exact Or.inr ⟨first, henters, dir', hrest, hfile⟩
  · rintro (hfile | ⟨first, henters, dir', hrest, hfile⟩)
    · exact ⟨dir, .refl, hfile⟩
    · exact ⟨dir', .head henters hrest, hfile⟩

theorem Reached.isPrefix (h : tree.Reached recursive dir dir') :
    dir.components <+: dir'.components := by
  induction h with
  | refl => exact List.prefix_rfl
  | tail _ henters ih => exact ih.trans henters.2.1.isPrefix

theorem Found.isPrefix {select : PathBuf → Prop} (h : tree.Found recursive select dir path) :
    dir.components <+: path.components := by
  obtain ⟨dir', hreached, hlists, -⟩ := h
  exact hreached.isPrefix.trans hlists.isPrefix

/-- Two entries of one directory have nothing below them in common. -/
theorem Lists.eq_of_above_both {path' below : PathBuf} (h : tree.Lists dir path)
    (h' : tree.Lists dir path') (hbelow : path.components <+: below.components)
    (hbelow' : path'.components <+: below.components) : path = path' := by
  have hlength := h.length_eq.trans h'.length_eq.symm
  have heq := List.prefix_of_prefix_length_le hbelow hbelow' hlength.le
  cases path
  cases path'
  exact congrArg PathBuf.mk (heq.eq_of_length hlength)

end DirectoryTree

/-! ### Disks -/

namespace Disk

/-- The directory tree of a disk. -/
def tree (disk : Disk) (o : IterOrder PathBuf) : DirectoryTree where
  toFileSystem := disk.fileSystem o
  isDir path := decide (path ∈ disk.dirs)
  depth := disk.dirs.sup fun dir => dir.components.length
  exists_of_isDir _ hdir := Bool.or_eq_true_iff.mpr (.inr hdir)
  length_le dir hdir := Finset.le_sup (f := fun dir : PathBuf => dir.components.length)
    (of_decide_eq_true hdir)
  listed dir entries path hentries hpath := by
    unfold fileSystem at hentries
    dsimp only at hentries
    split_ifs at hentries
    obtain rfl := Except.ok.inj hentries
    obtain ⟨path', hpath', heq⟩ := List.mem_map.mp hpath
    obtain rfl := Except.ok.inj heq
    rw [IterOrder.mem_order] at hpath'
    exact (Finset.mem_filter.mp hpath').2
  nodup dir entries hentries := by
    unfold fileSystem at hentries
    dsimp only at hentries
    split_ifs at hentries
    obtain rfl := Except.ok.inj hentries
    rw [List.filterMap_map]
    change (List.filterMap some _).Nodup
    rw [List.filterMap_some]
    exact o.nodup_order _

theorem lists_tree_iff {disk : Disk} {o : IterOrder PathBuf} {dir path : PathBuf} :
    (disk.tree o).Lists dir path ↔ dir ∈ disk.dirs ∧ path ∈ disk.children dir := by
  change (∃ entries, (if dir ∈ disk.dirs then _ else _) = Except.ok entries ∧ _) ↔ _
  by_cases hdir : dir ∈ disk.dirs
  · simp [hdir, IterOrder.mem_order]
  · simp [hdir]

end Disk

end Foundation
