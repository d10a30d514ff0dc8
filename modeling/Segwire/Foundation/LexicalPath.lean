import Segwire.Foundation.Text

/-!
# Lexical path resolution

Resolving a textual path without consulting the file system: the components
between slashes are read from left to right, empty and `.` components are
skipped and `..` drops the component before it.

## Main definitions

* `LexicalPath.resolve` — the remaining components
* `LexicalPath.IsDirectChild` — a path that resolves to an entry of a directory

## Main results

* `LexicalPath.resolve_append` — a path below a directory is resolved from there
* `LexicalPath.isDirectChild_append_iff` — what one further component makes of a
  directory
-/

namespace Foundation.LexicalPath

/-- One component of a path, applied to the components before it. -/
def enter (resolved : List String) : List Char → List String
  | [] | ['.'] => resolved
  | ['.', '.'] => resolved.dropLast
  | component => resolved ++ [String.ofList component]

/-- The components that a path denotes, starting at the root. -/
def resolve (path : List Char) : List String :=
  (path.splitOn '/').foldl enter []

/-- `path` denotes an entry of the directory `dir`. -/
def IsDirectChild (dir : List String) (path : List Char) : Prop :=
  ∃ name, resolve path = dir ++ [name]

/-- What follows a slash is entered from where the path before it leads. -/
theorem resolve_append (dir : List Char) {component : List Char} (h : '/' ∉ component) :
    resolve (dir ++ '/' :: component) = enter (resolve dir) component := by
  rw [resolve, List.splitOn_append_cons_self, List.splitOn_eq_singleton h, List.foldl_append]
  rfl

theorem enter_of_ordinary (resolved : List String) {component : List Char} (hempty : component ≠ [])
    (hdot : component ≠ ['.']) (hdotdot : component ≠ ['.', '.']) :
    enter resolved component = resolved ++ [String.ofList component] := by
  unfold enter
  split
  · exact absurd rfl hempty
  · exact absurd rfl hdot
  · exact absurd rfl hdotdot
  · rfl

/-- One component below a directory names an entry of it unless it is empty or
stands for the directory or its parent. -/
theorem isDirectChild_append_iff (dir : List Char) {component : List Char} (h : '/' ∉ component) :
    IsDirectChild (resolve dir) (dir ++ '/' :: component) ↔
      component ≠ [] ∧ component ≠ ['.'] ∧ component ≠ ['.', '.'] := by
  rw [IsDirectChild, resolve_append dir h]
  constructor
  · rintro ⟨name, hname⟩
    -- entering the other components does not lengthen the list
    have hlength := congrArg List.length hname
    refine ⟨?_, ?_, ?_⟩ <;> rintro rfl <;> simp [enter] at hlength
  · rintro ⟨hempty, hdot, hdotdot⟩
    exact ⟨_, enter_of_ordinary _ hempty hdot hdotdot⟩

end Foundation.LexicalPath
