import Segwire.Foundation.FileSystem
import Segwire.Foundation.LexicalPath

/-!
# The path check of the setuid helper

`segwire-ns-enter` opens the namespace path it is given with root privileges, so
`validate_ns_path` decides which files an unprivileged caller can make it open.
The check is textual: a prefix, the absence of `/` and `..` in the rest, and a
final look at the file itself.

## Main definitions

* `NsEnter.validateNsPath` — the check
* `NsEnter.Confined` — what it is for: the path names an entry of `/run/netns`

## Main results

* `NsEnter.validateNsPath_eq_ok_iff` — the accepted paths
* `NsEnter.confined_iff_of_accepted` — the one accepted path that is not confined
-/

namespace Segwire.NsEnter

open Foundation Foundation.Text

/-- `symlink_metadata`, as far as it is read. -/
structure SymlinkMetadata where
  isSymlink : Bool

/-- Allowed prefix for namespace paths. -/
def ALLOWED_NS_PREFIX : String := "/run/netns/"

/-- The part of a path after the allowed prefix. -/
def nsName (path : String) : String :=
  String.ofList (path.toList.drop ALLOWED_NS_PREFIX.toList.length)

/-- `validate_ns_path`, where `symlinkMetadata` is the answer of the file system. -/
def validateNsPath (symlinkMetadata : String → Except IoError SymlinkMetadata) (path : String) :
    Except String Unit :=
  if !startsWith path ALLOWED_NS_PREFIX then
    .error ("namespace path must start with '" ++ ALLOWED_NS_PREFIX ++ "', got '" ++ path ++ "'")
  else if nsName path = "" then
    .error "namespace name is empty"
  else if containsChar (nsName path) '/' || containsStr (nsName path) ".." then
    .error ("invalid namespace name: '" ++ nsName path ++ "'")
  else if containsChar path '\x00' then
    .error "path contains null byte"
  else
    match symlinkMetadata path with
    | .error e => .error ("cannot stat '" ++ path ++ "': " ++ e.message)
    | .ok metadata =>
      if metadata.isSymlink then
        .error ("'" ++ path ++ "' is a symlink, which is not allowed")
      else .ok ()

/-- The path names an entry of `/run/netns`, and no system call reads less of it. -/
def Confined (path : String) : Prop :=
  LexicalPath.IsDirectChild ["run", "netns"] path.toList ∧ '\x00' ∉ path.toList

variable {symlinkMetadata : String → Except IoError SymlinkMetadata} {path : String}

/-- The accepted paths: the allowed prefix and a name that contains no slash, no
`..` and no null byte, where the file system knows something else than a symlink. -/
theorem validateNsPath_eq_ok_iff :
    validateNsPath symlinkMetadata path = .ok () ↔
      ∃ name, path = ALLOWED_NS_PREFIX ++ name ∧ name ≠ "" ∧ '/' ∉ name.toList ∧
        ¬ ['.', '.'] <:+: name.toList ∧ '\x00' ∉ path.toList ∧
        ∃ metadata, symlinkMetadata path = .ok metadata ∧ metadata.isSymlink = false := by
  unfold validateNsPath
  constructor
  · intro h
    split_ifs at h with hstartsWith hempty hname hnull
    rw [Bool.not_eq_true', Bool.not_eq_false] at hstartsWith
    obtain ⟨name, rfl⟩ := startsWith_iff.mp hstartsWith
    have hrest : nsName (ALLOWED_NS_PREFIX ++ name) = name := by
      simp [nsName]
    rw [hrest] at hempty hname
    simp only [Bool.or_eq_true, not_or, containsChar_iff, containsStr_iff] at hname hnull
    refine ⟨name, rfl, hempty, hname.1, hname.2, hnull, ?_⟩
    split at h
    · cases h
    · rename_i metadata hmetadata
      split_ifs at h with hsymlink
      exact ⟨metadata, hmetadata, Bool.not_eq_true _ ▸ hsymlink⟩
  · rintro ⟨name, rfl, hempty, hslash, hdots, hnull, metadata, hmetadata, hsymlink⟩
    have hstartsWith : startsWith (ALLOWED_NS_PREFIX ++ name) ALLOWED_NS_PREFIX = true :=
      startsWith_iff.mpr ⟨name, rfl⟩
    have hrest : nsName (ALLOWED_NS_PREFIX ++ name) = name := by
      simp [nsName]
    have hname : (containsChar name '/' || containsStr name "..") = false := by
      simpa [containsChar, containsStr] using And.intro hslash hdots
    have hnull' : containsChar (ALLOWED_NS_PREFIX ++ name) '\x00' = false := by
      simpa [containsChar] using hnull
    simp [hstartsWith, hrest, hempty, hname, hnull', hmetadata, hsymlink]

/-- A name after the allowed prefix that avoids slashes and `..` is confined
unless it is empty or the single dot. -/
theorem isDirectChild_prefix_append_iff {name : String} (hslash : '/' ∉ name.toList)
    (hdots : ¬ ['.', '.'] <:+: name.toList) :
    LexicalPath.IsDirectChild ["run", "netns"] (ALLOWED_NS_PREFIX ++ name).toList ↔
      name ≠ "" ∧ name ≠ "." := by
  have hdir : LexicalPath.resolve "/run/netns".toList = ["run", "netns"] := by decide
  have hpath : (ALLOWED_NS_PREFIX ++ name).toList = "/run/netns".toList ++ '/' :: name.toList := by
    simp [ALLOWED_NS_PREFIX]
  -- the two dots are the only component with `..` that means something else than itself
  have hparent : name.toList ≠ ['.', '.'] := fun h => hdots (h ▸ List.infix_rfl)
  have hdot : name.toList = ['.'] ↔ name = "." := by
    rw [← String.toList_inj]
    rfl
  have hempty : name.toList = [] ↔ name = "" := by
    rw [← String.toList_inj]
    rfl
  rw [hpath, ← hdir, LexicalPath.isDirectChild_append_iff _ hslash]
  simp [hparent, hdot, hempty]

theorem not_confined_netns_dot : ¬ Confined "/run/netns/." := by
  rintro ⟨⟨name, hname⟩, -⟩
  have hself : LexicalPath.resolve "/run/netns/.".toList = ["run", "netns"] := by decide
  rw [hself] at hname
  exact absurd (congrArg List.length hname) (by simp)

/-- Where the file system knows the path as something else than a symlink, an
accepted path is confined with one exception: the directory itself, written with
a trailing dot. -/
theorem confined_iff_of_accepted
    {metadata : SymlinkMetadata} (hstat : symlinkMetadata path = .ok metadata)
    (hsymlink : metadata.isSymlink = false) :
    (validateNsPath symlinkMetadata path = .ok () → Confined path) ↔ path ≠ "/run/netns/." := by
  constructor
  · rintro h rfl
    have haccepted : validateNsPath symlinkMetadata "/run/netns/." = .ok () :=
      validateNsPath_eq_ok_iff.mpr ⟨".", rfl, by decide, by decide, by decide, by decide,
        metadata, hstat, hsymlink⟩
    exact not_confined_netns_dot (h haccepted)
  · intro hne haccepted
    obtain ⟨name, rfl, hempty, hslash, hdots, hnull, -⟩ := validateNsPath_eq_ok_iff.mp haccepted
    have hdot : name ≠ "." := fun h => hne (by rw [h]; rfl)
    exact ⟨(isDirectChild_prefix_append_iff hslash hdots).mpr ⟨hempty, hdot⟩, hnull⟩

theorem confined_netns_app :
    (validateNsPath (fun _ => .ok ⟨false⟩) "/run/netns/app" = .ok () → Confined "/run/netns/app") ↔
      "/run/netns/app" ≠ "/run/netns/." :=
  confined_iff_of_accepted rfl rfl

/-- The directory itself is accepted under the name `.`. -/
theorem accepts_netns_dot :
    validateNsPath (fun _ => .ok ⟨false⟩) "/run/netns/." = .ok () ∧ ¬ Confined "/run/netns/." := by
  exact ⟨by decide, not_confined_netns_dot⟩

end Segwire.NsEnter
