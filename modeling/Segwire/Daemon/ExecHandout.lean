import Segwire.Daemon.ExecPath
import Segwire.NsEnter.PathValidation

/-!
# What ExecAuthorize hands to the setuid helper

The D-Bus service checks a name with Unicode's idea of a letter, puts the prefix of
the daemon before it, and hands out a path. The helper checks the path again, as a
text of its own. No name that the service accepts is lost between the two: neither
the name nor the prefix contains a character that the helper looks for.

## Main results

* `InterfaceHelpers.notMem_of_validateNamespaceName` — characters that no accepted name has
* `ConfigManager.netnsPath_accepted` — the helper accepts the path of every full name
-/

namespace Segwire

open Foundation

namespace Common.InterfaceHelpers

variable {platform : Platform} {name : String}

theorem ne_empty_of_validateNamespaceName
    (h : validateNamespaceName platform.isAlphanumeric name = .ok ()) : name ≠ "" := by
  intro hempty
  rw [validateNamespaceName, if_pos hempty] at h
  cases h

/-- Whatever Unicode counts as alphanumeric, an ASCII character is so only if ASCII
says so. -/
theorem notMem_of_validateNamespaceName
    (h : validateNamespaceName platform.isAlphanumeric name = .ok ()) {c : Char}
    (hascii : c.toNat < 128) (hc : isNameChar c = false) (hunderscore : c ≠ '_') :
    c ∉ name.toList := by
  intro hmem
  unfold validateNamespaceName at h
  split_ifs at h with hempty hlength hchars
  rw [Bool.not_eq_true', Bool.not_eq_false, List.all_eq_true] at hchars
  have hallowed := hchars c hmem
  rw [platform.isAlphanumeric_of_ascii c hascii, Bool.or_eq_true, beq_iff_eq] at hallowed
  have hname : isNameChar c = true := hallowed.resolve_right hunderscore
  rw [hname] at hc
  cases hc

end Common.InterfaceHelpers

namespace Daemon

open Foundation.Text Segwire.Common Segwire.NsEnter

namespace ConfigManager

variable {platform : Platform} {manager : ConfigManager} {name : String}

theorem generateFullNamespaceName_ne_empty (manager : ConfigManager) (hname : name ≠ "") :
    manager.generateFullNamespaceName name ≠ "" := by
  unfold generateFullNamespaceName
  split_ifs
  · exact hname
  · intro hempty
    have hlength := congrArg (fun text => text.toList.length) hempty
    simp at hlength

/-- A character that is in neither the prefix nor the name is not in the full name. -/
theorem notMem_generateFullNamespaceName {c : Char} (hpfx : c ∉ manager.namespacePrefix.toList)
    (hdash : c ≠ '-') (hname : c ∉ name.toList) :
    c ∉ (manager.generateFullNamespaceName name).toList := by
  unfold generateFullNamespaceName
  split_ifs
  · exact hname
  · intro hmem
    rw [String.toList_append, String.toList_append, List.mem_append, List.mem_append] at hmem
    obtain (hmem | hmem) | hmem := hmem
    · exact hpfx hmem
    · exact hdash (List.mem_singleton.mp hmem)
    · exact hname hmem

/-- For every validated prefix and every name that the D-Bus service accepts, the path
of the full name passes the textual checks of the helper, so that only the look at the
file decides, and it names one entry of `/run/netns`. -/
theorem netnsPath_accepted (hpfx : validateNamespacePrefix manager.namespacePrefix = .ok ())
    (hname : InterfaceHelpers.validateNamespaceName platform.isAlphanumeric name = .ok ())
    (symlinkMetadata : String → Except IoError SymlinkMetadata) :
    (validateNsPath symlinkMetadata (netnsPath (manager.generateFullNamespaceName name)) = .ok () ↔
      ∃ metadata, symlinkMetadata (netnsPath (manager.generateFullNamespaceName name)) =
        .ok metadata ∧ metadata.isSymlink = false) ∧
    Confined (netnsPath (manager.generateFullNamespaceName name)) := by
  have hpattern := (validateName_eq_ok_iff.mp hpfx).2.2
  -- the characters that the helper looks for are ASCII and in no name
  have absent : ∀ c : Char, c.toNat < 128 → isNameChar c = false → c ≠ '_' → c ≠ '-' →
      c ∉ (manager.generateFullNamespaceName name).toList := fun c hascii hc hunderscore hdash =>
    notMem_generateFullNamespaceName (notMem_of_namespacePattern hpattern hc) hdash
      (InterfaceHelpers.notMem_of_validateNamespaceName hname hascii hc hunderscore)
  have hempty := generateFullNamespaceName_ne_empty manager
    (InterfaceHelpers.ne_empty_of_validateNamespaceName hname)
  have hslash := absent '/' (by decide) (by decide) (by decide) (by decide)
  have hdot := absent '.' (by decide) (by decide) (by decide) (by decide)
  have hnull := absent '\x00' (by decide) (by decide) (by decide) (by decide)
  generalize manager.generateFullNamespaceName name = fullName at *
  have hdots : ¬ ['.', '.'] <:+: fullName.toList := fun h => hdot (h.subset List.mem_cons_self)
  have hpathNull : '\x00' ∉ (netnsPath fullName).toList := by
    intro hmem
    rw [netnsPath, String.toList_append, List.mem_append] at hmem
    rcases hmem with hmem | hmem
    · exact absurd hmem (by decide)
    · exact hnull hmem
  constructor
  · rw [validateNsPath_eq_ok_iff]
    constructor
    · rintro ⟨_, -, -, -, -, -, hstat⟩
      exact hstat
    · intro hstat
      exact ⟨fullName, rfl, hempty, hslash, hdots, hpathNull, hstat⟩
  · refine ⟨(isDirectChild_prefix_append_iff hslash hdots).mpr ⟨hempty, ?_⟩, hpathNull⟩
    rintro rfl
    exact hdot List.mem_cons_self

/-- A platform on which a letter outside ASCII is alphanumeric. -/
def accented : Platform :=
  { Platform.ofTables [] [] with
    isAlphanumeric := fun c => c.isAlphanum || c == 'é'
    isAlphanumeric_of_ascii := by
      intro c hascii
      have hne : c ≠ 'é' := by
        rintro rfl
        revert hascii
        decide
      simp [hne] }

/-- The full name of a name with that letter. -/
def accentedName : String := (fromConfig (.standard "vpn") ⟨[]⟩).generateFullNamespaceName "café_1"

end ConfigManager

theorem accentedName_accepted :
    (validateNsPath (fun _ => .ok ⟨false⟩) (netnsPath ConfigManager.accentedName) = .ok () ↔
      ∃ metadata, (.ok ⟨false⟩ : Except IoError SymlinkMetadata) = .ok metadata ∧
        metadata.isSymlink = false) ∧
    Confined (netnsPath ConfigManager.accentedName) := by
  have hname : InterfaceHelpers.validateNamespaceName ConfigManager.accented.isAlphanumeric
      "café_1" = .ok () := by
    decide
  exact ConfigManager.netnsPath_accepted (by decide) hname fun _ => .ok ⟨false⟩

end Daemon

end Segwire
