import Segwire.Daemon.ListedNames

/-!
# The length of full names

A prefix may have 32 bytes and a name 63, and the name of the namespace that is made from
both is checked against 63 again, but only when the namespace is created or deleted. A
configuration whose name has to be given the prefix can be loaded and never created.

## Main definitions

* `ConfigManager.Loadable` — a configuration that passes the checks of loading
* `ConfigManager.NameAccepted` — its full name passes the check of the netlink layer

## Main results

* `ConfigManager.Loadable.nameAccepted_iff` — the names that leave room for the prefix
* `ConfigManager.not_nameAccepted_of_long`
-/

namespace Segwire.Daemon

open Foundation Foundation.Text Segwire.Common

theorem namespacePattern_append {s t : List Char} (hs : namespacePattern s = true)
    (ht : ∀ c ∈ t, isNameChar c = true) : namespacePattern (s ++ t) = true := by
  cases s with
  | nil => cases hs
  | cons first rest =>
    rw [namespacePattern, Bool.and_eq_true] at hs
    rw [List.cons_append, namespacePattern, List.all_append, Bool.and_eq_true, Bool.and_eq_true]
    exact ⟨hs.1, hs.2, List.all_eq_true.mpr ht⟩

namespace ConfigManager

variable {manager : ConfigManager} {config : NamespaceConfig}

/-- The prefix and the configuration are valid, and the daemon manages the configuration. -/
structure Loadable (manager : ConfigManager) (config : NamespaceConfig) : Prop where
  prefix_valid : validateNamespacePrefix manager.namespacePrefix = .ok ()
  valid : config.validate = .ok ()
  managed : manager.shouldManage config.namespace_.name = true

/-- What is loaded from a file is loadable. -/
theorem loadable_of_load {platform : Platform} {fs : FileSystem} {path : PathBuf}
    {entry : NamespaceConfigEntry}
    (hpfx : validateNamespacePrefix manager.namespacePrefix = .ok ())
    (h : manager.loadNamespaceConfig platform fs path = .ok (some entry)) :
    manager.Loadable entry.config where
  prefix_valid := hpfx
  valid := validate_of_load h
  managed := by
    obtain ⟨config, lastModified, -, hmanage, rfl⟩ := exists_of_load h
    exact hmanage

/-- The full name of the configuration passes the check of the netlink layer. -/
def NameAccepted (manager : ConfigManager) (config : NamespaceConfig) : Prop :=
  validateNamespaceName (manager.generateFullNamespaceName config.namespace_.name) = .ok ()

/-- A namespace whose name is not accepted can neither be created nor deleted. -/
theorem fails_of_not_nameAccepted (h : ¬ manager.NameAccepted config) (netlink : NetlinkManager) :
    ∃ e, netlink.createNamespace (manager.generateFullNamespaceName config.namespace_.name) =
        (.error e, netlink) ∧
      netlink.deleteNamespace (manager.generateFullNamespaceName config.namespace_.name) =
        (.error e, netlink) := by
  unfold NameAccepted at h
  unfold NetlinkManager.createNamespace NetlinkManager.deleteNamespace
  cases hcheck : validateNamespaceName
      (manager.generateFullNamespaceName config.namespace_.name) with
  | error e => exact ⟨e, rfl, rfl⟩
  | ok => exact absurd hcheck h

/-- The full name of a loadable configuration is accepted iff its name already carries the
prefix, or both fit into 63 bytes with the separator. -/
theorem Loadable.nameAccepted_iff (h : manager.Loadable config) :
    manager.NameAccepted config ↔
      manager.matchesNamespacePrefix config.namespace_.name = true ∨
        byteLen manager.namespacePrefix + 1 + byteLen config.namespace_.name ≤ 63 := by
  have hname := (NamespaceConfig.validate_eq_ok_iff.mp h.valid).1
  obtain ⟨-, -, hnamechars⟩ := validateName_eq_ok_iff.mp hname
  obtain ⟨-, -, hpfxchars⟩ := validateName_eq_ok_iff.mp h.prefix_valid
  unfold NameAccepted generateFullNamespaceName
  by_cases hmatches : manager.matchesNamespacePrefix config.namespace_.name = true
  · rw [if_pos hmatches]
    exact iff_of_true hname (.inl hmatches)
  · have hlen : byteLen (manager.namespacePrefix ++ "-" ++ config.namespace_.name) =
        byteLen manager.namespacePrefix + 1 + byteLen config.namespace_.name := by
      unfold byteLen
      rw [String.utf8ByteSize_append, String.utf8ByteSize_append]
      rfl
    have hchars : namespacePattern
        (manager.namespacePrefix ++ "-" ++ config.namespace_.name).toList = true := by
      rw [String.append_assoc, String.toList_append]
      apply namespacePattern_append hpfxchars
      intro c hc
      rw [String.toList_append, List.mem_append] at hc
      rcases hc with hdash | hc
      · obtain rfl := List.mem_singleton.mp hdash
        rfl
      · exact isNameChar_of_namespacePattern hnamechars hc
    have hne : manager.namespacePrefix ++ "-" ++ config.namespace_.name ≠ "" := by
      intro hempty
      rw [hempty] at hchars
      cases hchars
    rw [if_neg hmatches, or_iff_right hmatches]
    refine validateName_eq_ok_iff.trans ?_
    rw [hlen]
    exact ⟨fun haccepted => haccepted.2.1, fun hfits => ⟨hne, hfits, hchars⟩⟩

section LongName

/-- A daemon with the prefix `new`. -/
def withNew : ConfigManager :=
  fromConfig (.standard "new") ⟨["etc", "segwire", "daemon.toml"]⟩

/-- The name has 60 letters. -/
def longName : NamespaceConfig := .bare (String.ofList (List.replicate 60 'a'))

end LongName

theorem Loadable.nameAccepted_app : withNew.NameAccepted (.bare "app") :=
  (Loadable.nameAccepted_iff ⟨by decide, by decide, by decide⟩).mpr (.inr (by decide))

/-- Four bytes for the prefix and the separator are too many. -/
theorem not_nameAccepted_of_long : withNew.Loadable longName ∧ ¬ withNew.NameAccepted longName := by
  refine ⟨⟨by decide, by decide, by decide⟩, ?_⟩
  unfold NameAccepted
  decide

end ConfigManager

end Segwire.Daemon
