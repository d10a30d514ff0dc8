import Segwire.Daemon.ConfigRescan

/-!
# Scans and the order of the directory

A scan goes through the directory in the order in which it is read, and of several files
that give the same full name it keeps the last, but lists the name for each of them.
What it stores and lists is independent of the order exactly if no two files give the
same name.

## Main definitions

* `FileSystem.listing` — a file system that reads a directory in a given order
* `Lists` — a list is an enumeration of a set of files
* `ConfigManager.OrderFree` — the order does not matter
* `ConfigManager.NamesDiffer` — no two files give the same full name

## Main results

* `ConfigManager.orderFree_iff` — the two are equivalent
* `ConfigManager.not_orderFree_of_prefixed`
-/

namespace Segwire.Daemon

open Foundation Segwire.Common

/-- The file system `fs`, when it reads the directory `dir` as `paths`. -/
def FileSystem.listing (fs : FileSystem) (dir : PathBuf) (paths : List PathBuf) : FileSystem :=
  { fs with readDir := fun path => if path = dir then .ok (paths.map .ok) else fs.readDir path }

/-- The list enumerates the files. -/
structure Lists (paths : List PathBuf) (files : Finset PathBuf) : Prop where
  nodup : paths.Nodup
  mem_iff : ∀ path, path ∈ paths ↔ path ∈ files

theorem lists_toList (files : Finset PathBuf) : Lists files.toList files :=
  ⟨files.nodup_toList, fun _ => Finset.mem_toList⟩

namespace ConfigManager

variable {platform : Platform} {fs : FileSystem} {manager : ConfigManager} {files : Finset PathBuf}

/-- The scan of a directory that is read as `paths`. -/
def scanListing (platform : Platform) (fs : FileSystem) (manager : ConfigManager)
    (paths : List PathBuf) : SegwireResult (List String) × ConfigManager :=
  manager.scanNamespaceConfigs platform (FileSystem.listing fs manager.configDirectory paths)

/-- In whichever order the files are read, a scan stores the same entries, and the list that
it returns has each stored name exactly once. -/
structure OrderFree (platform : Platform) (fs : FileSystem) (manager : ConfigManager)
    (files : Finset PathBuf) : Prop where
  stored : ∀ paths paths', Lists paths files → Lists paths' files →
    (manager.scanListing platform fs paths).2.namespaceConfigs =
      (manager.scanListing platform fs paths').2.namespaceConfigs
  listed : ∀ paths, Lists paths files → ∃ names,
    (manager.scanListing platform fs paths).1 = .ok names ∧ names.Nodup ∧
      ∀ k, k ∈ names ↔
        (manager.scanListing platform fs paths).2.namespaceConfigs.contains k = true

/-- No two of the files give the same full name. -/
def NamesDiffer (platform : Platform) (fs : FileSystem) (manager : ConfigManager)
    (files : Finset PathBuf) : Prop :=
  ∀ x ∈ files, ∀ y ∈ files, ∀ k, manager.scannedName platform fs x = some k →
    manager.scannedName platform fs y = some k → x = y

/-- What the scan of a listing stores and returns. -/
theorem scanListing_eq (paths : List PathBuf) :
    manager.scanListing platform fs paths =
      (.ok (paths.filterMap (manager.scannedName platform fs)), { manager with
        namespaceConfigs := KeyedMap.empty.collect (manager.scannedEntry platform fs) paths }) := by
  have hread : (FileSystem.listing fs manager.configDirectory paths).readDir
      manager.configDirectory = .ok (paths.map .ok) := if_pos rfl
  exact scan_of_readDir platform hread

theorem nodup_names_iff {paths : List PathBuf} (h : Lists paths files) :
    (paths.filterMap (manager.scannedName platform fs)).Nodup ↔
      manager.NamesDiffer platform fs files := by
  rw [KeyedMap.nodup_filterMap_iff h.nodup]
  simp only [NamesDiffer, h.mem_iff]

theorem lookup_scanListing_iff {paths : List PathBuf} (h : Lists paths files)
    (hdiffer : manager.NamesDiffer platform fs files) {k : String} {entry : NamespaceConfigEntry} :
    (manager.scanListing platform fs paths).2.namespaceConfigs.lookup k = some entry ↔
      ∃ path ∈ files, manager.scannedEntry platform fs path = some entry ∧ entry.fullName = k := by
  rw [scanListing_eq]
  refine (KeyedMap.lookup_collect_iff fun x hx y hy value value' hvalue hvalue' hkey => ?_).trans ?_
  · apply hdiffer x ((h.mem_iff x).mp hx) y ((h.mem_iff y).mp hy) value.fullName
    · exact Option.map_eq_some_iff.mpr ⟨value, hvalue, rfl⟩
    · exact Option.map_eq_some_iff.mpr ⟨value', hvalue', hkey.symm⟩
  · simp only [h.mem_iff]

/-- The order in which a directory is read does not matter iff no two of its files give the
same full name. -/
theorem orderFree_iff :
    manager.OrderFree platform fs files ↔ manager.NamesDiffer platform fs files := by
  constructor
  · intro h
    obtain ⟨names, hnames, hnodup, -⟩ := h.listed _ (lists_toList files)
    rw [scanListing_eq] at hnames
    obtain rfl := Except.ok.inj hnames
    exact (nodup_names_iff (lists_toList files)).mp hnodup
  · intro hdiffer
    refine ⟨fun paths paths' hlists hlists' => ?_, fun paths hlists => ?_⟩
    · apply KeyedMap.ext
      intro k
      apply Option.ext
      intro entry
      rw [lookup_scanListing_iff hlists hdiffer, lookup_scanListing_iff hlists' hdiffer]
    · refine ⟨_, congrArg Prod.fst (scanListing_eq paths), (nodup_names_iff hlists).mpr hdiffer,
        fun k => ?_⟩
      rw [scanListing_eq]
      exact mem_scannedNames_iff

section TwoFiles

/-- A file of the standard configuration directory. -/
def inDirectory (name : String) : PathBuf := ⟨["etc", "segwire", "namespaces", name]⟩

/-- Two files, one with the prefix in its name. -/
def oneTwice : FileSystem :=
  let files : HashMap PathBuf DiskFile :=
    (∅ : HashMap PathBuf DiskFile).insert (inDirectory "a.toml") ⟨bareText "one", 0⟩
  Disk.fileSystem ⟨files.insert (inDirectory "b.toml") ⟨bareText "new-one", 0⟩,
    {⟨["etc", "segwire", "namespaces"]⟩}⟩ .sorted

/-- A platform that knows both texts. -/
def plainAndPrefixed : Platform :=
  .ofTables [(bareText "one", .bare "one"), (bareText "new-one", .bare "new-one")] []

end TwoFiles

/-- Under the prefix `new`, the file that is read last decides where `new-one` comes from. -/
theorem not_orderFree_of_prefixed :
    ¬ (fromConfig (.standard "new") ⟨["etc", "segwire", "daemon.toml"]⟩).OrderFree plainAndPrefixed
      oneTwice {inDirectory "a.toml", inDirectory "b.toml"} := by
  intro h
  have hstored := h.stored [inDirectory "a.toml", inDirectory "b.toml"]
    [inDirectory "b.toml", inDirectory "a.toml"] ⟨by decide, by simp⟩ ⟨by decide, by simp [or_comm]⟩
  have hpath := congrArg (fun configs => (configs.lookup "new-one").map (·.filePath)) hstored
  revert hpath
  decide

end ConfigManager

end Segwire.Daemon
