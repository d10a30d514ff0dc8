import Segwire.Cli.Validate
import Segwire.Foundation.DirectoryTree

/-!
# The validate command on directories

`segwire validate` collects the files of a directory, of its subdirectories too if it is told so,
and checks them in order; without `--continue-on-error` it stops after the first file with
errors. The daemon counts the files of its own directory in another way.

## Main definitions

* `collectConfigFiles` — the files that are checked
* `executeValidate` — the command, up to what it prints

## Main results

* `collected_collectConfigFiles` — what is collected, and when that fails
* `executeValidate_dir` — what the command does with a directory
* `executeValidate_agrees` — the exit status and the answer to `ReloadConfiguration`
-/

namespace Segwire.Cli

open Foundation Segwire.Common Segwire.Daemon

/-- Arguments for the validate command, as far as they say what is checked. -/
structure ValidateArgs where
  path : Option PathBuf
  recursive : Bool
  warnings : Bool
  continueOnError : Bool

/-! ### Collecting the files -/

section Collect

variable (tree : DirectoryTree) (recursive : Bool)

/-- The files that an entry contributes, where `collect` goes through a directory. -/
def collectEntry (collect : PathBuf → Option (Except IoError (List PathBuf))) (path : PathBuf) :
    Option (Except IoError (List PathBuf)) :=
  if tree.isFile path then some (.ok (if path.extension = some "toml" then [path] else []))
  else if tree.isDir path && recursive then collect path
  else some (.ok [])

/-- The loop over the entries of a directory. -/
def collectEntries (collect : PathBuf → Option (Except IoError (List PathBuf))) :
    List (Except IoError PathBuf) → Option (Except IoError (List PathBuf))
  | [] => some (.ok [])
  | .error e :: _ => some (.error e)
  | .ok path :: entries =>
    match collectEntry tree recursive collect path with
    | some (.ok files) => (collectEntries collect entries).map (·.map (files ++ ·))
    | other => other

/-- Collect the configuration files of a directory, at most `fuel` directories deep. -/
def collectWithin : ℕ → PathBuf → Option (Except IoError (List PathBuf))
  | 0, _ => none
  | fuel + 1, dir =>
    match tree.readDir dir with
    | .error e => some (.error e)
    | .ok entries =>
      (collectEntries tree recursive (collectWithin fuel) entries).map
        (·.map (·.insertionSort (· ≤ ·)))

/-- `collect_config_files` -/
def collectConfigFiles (dir : PathBuf) : Option (Except IoError (List PathBuf)) :=
  collectWithin tree recursive (tree.depth + 1) dir

end Collect

section Collected

variable {tree : DirectoryTree} {recursive : Bool} {dir path : PathBuf}
  {collect : PathBuf → Option (Except IoError (List PathBuf))}

/-- A file that is checked. -/
abbrev IsConfigFile (path : PathBuf) : Prop := path.extension = some "toml"

/-- What is collected: the files that a traversal finds, in order, if it can list all of the
directories that it comes to. -/
def Collected (tree : DirectoryTree) (recursive : Bool) (dir : PathBuf) :
    Except IoError (List PathBuf) → Prop
  | .ok files => (∀ dir', tree.Reached recursive dir dir' → tree.Listed dir') ∧
      files.Pairwise (· < ·) ∧ ∀ file, file ∈ files ↔ tree.Found recursive IsConfigFile dir file
  | .error e => ∃ dir', tree.Reached recursive dir dir' ∧ tree.Fails dir' e

/-- The entry is a directory that the traversal goes through. -/
def Descends (tree : DirectoryTree) (recursive : Bool) (path : PathBuf) : Prop :=
  recursive = true ∧ tree.isFile path = false ∧ tree.isDir path = true

/-- The entry is the file, or a directory in which the file is found. -/
def Contributes (tree : DirectoryTree) (recursive : Bool) (path file : PathBuf) : Prop :=
  (tree.isFile path = true ∧ IsConfigFile path ∧ file = path) ∨
    Descends tree recursive path ∧ tree.Found recursive IsConfigFile path file

/-- What an entry contributes. -/
def CollectedEntry (tree : DirectoryTree) (recursive : Bool) (path : PathBuf) :
    Except IoError (List PathBuf) → Prop
  | .ok files => (Descends tree recursive path →
      ∀ dir', tree.Reached recursive path dir' → tree.Listed dir') ∧
      files.Nodup ∧ ∀ file, file ∈ files ↔ Contributes tree recursive path file
  | .error e => Descends tree recursive path ∧
      ∃ dir', tree.Reached recursive path dir' ∧ tree.Fails dir' e

/-- What some entries of a directory contribute. -/
def CollectedEntries (tree : DirectoryTree) (recursive : Bool)
    (entries : List (Except IoError PathBuf)) : Except IoError (List PathBuf) → Prop
  | .ok files => (∀ e, .error e ∉ entries) ∧
      (∀ path, .ok path ∈ entries → Descends tree recursive path →
        ∀ dir', tree.Reached recursive path dir' → tree.Listed dir') ∧
      files.Nodup ∧
      ∀ file, file ∈ files ↔ ∃ path, .ok path ∈ entries ∧ Contributes tree recursive path file
  | .error e => .error e ∈ entries ∨
      ∃ path, .ok path ∈ entries ∧ CollectedEntry tree recursive path (.error e)

theorem collected_collectEntry (hcollect : Descends tree recursive path →
      ∃ result, collect path = some result ∧ Collected tree recursive path result) :
    ∃ result, collectEntry tree recursive collect path = some result ∧
      CollectedEntry tree recursive path result := by
  unfold collectEntry
  cases hfile : tree.isFile path with
  | true =>
    refine ⟨_, rfl, fun hdescends => ?_, ?_, fun file => ?_⟩
    · exact absurd (hdescends.2.1.symm.trans hfile) (by decide)
    · split_ifs
      · exact List.nodup_singleton path
      · exact List.nodup_nil
    · simp [Contributes, Descends, hfile, IsConfigFile]
  | false =>
    by_cases hdescends : Descends tree recursive path
    · obtain ⟨result, hresult, hcollected⟩ := hcollect hdescends
      refine ⟨result, ?_, ?_⟩
      · simpa [hdescends.1, hdescends.2.2] using hresult
      · cases result with
        | error e => exact ⟨hdescends, hcollected⟩
        | ok files =>
          obtain ⟨hlisted, hsorted, hfound⟩ := hcollected
          refine ⟨fun _ => hlisted, hsorted.imp fun h => h.ne, fun file => ?_⟩
          rw [hfound]
          simp [Contributes, hfile, hdescends]
    · refine ⟨.ok [], ?_, fun h => absurd h hdescends, List.nodup_nil, fun file => ?_⟩
      · have hskipped : (tree.isDir path && recursive) = false :=
          Bool.eq_false_iff.mpr fun h =>
            hdescends ⟨(Bool.and_eq_true_iff.mp h).2, hfile, (Bool.and_eq_true_iff.mp h).1⟩
        simp [hskipped]
      · simp [Contributes, hfile, hdescends]

/-- What an entry contributes is the entry or below it. -/
theorem Contributes.isPrefix {file : PathBuf} (h : Contributes tree recursive path file) :
    path.components <+: file.components := by
  rcases h with ⟨-, -, rfl⟩ | ⟨-, hfound⟩
  · exact List.prefix_rfl
  · exact hfound.isPrefix

/-- The entries of a directory, one after the other. -/
theorem collected_collectEntries {entries : List (Except IoError PathBuf)}
    (hlists : ∀ path, .ok path ∈ entries → tree.Lists dir path)
    (hnodup : (entries.filterMap Except.toOption).Nodup)
    (hcollect : ∀ path, .ok path ∈ entries → Descends tree recursive path →
      ∃ result, collect path = some result ∧ Collected tree recursive path result) :
    ∃ result, collectEntries tree recursive collect entries = some result ∧
      CollectedEntries tree recursive entries result := by
  induction entries with
  | nil => exact ⟨.ok [], rfl, nofun, nofun, List.nodup_nil, by simp⟩
  | cons entry entries ih =>
    cases entry with
    | error e => exact ⟨.error e, rfl, .inl (List.mem_cons_self ..)⟩
    | ok path =>
      have hmem : Except.ok path ∈ Except.ok (ε := IoError) path :: entries := List.mem_cons_self ..
      obtain ⟨hfresh, hnodup⟩ : path ∉ entries.filterMap Except.toOption ∧
          (entries.filterMap Except.toOption).Nodup := List.nodup_cons.mp hnodup
      obtain ⟨first, hfirst, hentry⟩ := collected_collectEntry (hcollect path hmem)
      unfold collectEntries
      rw [hfirst]
      cases first with
      | error e => exact ⟨.error e, rfl, .inr ⟨path, hmem, hentry⟩⟩
      | ok files =>
        obtain ⟨result, hresult, hentries⟩ := ih
          (fun path' h => hlists path' (List.mem_cons_of_mem _ h)) hnodup
          fun path' h => hcollect path' (List.mem_cons_of_mem _ h)
        dsimp only
        rw [hresult]
        cases result with
        | error e =>
          refine ⟨.error e, rfl, ?_⟩
          rcases hentries with he | ⟨path', hpath', hfails⟩
          · exact .inl (List.mem_cons_of_mem _ he)
          · exact .inr ⟨path', List.mem_cons_of_mem _ hpath', hfails⟩
        | ok rest =>
          obtain ⟨hlisted, hfiles, hcontributes⟩ := hentry
          obtain ⟨hok, hlisted', hrest, hcontributes'⟩ := hentries
          refine ⟨.ok (files ++ rest), rfl, ?_, ?_, ?_, ?_⟩
          · intro e he
            rcases List.mem_cons.mp he with h | h
            · cases h
            · exact hok e h
          · intro path' hpath'
            rcases List.mem_cons.mp hpath' with h | h
            · obtain rfl := Except.ok.inj h
              exact hlisted
            · exact hlisted' path' h
          · refine List.nodup_append'.mpr ⟨hfiles, hrest, fun file hfile hfile' => ?_⟩
            -- a file that two entries contribute would be below both of them
            obtain ⟨path', hpath', hbelow'⟩ := (hcontributes' file).mp hfile'
            have hbelow := (hcontributes file).mp hfile
            have heq := (hlists path hmem).eq_of_above_both
              (hlists path' (List.mem_cons_of_mem _ hpath')) hbelow.isPrefix hbelow'.isPrefix
            rw [heq] at hfresh
            exact hfresh (List.mem_filterMap.mpr ⟨.ok path', hpath', rfl⟩)
          · intro file
            rw [List.mem_append, hcontributes, hcontributes']
            constructor
            · rintro (h | ⟨path', hpath', h⟩)
              · exact ⟨path, hmem, h⟩
              · exact ⟨path', List.mem_cons_of_mem _ hpath', h⟩
            · rintro ⟨path', hpath', h⟩
              rcases List.mem_cons.mp hpath' with heq | hpath'
              · obtain rfl := Except.ok.inj heq
                exact .inl h
              · exact .inr ⟨path', hpath', h⟩

/-- The entries of a directory make up what a traversal of the directory finds. -/
theorem collected_of_entries {entries : List (Except IoError PathBuf)}
    (hentries : tree.readDir dir = .ok entries) {result : Except IoError (List PathBuf)}
    (h : CollectedEntries tree recursive entries result) :
    Collected tree recursive dir (result.map (·.insertionSort (· ≤ ·))) := by
  have hlists (path : PathBuf) : tree.Lists dir path ↔ .ok path ∈ entries := by
    constructor
    · rintro ⟨entries', hentries', hpath⟩
      obtain rfl := Except.ok.inj (hentries.symm.trans hentries')
      exact hpath
    · exact fun hpath => ⟨entries, hentries, hpath⟩
  cases result with
  | error e =>
    rcases h with he | ⟨path, hpath, hdescends, dir', hreached, hfails⟩
    · exact ⟨dir, .refl, .inr ⟨entries, hentries, he⟩⟩
    · exact ⟨dir', .head ⟨hdescends.1, (hlists path).mpr hpath, hdescends.2⟩ hreached, hfails⟩
  | ok files =>
    obtain ⟨hok, hlisted, hnodup, hcontributes⟩ := h
    have hperm := List.perm_insertionSort (· ≤ ·) files
    refine ⟨fun dir' hreached => ?_, ?_, fun file => ?_⟩
    · rcases DirectoryTree.reached_iff.mp hreached with rfl | ⟨path, henters, hrest⟩
      · exact ⟨entries, hentries, hok⟩
      · exact hlisted path ((hlists path).mp henters.2.1) ⟨henters.1, henters.2.2⟩ dir' hrest
    · have hsorted := List.pairwise_insertionSort (· ≤ ·) files
      exact (hsorted.and (hperm.nodup_iff.mpr hnodup)).imp fun h => lt_of_le_of_ne h.1 h.2
    · rw [hperm.mem_iff, hcontributes, DirectoryTree.found_iff]
      constructor
      · rintro ⟨path, hpath, ⟨hfile, hconfig, rfl⟩ | ⟨hdescends, hfound⟩⟩
        · exact .inl ⟨(hlists file).mpr hpath, hfile, hconfig⟩
        · exact .inr ⟨path, ⟨hdescends.1, (hlists path).mpr hpath, hdescends.2⟩, hfound⟩
      · rintro (⟨hpath, hfile, hconfig⟩ | ⟨path, henters, hfound⟩)
        · exact ⟨file, (hlists file).mp hpath, .inl ⟨hfile, hconfig, rfl⟩⟩
        · exact ⟨path, (hlists path).mp henters.2.1,
            .inr ⟨⟨henters.1, henters.2.2⟩, hfound⟩⟩

/-- A directory, and those in it, at most `fuel` deep. -/
theorem collected_collectWithin (fuel : ℕ) (dir : PathBuf)
    (hfuel : tree.depth < dir.components.length + fuel) (hdir : tree.isDir dir = true) :
    ∃ result, collectWithin tree recursive fuel dir = some result ∧
      Collected tree recursive dir result := by
  induction fuel generalizing dir with
  | zero => exact absurd (tree.length_le dir hdir) (by omega)
  | succ fuel ih =>
    unfold collectWithin
    cases hentries : tree.readDir dir with
    | error e => exact ⟨.error e, rfl, dir, .refl, .inl hentries⟩
    | ok entries =>
      have hlists (path : PathBuf) (h : .ok path ∈ entries) : tree.Lists dir path :=
        ⟨entries, hentries, h⟩
      obtain ⟨result, hresult, hcollected⟩ := collected_collectEntries hlists
        (tree.nodup dir entries hentries) fun path hpath hdescends =>
          ih path (by rw [(hlists path hpath).length_eq]; omega) hdescends.2.2
      dsimp only
      rw [hresult]
      exact ⟨_, rfl, collected_of_entries hentries hcollected⟩

/-- Collecting always comes to an end, and collects what a traversal finds, or fails where a
directory cannot be listed. -/
theorem collected_collectConfigFiles (recursive : Bool) (hdir : tree.isDir dir = true) :
    ∃ result, collectConfigFiles tree recursive dir = some result ∧
      Collected tree recursive dir result :=
  collected_collectWithin _ dir (by omega) hdir

end Collected

/-! ### Checking the files -/

/-- What the command has found. -/
structure ValidateReport where
  results : List (PathBuf × FileFindings)
  totalFiles : ℕ
  errorCount : ℕ
  warningCount : ℕ

section Execute

variable (platform : Platform) (tree : DirectoryTree) (args : ValidateArgs)

/-- The loop over the files, which the first file with errors may end. -/
def validateEach : List PathBuf → List (PathBuf × FileFindings)
  | [] => []
  | file :: files =>
    let result := validateSingleFile platform tree.toFileSystem args.warnings file
    (file, result) ::
      if result.hasErrors && !args.continueOnError then [] else validateEach files

/-- The counts of the results. -/
def reportOn (files : List PathBuf) : ValidateReport :=
  let results := validateEach platform tree args files
  ⟨results, files.length, results.countP (·.2.hasErrors), results.countP (·.2.hasWarnings)⟩

/-- The directory that is checked if none is given. -/
def defaultPath (parsePath : String → PathBuf) (home : Option String) : PathBuf :=
  let systemPath : PathBuf := ⟨["etc", "segwire", "namespaces"]⟩
  if tree.pathExists systemPath then systemPath
  else parsePath (home.getD "/tmp" ++ "/.config/segwire/namespaces")

/-- Execute the validate command, up to what it prints. -/
def executeValidate (parsePath : String → PathBuf) (home : Option String) :
    Option (Except String ValidateReport) :=
  let path := args.path.getD (defaultPath tree parsePath home)
  if tree.isFile path then some (.ok (reportOn platform tree args [path]))
  else if tree.isDir path then
    (collectConfigFiles tree args.recursive path).map fun
      | .error e => .error e.message
      | .ok files => .ok (reportOn platform tree args files)
  else
    some (.error ("Path does not exist or is not a file/directory: " ++ path.display))

/-- The exit status of the command. -/
def exitStatus : Except String ValidateReport → ℕ
  | .error _ => 1
  | .ok report => if 0 < report.errorCount then 1 else 0

end Execute

section Exit

variable {platform : Platform} {tree : DirectoryTree} {args : ValidateArgs}
  {parsePath : String → PathBuf} {home : Option String} {dir : PathBuf} {files : List PathBuf}

/-- A file that the command accepts. -/
def Accepted (platform : Platform) (tree : DirectoryTree) (file : PathBuf) : Prop :=
  ∃ config, loadNamespaceConfig platform tree.toFileSystem file = .ok config ∧
    config.validate = .ok ()

/-- The results are those of the files up to the first one with errors, or of all files. -/
theorem validateEach_eq (files : List PathBuf) :
    validateEach platform tree args files =
      (if args.continueOnError then files
        else
          let ok file :=
            !(validateSingleFile platform tree.toFileSystem args.warnings file).hasErrors
          files.takeWhile ok ++ (files.dropWhile ok).take 1).map fun file =>
        (file, validateSingleFile platform tree.toFileSystem args.warnings file) := by
  induction files with
  | nil => cases hcontinue : args.continueOnError <;> rfl
  | cons file files ih =>
    rw [validateEach, ih]
    cases hcontinue : args.continueOnError with
    | true => simp
    | false =>
      cases herrors :
          (validateSingleFile platform tree.toFileSystem args.warnings file).hasErrors with
      | true => simp [herrors]
      | false => simp [herrors]

/-- No file with errors is found exactly if all files are accepted. -/
theorem errorCount_eq_zero_iff :
    (reportOn platform tree args files).errorCount = 0 ↔
      ∀ file ∈ files, Accepted platform tree file := by
  have haccepted (file : PathBuf) : Accepted platform tree file ↔
      (validateSingleFile platform tree.toFileSystem args.warnings file).hasErrors = false :=
    validateSingleFile_hasErrors_iff.symm
  change (validateEach platform tree args files).countP _ = 0 ↔ _
  induction files with
  | nil => simp [validateEach]
  | cons file files ih =>
    rw [List.forall_mem_cons, haccepted, validateEach]
    cases herrors :
        (validateSingleFile platform tree.toFileSystem args.warnings file).hasErrors with
    | true => simp [herrors]
    | false => simp [herrors, ih]

variable (platform) in
/-- What the command does with a directory: it succeeds exactly if it can list every directory
that it comes to and accepts every file that it finds there, whether or not it goes on after an
error. It has checked the files in order, each once, up to the first one with errors unless it
goes on. -/
theorem executeValidate_dir (hpath : args.path.getD (defaultPath tree parsePath home) = dir)
    (hfile : tree.isFile dir = false) (hdir : tree.isDir dir = true) :
    ∃ outcome, executeValidate platform tree args parsePath home = some outcome ∧
      (exitStatus outcome = 0 ↔
        (∀ dir', tree.Reached args.recursive dir dir' → tree.Listed dir') ∧
          ∀ file, tree.Found args.recursive IsConfigFile dir file →
            Accepted platform tree file) ∧
      ∀ report, outcome = .ok report → ∃ files : List PathBuf, files.Pairwise (· < ·) ∧
        (∀ file, file ∈ files ↔ tree.Found args.recursive IsConfigFile dir file) ∧
        report.totalFiles = files.length ∧ report.results =
          (if args.continueOnError then files
            else
              let ok file :=
                !(validateSingleFile platform tree.toFileSystem args.warnings file).hasErrors
              files.takeWhile ok ++ (files.dropWhile ok).take 1).map fun file =>
            (file, validateSingleFile platform tree.toFileSystem args.warnings file) := by
  obtain ⟨result, hresult, hcollected⟩ := collected_collectConfigFiles args.recursive hdir
  unfold executeValidate
  simp only [hpath, hfile, hdir, hresult]
  refine ⟨_, rfl, ?_⟩
  cases result with
  | error e =>
    obtain ⟨dir', hreached, hfails⟩ := hcollected
    refine ⟨iff_of_false (by simp [exitStatus]) fun h => ?_, nofun⟩
    exact (h.1 dir' hreached).not_fails e hfails
  | ok files =>
    obtain ⟨hlisted, hsorted, hfound⟩ := hcollected
    refine ⟨?_, ?_⟩
    · have hexit : exitStatus (.ok (reportOn platform tree args files)) = 0 ↔
          (reportOn platform tree args files).errorCount = 0 := by
        unfold exitStatus
        rcases Nat.eq_zero_or_pos (reportOn platform tree args files).errorCount with h | h
        · simp [h]
        · simp [h, h.ne']
      rw [hexit, errorCount_eq_zero_iff]
      simp only [hfound]
      exact (and_iff_right hlisted).symm
    · intro report hreport
      obtain rfl := Except.ok.inj hreport
      exact ⟨files, hsorted, hfound, rfl, validateEach_eq files⟩

section Nested

/-- The directory of the namespace files. -/
def namespacesDir : PathBuf := ⟨["etc", "segwire", "namespaces"]⟩

/-- A configuration in the directory, and the same in a subdirectory. -/
def nestedTree : DirectoryTree :=
  Disk.tree
    ⟨((∅ : HashMap PathBuf DiskFile).insert webToml ⟨templatedText, 0⟩).insert
      ((namespacesDir.join "more").join "web.toml") ⟨templatedText, 0⟩,
      {namespacesDir, namespacesDir.join "more"}⟩ .sorted

end Nested

/-- The command fails for a directory with a configuration that is valid only after its templates
are substituted. -/
theorem executeValidate_nested : ∃ outcome,
    executeValidate templatedPlatform nestedTree ⟨some namespacesDir, true, false, true⟩
      (fun _ => namespacesDir) none = some outcome ∧ exitStatus outcome ≠ 0 := by
  obtain ⟨outcome, houtcome, hexit, -⟩ := @executeValidate_dir templatedPlatform
    nestedTree ⟨some namespacesDir, true, false, true⟩ (fun _ => namespacesDir) none namespacesDir
    rfl (by decide) (by decide)
  refine ⟨outcome, houtcome, fun hzero => ?_⟩
  have haccepted := (hexit.mp hzero).2 webToml
    ⟨namespacesDir, .refl, Disk.lists_tree_iff.mpr ⟨by decide, by decide⟩, by decide, by decide⟩
  have hrejected : (validateSingleFile templatedPlatform nestedTree.toFileSystem true
      webToml).hasErrors = true := by
    decide
  exact Bool.false_ne_true ((validateSingleFile_hasErrors_iff.mpr haccepted).symm.trans hrejected)

/-! ### The daemon's count of the files -/

/-- The daemon lists the same files of one directory. -/
theorem collectEntries_eq_ok_iff {collect : PathBuf → Option (Except IoError (List PathBuf))}
    {entries : List (Except IoError PathBuf)} :
    collectEntries tree false collect entries = some (.ok files) ↔
      Daemon.collectConfigFiles tree.toFileSystem entries = .ok files := by
  have hentry (path : PathBuf) : collectEntry tree false collect path =
      some (.ok (if tree.isFile path && path.extension == some "toml" then [path] else [])) := by
    unfold collectEntry
    cases tree.isFile path with
    | true => simp
    | false => simp
  induction entries generalizing files with
  | nil => simp [collectEntries, Daemon.collectConfigFiles]
  | cons entry entries ih =>
    cases entry with
    | error e => simp [collectEntries, Daemon.collectConfigFiles]
    | ok path =>
      rw [Daemon.collectConfigFiles, Except.bind_eq_ok_iff, collectEntries, hentry]
      dsimp only
      constructor
      · intro h
        obtain ⟨result, hrest, hfiles⟩ := Option.map_eq_some_iff.mp h
        cases result with
        | error e => cases hfiles
        | ok rest =>
          refine ⟨rest, ih.mp hrest, ?_⟩
          obtain rfl := Except.ok.inj hfiles
          split_ifs <;> rfl
      · rintro ⟨rest, hrest, hfiles⟩
        rw [ih.mpr hrest]
        obtain rfl := Except.ok.inj hfiles
        split_ifs <;> rfl

theorem collectConfigFiles_eq_ok_iff (hdir : tree.isDir dir = true) :
    collectConfigFiles tree false dir = some (.ok files) ↔
      scanConfigDirectory tree.toFileSystem dir = .ok files := by
  unfold collectConfigFiles collectWithin scanConfigDirectory
  rw [tree.exists_of_isDir dir hdir]
  cases tree.readDir dir with
  | error e => simp [Except.mapError]
  | ok entries =>
    change (collectEntries ..).map _ = _ ↔ (Daemon.collectConfigFiles .. >>= _) = _
    rw [Except.bind_eq_ok_iff]
    constructor
    · intro h
      obtain ⟨result, hresult, hfiles⟩ := Option.map_eq_some_iff.mp h
      cases result with
      | error e => cases hfiles
      | ok found =>
        have hscanned := collectEntries_eq_ok_iff.mp hresult
        exact ⟨found, hscanned, congrArg Except.ok (Except.ok.inj hfiles)⟩
    · rintro ⟨found, hfound, hfiles⟩
      rw [collectEntries_eq_ok_iff.mpr hfound]
      exact congrArg (some ∘ Except.ok) (Except.ok.inj hfiles)

/-- Without subdirectories, the command succeeds exactly if a reload of the directory by the
daemon counts no error and the configurations that the daemon only parses are valid. -/
theorem executeValidate_agrees (hpath : args.path.getD (defaultPath tree parsePath home) = dir)
    (hfile : tree.isFile dir = false) (hdir : tree.isDir dir = true)
    (hflat : args.recursive = false) :
    (executeValidate platform tree args parsePath home).map exitStatus = some 0 ↔
      ∃ loadedCount,
        reloadAllConfigurations platform tree.toFileSystem dir = .ok (loadedCount, 0) ∧
        ∀ file config, tree.Lists dir file → tree.isFile file = true → IsConfigFile file →
          loadNamespaceConfig platform tree.toFileSystem file = .ok config →
            config.validate = .ok () := by
  have hfound (file : PathBuf) : tree.Found false IsConfigFile dir file ↔
      tree.Lists dir file ∧ tree.isFile file = true ∧ IsConfigFile file := by
    rw [DirectoryTree.found_iff, or_iff_left]
    rintro ⟨dir', henters, -⟩
    exact Bool.false_ne_true henters.1
  obtain ⟨outcome, houtcome, hexit, -⟩ := executeValidate_dir platform hpath hfile hdir
  rw [houtcome, Option.map_some, Option.some_inj, hexit, hflat]
  obtain ⟨result, hresult, hcollected⟩ := collected_collectConfigFiles false hdir
  cases result with
  | error e =>
    obtain ⟨dir', hreached, hfails⟩ := hcollected
    constructor
    · intro h
      exact absurd hfails ((h.1 dir' hreached).not_fails e)
    · rintro ⟨loadedCount, hreload, -⟩
      obtain ⟨files, hscan, -⟩ := Except.bind_eq_ok_iff.mp hreload
      cases hresult.symm.trans ((collectConfigFiles_eq_ok_iff hdir).mpr hscan)
  | ok files =>
    obtain ⟨hlisted, -, hmem⟩ := hcollected
    have hscan := (collectConfigFiles_eq_ok_iff hdir).mp hresult
    have hreload (loadedCount : ℕ) :
        reloadAllConfigurations platform tree.toFileSystem dir = .ok (loadedCount, 0) ↔
          (files.filter fun file =>
            (loadNamespaceConfig platform tree.toFileSystem file).toOption.isSome).length =
              loadedCount ∧
          ∀ file ∈ files, ∃ config,
            loadNamespaceConfig platform tree.toFileSystem file = .ok config := by
      rw [reloadAllConfigurations, hscan]
      change Except.ok _ = Except.ok _ ↔ _
      rw [Except.ok.injEq, Prod.mk.injEq, Nat.sub_eq_zero_iff_le,
        (List.length_filter_le _ _).ge_iff_eq', eq_comm (a := files.length),
        List.length_filter_eq_length_iff]
      simp only [Except.isSome_toOption_iff]
    rw [and_iff_right hlisted]
    constructor
    · intro haccepted
      refine ⟨_, (hreload _).mpr ⟨rfl, fun file hfile => ?_⟩, ?_⟩
      · obtain ⟨config, hload, -⟩ := haccepted file ((hmem file).mp hfile)
        exact ⟨config, hload⟩
      · intro file config hlists hisFile hconfig hload
        obtain ⟨config', hload', hvalid⟩ :=
          haccepted file ((hfound file).mpr ⟨hlists, hisFile, hconfig⟩)
        obtain rfl := Except.ok.inj (hload.symm.trans hload')
        exact hvalid
    · rintro ⟨loadedCount, hcount, hvalid⟩ file hfile
      obtain ⟨config, hload⟩ := ((hreload loadedCount).mp hcount).2 file ((hmem file).mpr hfile)
      obtain ⟨hlists, hisFile, hconfig⟩ := (hfound file).mp hfile
      exact ⟨config, hload, hvalid file config hlists hisFile hconfig hload⟩

/-- A reload by the daemon only parses the file. -/
theorem executeValidate_agrees_nested :
    (executeValidate templatedPlatform nestedTree ⟨some namespacesDir, false, false, true⟩
        (fun _ => namespacesDir) none).map exitStatus = some 0 ↔
      ∃ loadedCount, reloadAllConfigurations templatedPlatform nestedTree.toFileSystem
          namespacesDir = .ok (loadedCount, 0) ∧
        ∀ file config, nestedTree.Lists namespacesDir file → nestedTree.isFile file = true →
          IsConfigFile file →
          loadNamespaceConfig templatedPlatform nestedTree.toFileSystem file = .ok config →
            config.validate = .ok () :=
  executeValidate_agrees rfl (by decide) (by decide) rfl

end Exit

end Segwire.Cli
