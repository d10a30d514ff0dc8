import Segwire.Daemon.ExecPath

/-!
# Names shown to users

`ListNamespaces` shows the short names of the tracked entries, and an answer about a
namespace shows its full name, too. The full name of an entry is the one generated from
its short name, so both are turned into the key that the entry sits under, and two
entries with the same short name are one. Names are short and plain enough to pass the
check of method arguments.

## Main definitions

* `NamedUnder` — a valid short name and the full name that a prefix generates from it
* `Managers.Named` — every entry is named so
* `DaemonEventLoop.ResolvesNames` — shown names lead back to their entries

## Main results

* `DaemonEventLoop.named_along_run` — the names of a run that keeps the prefix
* `DaemonEventLoop.resolvesNames_along_run` — they lead back
-/

namespace Segwire.Daemon

open Foundation Foundation.Text Segwire.Common ConfigManager

/-! ### Names under a prefix -/

/-- The short name is valid, and the full name is the one that `pfx` generates. -/
structure NamedUnder (pfx name fullName : String) : Prop where
  valid : validateNamespaceName name = .ok ()
  full : fullName = fullNameUnder pfx name

/-- Both names generate the full name. -/
theorem NamedUnder.fullNameUnder_shown {pfx name fullName shown : String}
    (h : NamedUnder pfx name fullName) (hshown : shown = name ∨ shown = fullName) :
    fullNameUnder pfx shown = fullName := by
  rcases hshown with rfl | rfl
  · exact h.full.symm
  · rw [h.full]
    exact fullNameUnder_idem pfx name

theorem isAlphanumeric_of_isNameChar (platform : Platform) {c : Char} (h : isNameChar c = true) :
    (platform.isAlphanumeric c || c == '-' || c == '_') = true := by
  rw [isNameChar, Bool.or_eq_true] at h
  rcases h with halnum | hdash
  · have hascii : c.toNat < 128 := by
      change (decide (c.val ≥ 'A'.val ∧ c.val ≤ 'Z'.val) ||
        decide (c.val ≥ 'a'.val) && decide (c.val ≤ 'z'.val) ||
        decide (c.val ≥ '0'.val) && decide (c.val ≤ '9'.val)) = true at halnum
      simp only [Bool.or_eq_true, Bool.and_eq_true, decide_eq_true_eq, ge_iff_le,
        UInt32.le_iff_toNat_le] at halnum
      have hupper : 'Z'.val.toNat = 90 := rfl
      have hlower : 'z'.val.toNat = 122 := rfl
      have hdigit : '9'.val.toNat = 57 := rfl
      change c.val.toNat < 128
      omega
    rw [platform.isAlphanumeric_of_ascii c hascii, halnum]
    rfl
  · rw [hdash, Bool.or_true, Bool.true_or]

theorem isNameChar_of_namespacePattern {s : List Char} (h : namespacePattern s = true) {c : Char}
    (hc : c ∈ s) : isNameChar c = true := by
  by_contra hother
  exact notMem_of_namespacePattern h (Bool.eq_false_iff.mpr hother) hc

/-- The check of a method argument accepts the names that the daemon gives out. -/
theorem NamedUnder.checkArgument {pfx name fullName shown : String}
    (h : NamedUnder pfx name fullName) (hpfx : validateNamespacePrefix pfx = .ok ())
    (hshown : shown = name ∨ shown = fullName) (platform : Platform) :
    (Method.getNamespaceStatus shown).checkArgument platform = .ok () := by
  obtain ⟨hpfxne, hpfxlen, hpfxchars⟩ := validateName_eq_ok_iff.mp hpfx
  obtain ⟨hne, hlen, hchars⟩ := validateName_eq_ok_iff.mp h.valid
  have hcases : shown = name ∨ shown = pfx ++ "-" ++ name := by
    rcases hshown with rfl | rfl
    · exact .inl rfl
    · rw [h.full]
      unfold fullNameUnder
      split_ifs
      · exact .inl rfl
      · exact .inr rfl
  have hshownne : shown ≠ "" := by
    rcases hcases with rfl | rfl
    · exact hne
    · intro hempty
      have hlength := congrArg (fun text => text.toList.length) hempty
      simp at hlength
  have hshownlen : byteLen shown ≤ 255 := by
    unfold byteLen at *
    rcases hcases with rfl | rfl
    · omega
    · have hdash : "-".utf8ByteSize = 1 := rfl
      rw [String.utf8ByteSize_append, String.utf8ByteSize_append]
      omega
  have hshownchars : ∀ c ∈ shown.toList, isNameChar c = true := by
    intro c hc
    rcases hcases with rfl | rfl
    · exact isNameChar_of_namespacePattern hchars hc
    · rw [String.toList_append, String.toList_append, List.mem_append, List.mem_append] at hc
      rcases hc with (hc | hc) | hc
      · exact isNameChar_of_namespacePattern hpfxchars hc
      · obtain rfl : c = '-' := List.mem_singleton.mp hc
        rfl
      · exact isNameChar_of_namespacePattern hchars hc
  change InterfaceHelpers.validateNamespaceName platform.isAlphanumeric shown = .ok ()
  have hall : (shown.toList.all fun c => platform.isAlphanumeric c || c == '-' || c == '_') =
      true :=
    List.all_eq_true.mpr fun c hc => isAlphanumeric_of_isNameChar platform (hshownchars c hc)
  unfold InterfaceHelpers.validateNamespaceName
  rw [if_neg hshownne, if_neg (not_lt.mpr hshownlen), hall]
  rfl

/-! ### What the managers hold -/

namespace Managers

variable {m : Managers} {pfx : String}

/-- The daemon's prefix is `pfx`, and the entries have names under it. -/
structure Named (pfx : String) (m : Managers) : Prop where
  config : m.configManager.Holds pfx fun entry =>
    NamedUnder pfx entry.config.namespace_.name entry.fullName
  tracked : m.stateManager.Names (NamedUnder pfx)

/-- What a handler finds in the store has a valid short name, and the name that it
generates is recorded with it. -/
theorem stepPreserves_named (pfx : String) :
    StepPreserves (Managers.Named pfx)
      (fun config => validateNamespaceName config.namespace_.name = .ok ())
      fun config => NamedUnder pfx config.namespace_.name where
  setHost _ _ h := ⟨h.config, h.tracked⟩
  stored _ k entry h hentry := (h.config.configured k entry hentry).valid
  generated m config h hvalid := by
    refine ⟨hvalid, ?_⟩
    rw [generateFullNamespaceName_eq, h.config.prefix_eq]
  record _ _ _ _ _ h hname := ⟨h.config, KeyedMap.Forall.insert h.tracked hname⟩
  forget _ _ h := ⟨h.config, KeyedMap.Forall.erase h.tracked _⟩
  synchronize _ orders h :=
    ⟨h.config, h.tracked.synchronizeState h.config.configured orders⟩
  maintain _ h := ⟨h.config, KeyedMap.Forall.retain h.tracked _⟩
  resolve _ conflict h :=
    ⟨h.config, h.tracked.resolveConflict h.config.configured conflict⟩

end Managers

theorem ConfigManager.loads_named {platform : Platform} {fs : FileSystem} {manager : ConfigManager}
    {pfx : String} (hpfx : manager.namespacePrefix = pfx) :
    manager.Loads platform fs fun entry =>
      NamedUnder pfx entry.config.namespace_.name entry.fullName := by
  intro path entry hload
  refine ⟨(NamespaceConfig.validate_eq_ok_iff.mp (validate_of_load hload)).1, ?_⟩
  rw [(entry_of_load hload).2, generateFullNamespaceName_eq, hpfx]

/-! ### Runs of the daemon -/

namespace DaemonEventLoop

variable {platform : Platform} {s : DaemonEventLoop} {pfx : String}

theorem named_start {setup : Setup} (h : start platform setup = .ok s) :
    s.Keeping (Managers.Named setup.daemonConfig.daemon.namespacePrefix) := by
  obtain ⟨netlinkManager, -, h⟩ := Except.bind_eq_ok_iff.mp h
  have hempty : (ConfigManager.fromConfig setup.daemonConfig setup.configPath).Holds
      setup.daemonConfig.daemon.namespacePrefix fun entry =>
        NamedUnder setup.daemonConfig.daemon.namespacePrefix entry.config.namespace_.name
          entry.fullName := ⟨rfl, KeyedMap.forall_empty⟩
  have hscanned := hempty.scanNamespaceConfigs (fun _ _ _ => loads_named) platform setup.host.files
  dsimp only at h
  split at h
  · cases h
  · next hscan =>
    obtain rfl := Except.ok.inj h
    rw [hscan] at hscanned
    exact ⟨⟨hscanned, KeyedMap.forall_empty⟩, fun handler hhandler => by cases hhandler⟩

/-- A step that keeps the prefix keeps the entries named under it. -/
theorem named_step (h : s.Keeping (Managers.Named pfx)) {input : Input}
    (hkeeps : s.KeepsPrefix platform input) :
    (step platform s input).Keeping (Managers.Named pfx) := by
  apply (Managers.stepPreserves_named pfx).keeping_step h
  rintro event fs fsScan order rfl hthread
  exact ⟨h.managers.config.handleFileEvent (fun _ _ _ => loads_named) order (hkeeps hthread),
    h.managers.tracked⟩

/-- In a run that keeps the prefix, every entry has a name under it. -/
theorem named_along_run {setup : Setup} (hstart : start platform setup = .ok s)
    {inputs : List Input} (hkeeps : AlongRun (step platform) (KeepsPrefix platform) s inputs) :
    (run (step platform) s inputs).managers.Named setup.daemonConfig.daemon.namespacePrefix :=
  have hkeeping := AlongRun.invariant
    (Keeping (Managers.Named setup.daemonConfig.daemon.namespacePrefix))
    (fun _ _ hs hstep => named_step hs hstep) (named_start hstart) hkeeps
  hkeeping.managers

/-! ### Shown names -/

/-- The answer about an entry. -/
def statusReply (state : NamespaceState) : Reply :=
  .namespaceStatus state.name state.fullName state.status.asStr state.configPath state.createdAt
    state.lastUpdated

/-- Every entry sits under its full name. The name that it is listed under and its full name
pass the check of arguments, and for both an authorized caller gets that very entry. The
list that an authorized caller gets has the names of the entries, none of them twice. -/
structure ResolvesNames (s : DaemonEventLoop) : Prop where
  stored : ∀ k state, s.managers.stateManager.namespaceStates.lookup k = some state →
    k = state.fullName
  resolved : ∀ k state, s.managers.stateManager.namespaceStates.lookup k = some state →
    ∀ shown, shown = state.name ∨ shown = state.fullName → ∀ sur caller,
      (Method.getNamespaceStatus shown).checkArgument sur.platform = .ok () ∧
        (checkAuthorization s.service sur.bus "status" caller = .ok () →
          ((s.service.handle sur caller (.getNamespaceStatus shown)).run s.managers).1 =
            .ok (statusReply state))
  listed : ∀ sur caller, checkAuthorization s.service sur.bus "list" caller = .ok () →
    ∃ rows, ((s.service.handle sur caller .listNamespaces).run s.managers).1 =
        .ok (.namespaces rows) ∧
      (rows.map Prod.fst).Nodup ∧ ∀ shown, shown ∈ rows.map Prod.fst ↔
        ∃ k state, s.managers.stateManager.namespaceStates.lookup k = some state ∧
          shown = state.name

theorem findNamespaceState_shown {m : Managers} (h : m.Named pfx) {k shown : String}
    {state : NamespaceState} (hstate : m.stateManager.namespaceStates.lookup k = some state)
    (hshown : shown = state.name ∨ shown = state.fullName) :
    findNamespaceState (m.configManager.generateFullNamespaceName shown) shown m = some state := by
  have hgenerated : m.configManager.generateFullNamespaceName shown = k := by
    rw [generateFullNamespaceName_eq, h.config.prefix_eq,
      (h.tracked k state hstate).fullNameUnder_shown hshown]
    exact KeyedMap.key_eq_of_lookup hstate
  unfold findNamespaceState NamespaceStateManager.getNamespaceState
  rw [hgenerated, hstate]
  rfl

/-- The keys of the entries are generated from their short names. -/
theorem map_fst_iter_states {m : Managers} (h : m.Named pfx) (order : IterOrder String) :
    (m.stateManager.namespaceStates.iter order).map Prod.fst =
      ((m.stateManager.namespaceStates.iter order).map fun e => e.2.name).map
        (fullNameUnder pfx) := by
  rw [List.map_map]
  apply List.map_congr_left
  intro e he
  have hstate := KeyedMap.mem_iter.mp he
  calc e.1 = e.2.fullName := (KeyedMap.key_eq_of_lookup hstate).symm
    _ = fullNameUnder pfx e.2.name := (h.tracked e.1 e.2 hstate).full

theorem resolvesNames_of_named (h : s.managers.Named pfx)
    (hpfx : validateNamespacePrefix pfx = .ok ()) : s.ResolvesNames where
  stored _ _ hstate := (KeyedMap.key_eq_of_lookup hstate).symm
  resolved k state hstate shown hshown sur caller := by
    have hargument := (h.tracked k state hstate).checkArgument hpfx hshown sur.platform
    refine ⟨hargument, fun hauthorized => ?_⟩
    unfold ServiceState.handle
    rw [hargument]
    dsimp only [Method.action]
    rw [hauthorized]
    simp only [ServiceState.serve, getNamespaceStatus, Task.run_bind, Task.run_read,
      findNamespaceState_shown h hstate hshown]
    rfl
  listed sur caller hauthorized := by
    unfold ServiceState.handle
    dsimp only [Method.checkArgument, Method.action]
    rw [hauthorized]
    simp only [ServiceState.serve, listNamespaces, Task.run_bind, Task.run_read]
    refine ⟨_, rfl, ?_⟩
    rw [List.map_map]
    constructor
    · have hkeys := KeyedMap.nodup_map_fst_iter sur.order s.managers.stateManager.namespaceStates
      rw [map_fst_iter_states h] at hkeys
      exact hkeys.of_map _
    · intro shown
      rw [List.mem_map]
      constructor
      · rintro ⟨e, he, rfl⟩
        exact ⟨e.1, e.2, KeyedMap.mem_iter.mp he, rfl⟩
      · rintro ⟨k, state, hstate, rfl⟩
        exact ⟨(k, state), KeyedMap.mem_iter.mpr hstate, rfl⟩

/-- In every state that the daemon reaches without a change of its prefix, shown names
lead back to their entries. -/
theorem resolvesNames_along_run {setup : Setup} {fs : FileSystem}
    (hmaster : DaemonConfig.fromFile platform fs setup.configPath = .ok setup.daemonConfig)
    (hstart : start platform setup = .ok s) {inputs : List Input}
    (hkeeps : AlongRun (step platform) (KeepsPrefix platform) s inputs) :
    (run (step platform) s inputs).ResolvesNames := by
  apply resolvesNames_of_named (named_along_run hstart hkeeps)
  exact (Except.check_bind_eq_ok_iff.mp (DaemonConfig.validate_of_fromFile hmaster)).1

theorem resolvesNames_along_masterChanged : ∃ s₀, start twoPrefixes oldPrefix = .ok s₀ ∧
    (run (step twoPrefixes) s₀
      (bothCreated ++ [masterChanged "old"])).ResolvesNames := by
  have hmaster : DaemonConfig.fromFile twoPrefixes (underPrefix "old") daemonToml =
      .ok oldPrefix.daemonConfig := by decide
  have hstart : start twoPrefixes oldPrefix = .ok _ := rfl
  refine ⟨_, hstart, resolvesNames_along_run hmaster hstart ⟨trivial, trivial, ?_, trivial⟩⟩
  intro _ _ config hload
  obtain rfl := Except.ok.inj hload
  rfl

end DaemonEventLoop

end Segwire.Daemon
