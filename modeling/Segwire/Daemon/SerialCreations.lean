import Segwire.Daemon.SerialDeletions

/-!
# A synchronization around a creation

After its deletion, a restart creates the namespace again and records it. If its file has
not come back when it is created, a synchronization before the call has failed to create it,
and one after the call finds the file. In a simulation, the synchronization does not see the
file, and creates the namespace there.

## Main definitions

* `Managers.Cleared` — the file of a name is gone, and nothing else on the machine has changed
* `Managers.Created` — the outcome of a synchronization, a deletion and a creation

## Main results

* `Managers.recreation_cases` — what an interleaving with the rest of a restart leads to
* `Managers.serialOutcome_restartNamespace` — an undisturbed restart is serial
-/

namespace Segwire.Daemon

open Foundation Segwire.Common

namespace Managers

variable {m x y z : Managers} {k F name : String} {orders : SyncOrders}

/-! ### Creations -/

theorem machineCreates_of_ok {info : NamespaceInfo}
    (h : (onMachine (·.createNamespace F) m).1 = .ok info) : m.machineCreates F = true :=
  (onMachine_create m F).ok_iff.mp ⟨info, h⟩

theorem machineCreates_of_error {e : SegwireError}
    (h : (onMachine (·.createNamespace F) m).1 = .error e) : m.machineCreates F = false := by
  rw [← Bool.not_eq_true, ← (onMachine_create m F).ok_iff, h]
  rintro ⟨info, ⟨⟩⟩

/-- The path of the configuration that a creation records. -/
def recordedPath (m : Managers) (F : String) : String :=
  (m.configManager.getNamespaceConfig F).elim "" (·.filePath.display)

theorem observed_recordCreation (x : Managers) (name F path k : String) :
    observed k (x.recordCreation name F path) =
      if k = F then
        ((some (untimed (.new name F path 0)), (observed k x).1.2), (observed k x).2)
      else observed k x := by
  have hlookup : (x.recordCreation name F path).stateManager.namespaceStates.lookup k =
      if k = F then some (.new name F path x.now.1)
      else x.stateManager.namespaceStates.lookup k := KeyedMap.lookup_insert ..
  have hrecorded : observed k (x.recordCreation name F path) =
      (((x.recordCreation name F path).stateManager.namespaceStates.lookup k |>.map untimed,
        (observed k x).1.2), (observed k x).2) := rfl
  rw [hrecorded, hlookup]
  split_ifs <;> rfl

/-- The outcome of a synchronization, a deletion and a creation, before it is recorded: other
names are as after the synchronization, and the file is there. -/
structure Created (F : String) (m x : Managers) : Prop where
  configManager : x.configManager = m.configManager
  simulated : x.isSimulated = m.isSimulated
  others : ∀ k, k ≠ F → observed k x = afterSync k m
  there : x.host.netnsPathExists F = true
  present : m.isSimulated = true → (viewOf F x).isPresent = (viewOf F m).isPresent

/-- Two outcomes of a creation agree once it is recorded. -/
theorem Created.observed_eq (hx : Created F m x) (hy : Created F m y) (name path k : String) :
    observed k (x.recordCreation name F path) = observed k (y.recordCreation name F path) := by
  rw [observed_recordCreation, observed_recordCreation]
  split_ifs with hk
  · subst hk
    have hpath : x.host.netnsPathExists k = y.host.netnsPathExists k :=
      hx.there.trans hy.there.symm
    have hpresent := isPresent_eq_of_netnsPathExists hx.simulated hy.simulated hx.present
      hy.present hpath
    exact Prod.ext (Prod.ext rfl hpresent) hpath
  · rw [hx.others k hk, hy.others k hk]

/-- What is left of a creation after the call. -/
theorem continues_recordCreated {m₀ : Managers} {config : NamespaceConfig}
    {r : SegwireResult NamespaceInfo} {out : Except MethodErr Reply × Managers}
    (h : Continues (Undisturbed m₀) (Guarded.recordCreated config F r >>= fun created =>
      pure (Guarded.restartReply created)) x out) :
    (∃ e, r = .error e ∧ out = (Guarded.restartReply (.error e), x)) ∨
      (∃ info, r = .ok info) ∧
        (x.isSimulated = true → (viewOf F x).isPresent = true → (viewOf F m₀).isPresent = true) ∧
        out = (Guarded.restartReply (.ok F),
          x.recordCreation config.namespace_.name F (x.recordedPath F)) := by
  cases r with
  | error e => exact .inl ⟨e, rfl, h.run⟩
  | ok info =>
    have hrecord := h.locked.2.locked
    exact .inr ⟨⟨info, rfl⟩, hrecord.1, hrecord.2.run⟩

section Creation

variable {config : NamespaceConfig}
  (hF : x.configManager.generateFullNamespaceName config.namespace_.name = F)
include hF

/-- A restart goes on after the deletion as its call does. -/
theorem run_recreate : (Guarded.recreate config (.ok ())).erase.run x =
    (Guarded.recordCreated config F (onMachine (·.createNamespace F) x).1 >>= fun created =>
      pure (Guarded.restartReply created)).erase.run (onMachine (·.createNamespace F) x).2 := by
  subst hF
  rfl

theorem run_recreate_of_creates (hcreates : x.machineCreates F = true) :
    (Guarded.recreate config (.ok ())).erase.run x = (Guarded.restartReply (.ok F),
      (onMachine (·.createNamespace F) x).2.recordCreation config.namespace_.name F
        (x.recordedPath F)) := by
  obtain ⟨info, hinfo⟩ := (onMachine_create x F).ok_iff.mpr hcreates
  have hpath : (onMachine (·.createNamespace F) x).2.recordedPath F = x.recordedPath F := by
    rw [recordedPath, (calls_create x F).configManager, recordedPath]
  rw [run_recreate hF, hinfo, ← hpath]
  rfl

theorem run_recreate_of_not_creates (hcreates : x.machineCreates F = false) :
    ∃ e, (Guarded.recreate config (.ok ())).erase.run x =
      (Guarded.restartReply (.error e), (onMachine (·.createNamespace F) x).2) := by
  rw [run_recreate hF]
  cases hresult : (onMachine (·.createNamespace F) x).1 with
  | ok info =>
    rw [machineCreates_of_ok hresult] at hcreates
    cases hcreates
  | error e => exact ⟨e, rfl⟩

end Creation

/-! ### Creations after a deletion -/

/-- The directory of namespaces is there, the file of the name is not, and the rest of the
machine is that of `m`. -/
structure Cleared (F : String) (m x : Managers) : Prop where
  fixed : x.host.fixed = m.host.fixed
  netnsDir : x.host.netns.isSome = true
  gone : x.host.netnsFile F = none

theorem Deleted.cleared (h : Deleted F m x) : Cleared F m x := ⟨h.fixed, h.netnsDir, h.gone⟩

theorem Emptied.cleared (h : Emptied F m x) : Cleared F m x := ⟨h.fixed, h.netnsDir, h.gone⟩

namespace Cleared

variable (hx : Cleared F m x)
include hx

/-- A synchronization may leave the name gone. -/
theorem of_guaranteed {p : String → Prop} (h : Guaranteed p x y)
    (hgone : y.host.netnsFile F = none) : Cleared F m y :=
  ⟨h.fixed.trans hx.fixed, h.netnsDir.trans hx.netnsDir, hgone⟩

theorem netnsPathExists : x.host.netnsPathExists F = false := congrArg Option.isSome hx.gone

theorem opens_eq (hy : Cleared F m y) :
    NetlinkManager.opens y.host = NetlinkManager.opens x.host := by
  rw [NetlinkManager.opens, NetlinkManager.opens, hx.netnsDir, hy.netnsDir,
    Host.isRoot_of_fixed (hy.fixed.trans hx.fixed.symm)]
  rfl

theorem machineCreates_eq (hy : Cleared F m y) : y.machineCreates F = x.machineCreates F :=
  machineCreates_congr (hy.fixed.trans hx.fixed.symm) (hx.opens_eq hy)
    (hy.netnsPathExists.trans hx.netnsPathExists.symm)

theorem machineLeavesFile_eq (hy : Cleared F m y) :
    y.machineLeavesFile F = x.machineLeavesFile F :=
  machineLeavesFile_congr (hy.fixed.trans hx.fixed.symm) (hx.opens_eq hy)
    (hy.netnsPathExists.trans hx.netnsPathExists.symm)

/-- The file of the name after a creation. -/
theorem netnsPathExists_create : (onMachine (·.createNamespace F) x).2.host.netnsPathExists F =
    (x.machineCreates F || x.machineLeavesFile F) := by
  rw [(onMachine_create x F).present, hx.netnsPathExists, Bool.false_or, machineLeavesFile,
    hx.netnsPathExists]

/-- A creation that fails and leaves no file changes nothing. -/
theorem netnsPathExists_create_of_fails (hfails : x.machineCreates F = false)
    (hleaves : x.machineLeavesFile F = false) :
    (onMachine (·.createNamespace F) x).2.host.netnsPathExists F = x.host.netnsPathExists F := by
  rw [hx.netnsPathExists_create, hfails, hleaves, hx.netnsPathExists]
  rfl

/-- What is observed after a creation that fails: the file that it leaves. -/
theorem observed_create_of_fails (hfails : x.machineCreates F = false) (k : String) :
    observed k (onMachine (·.createNamespace F) x).2 =
      if k = F then
        (((viewOf F x).state.map untimed,
            if x.isSimulated then (viewOf F x).isPresent else x.machineLeavesFile F),
          x.machineLeavesFile F)
      else observed k x := by
  have hcalls := calls_create x F
  split_ifs with hk hsimulated
  · subst hk
    have hpresent := hcalls.namespaceExists (k := k) (.inr (.inl hsimulated))
    have hpath := hx.netnsPathExists_create
    rw [hfails, Bool.false_or] at hpath
    unfold observed NameView.observed viewOf
    rw [hcalls.namespaceStates, hpresent, hpath]
  · subst hk
    have hpath := hx.netnsPathExists_create
    rw [hfails, Bool.false_or] at hpath
    have hreal := hcalls.isSimulated.trans (Bool.eq_false_of_not_eq_true hsimulated)
    have hpresent := (netnsPathExists_of_real hreal (k := k)).symm.trans hpath
    unfold observed NameView.observed
    rw [hpresent, hpath]
    unfold viewOf
    rw [hcalls.namespaceStates]
  · exact hcalls.observed_eq (.inl hk)

end Cleared

section Deleted

variable {config : NamespaceConfig}

/-- A creation after a deletion. -/
theorem Deleted.created (hx : Deleted F m x) (hcreates : x.machineCreates F = true) :
    Created F m (onMachine (·.createNamespace F) x).2 := by
  have hcalls := calls_create x F
  constructor
  · exact hcalls.configManager.trans hx.configManager
  · exact hcalls.isSimulated.trans hx.simulated
  · intro k hk
    rw [hcalls.observed_eq (.inl hk), hx.others k hk]
  · rw [hx.cleared.netnsPathExists_create, hcreates, Bool.true_or]
  · intro hsimulated
    rw [← hx.present hsimulated]
    exact hcalls.namespaceExists (.inr (.inl (hx.simulated.trans hsimulated)))

/-- After two deletions, the rest of a restart does the same. -/
theorem Deleted.sameOutcome_recreate (hx : Deleted F m x) (hy : Deleted F m y)
    (hforgotten : (viewOf F x).state = none) (hforgotten' : (viewOf F y).state = none)
    (hF : m.configManager.generateFullNamespaceName config.namespace_.name = F) :
    SameOutcome ((Guarded.recreate config (.ok ())).erase.run x)
      ((Guarded.recreate config (.ok ())).erase.run y) := by
  have hFx : x.configManager.generateFullNamespaceName config.namespace_.name = F := by
    rw [hx.configManager, hF]
  have hFy : y.configManager.generateFullNamespaceName config.namespace_.name = F := by
    rw [hy.configManager, hF]
  have hsame := hx.cleared.machineCreates_eq hy.cleared
  cases hcreates : x.machineCreates F with
  | true =>
    rw [hcreates] at hsame
    have hpath : y.recordedPath F = x.recordedPath F := by
      rw [recordedPath, hy.configManager, recordedPath, hx.configManager]
    rw [run_recreate_of_creates hFx hcreates, run_recreate_of_creates hFy hsame, hpath]
    exact ⟨rfl, (hx.created hcreates).observed_eq (hy.created hsame) _ _⟩
  | false =>
    rw [hcreates] at hsame
    obtain ⟨e, hrun⟩ := run_recreate_of_not_creates hFx hcreates
    obtain ⟨e', hrun'⟩ := run_recreate_of_not_creates hFy hsame
    rw [hrun, hrun']
    refine ⟨rfl, fun k => ?_⟩
    have hpresent : (if y.isSimulated then (viewOf F y).isPresent else y.machineLeavesFile F) =
        if x.isSimulated then (viewOf F x).isPresent else x.machineLeavesFile F := by
      rw [hy.simulated, hx.simulated, hx.cleared.machineLeavesFile_eq hy.cleared]
      split_ifs with hsimulated
      · rw [hy.present hsimulated, hx.present hsimulated]
      · rfl
    dsimp only
    rw [hx.cleared.observed_create_of_fails hcreates, hy.cleared.observed_create_of_fails hsame,
      hforgotten, hforgotten', hpresent, hx.cleared.machineLeavesFile_eq hy.cleared]
    by_cases hk : k = F
    · rw [if_pos hk, if_pos hk]
    · rw [if_neg hk, if_neg hk, hx.others k hk, hy.others k hk]

end Deleted

/-! ### Creations around a synchronization -/

namespace Emptied

variable (hz : Emptied F m z)
include hz

/-- In a simulation, a synchronization creates a configured name that has been forgotten. -/
theorem synchronized_present {entry : NamespaceConfigEntry}
    (hentry : m.configManager.namespaceConfigs.lookup F = some entry)
    (hvalid : (validateNamespaceName F).toBool = true) (hsimulated : m.isSimulated = true) :
    ((viewOf F z).synchronized z.configManager F).2 = true := by
  rw [← hz.configManager] at hentry
  exact NameView.synchronized_present_of_simulated hentry hz.untracked
    (hz.simulated.trans hsimulated) hvalid

/-- After a creation of the name, other names are synchronized as before it, and so is the
name if no file is left. -/
theorem afterSync_create (hk : k ≠ F ∨
      (onMachine (·.createNamespace F) z).2.host.netnsPathExists F = z.host.netnsPathExists F) :
    afterSync k (onMachine (·.createNamespace F) z).2 = afterSync k z := by
  have hcalls := calls_create z F
  have hpath : (onMachine (·.createNamespace F) z).2.host.netnsPathExists k =
      z.host.netnsPathExists k := by
    by_cases hself : k = F
    · subst hself
      exact hk.resolve_left (not_not_intro rfl)
    · exact hcalls.netnsPathExists hself
  exact afterSync_congr hcalls.configManager
    (hcalls.viewOf_eq (.inr hz.netnsDir) (hk.imp_right .inr)) hpath

/-- A simulation does not see the file. -/
theorem afterSync_create_of_simulated (hsimulated : z.isSimulated = true) :
    afterSync F (onMachine (·.createNamespace F) z).2 =
      ((viewOf F z).synchronized z.configManager F,
        z.machineCreates F || z.machineLeavesFile F) := by
  have hcalls := calls_create z F
  have hview : viewOf F (onMachine (·.createNamespace F) z).2 = viewOf F z :=
    hcalls.viewOf_eq (.inl hsimulated) (.inr (.inl hsimulated))
  rw [← hz.cleared.netnsPathExists_create]
  unfold afterSync
  rw [hview, hcalls.configManager, hcalls.isSimulated, hsimulated]
  rfl

end Emptied

/-! ### Creations that succeed -/

section Succeeds

variable {entry : NamespaceConfigEntry} (hz : Emptied F m z)
  (hentry : m.configManager.namespaceConfigs.lookup F = some entry)
  (hvalid : (validateNamespaceName F).toBool = true)
include hz hentry hvalid

/-- What a creation and a synchronization make of a state in which the name is forgotten, if
the simulation has the name only if it had it before. -/
theorem Emptied.created (hconfig : x.configManager = z.configManager)
    (hsimulated : x.isSimulated = z.isSimulated)
    (hothers : ∀ k, k ≠ F → observed k x = afterSync k z)
    (hthere : x.host.netnsPathExists F = true)
    (hpresent : z.isSimulated = true →
      (viewOf F x).isPresent = ((viewOf F z).synchronized z.configManager F).2)
    (hrecord : x.isSimulated = true → (viewOf F x).isPresent = true →
      (viewOf F m).isPresent = true) : Created F m x where
  configManager := hconfig.trans hz.configManager
  simulated := hsimulated.trans hz.simulated
  others k hk := (hothers k hk).trans (hz.afterSync_of_ne hk)
  there := hthere
  present hsimulation := by
    have hx := (hpresent (hz.simulated.trans hsimulation)).trans
      (hz.synchronized_present hentry hvalid hsimulation)
    rw [hx, hrecord (hsimulated.trans (hz.simulated.trans hsimulation)) hx]

theorem created_after_sync (hgone : (z.synchronize orders).2.host.netnsFile F = none)
    (hcreates : (z.synchronize orders).2.machineCreates F = true)
    (hx : x = (onMachine (·.createNamespace F) (z.synchronize orders).2).2)
    (hrecord : x.isSimulated = true → (viewOf F x).isPresent = true →
      (viewOf F m).isPresent = true) : Created F m x := by
  subst hx
  have hsync := guaranteed_true_synchronize orders z
  have hcalls := calls_create (z.synchronize orders).2 F
  have hcleared := hz.cleared.of_guaranteed hsync hgone
  refine hz.created hentry hvalid (hcalls.configManager.trans hsync.configManager)
    (hcalls.isSimulated.trans hsync.simulated) (fun k hk => ?_) ?_ (fun hsimulated => ?_) hrecord
  · rw [hcalls.observed_eq (.inl hk), observed_synchronize]
  · rw [hcleared.netnsPathExists_create, hcreates, Bool.true_or]
  · have hobserved := congrArg (·.1.2) (observed_synchronize orders F z)
    exact (hcalls.namespaceExists (.inr (.inl (hsync.simulated.trans hsimulated)))).trans hobserved

theorem created_of_interrupted {mid : Managers} (hgone : mid.host.netnsFile F = none)
    (hcreates : mid.machineCreates F = true)
    (hinterrupted : Interrupted mid (onMachine (·.createNamespace F) mid).2
      (listedSections orders z.configManager z.stateManager.netlinkManager.listNamespaces) z x)
    (hrecord : x.isSimulated = true → (viewOf F x).isPresent = true →
      (viewOf F m).isPresent = true) : Created F m x := by
  have hcalls := calls_create mid F
  obtain ⟨hbefore, hafter⟩ := guaranteed_of_interrupted hinterrupted
    (settled_true z.configManager z) hcalls.namespaceStates
  have hcleared := hz.cleared.of_guaranteed hbefore hgone
  refine hz.created hentry hvalid
    (hafter.configManager.trans (hcalls.configManager.trans hbefore.configManager))
    (hafter.simulated.trans (hcalls.isSimulated.trans hbefore.simulated)) (fun k hk => ?_) ?_
    (fun hsimulated => ?_) hrecord
  · exact hcalls.afterSync_of_interrupted hinterrupted (.inr hcleared.netnsDir) (.inl hk)
  · have hthere := hcleared.netnsPathExists_create
    rw [hcreates, Bool.true_or] at hthere
    obtain ⟨file, hfile⟩ := Option.isSome_iff_exists.mp hthere
    exact Option.isSome_iff_exists.mpr ⟨file, hafter.present F file hfile⟩
  · have hview := hcalls.viewOf_eq (k := F) (.inr hcleared.netnsDir)
      (.inr (.inl (hbefore.simulated.trans hsimulated)))
    exact congrArg Prod.snd (viewOf_of_interrupted hinterrupted hview)

theorem created_before_sync (hcreates : z.machineCreates F = true)
    (hx : x = ((onMachine (·.createNamespace F) z).2.synchronize orders).2)
    (hrecord : x.isSimulated = true → (viewOf F x).isPresent = true →
      (viewOf F m).isPresent = true) : Created F m x := by
  subst hx
  have hcalls := calls_create z F
  have hsync := guaranteed_true_synchronize orders (onMachine (·.createNamespace F) z).2
  refine hz.created hentry hvalid (hsync.configManager.trans hcalls.configManager)
    (hsync.simulated.trans hcalls.isSimulated) (fun k hk => ?_) ?_ (fun hsimulated => ?_) hrecord
  · rw [observed_synchronize, hz.afterSync_create (.inl hk)]
  · have hthere := hz.cleared.netnsPathExists_create
    rw [hcreates, Bool.true_or] at hthere
    obtain ⟨file, hfile⟩ := Option.isSome_iff_exists.mp hthere
    exact Option.isSome_iff_exists.mpr ⟨file, hsync.present F file hfile⟩
  · have hobserved := congrArg (·.1.2)
      (observed_synchronize orders F (onMachine (·.createNamespace F) z).2)
    rw [hz.afterSync_create_of_simulated hsimulated] at hobserved
    exact hobserved

end Succeeds

/-! ### Creations that fail -/

section Fails

variable {entry : NamespaceConfigEntry} (hz : Emptied F m z)
  (hentry : m.configManager.namespaceConfigs.lookup F = some entry)
  (hfails : z.machineCreates F = false)
include hz

/-- On the machine, a synchronization that could create no file where the call leaves one has
not even listed the namespaces. -/
theorem listFails_of_gone (hentry : m.configManager.namespaceConfigs.lookup F = some entry)
    (hreal : z.isSimulated = false) (hleaves : z.machineLeavesFile F = true)
    (hgone : (z.synchronize orders).2.host.netnsFile F = none) :
    (viewOf F z).environment.listFails = true := by
  by_contra hlists
  rw [Bool.not_eq_true] at hlists
  rw [← hz.configManager] at hentry
  have habsent : (viewOf F z).isPresent = false :=
    (netnsPathExists_of_real hreal).symm.trans hz.netnsPathExists
  have hafter : ((viewOf F z).synchronized z.configManager F).2 = false := by
    have hobserved := congrArg Prod.snd (observed_synchronize orders F z)
    dsimp only [observed, afterSync] at hobserved
    rw [hreal] at hobserved
    exact hobserved.symm.trans (congrArg Option.isSome hgone)
  obtain ⟨-, hnone⟩ :=
    NameView.not_creates_of_synchronized hentry hz.untracked habsent hlists hafter
  -- the calls on the machine and the synchronization have the same faults
  have henvironment : z.machine.environment = z.stateManager.netlinkManager.environment := by
    have hdir : z.stateManager.netlinkManager.host.netns.isSome = true := hz.netnsDir
    change Environment.mk false z.host.faults true = Environment.mk z.isSimulated z.host.faults
      z.stateManager.netlinkManager.host.netns.isSome
    rw [hreal, hdir]
  have hleft : (viewOf F z).environment.leavesPlaceholder false F =
      z.machine.environment.leavesPlaceholder false F := by
    rw [henvironment]
    exact Environment.leavesPlaceholder_effective _ _ _
  rw [machineLeavesFile, hz.netnsPathExists, ← hleft, hnone, Bool.and_false] at hleaves
  cases hleaves

include hfails

theorem afterSync_create_of_listFails (hreal : z.isSimulated = false)
    (hlists : (viewOf F z).environment.listFails = true) :
    afterSync F (onMachine (·.createNamespace F) z).2 =
      ((none, z.machineLeavesFile F), z.machineLeavesFile F) := by
  have hcalls := calls_create z F
  have henvironment := hcalls.environment_eq (.inr hz.netnsDir) F
  have hpath := hz.cleared.netnsPathExists_create
  rw [hfails, Bool.false_or] at hpath
  have hreal' := hcalls.isSimulated.trans hreal
  have hsynchronized : (viewOf F (onMachine (·.createNamespace F) z).2).synchronized
      (onMachine (·.createNamespace F) z).2.configManager F = (none, z.machineLeavesFile F) := by
    unfold NameView.synchronized
    rw [henvironment, hlists, if_pos rfl]
    refine Prod.ext ?_ ((netnsPathExists_of_real hreal').symm.trans hpath)
    have hstates := congrArg (·.lookup F) hcalls.namespaceStates
    exact Option.map_eq_none_iff.mpr (hstates.trans hz.untracked)
  unfold afterSync
  rw [hsynchronized, hreal']
  rfl

include hentry

/-- A creation that fails after the synchronization might as well have failed before it. -/
theorem observed_failed_after_sync (hgone : (z.synchronize orders).2.host.netnsFile F = none)
    (k : String) : observed k (onMachine (·.createNamespace F) (z.synchronize orders).2).2 =
      afterSync k (onMachine (·.createNamespace F) z).2 := by
  have hsync := guaranteed_true_synchronize orders z
  have hcalls := calls_create (z.synchronize orders).2 F
  have hcleared := hz.cleared.of_guaranteed hsync hgone
  have hfails' := (hz.cleared.machineCreates_eq hcleared).trans hfails
  have hsame := hz.cleared.machineLeavesFile_eq hcleared
  cases hleaves : z.machineLeavesFile F with
  | false =>
    rw [hcalls.observed_eq (.inr (hcleared.netnsPathExists_create_of_fails hfails'
        (hsame.trans hleaves))), observed_synchronize,
      hz.afterSync_create (.inr (hz.cleared.netnsPathExists_create_of_fails hfails hleaves))]
  | true =>
    have hobserved := observed_synchronize orders F z
    rw [hcleared.observed_create_of_fails hfails', hsame, hleaves]
    split_ifs with hk hsimulated
    · subst hk
      have hsimulation : z.isSimulated = true := hsync.simulated.symm.trans hsimulated
      rw [hz.afterSync_create_of_simulated hsimulation, hfails, hleaves]
      have hfirst := congrArg Prod.fst hobserved
      exact Prod.ext hfirst rfl
    · subst hk
      have hreal := hsync.simulated.symm.trans (Bool.eq_false_of_not_eq_true hsimulated)
      have hlists := listFails_of_gone hz hentry hreal hleaves hgone
      rw [afterSync_create_of_listFails hz hfails hreal hlists, hleaves]
      refine Prod.ext (Prod.ext ?_ rfl) rfl
      -- the synchronization has done nothing
      have hstate := congrArg (·.1.1) hobserved
      dsimp only [observed, afterSync] at hstate
      unfold NameView.synchronized at hstate
      rw [hlists, if_pos rfl] at hstate
      exact hstate.trans (Option.map_eq_none_iff.mpr hz.untracked)
    · rw [observed_synchronize, hz.afterSync_create (.inl hk)]

omit hentry

/-- So might one that fails during the synchronization, on the machine if it leaves no file. -/
theorem observed_failed_of_interrupted {mid : Managers} (hgone : mid.host.netnsFile F = none)
    (hleaves : mid.isSimulated = true ∨ mid.machineLeavesFile F = false)
    (hinterrupted : Interrupted mid (onMachine (·.createNamespace F) mid).2
      (listedSections orders z.configManager z.stateManager.netlinkManager.listNamespaces) z x)
    (k : String) : observed k x = afterSync k (onMachine (·.createNamespace F) z).2 := by
  have hcalls := calls_create mid F
  obtain ⟨hbefore, -⟩ := guaranteed_of_interrupted hinterrupted
    (settled_true z.configManager z) hcalls.namespaceStates
  have hcleared := hz.cleared.of_guaranteed hbefore hgone
  have hfails' := (hz.cleared.machineCreates_eq hcleared).trans hfails
  have hsame := hz.cleared.machineLeavesFile_eq hcleared
  by_cases hself : k ≠ F ∨ z.machineLeavesFile F = false
  · have hmeanwhile := hself.imp_right fun hnone =>
      hcleared.netnsPathExists_create_of_fails hfails' (hsame.trans hnone)
    have hbefore := hself.imp_right fun hnone =>
      hz.cleared.netnsPathExists_create_of_fails hfails hnone
    rw [hcalls.afterSync_of_interrupted hinterrupted (.inr hcleared.netnsDir) hmeanwhile,
      hz.afterSync_create hbefore]
  · obtain ⟨hk, hleft⟩ := not_or.mp hself
    obtain rfl := not_not.mp hk
    rw [hsame] at hleaves
    have hsimulated := hleaves.resolve_right hleft
    have hsimulation := hbefore.simulated.symm.trans hsimulated
    have hobserved := observed_of_interrupted hinterrupted hcalls.namespaceStates
      hcalls.isSimulated (hcalls.viewOf_eq (k := k) (.inl hsimulated) (.inr (.inl hsimulated)))
    rw [hz.afterSync_create_of_simulated hsimulation, hobserved]
    refine Prod.ext rfl ?_
    have hpath := hcleared.netnsPathExists_create
    rw [hfails', hsame] at hpath
    dsimp only
    rw [if_pos hsimulation, hpath, hfails]

end Fails

/-! ### Restarts -/

section Restart

variable {config : NamespaceConfig} {entry : NamespaceConfigEntry}
  {out : Except MethodErr Reply × Managers}

/-- The outcome of a creation that has been recorded after both, or that of the request
before the synchronization. -/
def RecreationCase (config : NamespaceConfig) (F : String) (orders : SyncOrders) (m z : Managers)
    (out : Except MethodErr Reply × Managers) : Prop :=
  (∃ x, z.machineCreates F = true ∧ Created F m x ∧ out = (Guarded.restartReply (.ok F),
    x.recordCreation config.namespace_.name F (x.recordedPath F))) ∨
  SameOutcome out (((Guarded.recreate config (.ok ())).erase.run z).1,
    (((Guarded.recreate config (.ok ())).erase.run z).2.synchronize orders).2)

variable (hF : z.configManager.generateFullNamespaceName config.namespace_.name = F)
include hF

/-- What is left after the call, once the synchronization is over. -/
theorem recreationCase_of_continues {r : SegwireResult NamespaceInfo}
    (hok : ∀ info, r = .ok info → z.machineCreates F = true ∧
      ((x.isSimulated = true → (viewOf F x).isPresent = true → (viewOf F m).isPresent = true) →
        Created F m x))
    (herror : ∀ e, r = .error e → z.machineCreates F = false ∧
      ∀ k, observed k x = afterSync k (onMachine (·.createNamespace F) z).2)
    (h : Continues (Undisturbed m) (Guarded.recordCreated config F r >>= fun created =>
      pure (Guarded.restartReply created)) x out) : RecreationCase config F orders m z out := by
  obtain ⟨e, rfl, rfl⟩ | ⟨⟨info, rfl⟩, hrecord, rfl⟩ := continues_recordCreated h
  · obtain ⟨hfails, hobserved⟩ := herror e rfl
    obtain ⟨e', hrun⟩ := run_recreate_of_not_creates hF hfails
    refine .inr ?_
    rw [hrun]
    exact ⟨rfl, fun k => (hobserved k).trans (observed_synchronize orders k _).symm⟩
  · obtain ⟨hcreates, hcreated⟩ := hok info rfl
    exact .inl ⟨x, hcreates, hcreated hrecord, rfl⟩

variable (hz : Emptied F m z) (hentry : m.configManager.namespaceConfigs.lookup F = some entry)
  (hvalid : (validateNamespaceName F).toBool = true)
include hz hentry hvalid

/-- What an interleaving with the rest of a restart leads to. -/
theorem recreation_cases (h : Interleaves (Undisturbed m) (Guarded.recreate config (.ok ()))
    (synchronizeSections orders) false z out) : RecreationCase config F orders m z out := by
  let rest (r : SegwireResult NamespaceInfo) : GuardedHandler (Except MethodErr Reply) :=
    Guarded.recordCreated config F r >>= fun created => pure (Guarded.restartReply created)
  let call : GuardedHandler (Except MethodErr Reply) :=
    .call (.createNamespace F) (fun m => (onMachine (·.createNamespace F) m).2) fun m =>
      rest (onMachine (·.createNamespace F) m).1
  have hblocked (x : Managers) : (rest (onMachine (·.createNamespace F) x).1).Blocked := by
    cases (onMachine (·.createNamespace F) x).1 with
    | error e => exact GuardedTask.blocked_done _
    | ok info => exact GuardedTask.blocked_locked _ _ _
  have hsync := guaranteed_true_synchronize orders z
  -- the call after the synchronization
  have hafter (h : Continues (Undisturbed m) call (z.synchronize orders).2 out) :
      RecreationCase config F orders m z out := by
    obtain ⟨⟨hgone, -⟩, hrest⟩ := h.call
    have hsame := hz.cleared.machineCreates_eq (hz.cleared.of_guaranteed hsync hgone)
    refine recreationCase_of_continues hF (fun info hinfo => ?_) (fun e he => ?_) hrest
    · have hcreates := machineCreates_of_ok hinfo
      exact ⟨hsame.symm.trans hcreates,
        created_after_sync hz hentry hvalid hgone hcreates rfl⟩
    · have hfails := hsame.symm.trans (machineCreates_of_error he)
      exact ⟨hfails, observed_failed_after_sync hz hentry hfails hgone⟩
  -- the record after the synchronization
  have hrecorded {info : NamespaceInfo} (hinfo : (onMachine (·.createNamespace F) z).1 = .ok info)
      (h : Continues (Undisturbed m) (rest (.ok info))
        ((onMachine (·.createNamespace F) z).2.synchronize orders).2 out) :
      RecreationCase config F orders m z out := by
    have hcreates := machineCreates_of_ok hinfo
    refine recreationCase_of_continues hF (fun info _ => ?_) (fun e he => ?_) h
    · exact ⟨hcreates, created_before_sync hz hentry hvalid hcreates rfl⟩
    · cases he
  have hrun : (Guarded.recreate config (.ok ())).erase.run z =
      (rest (onMachine (·.createNamespace F) z).1).erase.run
        (onMachine (·.createNamespace F) z).2 := run_recreate hF
  obtain hfirst | ⟨-, hcall⟩ := locked_cases h
  · subst hF
    exact hafter hfirst.locked.2
  · have hcall : Interleaves (Undisturbed m) call (synchronizeSections orders) false z out := by
      subst hF
      exact hcall
    obtain hfirst | ⟨mid, x, hinterrupted, ⟨hgone, hleaves⟩, hrest⟩ | ⟨-, hbefore⟩ :=
      call_cases hcall hblocked
    · exact hafter hfirst
    · -- the call during the synchronization
      have hstates := (calls_create mid F).namespaceStates
      have hmid := (guaranteed_of_interrupted hinterrupted
        (settled_true z.configManager z) hstates).1
      have hsame := hz.cleared.machineCreates_eq (hz.cleared.of_guaranteed hmid hgone)
      refine recreationCase_of_continues hF (fun info hinfo => ?_) (fun e he => ?_) hrest
      · have hcreates := machineCreates_of_ok hinfo
        exact ⟨hsame.symm.trans hcreates,
          created_of_interrupted hz hentry hvalid hgone hcreates hinterrupted⟩
      · have hfails := hsame.symm.trans (machineCreates_of_error he)
        exact ⟨hfails, observed_failed_of_interrupted hz hfails hgone (hleaves rfl) hinterrupted⟩
    · cases hresult : (onMachine (·.createNamespace F) z).1 with
      | error e =>
        rw [hresult] at hbefore hrun
        refine .inr ?_
        rw [hrun, done_cases hbefore]
        exact ⟨rfl, fun _ => rfl⟩
      | ok info =>
        rw [hresult] at hbefore hrun
        obtain hlater | ⟨-, hrecord⟩ := locked_cases hbefore
        · exact hrecorded hresult hlater
        · obtain hlater | ⟨-, hend⟩ := locked_cases hrecord
          · -- the path has been read before the synchronization
            exact hrecorded hresult (Interleaves.locked trivial hlater)
          · refine .inr ?_
            rw [hrun, done_cases hend]
            exact ⟨rfl, fun _ => rfl⟩

end Restart

/-- After both, a restart has the outcome that it has after the synchronization. -/
theorem sameOutcome_of_created {config : NamespaceConfig} (hz : Emptied F m z)
    (hF : m.configManager.generateFullNamespaceName config.namespace_.name = F)
    (hcreates : z.machineCreates F = true) (hx : Created F m x) (hy : Deleted F m y) :
    SameOutcome (Guarded.restartReply (.ok F),
        x.recordCreation config.namespace_.name F (x.recordedPath F))
      ((Guarded.recreate config (.ok ())).erase.run y) := by
  have hFy : y.configManager.generateFullNamespaceName config.namespace_.name = F := by
    rw [hy.configManager, hF]
  have hcreates' := (hz.cleared.machineCreates_eq hy.cleared).trans hcreates
  have hpath : x.recordedPath F = y.recordedPath F := by
    rw [recordedPath, hx.configManager, recordedPath, hy.configManager]
  rw [run_recreate_of_creates hFy hcreates', hpath]
  exact ⟨rfl, hx.observed_eq (hy.created hcreates') _ _⟩

section RestartNamespace

variable {entry : NamespaceConfigEntry}

/-- Where a configuration is found, a restart is a deletion that a creation follows. -/
theorem run_restartNamespace (hentry : x.restartEntry name = some entry) :
    (Daemon.restartNamespace name).run x =
      (deletionThen name (Guarded.recreate entry.config)).run x := by
  have hread : (Guarded.restartNamespace name).erase.run x = (Guarded.restartWith name
      ((x.restartEntry name).map NamespaceConfigEntry.config)).erase.run x := rfl
  rw [← Guarded.erase_restartNamespace, hread, hentry, ← erase_deletionThen]
  rfl

/-- The configuration that a restart finds is that of the full name. -/
theorem NamesAgree.lookup_of_restartEntry (h : m.NamesAgree name)
    (hF : m.configManager.generateFullNamespaceName name = F)
    (hentry : m.restartEntry name = some entry) :
    m.configManager.namespaceConfigs.lookup F = some entry := by
  subst hF
  obtain ⟨hfull, -⟩ := h.restarted entry hentry
  rcases Option.or_eq_some_iff.mp hentry with hfound | ⟨-, hfound⟩
  · exact hfound
  · -- the configuration is found under the requested name, so that is the full name
    have hself : entry.fullName = name := KeyedMap.key_eq_of_lookup hfound
    rw [← hfull, hself]
    exact hfound

/-- An undisturbed `RestartNamespace` is serializable. -/
theorem serialOutcome_restartNamespace {out : Except MethodErr Reply × Managers}
    (hnames : m.NamesAgree name)
    (h : Interleaves (Undisturbed m) (Guarded.restartNamespace name) (synchronizeSections orders)
      false m out) : SerialOutcome (Daemon.restartNamespace name) orders m out := by
  obtain hfirst | ⟨-, h⟩ := locked_cases h
  · refine .inl ?_
    rw [← Guarded.erase_restartNamespace, hfirst.run]
    exact ⟨rfl, fun _ => rfl⟩
  · have hrest : Interleaves (Undisturbed m) (Guarded.restartWith name
        ((m.restartEntry name).map NamespaceConfigEntry.config)) (synchronizeSections orders)
        false m out := h
    cases hentry : m.restartEntry name with
    | none =>
      have hread : (Guarded.restartNamespace name).erase.run m = (Guarded.restartWith name
          ((m.restartEntry name).map NamespaceConfigEntry.config)).erase.run m := rfl
      rw [hentry] at hrest hread
      refine .inr ?_
      rw [← Guarded.erase_restartNamespace, hread, done_cases hrest]
      exact ⟨rfl, fun _ => rfl⟩
    | some entry =>
      rw [hentry] at hrest
      have hentry' : (m.synchronize orders).2.restartEntry name = some entry := hentry
      let F := m.configManager.generateFullNamespaceName name
      have hlookup : m.configManager.namespaceConfigs.lookup F = some entry :=
        hnames.lookup_of_restartEntry rfl hentry
      have hconfigured : m.configManager.namespaceConfigs.contains F = true :=
        KeyedMap.contains_iff.mpr ⟨entry, hlookup⟩
      have hF : m.configManager.generateFullNamespaceName entry.config.namespace_.name = F :=
        (hnames.restarted entry hentry).2
      have htracked := hnames.tracked rfl
      have hcase : DeletionCase m m name F orders (Guarded.recreate entry.config) out :=
        deletionCase_of_interleaves (fun e => ⟨_, rfl⟩) rfl htracked hrest
      have hserial := serialOutcome_of_deletionCase (fun e => ⟨_, rfl, rfl⟩) rfl hnames htracked
        hcase (fun x y hx hy hforgotten hforgotten' =>
          hx.sameOutcome_recreate hy hforgotten hforgotten' hF) (fun hunconfigured => ?_)
        fun z hz hdeletes rest => ?_
      · unfold SerialOutcome
        rw [run_restartNamespace hentry, run_restartNamespace hentry']
        exact hserial
      · rw [hconfigured] at hunconfigured
        cases hunconfigured
      · have hvalid : (validateNamespaceName F).toBool = true := valid_of_machineDeletes hdeletes
        obtain ⟨x, hcreates, hx, rfl⟩ | hright :=
          recreation_cases (by rw [hz.configManager, hF]) hz hlookup hvalid rest
        · exact .inl ⟨hconfigured, fun y hy _ => sameOutcome_of_created hz hF hcreates hx hy⟩
        · exact .inr hright

end RestartNamespace

end Managers

end Segwire.Daemon
