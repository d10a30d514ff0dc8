import Segwire.Daemon.PrefixedNames
import Segwire.Daemon.RequestCalls

/-!
# A synchronization around a deletion

A deletion by name looks a name up, deletes the namespace and forgets the name, and a
synchronization may come before or after any of these, or be interrupted by the call. While
the name is tracked, the synchronization neither creates nor forgets it. So either the
synchronization might as well have come first, or the name is forgotten before it begins.

## Main definitions

* `Managers.NamesAgree` — the names that a request uses are those of one namespace
* `Managers.Undisturbed` — when a step of a request is not disturbed
* `Managers.DeletionCase` — how an interleaving with a deletion goes
* `Managers.Emptied` — the outcome of a deletion alone

## Main results

* `Managers.deletionCase_of_interleaves` — there are no other cases
* `Managers.serialOutcome_of_deletionCase` — only what follows the deletion is left to compare
* `Managers.serialOutcome_deleteNamespace` — an undisturbed deletion is serial
-/

namespace Segwire.Daemon

open Foundation Segwire.Common

namespace Managers

variable {m x y : Managers} {k F name : String} {orders : SyncOrders} {β : Type}

/-! ### The condition -/

/-- The requested name is the full name or unknown, and the configuration that a restart
finds is that of the full name. -/
structure NamesAgree (m : Managers) (name : String) : Prop where
  unknown : m.configManager.generateFullNamespaceName name ≠ name →
    m.stateManager.namespaceStates.lookup name = none ∧
      m.configManager.namespaceConfigs.lookup name = none
  restarted : ∀ entry, m.restartEntry name = some entry →
    entry.fullName = m.configManager.generateFullNamespaceName name ∧
      m.configManager.generateFullNamespaceName entry.config.namespace_.name =
        m.configManager.generateFullNamespaceName name

/-- The step of a request is not disturbed by a synchronization, which may be going on: a
deletion does not have to make the namespace directory meanwhile, the namespace to be created has
not come back and leaves no file meanwhile if the creation fails, and the namespace to be recorded
has not come up in the simulation since the request began at `m₀`. -/
def Undisturbed (m₀ : Managers) : RequestStep → Bool → Managers → Prop
  | .access, _, _ => True
  | .deleteNamespace _, syncing, m =>
    syncing = true → m.isSimulated = true ∨ m.host.netns.isSome = true
  | .createNamespace fullName, syncing, m => m.host.netnsFile fullName = none ∧
      (syncing = true → m.isSimulated = true ∨ m.machineLeavesFile fullName = false)
  | .record fullName, _, m => m.isSimulated = true →
      m.stateManager.netlinkManager.namespaceExists fullName = true →
      m₀.stateManager.netlinkManager.namespaceExists fullName = true

/-! ### Forgetting a name -/

theorem observed_forgetBoth (x : Managers) (name F k : String) :
    observed k (x.forgetBoth name F) =
      if k = F ∨ k = name then ((none, (observed k x).1.2), (observed k x).2)
      else observed k x := by
  have hforgotten : observed k (x.forgetBoth name F) =
      (((x.forgetBoth name F).stateManager.namespaceStates.lookup k |>.map untimed,
        (observed k x).1.2), (observed k x).2) := rfl
  rw [hforgotten, lookup_forgetBoth]
  by_cases hF : k = F
  · rw [if_pos hF, if_pos (.inl hF)]
    rfl
  · by_cases hname : k = name
    · rw [if_neg hF, if_pos hname, if_pos (.inr hname)]
      rfl
    · rw [if_neg hF, if_neg hname, if_neg (not_or_intro hF hname)]
      rfl

/-- After a deletion, forgetting touches nothing but the deleted name. -/
theorem Deleted.forgetBoth (h : Deleted F m x)
    (hunknown : F ≠ name → m.stateManager.namespaceStates.lookup name = none ∧
      m.configManager.namespaceConfigs.lookup name = none) :
    Deleted F m (x.forgetBoth name F) where
  configManager := h.configManager
  simulated := h.simulated
  fixed := h.fixed
  netnsDir := h.netnsDir
  others k hk := by
    rw [observed_forgetBoth]
    split_ifs with hforgotten
    · -- the requested name was not tracked, and the synchronization has not tracked it
      obtain rfl := hforgotten.resolve_left hk
      obtain ⟨huntracked, hunconfigured⟩ := hunknown fun hF => hk hF.symm
      rw [h.others k hk]
      exact Prod.ext (Prod.ext (NameView.synchronized_of_unknown hunconfigured huntracked).symm
        rfl) rfl
    · exact h.others k hk
  gone := h.gone
  present := h.present

/-- A namespace that the simulation keeps is there in both states, or in neither by its file. -/
theorem isPresent_eq_of_netnsPathExists (hx : x.isSimulated = m.isSimulated)
    (hy : y.isSimulated = m.isSimulated)
    (hpresent : m.isSimulated = true → (viewOf k x).isPresent = (viewOf k m).isPresent)
    (hpresent' : m.isSimulated = true → (viewOf k y).isPresent = (viewOf k m).isPresent)
    (hpath : x.host.netnsPathExists k = y.host.netnsPathExists k) :
    (viewOf k x).isPresent = (viewOf k y).isPresent := by
  cases hsimulated : m.isSimulated with
  | true => rw [hpresent hsimulated, hpresent' hsimulated]
  | false =>
    rw [← netnsPathExists_of_real (hx.trans hsimulated),
      ← netnsPathExists_of_real (hy.trans hsimulated), hpath]

/-- Two outcomes of a deletion agree once the name is forgotten. -/
theorem Deleted.observed_eq (hx : Deleted F m x) (hy : Deleted F m y)
    (hforgotten : (viewOf F x).state = none) (hforgotten' : (viewOf F y).state = none)
    (k : String) : observed k x = observed k y := by
  by_cases hk : k = F
  · subst hk
    have hpath {z : Managers} (hz : Deleted k m z) : z.host.netnsPathExists k = false :=
      congrArg Option.isSome hz.gone
    have hpresent := isPresent_eq_of_netnsPathExists hx.simulated hy.simulated hx.present
      hy.present ((hpath hx).trans (hpath hy).symm)
    unfold observed NameView.observed
    rw [hforgotten, hforgotten', hpresent, hpath hx, hpath hy]
  · rw [hx.others k hk, hy.others k hk]

/-! ### Deletions -/

/-- The deletion of a request by name, without its locks. -/
def deletionThen (name : String) (K : SegwireResult Unit → GuardedHandler β) : Handler β :=
  Daemon.deleteNamespaceByName name >>= fun deleted => (K deleted).erase

theorem erase_deletionThen (name : String) (K : SegwireResult Unit → GuardedHandler β) :
    (Guarded.deleteNamespaceByName name >>= K).erase = deletionThen name K :=
  GuardedTask.erase_bind (Guarded.erase_deleteNamespaceByName name) fun _ => rfl

/-- How an interleaving of a deletion by name that `K` continues goes. -/
inductive DeletionCase (m₀ m : Managers) (name F : String) (orders : SyncOrders)
    (K : SegwireResult Unit → GuardedHandler β) (out : β × Managers) : Prop
  /-- The synchronization comes first. -/
  | synchronized (hout : out = (deletionThen name K).run (m.synchronize orders).2)
  /-- The deletion fails before the synchronization. -/
  | failed (e : SegwireError) (m₁ : Managers)
      (hrun : (Daemon.deleteNamespaceByName name).run m = (.error e, m₁))
      (rest : Interleaves (Undisturbed m₀) (K (.error e)) (synchronizeSections orders) false m₁ out)
  /-- The deletion fails after or during the synchronization. -/
  | failedMeanwhile (e : SegwireError) (x : Managers) (heither : m.tracksEither name = true)
      (hdeletes : m.machineDeletes F = false)
      (hx : ∀ k, observed k x = afterSync k m) (hout : out = (K (.error e)).erase.run x)
  /-- The synchronization is over before the name is forgotten. -/
  | deletedMeanwhile (x : Managers) (heither : m.tracksEither name = true)
      (hdeletes : m.machineDeletes F = true) (hx : Deleted F m x)
      (hout : out = (K (.ok ())).erase.run (x.forgetBoth name F))
  /-- The name is forgotten before the synchronization. -/
  | deleted (heither : m.tracksEither name = true) (hdeletes : m.machineDeletes F = true)
      (hrun : (Daemon.deleteNamespaceByName name).run m =
        (.ok (), (onMachine (·.deleteNamespace F) m).2.forgetBoth name F))
      (rest : Interleaves (Undisturbed m₀) (K (.ok ())) (synchronizeSections orders) false
        ((onMachine (·.deleteNamespace F) m).2.forgetBoth name F) out)

section Deletion

variable {m₀ : Managers} {K : SegwireResult Unit → GuardedHandler β} {out : β × Managers}

theorem configManager_synchronize (orders : SyncOrders) (m : Managers) :
    (m.synchronize orders).2.configManager = m.configManager := rfl

/-- A deletion of a tracked name that starts on the machine before the synchronization
begins. -/
theorem deletionCase_of_call (hfailed : ∀ e, ∃ reply, K (.error e) = .done reply)
    (hF : m.configManager.generateFullNamespaceName name = F)
    (heither : m.tracksEither name = true)
    (htracked : m.stateManager.namespaceStates.contains F = true)
    (h : Interleaves (Undisturbed m₀)
      (.call (.deleteNamespace F) (fun m => (onMachine (·.deleteNamespace F) m).2) fun m =>
        Guarded.forgetDeleted name F (onMachine (·.deleteNamespace F) m).1 >>= K)
      (synchronizeSections orders) false m out) :
    DeletionCase m₀ m name F orders K out := by
  have hblocked (x : Managers) : (Guarded.forgetDeleted name F
      (onMachine (·.deleteNamespace F) x).1 >>= K).Blocked := by
    cases (onMachine (·.deleteNamespace F) x).1 with
    | error e =>
      obtain ⟨reply, hreply⟩ := hfailed e
      change (K (.error e)).Blocked
      rw [hreply]
      exact GuardedTask.blocked_done reply
    | ok accepted => exact GuardedTask.blocked_locked _ _ _
  -- what follows when the synchronization is over
  have hover (x : Managers) (r : SegwireResult Unit)
      (hr : r = .ok () → m.machineDeletes F = true ∧ Deleted F m x)
      (hr' : ∀ e, r = .error e → m.machineDeletes F = false ∧ ∀ k, observed k x = afterSync k m)
      (hcontinues : Continues (Undisturbed m₀) (Guarded.forgetDeleted name F r >>= K) x out) :
      DeletionCase m₀ m name F orders K out := by
    cases r with
    | error e => exact .failedMeanwhile e x heither (hr' e rfl).1 (hr' e rfl).2 hcontinues.run
    | ok accepted => exact .deletedMeanwhile x heither (hr rfl).1 (hr rfl).2 hcontinues.run
  rcases call_cases h hblocked with
    hafter | ⟨mid, x, hinterrupted, hallowed, hduring⟩ | ⟨-, hbefore⟩
  · have hsame := machineDeletes_synchronize htracked orders
    refine hover _ _ (fun hr => ?_) (fun e hr => ?_) hafter.call.2
    · have hdeletes := hsame.symm.trans (machineDeletes_of_ok hr)
      exact ⟨hdeletes, deleted_after_sync htracked hdeletes orders⟩
    · have hfails := machineDeletes_of_error hr
      refine ⟨hsame.symm.trans hfails, fun k => ?_⟩
      rw [(calls_delete _ F).observed_eq (.inr (netnsPathExists_of_not_deletes hfails)),
        observed_synchronize]
  · have hsame : mid.machineDeletes F = m.machineDeletes F :=
      machineDeletes_of_guaranteed (guaranteed_of_interrupted hinterrupted
        (settled_of_tracked htracked) (calls_delete mid F).namespaceStates).1
    refine hover x _ (fun hr => ?_) (fun e hr => ?_) hduring
    · have hdeletes := hsame.symm.trans (machineDeletes_of_ok hr)
      exact ⟨hdeletes, deleted_of_interrupted htracked hdeletes hinterrupted⟩
    · have hfails := hsame.symm.trans (machineDeletes_of_error hr)
      exact ⟨hfails, observed_of_interrupted_not_deletes htracked hfails hinterrupted
        (hallowed rfl)⟩
  · obtain ⟨huntracked, -⟩ | ⟨-, ⟨e, m₁, hmachine, hrun⟩ | ⟨m₁, hmachine, hrun⟩⟩ :=
      run_deleteNamespaceByName_cases m name
    · rw [heither] at huntracked
      cases huntracked
    · rw [hF] at hmachine
      rw [hmachine] at hbefore
      exact .failed e m₁ hrun hbefore
    · rw [hF] at hmachine hrun
      have hdeletes := machineDeletes_of_ok (congrArg Prod.fst hmachine)
      obtain rfl : (onMachine (·.deleteNamespace F) m).2 = m₁ := congrArg Prod.snd hmachine
      rw [hmachine] at hbefore
      have hforget : Interleaves (Undisturbed m₀)
          (.locked .access (·.forgetBoth name F) fun _ => K (.ok ())) (synchronizeSections orders)
          false (onMachine (·.deleteNamespace F) m).2 out := by
        rw [hmachine]
        exact hbefore
      obtain hlater | ⟨-, hearlier⟩ := locked_cases hforget
      · exact .deletedMeanwhile _ heither hdeletes (deleted_before_sync htracked hdeletes orders)
          hlater.locked.2.run
      · exact .deleted heither hdeletes hrun hearlier

/-- What an interleaving of a deletion by name with a synchronization does. -/
theorem deletionCase_of_interleaves (hfailed : ∀ e, ∃ reply, K (.error e) = .done reply)
    (hF : m.configManager.generateFullNamespaceName name = F)
    (htracked : m.tracksEither name = true → m.stateManager.namespaceStates.contains F = true)
    (h : Interleaves (Undisturbed m₀) (Guarded.deleteNamespaceByName name >>= K)
      (synchronizeSections orders) false m out) : DeletionCase m₀ m name F orders K out := by
  obtain hfirst | ⟨-, h⟩ := locked_cases h
  · refine .synchronized ?_
    rw [← erase_deletionThen]
    exact hfirst.run
  · obtain hfirst | ⟨-, h⟩ := locked_cases h
    · -- the synchronization has left the configurations alone
      refine .synchronized ?_
      rw [← erase_deletionThen]
      exact hfirst.run
    · let notFound : SegwireError := .network ("Namespace '" ++ name ++ "' not found")
      let fullName := m.configManager.generateFullNamespaceName name
      have hchecked : Interleaves (Undisturbed m₀) ((if !m.tracksEither name then
            pure (.error notFound)
          else GuardedTask.unlocked (.deleteNamespace fullName)
            (onMachine (·.deleteNamespace fullName)) >>= Guarded.forgetDeleted name fullName) >>= K)
          (synchronizeSections orders) false m out := h
      cases heither : m.tracksEither name with
      | false =>
        have hrun : (Daemon.deleteNamespaceByName name).run m =
            Task.run (if !m.tracksEither name then pure (.error notFound)
              else Task.atomic (onMachine (·.deleteNamespace fullName)) >>= _) m := rfl
        rw [heither] at hchecked hrun
        exact .failed notFound m hrun hchecked
      | true =>
        rw [heither] at hchecked
        subst hF
        exact deletionCase_of_call hfailed rfl heither (htracked heither) hchecked

/-! ### After the deletion -/

/-- The outcome of a deletion alone, its name forgotten: nothing else is touched. -/
structure Emptied (F : String) (m z : Managers) : Prop where
  configManager : z.configManager = m.configManager
  simulated : z.isSimulated = m.isSimulated
  fixed : z.host.fixed = m.host.fixed
  netnsDir : z.host.netns.isSome = true
  others : ∀ k, k ≠ F → viewOf k z = viewOf k m
  paths : ∀ k, k ≠ F → z.host.netnsPathExists k = m.host.netnsPathExists k
  untracked : (viewOf F z).state = none
  gone : z.host.netnsFile F = none
  present : m.isSimulated = true → (viewOf F z).isPresent = (viewOf F m).isPresent

theorem viewOf_forgetBoth_of_ne (hk : k ≠ F) (hname : k = name → (viewOf k x).state = none) :
    viewOf k (x.forgetBoth name F) = viewOf k x := by
  have hlookup : (x.forgetBoth name F).stateManager.namespaceStates.lookup k =
      x.stateManager.namespaceStates.lookup k := by
    rw [lookup_forgetBoth, if_neg hk]
    split_ifs with hself
    · exact (hname hself).symm
    · rfl
  unfold viewOf
  rw [hlookup]
  rfl

theorem untracked_forgetBoth (x : Managers) (name F : String) :
    (viewOf F (x.forgetBoth name F)).state = none := by
  unfold viewOf
  rw [lookup_forgetBoth, if_pos rfl]

theorem emptied_of_machineDeletes (hdeletes : m.machineDeletes F = true)
    (hunknown : F ≠ name → m.stateManager.namespaceStates.lookup name = none) :
    Emptied F m ((onMachine (·.deleteNamespace F) m).2.forgetBoth name F) := by
  have hcalls := calls_delete m F
  have hdir := isSome_netns_of_machineDeletes hdeletes
  constructor
  · exact hcalls.configManager
  · exact hcalls.isSimulated
  · exact hcalls.fixed
  · exact hcalls.netnsDir hdir
  · intro k hk
    have hview := hcalls.viewOf_eq (.inr hdir) (.inl hk)
    refine (viewOf_forgetBoth_of_ne hk fun hname => ?_).trans hview
    rw [hview, hname]
    exact hunknown fun hF => hk (hname.trans hF.symm)
  · exact fun k hk => hcalls.netnsPathExists hk
  · exact untracked_forgetBoth _ _ _
  · exact netnsFile_of_machineDeletes hdeletes
  · exact fun hsimulated => hcalls.namespaceExists (.inr (.inl hsimulated))

namespace Emptied

variable {z : Managers} (h : Emptied F m z)
include h

theorem afterSync_of_ne (hk : k ≠ F) : afterSync k z = afterSync k m :=
  afterSync_congr h.configManager (h.others k hk) (h.paths k hk)

theorem netnsPathExists : z.host.netnsPathExists F = false := congrArg Option.isSome h.gone

/-- A synchronization does not bring back a name that is not configured. -/
theorem synchronize (hunconfigured : m.configManager.namespaceConfigs.lookup F = none)
    (orders : SyncOrders) : Deleted F m (z.synchronize orders).2 ∧
      (viewOf F (z.synchronize orders).2).state = none := by
  have hunconfigured' : z.configManager.namespaceConfigs.lookup F = none := by
    rw [h.configManager, hunconfigured]
  have hunknown : z.configManager.namespaceConfigs.contains F = false :=
    KeyedMap.contains_eq_false_iff.mpr hunconfigured'
  have hsettled : z.Settled z.configManager (· ≠ F) := by
    intro k hconfigured hk
    rw [not_not.mp hk, hunknown] at hconfigured
    cases hconfigured
  have hsync := guaranteed_synchronize hsettled orders
  have hobserved := observed_synchronize orders F z
  refine ⟨⟨hsync.configManager.trans h.configManager, hsync.simulated.trans h.simulated,
    hsync.fixed.trans h.fixed, hsync.netnsDir.trans h.netnsDir, fun k hk => ?_,
    (hsync.kept F (.inl (not_not_intro rfl))).trans h.gone, fun hsimulated => ?_⟩, ?_⟩
  · rw [observed_synchronize, h.afterSync_of_ne hk]
  · have hpresent : ((viewOf F z).synchronized z.configManager F).2 = (viewOf F z).isPresent :=
      NameView.synchronized_present fun hconfigured => by
        rw [hunknown] at hconfigured
        cases hconfigured
    exact (congrArg (·.1.2) hobserved).trans (hpresent.trans (h.present hsimulated))
  · have hstate := (congrArg (·.1.1) hobserved).trans
      (NameView.synchronized_of_unknown hunconfigured' h.untracked)
    exact Option.map_eq_none_iff.mp hstate

end Emptied

/-! ### Serial deletions -/

section Serial

variable {K : SegwireResult Unit → GuardedHandler (Except MethodErr Reply)}
  {out : Except MethodErr Reply × Managers}
  (hfailed : ∀ e, ∃ reply, K (.error e) = .done reply ∧ succeeds reply = false)
  (hF : m.configManager.generateFullNamespaceName name = F)

theorem run_deletionThen (name : String) (K : SegwireResult Unit → GuardedHandler β)
    (x : Managers) : (deletionThen name K).run x =
      (K ((Daemon.deleteNamespaceByName name).run x).1).erase.run
        ((Daemon.deleteNamespaceByName name).run x).2 := Task.run_bind _ _ _

include hfailed hF

/-- A deletion that fails also fails after the synchronization. -/
theorem sameOutcome_of_failed (htracked : m.stateManager.namespaceStates.contains F = true)
    (hdeletes : m.machineDeletes F = false) {e : SegwireError}
    (hx : ∀ k, observed k x = afterSync k m) (hout : out = (K (.error e)).erase.run x) :
    SameOutcome out ((deletionThen name K).run (m.synchronize orders).2) := by
  have hsame := (machineDeletes_synchronize htracked orders).trans hdeletes
  have hserial : ∃ e' y, (Daemon.deleteNamespaceByName name).run (m.synchronize orders).2 =
      (.error e', y) ∧ ∀ k, observed k y = observed k (m.synchronize orders).2 := by
    obtain ⟨-, e', hrun⟩ | ⟨-, ⟨e', m₁, hmachine, hrun⟩ | ⟨m₁, hmachine, hrun⟩⟩ :=
      run_deleteNamespaceByName_cases (m.synchronize orders).2 name
    · exact ⟨e', _, hrun, fun _ => rfl⟩
    · rw [configManager_synchronize, hF] at hmachine
      refine ⟨e', m₁, hrun, fun k => ?_⟩
      obtain rfl : (onMachine (·.deleteNamespace F) (m.synchronize orders).2).2 = m₁ :=
        congrArg Prod.snd hmachine
      exact (calls_delete _ F).observed_eq (.inr (netnsPathExists_of_not_deletes hsame))
    · rw [configManager_synchronize, hF] at hmachine
      rw [machineDeletes_of_ok (congrArg Prod.fst hmachine)] at hsame
      cases hsame
  obtain ⟨e', y, hrun, hy⟩ := hserial
  obtain ⟨reply, hreply, hfails⟩ := hfailed e
  obtain ⟨reply', hreply', hfails'⟩ := hfailed e'
  rw [run_deletionThen, hrun, hreply', hout, hreply]
  refine ⟨hfails.trans hfails'.symm, fun k => ?_⟩
  exact (hx k).trans (((hy k).trans (observed_synchronize orders k m)).symm)

omit hfailed

/-- A deletion that succeeds also succeeds after the synchronization, if a state is still
found. -/
theorem exists_run_deletionThen
    (hunknown : F ≠ name → m.stateManager.namespaceStates.lookup name = none ∧
      m.configManager.namespaceConfigs.lookup name = none)
    (htracked : m.stateManager.namespaceStates.contains F = true)
    (hdeletes : m.machineDeletes F = true)
    (hremains : (m.synchronize orders).2.tracksEither name = true) :
    ∃ y, Deleted F m y ∧ (viewOf F y).state = none ∧
      (deletionThen name K).run (m.synchronize orders).2 = (K (.ok ())).erase.run y := by
  have hsame := (machineDeletes_synchronize htracked orders).trans hdeletes
  obtain ⟨hnot, -⟩ | ⟨-, ⟨e, m₁, hmachine, -⟩ | ⟨m₁, hmachine, hrun⟩⟩ :=
    run_deleteNamespaceByName_cases (m.synchronize orders).2 name
  · rw [hremains] at hnot
    cases hnot
  · rw [configManager_synchronize, hF] at hmachine
    rw [machineDeletes_of_error (congrArg Prod.fst hmachine)] at hsame
    cases hsame
  · rw [configManager_synchronize, hF] at hmachine hrun
    obtain rfl : (onMachine (·.deleteNamespace F) (m.synchronize orders).2).2 = m₁ :=
      congrArg Prod.snd hmachine
    refine ⟨_, (deleted_after_sync htracked hdeletes orders).forgetBoth hunknown,
      untracked_forgetBoth _ _ _, ?_⟩
    rw [run_deletionThen, hrun]

/-- A state is still found if the name is configured. -/
theorem tracksEither_synchronize
    (htracked : m.stateManager.namespaceStates.contains F = true)
    (hconfigured : m.configManager.namespaceConfigs.contains F = true) (orders : SyncOrders) :
    (m.synchronize orders).2.tracksEither name = true := by
  have hobserved := congrArg (·.1.1.isSome) (observed_synchronize orders F m)
  have hstate := hobserved.trans (NameView.isSome_synchronized hconfigured htracked)
  have hcontains : (m.synchronize orders).2.stateManager.namespaceStates.contains F = true :=
    Option.isSome_map.symm.trans hstate
  rw [tracksEither, configManager_synchronize, hF, hcontains, Bool.or_true]

include hfailed

omit hfailed in
/-- A deletion that finds a state and that the machine does not refuse. -/
theorem run_deleteNamespaceByName_of_deletes (heither : m.tracksEither name = true)
    (hdeletes : m.machineDeletes F = true) : (Daemon.deleteNamespaceByName name).run m =
      (.ok (), (onMachine (·.deleteNamespace F) m).2.forgetBoth name F) := by
  subst hF
  obtain ⟨hnot, -⟩ | ⟨-, ⟨e, m₁, hmachine, -⟩ | ⟨m₁, hmachine, hrun⟩⟩ :=
    run_deleteNamespaceByName_cases m name
  · rw [heither] at hnot
    cases hnot
  · rw [machineDeletes_of_error (congrArg Prod.fst hmachine)] at hdeletes
    cases hdeletes
  · rw [hrun, hmachine]

/-- What is left of a serial outcome is what follows a deletion before the synchronization. -/
theorem serialOutcome_of_deletionCase (hnames : m.NamesAgree name)
    (htracked : m.tracksEither name = true → m.stateManager.namespaceStates.contains F = true)
    (hcase : DeletionCase m m name F orders K out)
    (hagrees : ∀ x y, Deleted F m x → Deleted F m y → (viewOf F x).state = none →
      (viewOf F y).state = none →
      SameOutcome ((K (.ok ())).erase.run x) ((K (.ok ())).erase.run y))
    (hends : m.configManager.namespaceConfigs.contains F = false →
      ∃ reply, K (.ok ()) = .done reply)
    (hrest : ∀ z, Emptied F m z → m.machineDeletes F = true →
      Interleaves (Undisturbed m) (K (.ok ())) (synchronizeSections orders) false z out →
      m.configManager.namespaceConfigs.contains F = true ∧
        (∀ y, Deleted F m y → (viewOf F y).state = none →
          SameOutcome out ((K (.ok ())).erase.run y)) ∨
      SameOutcome out (((K (.ok ())).erase.run z).1,
        ((((K (.ok ())).erase.run z).2).synchronize orders).2)) :
    SerialOutcome (deletionThen name K) orders m out := by
  have hunknown : F ≠ name → _ := hF ▸ hnames.unknown
  cases hcase with
  | synchronized hout => exact .inl (hout ▸ ⟨rfl, fun _ => rfl⟩)
  | failed e m₁ hrun rest =>
    obtain ⟨reply, hreply, -⟩ := hfailed e
    rw [hreply] at rest
    refine .inr ?_
    rw [run_deletionThen, hrun, hreply, done_cases rest]
    exact ⟨rfl, fun _ => rfl⟩
  | failedMeanwhile e x heither hdeletes hx hout =>
    exact .inl (sameOutcome_of_failed hfailed hF (htracked heither) hdeletes hx hout)
  | deletedMeanwhile x heither hdeletes hx hout =>
    have hx' := hx.forgetBoth hunknown
    cases hremains : (m.synchronize orders).2.tracksEither name with
    | true =>
      obtain ⟨y, hy, hforgotten, hrun⟩ :=
        exists_run_deletionThen (K := K) hF hunknown (htracked heither) hdeletes hremains
      refine .inl ?_
      rw [hrun, hout]
      exact hagrees _ _ hx' hy (untracked_forgetBoth _ _ _) hforgotten
    | false =>
      -- nothing of the name is left, so the request may as well come first
      have hunconfigured : m.configManager.namespaceConfigs.contains F = false := by
        rw [← Bool.not_eq_true]
        intro hconfigured
        rw [tracksEither_synchronize hF (htracked heither) hconfigured] at hremains
        cases hremains
      obtain ⟨reply, hreply⟩ := hends hunconfigured
      obtain ⟨hy, hforgotten⟩ := (emptied_of_machineDeletes hdeletes
        fun hne => (hunknown hne).1).synchronize
          (KeyedMap.contains_eq_false_iff.mp hunconfigured) orders
      refine .inr ?_
      rw [run_deletionThen, run_deleteNamespaceByName_of_deletes hF heither hdeletes, hout, hreply]
      exact ⟨rfl, hx'.observed_eq hy (untracked_forgetBoth _ _ _) hforgotten⟩
  | deleted heither hdeletes hrun rest =>
    have hz := emptied_of_machineDeletes hdeletes fun hne => (hunknown hne).1
    obtain ⟨hconfigured, hleft⟩ | hright := hrest _ hz hdeletes rest
    · have hremains := tracksEither_synchronize hF (htracked heither) hconfigured orders
      obtain ⟨y, hy, hforgotten, hserial⟩ :=
        exists_run_deletionThen (K := K) hF hunknown (htracked heither) hdeletes hremains
      refine .inl ?_
      rw [hserial]
      exact hleft y hy hforgotten
    · refine .inr ?_
      rw [run_deletionThen, hrun]
      exact hright

end Serial

end Deletion

/-- If a state is found, the deleted name is tracked. -/
theorem NamesAgree.tracked (h : m.NamesAgree name)
    (hF : m.configManager.generateFullNamespaceName name = F)
    (heither : m.tracksEither name = true) :
    m.stateManager.namespaceStates.contains F = true := by
  rw [tracksEither, hF, Bool.or_eq_true] at heither
  rcases heither with hname | hfull
  · by_cases hne : F = name
    · exact hne ▸ hname
    · rw [KeyedMap.contains, (h.unknown (hF ▸ hne)).1] at hname
      cases hname
  · exact hfull

/-- An undisturbed `DeleteNamespace` is serializable. -/
theorem serialOutcome_deleteNamespace {out : Except MethodErr Reply × Managers}
    (hnames : m.NamesAgree name)
    (h : Interleaves (Undisturbed m) (Guarded.deleteNamespace name) (synchronizeSections orders)
      false m out) : SerialOutcome (Daemon.deleteNamespace name) orders m out := by
  let K (deleted : SegwireResult Unit) : GuardedHandler (Except MethodErr Reply) :=
    .done (Guarded.deleteReply name deleted)
  have herase : deletionThen name K = Daemon.deleteNamespace name := by
    rw [← Guarded.erase_deleteNamespace]
    exact (erase_deletionThen name K).symm
  have hfailed (e : SegwireError) : ∃ reply, K (.error e) = .done reply ∧ succeeds reply = false :=
    ⟨_, rfl, rfl⟩
  have htracked := hnames.tracked rfl
  have hcase : DeletionCase m m name _ orders K out :=
    deletionCase_of_interleaves (fun e => ⟨_, rfl⟩) rfl htracked h
  rw [← herase]
  refine serialOutcome_of_deletionCase hfailed rfl hnames htracked hcase ?_ (fun _ => ⟨_, rfl⟩) ?_
  · intro x y hx hy hforgotten hforgotten'
    exact ⟨rfl, hx.observed_eq hy hforgotten hforgotten'⟩
  · intro z _ _ rest
    refine .inr ?_
    rw [done_cases rest]
    exact ⟨rfl, fun _ => rfl⟩

end Managers

end Segwire.Daemon
