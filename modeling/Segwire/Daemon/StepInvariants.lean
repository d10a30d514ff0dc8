import Segwire.Daemon.EventLoop

/-!
# Invariants of the daemon's steps

The handlers of D-Bus calls do a few things to the managers: they act on the machine,
record a state under a generated name, and forget a state. What is closed under these is
kept by every section of every handler. A step of the daemon that is not a file event
moreover synchronizes, maintains the states or resolves a conflict.

## Main definitions

* `HandlerPreserves`, `StepPreserves` — kept by what handlers and other steps do
* `HandlerClosed`, `StepClosed` — the same where only recorded names matter
* `DaemonEventLoop.Keeping` — the managers satisfy an invariant that the call being
  served keeps

## Main results

* `HandlerPreserves.keeps_handle` — the sections of a handler
* `StepPreserves.keeping_step`, `StepClosed.keeping_step` — the steps of the daemon
-/

namespace Segwire.Daemon

open Foundation Segwire.Common

/-- An invariant of the managers that the doings of handlers keep, where `q` holds of every
stored configuration, and `p` of it with the name generated for it. -/
structure HandlerPreserves (Inv : Managers → Prop) (q : NamespaceConfig → Prop)
    (p : NamespaceConfig → String → Prop) : Prop where
  setHost : ∀ m host, Inv m → Inv (m.setHost host)
  stored : ∀ m k entry, Inv m → m.configManager.namespaceConfigs.lookup k = some entry →
    q entry.config
  generated : ∀ m config, Inv m → q config →
    p config (m.configManager.generateFullNamespaceName config.namespace_.name)
  record : ∀ m (config : NamespaceConfig) fullName configPath now, Inv m → p config fullName →
    let state := NamespaceState.new config.namespace_.name fullName configPath now
    Inv { m with stateManager := m.stateManager.updateNamespaceState state }
  forget : ∀ m name, Inv m →
    Inv { m with stateManager := m.stateManager.removeNamespaceState name }

/-- An invariant that the other steps keep, too, apart from file events. -/
structure StepPreserves (Inv : Managers → Prop) (q : NamespaceConfig → Prop)
    (p : NamespaceConfig → String → Prop) : Prop extends HandlerPreserves Inv q p where
  synchronize : ∀ m orders, Inv m → Inv (Managers.synchronize m orders).2
  maintain : ∀ m, Inv m → Inv { m with stateManager := m.stateManager.performMaintenance }
  resolve : ∀ m conflict, Inv m →
    Inv { m with stateManager := (m.stateManager.resolveConflict conflict m.configManager).2 }

/-- An invariant of the managers that the doings of handlers keep, where `p` holds of
every generated name. -/
structure HandlerClosed (Inv : Managers → Prop) (p : String → Prop) : Prop where
  setHost : ∀ m host, Inv m → Inv (m.setHost host)
  generated : ∀ m name, Inv m → p (m.configManager.generateFullNamespaceName name)
  record : ∀ m (state : NamespaceState), Inv m → p state.fullName →
    Inv { m with stateManager := m.stateManager.updateNamespaceState state }
  forget : ∀ m name, Inv m →
    Inv { m with stateManager := m.stateManager.removeNamespaceState name }

/-- An invariant that the other steps keep, too, apart from file events. -/
structure StepClosed (Inv : Managers → Prop) (p : String → Prop) : Prop
    extends HandlerClosed Inv p where
  synchronize : ∀ m orders, Inv m → Inv (Managers.synchronize m orders).2
  maintain : ∀ m, Inv m → Inv { m with stateManager := m.stateManager.performMaintenance }
  resolve : ∀ m conflict, Inv m →
    Inv { m with stateManager := (m.stateManager.resolveConflict conflict m.configManager).2 }

/-! ### Handlers -/

namespace HandlerPreserves

variable {Inv : Managers → Prop} {q : NamespaceConfig → Prop} {p : NamespaceConfig → String → Prop}
  (h : HandlerPreserves Inv q p)
include h

theorem now (m : Managers) (hm : Inv m) : Inv m.now.2 := h.setHost m _ hm

theorem onMachine {α : Type} (operation : NetlinkManager → SegwireResult α × NetlinkManager)
    (m : Managers) (hm : Inv m) : Inv (Managers.onMachine operation m).2 := by
  unfold Managers.onMachine
  split
  · exact h.setHost m _ hm
  · exact h.setHost m _ hm

omit h in
theorem keeps_read {α : Type} (f : Managers → α) : (Task.read f).Keeps Inv fun _ => True :=
  Task.keeps_read fun _ _ => trivial

theorem keeps_createNamespaceFromConfig {config : NamespaceConfig} (hconfig : q config) :
    (createNamespaceFromConfig config).Keeps Inv fun _ => True := by
  -- the full name is generated in a section of its own and recorded in a later one
  refine Task.Keeps.bind (Q := p config) (Task.keeps_read fun m hm => h.generated m _ hm hconfig)
    fun fullName hname => ?_
  refine Task.Keeps.bind (Q := fun _ => True)
    (Task.keeps_atomic fun m hm => ⟨h.onMachine _ m hm, trivial⟩) fun created _ => ?_
  cases created with
  | error e => exact Task.keeps_done trivial
  | ok info =>
    refine Task.Keeps.bind (keeps_read _) fun configPath _ => ?_
    exact Task.keeps_atomic fun m hm => ⟨h.record _ _ _ _ _ (h.now m hm) hname, trivial⟩

theorem keeps_deleteNamespaceByName (name : String) :
    (deleteNamespaceByName name).Keeps Inv fun _ => True := by
  refine Task.Keeps.bind (keeps_read _) fun fullName _ => ?_
  refine Task.Keeps.bind (keeps_read _) fun tracked _ => ?_
  split_ifs
  · exact Task.keeps_done trivial
  refine Task.Keeps.bind (Q := fun _ => True)
    (Task.keeps_atomic fun m hm => ⟨h.onMachine _ m hm, trivial⟩) fun deleted _ => ?_
  cases deleted with
  | error e => exact Task.keeps_done trivial
  | ok deletion =>
    exact Task.keeps_atomic fun m hm => ⟨h.forget _ _ (h.forget m _ hm), trivial⟩

theorem keeps_restartNamespace (name : String) :
    (restartNamespace name).Keeps Inv fun _ => True := by
  refine Task.Keeps.bind (Q := fun config => ∀ c ∈ config, q c)
    (Task.keeps_read fun m hm c hc => ?_) fun config hconfig => ?_
  · obtain ⟨entry, hentry, rfl⟩ := Option.map_eq_some_iff.mp hc
    rcases Option.or_eq_some_iff.mp hentry with hfound | ⟨-, hfound⟩
    · exact h.stored m _ entry hm hfound
    · exact h.stored m _ entry hm hfound
  cases config with
  | none => exact Task.keeps_done trivial
  | some config =>
    refine Task.Keeps.bind (h.keeps_deleteNamespaceByName name) fun deleted _ => ?_
    cases deleted with
    | error e => exact Task.keeps_done trivial
    | ok deletion =>
      refine Task.Keeps.bind (h.keeps_createNamespaceFromConfig (hconfig config rfl))
        fun created _ => ?_
      cases created <;> exact Task.keeps_done trivial

omit h in
theorem keeps_execAuthorize (namespaceName : String) :
    (execAuthorize namespaceName).Keeps Inv fun _ => True := by
  refine Task.Keeps.bind (keeps_read _) fun fullName _ => ?_
  refine Task.Keeps.bind (keeps_read _) fun nsState _ => ?_
  cases nsState with
  | none => exact Task.keeps_done trivial
  | some ns =>
    dsimp only
    split_ifs
    · refine Task.Keeps.bind (keeps_read _) fun pathExists _ => ?_
      split_ifs <;> exact Task.keeps_done trivial
    · exact Task.keeps_done trivial

theorem keeps_serve (svc : ServiceState) (sur : Surroundings) (method : Method) :
    (svc.serve sur method).Keeps Inv fun _ => True := by
  cases method with
  | listNamespaces => exact Task.Keeps.bind (keeps_read _) fun _ _ => keeps_read _
  | getNamespaceStatus name => exact Task.Keeps.bind (keeps_read _) fun _ _ => keeps_read _
  | deleteNamespace name =>
    refine Task.Keeps.bind (h.keeps_deleteNamespaceByName name) fun deleted _ => ?_
    cases deleted <;> exact Task.keeps_done trivial
  | reloadConfiguration => exact Task.Keeps.bind (keeps_read _) fun _ _ => keeps_read _
  | validateConfiguration configPath => exact keeps_read _
  | getDaemonStatus =>
    refine Task.Keeps.bind (Q := fun _ => True)
      (Task.keeps_atomic fun m hm => ⟨h.now m hm, trivial⟩) fun now _ => ?_
    refine Task.Keeps.bind (keeps_read _) fun stateStats _ => ?_
    exact Task.Keeps.bind (keeps_read _) fun _ _ => Task.keeps_done trivial
  | restartNamespace name => exact h.keeps_restartNamespace name
  | execAuthorize namespaceName => exact keeps_execAuthorize namespaceName

/-- The sections of a handler keep the invariant. -/
theorem keeps_handle (svc : ServiceState) (sur : Surroundings) (caller : Caller)
    (method : Method) : (svc.handle sur caller method).Keeps Inv fun _ => True := by
  unfold ServiceState.handle
  split
  · exact Task.keeps_done trivial
  · split
    · exact Task.keeps_done trivial
    · exact h.keeps_serve svc sur method

end HandlerPreserves

/-- Where only recorded names matter, nothing is required of the configurations. -/
theorem HandlerClosed.preserves {Inv : Managers → Prop} {p : String → Prop}
    (h : HandlerClosed Inv p) : HandlerPreserves Inv (fun _ => True) fun _ => p where
  setHost := h.setHost
  stored _ _ _ _ _ := trivial
  generated m config hm _ := h.generated m config.namespace_.name hm
  record m _ _ _ _ hm hname := h.record m _ hm hname
  forget := h.forget

/-! ### Steps of the daemon -/

namespace DaemonEventLoop

/-- The managers satisfy an invariant, and the sections that are left of the D-Bus call
being served keep it. -/
structure Keeping (Inv : Managers → Prop) (s : DaemonEventLoop) : Prop where
  managers : Inv s.managers
  call : ∀ handler ∈ s.call, handler.Keeps Inv fun _ => True

theorem keeps_of_mem_unfinished {Inv : Managers → Prop}
    {handler rest : Handler (Except MethodErr Reply)}
    (h : handler.Keeps Inv fun _ => True) (hrest : rest ∈ unfinished handler) :
    rest.Keeps Inv fun _ => True := by
  cases handler with
  | done result => cases hrest
  | act effect next =>
    obtain rfl := Option.some.inj hrest
    exact h

/-- The managers after the handling of a file event. -/
def handled (platform : Platform) (s : DaemonEventLoop) (event : ConfigFileEvent)
    (fs fsScan : FileSystem) (order : IterOrder String) : Managers :=
  { s.managers with
    configManager :=
      (s.managers.configManager.handleFileEvent platform fs fsScan order event).2 }

end DaemonEventLoop

namespace StepPreserves

open DaemonEventLoop

variable {Inv : Managers → Prop} {q : NamespaceConfig → Prop} {p : NamespaceConfig → String → Prop}
  (h : StepPreserves Inv q p) {platform : Platform} {s : DaemonEventLoop}
include h

/-- Every step keeps the invariant if the handling of file events does. -/
theorem keeping_step (hs : s.Keeping Inv) {input : Input}
    (hevent : ∀ event fs fsScan order, input = .configEvent event fs fsScan order →
      s.configThread = .waiting → Inv (s.handled platform event fs fsScan order)) :
    (step platform s input).Keeping Inv := by
  obtain ⟨hm, hcall⟩ := hs
  cases input with
  | configEvent event fs fsScan order =>
    unfold step
    cases hthread : s.configThread with
    | affected => exact ⟨hm, hcall⟩
    | waiting => exact ⟨hevent event fs fsScan order rfl hthread, hcall⟩
  | forceSync orders =>
    unfold step
    cases s.configThread with
    | waiting => exact ⟨hm, hcall⟩
    | affected => exact ⟨h.synchronize _ orders hm, hcall⟩
  | initialSync orders =>
    unfold step
    cases s.stateThread with
    | starting => exact ⟨h.synchronize _ orders hm, hcall⟩
    | idle | syncNeeded => exact ⟨hm, hcall⟩
  | checkNeedsSync =>
    unfold step
    cases s.stateThread with
    | idle => exact ⟨h.setHost s.managers s.managers.host.now.2 hm, hcall⟩
    | starting | syncNeeded => exact ⟨hm, hcall⟩
  | periodicSync orders =>
    unfold step
    cases s.stateThread with
    | syncNeeded => exact ⟨h.maintain _ (h.synchronize _ orders hm), hcall⟩
    | starting | idle => exact ⟨hm, hcall⟩
  | resolveConflict conflict => exact ⟨h.resolve _ conflict hm, hcall⟩
  | dbusCall sur caller method =>
    unfold step
    cases hnone : s.call with
    | some handler => exact ⟨hm, hcall⟩
    | none =>
      exact ⟨hm, fun handler hhandler =>
        keeps_of_mem_unfinished (h.keeps_handle _ _ _ _) hhandler⟩
  | dbusSection =>
    unfold step
    cases hsome : s.call with
    | none => exact ⟨hm, hcall⟩
    | some handler =>
      obtain ⟨hmanagers, hrest⟩ := Task.Keeps.advance (hcall handler hsome) hm
      exact ⟨hmanagers, fun rest hmem => keeps_of_mem_unfinished hrest hmem⟩
  | hostChange host => exact ⟨h.setHost _ host hm, hcall⟩

end StepPreserves

theorem StepClosed.keeping_step {Inv : Managers → Prop} {p : String → Prop} (h : StepClosed Inv p)
    {platform : Platform} {s : DaemonEventLoop} (hs : s.Keeping Inv) {input : Input}
    (hevent : ∀ event fs fsScan order, input = .configEvent event fs fsScan order →
      s.configThread = .waiting → Inv (s.handled platform event fs fsScan order)) :
    (DaemonEventLoop.step platform s input).Keeping Inv :=
  have hpreserves : StepPreserves Inv (fun _ => True) fun _ => p :=
    { h.toHandlerClosed.preserves with
      synchronize := h.synchronize, maintain := h.maintain, resolve := h.resolve }
  hpreserves.keeping_step hs hevent

end Segwire.Daemon
