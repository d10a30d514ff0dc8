import Segwire.Daemon.RestartRecovery
import Segwire.Daemon.SerialCreations

/-!
# Requests and synchronizations

A restart forgets a namespace after the call that deletes it, and records it again only
after the call that creates it. In the meantime the namespace is configured and untracked,
so a synchronization creates it, and the restart fails where it would succeed in either
serial order. As long as no synchronization interferes in this way, the requests that
delete a namespace are serializable.

## Main results

* `Managers.serialOutcome_of_interleaves` — an undisturbed interleaving is serial
* `DaemonEventLoop.serializable_along_run`, `DaemonEventLoop.not_serializable_restart`
-/

namespace Segwire.Daemon

open Foundation Segwire.Common

namespace Managers

variable {m : Managers} {orders : SyncOrders} {svc : ServiceState} {sur : Surroundings}
  {caller : Caller} {name pfx : String}

/-- An interleaving of an undisturbed request with a synchronization is serial. -/
theorem serialOutcome_of_interleaves {request : Request} {out : Except MethodErr Reply × Managers}
    (hnames : m.NamesAgree request.name)
    (h : Interleaves (Undisturbed m) (request.handle svc sur caller) (synchronizeSections orders)
      false m out) : SerialOutcome (svc.handle sur caller request.method) orders m out := by
  by_cases hserved : Served svc sur caller request.method
  · rw [Request.handle_of_served hserved] at h
    rw [hserved.handle]
    cases request with
    | delete name => exact serialOutcome_deleteNamespace hnames h
    | restart name => exact serialOutcome_restartNamespace hnames h
  · -- the request is refused before it does anything
    obtain ⟨e, hrefused⟩ := Request.exists_handle_of_not_served hserved
    rw [hrefused] at h
    refine .inr ?_
    rw [← Request.erase_handle, hrefused, done_cases h]
    exact ⟨rfl, fun _ => rfl⟩

/-- Names that carry the prefix and linked entries agree. -/
theorem namesAgree_of_linked (hprefixed : m.Prefixed pfx) (hlinked : m.configManager.Linked)
    (name : String) : m.NamesAgree name where
  unknown hne := by
    have hmatches (h : ConfigManager.matchesPrefix pfx name = true) : False := by
      rw [← hprefixed.config.prefix_eq] at h
      exact hne (ConfigManager.generateFullNamespaceName_of_matches h)
    constructor
    · by_contra htracked
      exact hmatches (hprefixed.tracked name (Option.isSome_iff_ne_none.mpr htracked))
    · by_contra hconfigured
      exact hmatches (hprefixed.config.configured name (Option.isSome_iff_ne_none.mpr hconfigured))
  restarted _ hentry := (fullName_restartEntry hlinked hentry).symm

end Managers

/-! ### Runs of the daemon -/

namespace DaemonEventLoop

variable {platform : Platform}

/-- In every state that a run of the daemon reaches, an undisturbed interleaving of a request
that deletes a namespace with a synchronization has the outcome of a serial order, if the
names of the request agree; so they do if the run has kept the prefix and read every
directory. -/
theorem serializable_along_run {setup : Setup} {s₀ : DaemonEventLoop}
    (hstart : start platform setup = .ok s₀) (inputs : List Input) (sur : Surroundings)
    (caller : Caller) (request : Request) (orders : SyncOrders)
    (out : Except MethodErr Reply × Managers) :
    let s := run (step platform) s₀ inputs
    s.managers.NamesAgree request.name ∨
      AlongRun (step platform) (KeepsPrefix platform) s₀ inputs ∧
        AlongRun (step platform) (ReadsDirectory platform) s₀ inputs →
    Interleaves (Managers.Undisturbed s.managers) (request.handle s.service sur caller)
      (Managers.synchronizeSections orders) false s.managers out →
    Managers.SerialOutcome (s.service.handle sur caller request.method) orders s.managers out := by
  intro s hnames h
  refine Managers.serialOutcome_of_interleaves ?_ h
  rcases hnames with hagree | ⟨hkeeps, hreads⟩
  · exact hagree
  · exact Managers.namesAgree_of_linked (prefixed_along_run hstart hkeeps).managers
      (linkedConfigs_along_run hstart hreads) request.name

/-- A deletion during a synchronization. -/
theorem serializable_along_initialSync : ∃ s₀ out, start Managers.bridgeText bridgeSetup = .ok s₀ ∧
    Managers.SerialOutcome
      ((run (step Managers.bridgeText) s₀ [.initialSync .sorted]).service.handle
        (.authorizing Managers.bridgeText) operator (.deleteNamespace "one")) .sorted
      (run (step Managers.bridgeText) s₀ [.initialSync .sorted]).managers out := by
  have hstart : start Managers.bridgeText bridgeSetup = .ok _ := rfl
  exact ⟨_, _, hstart, serializable_along_run hstart [.initialSync .sorted]
    (.authorizing Managers.bridgeText) operator (.delete "one") .sorted _
    (.inr ⟨⟨trivial, trivial⟩, trivial, trivial⟩)
    (.locked trivial (.locked trivial (.critical (.call (fun _ => .inr rfl)
      (.critical (.critical (.critical (.locked trivial .finish))))))))⟩

/-- A synchronization between the deletion and the creation of a restart creates the namespace,
so the restart fails, as it does in neither serial order. -/
theorem not_serializable_restart : ∃ s₀ out, start Managers.bridgeText bridgeSetup = .ok s₀ ∧
    Interleaves (fun _ _ _ => True)
      (Request.handle (run (step Managers.bridgeText) s₀ [.initialSync .sorted]).service
        (.authorizing Managers.bridgeText) operator (.restart "one"))
      (Managers.synchronizeSections .sorted) false
      (run (step Managers.bridgeText) s₀ [.initialSync .sorted]).managers out ∧
    ¬ Managers.SerialOutcome
      ((run (step Managers.bridgeText) s₀ [.initialSync .sorted]).service.handle
        (.authorizing Managers.bridgeText) operator (.restartNamespace "one")) .sorted
      (run (step Managers.bridgeText) s₀ [.initialSync .sorted]).managers out := by
  refine ⟨_, _, rfl, .locked trivial (.locked trivial (.locked trivial (.call trivial
    (.locked trivial (.critical (.critical (.critical (.critical (.critical (.critical
      (.locked trivial (.call trivial .finish)))))))))))), ?_⟩
  rintro (⟨hanswer, -⟩ | ⟨hanswer, -⟩)
  · revert hanswer
    decide
  · revert hanswer
    decide

end DaemonEventLoop

end Segwire.Daemon
