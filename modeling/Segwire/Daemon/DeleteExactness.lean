import Segwire.Daemon.ExecPath
import Segwire.Daemon.NamespaceHandlers

/-!
# What DeleteNamespace deletes

`DeleteNamespace` accepts a state under the requested name or under its full name,
deletes the namespace of the full name, and forgets both. For a name that carries the
prefix the two are one. A state kept from before a change of the prefix is found under
the requested name, and the namespace that is deleted is another one.

## Main definitions

* `Managers.Removes` — one tracked namespace has been taken away, and nothing else
* `Managers.DeleteExact` — a successful call removes one namespace, a failed one no state
* `Managers.DeletesAnother` — the calls that delete another namespace

## Main results

* `Managers.deleteExact_iff` — exactly these calls are not exact
* `DaemonEventLoop.deleteExact_along_run`, `DaemonEventLoop.delete_inexact_after_prefix_change`
-/

namespace Segwire.Daemon

open Foundation Segwire.Common

theorem ConfigManager.generateFullNamespaceName_ne {manager : ConfigManager} {name : String}
    (h : manager.matchesNamespacePrefix name = false) :
    manager.generateFullNamespaceName name ≠ name := by
  intro hsame
  rw [generateFullNamespaceName, h, if_neg Bool.false_ne_true] at hsame
  have hlength := congrArg (fun text => text.toList.length) hsame
  simp at hlength
  omega

namespace Managers

variable (m : Managers) (svc : ServiceState) (sur : Surroundings) (caller : Caller) (name : String)

/-- The call to `DeleteNamespace` is answered with success. -/
def DeleteSucceeds : Prop :=
  ∃ result, ((svc.handle sur caller (.deleteNamespace name)).run m).1 = .ok (.operation result) ∧
    result.success = true

/-- The managers after the call. -/
def afterDelete : Managers := ((svc.handle sur caller (.deleteNamespace name)).run m).2

/-- The tracked namespace `k` has been taken away: its file and its state, and nothing
else. -/
structure Removes (m : Managers) (k : String) (m' : Managers) : Prop where
  tracked : m.stateManager.namespaceStates.contains k = true
  present : m.host.netnsPathExists k = true
  states : m'.stateManager.namespaceStates = m.stateManager.namespaceStates.erase k
  machine : ∀ k', m'.host.netnsFile k' = if k' = k then none else m.host.netnsFile k'
  simulation : m'.stateManager.netlinkManager.backend = m.stateManager.netlinkManager.backend

/-- A call that succeeds takes one tracked namespace away, and a call that fails no
tracked state. -/
def DeleteExact : Prop :=
  (m.DeleteSucceeds svc sur caller name → ∃ k, m.Removes k (m.afterDelete svc sur caller name)) ∧
    (¬ m.DeleteSucceeds svc sur caller name →
      (m.afterDelete svc sur caller name).stateManager.namespaceStates =
        m.stateManager.namespaceStates)

/-- A served call for a tracked name that does not carry the prefix, where the machine
deletes the namespace of its full name. -/
structure DeletesAnother : Prop where
  served : Served svc sur caller (.deleteNamespace name)
  requested : m.stateManager.namespaceStates.contains name = true
  foreign : m.configManager.matchesNamespacePrefix name = false
  deleted : m.machineDeletes (m.configManager.generateFullNamespaceName name) = true

variable {m svc sur caller name}

/-- A served call succeeds iff the deletion by name does. -/
theorem run_handle_deleteNamespace (m : Managers)
    (h : Served svc sur caller (.deleteNamespace name)) :
    (m.DeleteSucceeds svc sur caller name ↔ ((deleteNamespaceByName name).run m).1 = .ok ()) ∧
      m.afterDelete svc sur caller name = ((deleteNamespaceByName name).run m).2 := by
  unfold DeleteSucceeds afterDelete
  rw [h.handle]
  simp only [ServiceState.serve, Daemon.deleteNamespace, Task.run_bind]
  rcases (deleteNamespaceByName name).run m with ⟨e | ⟨⟩, m'⟩
  · refine ⟨⟨?_, fun hok => by cases hok⟩, rfl⟩
    rintro ⟨result, hreply, hsuccess⟩
    obtain rfl := Reply.operation.inj (Except.ok.inj hreply)
    cases hsuccess
  · exact ⟨⟨fun _ => rfl, fun _ => ⟨_, rfl, rfl⟩⟩, rfl⟩

section Deleted

variable {k fullName : String} {m₁ : Managers}
  (hspec : MachineDeletion m fullName (.ok ()) m₁)
include hspec

/-- Forgetting both names removes the namespace of the full name, if the requested name
adds nothing to that. -/
theorem removes_forgetBoth
    (htracked : m.stateManager.namespaceStates.contains fullName = true)
    (hrequested : fullName = name ∨ m.stateManager.namespaceStates.contains name = false) :
    m.Removes fullName (m₁.forgetBoth name fullName) := by
  have hfile := hspec.netnsFile
  obtain ⟨host, -, rfl⟩ := hspec.touched
  refine ⟨htracked, netnsPathExists_of_machineDeletes (hspec.ok_iff.mp rfl), ?_, hfile, rfl⟩
  apply KeyedMap.ext
  intro k
  rw [lookup_forgetBoth, KeyedMap.lookup_erase]
  split_ifs with hfull hname
  · rfl
  · -- the requested name is not the full name, so it was not tracked
    subst hname
    rcases hrequested with hsame | huntracked
    · exact absurd hsame.symm hfull
    · exact (KeyedMap.contains_eq_false_iff.mp huntracked).symm
  · rfl

/-- The namespace whose file went is the one that was removed. -/
theorem eq_of_removes (hk : m.Removes k (m₁.forgetBoth name fullName)) : fullName = k := by
  by_contra hne
  have hthere := netnsPathExists_of_machineDeletes (hspec.ok_iff.mp rfl)
  have hkept := hk.machine fullName
  rw [if_neg hne] at hkept
  rw [Host.netnsPathExists_eq, ← hkept] at hthere
  change (m₁.host.netnsFile fullName).isSome = true at hthere
  rw [hspec.netnsFile, if_pos rfl] at hthere
  cases hthere

theorem contains_eq_false_of_removes (hk : m.Removes k (m₁.forgetBoth name fullName))
    (hne : name ≠ fullName) : m.stateManager.namespaceStates.contains name = false := by
  have hself := eq_of_removes hspec hk
  have hlost := congrArg (·.lookup name) hk.states
  rw [lookup_forgetBoth, if_neg hne, if_pos rfl, ← hself, KeyedMap.lookup_erase,
    if_neg hne] at hlost
  exact KeyedMap.contains_eq_false_iff.mpr hlost.symm

end Deleted

/-- A call removes one namespace unless it finds its state under the requested name and
deletes another namespace. -/
theorem deleteExact_iff :
    m.DeleteExact svc sur caller name ↔ ¬ m.DeletesAnother svc sur caller name := by
  by_cases hserved : Served svc sur caller (.deleteNamespace name)
  swap
  · -- the call is rejected
    obtain ⟨e, he⟩ := exists_handle_of_not_served hserved
    have hafter : m.afterDelete svc sur caller name = m := by rw [afterDelete, he]; rfl
    refine ⟨fun _ hanother => hserved hanother.served, fun _ => ⟨?_, fun _ => by rw [hafter]⟩⟩
    rintro ⟨result, hreply, -⟩
    rw [he] at hreply
    cases hreply
  obtain ⟨hsucceeds, hafter⟩ := run_handle_deleteNamespace m hserved
  unfold DeleteExact
  rw [hsucceeds, hafter]
  obtain ⟨huntracked, e, hrun⟩ | ⟨htracked, hmachine⟩ := run_deleteNamespaceByName_cases m name
  · rw [hrun]
    refine ⟨fun _ hanother => ?_, fun _ => ⟨nofun, fun _ => rfl⟩⟩
    rw [tracksEither, hanother.requested] at huntracked
    cases huntracked
  have hspec := onMachine_delete m (m.configManager.generateFullNamespaceName name)
  have hstates := namespaceStates_onMachine
    (·.deleteNamespace (m.configManager.generateFullNamespaceName name)) m
  obtain ⟨e, m₁, hdelete, hrun⟩ | ⟨m₁, hdelete, hrun⟩ := hmachine <;>
    rw [hdelete] at hspec hstates <;>
    rw [hrun]
  · -- the machine refuses, and nothing is forgotten
    refine ⟨fun _ hanother => ?_, fun _ => ⟨nofun, fun _ => hstates⟩⟩
    cases hspec.ok_iff.mpr hanother.deleted
  · constructor
    · rintro ⟨hexact, -⟩ hanother
      obtain ⟨k, hk⟩ := hexact rfl
      have huntracked := contains_eq_false_of_removes hspec hk
        (ConfigManager.generateFullNamespaceName_ne hanother.foreign).symm
      rw [hanother.requested] at huntracked
      cases huntracked
    · intro hanother
      -- the requested name is its own full name, or it is not tracked
      have hname : m.configManager.generateFullNamespaceName name = name ∨
          m.stateManager.namespaceStates.contains name = false := by
        cases hmatches : m.configManager.matchesNamespacePrefix name with
        | true => exact .inl (ConfigManager.generateFullNamespaceName_of_matches hmatches)
        | false =>
          refine .inr (Bool.not_eq_true _ ▸ fun hrequested => hanother ?_)
          exact ⟨hserved, hrequested, hmatches, hspec.ok_iff.mp rfl⟩
      refine ⟨fun _ => ⟨_, removes_forgetBoth hspec ?_ hname⟩, fun hfails => absurd rfl hfails⟩
      rw [tracksEither] at htracked
      rcases hname with hsame | huntracked
      · rw [hsame, Bool.or_self] at htracked
        rw [hsame]
        exact htracked
      · rw [huntracked, Bool.false_or] at htracked
        exact htracked

end Managers

namespace DaemonEventLoop

variable {platform : Platform}

/-- While all names carry the prefix, no call deletes another namespace. -/
theorem Prefixed.not_deletesAnother {s : DaemonEventLoop} {pfx : String} (h : s.Prefixed pfx)
    {sur : Surroundings} {caller : Caller} {name : String} :
    ¬ s.managers.DeletesAnother s.service sur caller name := by
  intro hanother
  have hmatches : s.managers.configManager.matchesNamespacePrefix name = true := by
    rw [ConfigManager.matchesNamespacePrefix, h.managers.config.prefix_eq]
    exact h.managers.tracked name hanother.requested
  rw [hanother.foreign] at hmatches
  cases hmatches

/-- In every state that a run of the daemon reaches, a call to `DeleteNamespace` is
exact unless it deletes another namespace than it found; if no step of the run changed
the prefix, every call is. -/
theorem deleteExact_along_run {setup : Setup} {s₀ : DaemonEventLoop}
    (hstart : start platform setup = .ok s₀) (inputs : List Input) :
    (∀ sur caller name,
      (run (step platform) s₀ inputs).managers.DeleteExact
          (run (step platform) s₀ inputs).service sur caller name ↔
        ¬ (run (step platform) s₀ inputs).managers.DeletesAnother
          (run (step platform) s₀ inputs).service sur caller name) ∧
    (AlongRun (step platform) (KeepsPrefix platform) s₀ inputs →
      ∀ sur caller name, (run (step platform) s₀ inputs).managers.DeleteExact
        (run (step platform) s₀ inputs).service sur caller name) :=
  ⟨fun _ _ _ => Managers.deleteExact_iff, fun hkeeps _ _ _ =>
    Managers.deleteExact_iff.mpr (prefixed_along_run hstart hkeeps).not_deletesAnother⟩

theorem deleteExact_along_masterChanged : ∃ s₀, start twoPrefixes oldPrefix = .ok s₀ ∧
    ∀ sur caller name, (run (step twoPrefixes) s₀
      (bothCreated ++ [masterChanged "old"])).managers.DeleteExact
        (run (step twoPrefixes) s₀ (bothCreated ++ [masterChanged "old"])).service
        sur caller name := by
  have hstart : start twoPrefixes oldPrefix = .ok _ := rfl
  refine ⟨_, hstart, (deleteExact_along_run hstart _).2 ⟨trivial, trivial, ?_, trivial⟩⟩
  intro _ _ config hload
  obtain rfl := Except.ok.inj hload
  rfl

/-- After a change of the prefix, the deletion of the daemon's own namespace deletes that
of somebody else. -/
theorem delete_inexact_after_prefix_change : ∃ s₀, start twoPrefixes oldPrefix = .ok s₀ ∧
    ¬ (run (step twoPrefixes) s₀
      (bothCreated ++ [masterChanged "new"])).managers.DeleteExact
        (run (step twoPrefixes) s₀ (bothCreated ++ [masterChanged "new"])).service
        (.authorizing twoPrefixes) operator "old-app" := by
  refine ⟨_, rfl, fun hexact => ?_⟩
  -- `old-app` is still tracked, and its full name is by now that of the other namespace
  exact Managers.deleteExact_iff.mp hexact ⟨⟨rfl, rfl⟩, by decide, by decide, by decide⟩

end DaemonEventLoop

end Segwire.Daemon
