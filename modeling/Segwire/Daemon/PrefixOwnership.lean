import Segwire.Daemon.PrefixedNames

/-!
# Ownership by prefix

Daemons on one machine tell their namespaces apart by their prefixes: a name belongs to
a daemon if it is its prefix, or continues it after a separator. A prefix may contain
the separator, so one prefix can be a name under another, and then every name under it is
a name under the other, too. Otherwise no name belongs to both.

## Main definitions

* `Apart` — neither prefix is a name under the other
* `Managers.Ignores` — a synchronization has nothing to do with a name
* `OwnDisjointly` — two daemons have no name in common, and ignore each other's

## Main results

* `matchesPrefix_iff` — the names under a prefix
* `ownDisjointly_iff` — the prefixes that separate two daemons
* `not_ownDisjointly_of_dash`
-/

namespace Segwire.Daemon

open Foundation Foundation.Text Segwire.Common ConfigManager

/-! ### Names under two prefixes -/

theorem startsWith_singleton_iff {s t : String} {c : Char} (ht : t.toList = [c]) :
    startsWith s t = true ↔ ∃ rest, s.toList = c :: rest := by
  unfold startsWith
  rw [List.isPrefixOf_iff_prefix, ht]
  constructor
  · rintro ⟨rest, hrest⟩
    exact ⟨rest, hrest.symm⟩
  · rintro ⟨rest, hrest⟩
    exact ⟨rest, hrest.symm⟩

theorem byteLen_append_eq_iff {s t : String} : byteLen (s ++ t) = byteLen s ↔ t = "" := by
  unfold byteLen
  rw [String.utf8ByteSize_append, ← String.utf8ByteSize_eq_zero_iff]
  omega

/-- A name under a prefix is the prefix, or continues it after a separator. -/
theorem matchesPrefix_iff {pfx name : String} :
    matchesPrefix pfx name = true ↔
      name = pfx ∨ ∃ c rest, (c = '-' ∨ c = '_') ∧ name.toList = pfx.toList ++ c :: rest := by
  by_cases hstart : startsWith name pfx = true
  · obtain ⟨rest, rfl⟩ := startsWith_iff.mp hstart
    have hremaining : String.ofList ((pfx ++ rest).toList.drop pfx.toList.length) = rest :=
      String.toList_inj.mp (by simp)
    have hname (c : Char) (tail : List Char) :
        (pfx ++ rest).toList = pfx.toList ++ c :: tail ↔ rest.toList = c :: tail := by
      rw [String.toList_append, List.append_right_inj]
    unfold matchesPrefix
    dsimp only
    rw [if_pos hstart, hremaining]
    by_cases hempty : rest = ""
    · rw [if_pos (byteLen_append_eq_iff.mpr hempty)]
      subst hempty
      simp
    · have hne : pfx ++ rest ≠ pfx := fun heq =>
        hempty (byteLen_append_eq_iff.mp (congrArg byteLen heq))
      rw [if_neg fun h => hempty (byteLen_append_eq_iff.mp h), Bool.or_eq_true,
        startsWith_singleton_iff (c := '-') rfl, startsWith_singleton_iff (c := '_') rfl]
      simp only [hne, false_or, hname]
      constructor
      · rintro (⟨tail, htail⟩ | ⟨tail, htail⟩)
        · exact ⟨'-', tail, .inl rfl, htail⟩
        · exact ⟨'_', tail, .inr rfl, htail⟩
      · rintro ⟨c, tail, rfl | rfl, htail⟩
        · exact .inl ⟨tail, htail⟩
        · exact .inr ⟨tail, htail⟩
  · unfold matchesPrefix
    rw [if_neg hstart]
    constructor
    · intro h
      cases h
    · rintro (rfl | ⟨c, rest, -, hname⟩)
      · exact absurd (startsWith_iff.mpr ⟨"", by simp⟩) hstart
      · refine absurd (startsWith_iff.mpr ⟨String.ofList (c :: rest), ?_⟩) hstart
        exact String.toList_inj.mp (by simpa using hname)

/-- Neither prefix is a name under the other. -/
def Apart (p q : String) : Prop := matchesPrefix p q = false ∧ matchesPrefix q p = false

instance (p q : String) : Decidable (Apart p q) :=
  inferInstanceAs (Decidable (matchesPrefix p q = false ∧ matchesPrefix q p = false))

theorem matchesPrefix_self (pfx : String) : matchesPrefix pfx pfx = true :=
  matchesPrefix_iff.mpr (.inl rfl)

/-- Of two prefixes of one name, one is a name under the other. -/
theorem exists_matchesPrefix_iff {p q : String} :
    (∃ name, matchesPrefix p name = true ∧ matchesPrefix q name = true) ↔ ¬ Apart p q := by
  unfold Apart
  rw [not_and_or, Bool.not_eq_false, Bool.not_eq_false]
  constructor
  · rintro ⟨name, hp, hq⟩
    rcases matchesPrefix_iff.mp hp with rfl | ⟨c, rest, hc, hname⟩
    · exact .inr hq
    rcases matchesPrefix_iff.mp hq with rfl | ⟨d, rest', hd, hname'⟩
    · exact .inl hp
    -- the name goes on after both prefixes, the longer of which goes on after the other
    rcases List.append_eq_append_iff.mp (hname.symm.trans hname') with
      ⟨gap, hgap, hrest⟩ | ⟨gap, hgap, hrest⟩
    · cases gap with
      | nil =>
        obtain rfl : q = p := String.toList_inj.mp (by simpa using hgap)
        exact .inl (matchesPrefix_self q)
      | cons g gap =>
        obtain ⟨rfl, -⟩ := List.cons.inj hrest
        exact .inl (matchesPrefix_iff.mpr (.inr ⟨c, gap, hc, hgap⟩))
    · cases gap with
      | nil =>
        obtain rfl : p = q := String.toList_inj.mp (by simpa using hgap)
        exact .inl (matchesPrefix_self p)
      | cons g gap =>
        obtain ⟨rfl, -⟩ := List.cons.inj hrest
        exact .inr (matchesPrefix_iff.mpr (.inr ⟨d, gap, hd, hgap⟩))
  · rintro (h | h)
    · exact ⟨q, h, matchesPrefix_self q⟩
    · exact ⟨p, matchesPrefix_self p, h⟩

/-! ### Two daemons -/

namespace Managers

variable {m m' : Managers} {p q : String}

/-- No synchronization tracks the name, or reports it as missing or as an orphan that is to
be deleted. -/
structure Ignores (m : Managers) (k : String) : Prop where
  tracked : ∀ orders, (m.synchronize orders).2.stateManager.namespaceStates.contains k = false
  conflicts : ∀ orders result, (m.synchronize orders).1 = .ok result →
    ∀ conflict ∈ result.conflicts, conflict.namespaceName ≠ k

/-- The name is configured or tracked. -/
def Knows (m : Managers) (k : String) : Prop :=
  m.configManager.namespaceConfigs.contains k = true ∨
    m.stateManager.namespaceStates.contains k = true

theorem Prefixed.matchesPrefix_of_knows (h : m.Prefixed p) {k : String} (hk : m.Knows k) :
    matchesPrefix p k = true :=
  hk.elim (h.config.configured k) (h.tracked k)

/-- The conflicts of a synchronization are about names that carry the prefix. -/
theorem Prefixed.matchesPrefix_of_conflict (h : m.Prefixed q) {orders : SyncOrders}
    {result : SyncResult} (hresult : (m.synchronize orders).1 = .ok result)
    {conflict : StateConflict} (hconflict : conflict ∈ result.conflicts) :
    matchesPrefix q conflict.namespaceName = true := by
  cases hlist : m.stateManager.netlinkManager.listNamespaces with
  | error e =>
    change (m.stateManager.synchronizeState orders m.configManager).1 = _ at hresult
    rw [NamespaceStateManager.synchronizeState, hlist] at hresult
    obtain rfl := Except.ok.inj hresult
    cases hconflict
  | ok actual =>
    obtain ⟨k, hconfigured, -, -, rfl⟩ | ⟨k, -, hmanaged, rfl⟩ :=
      (NamespaceStateManager.mem_conflicts_iff hlist hresult).mp hconflict
    · exact h.config.configured k hconfigured
    · -- an orphan is one of the namespaces that the daemon manages
      rw [NamespaceStateManager.contains_managedActual, Bool.and_eq_true] at hmanaged
      rw [← h.config.prefix_eq]
      exact hmanaged.2

/-- A daemon ignores the names that do not carry its prefix. -/
theorem Prefixed.ignores (h : m.Prefixed q) {k : String} (hk : matchesPrefix q k = false) :
    m.Ignores k where
  tracked orders := by
    have hafter := (stepClosed_prefixed q).synchronize m orders h
    by_contra htracked
    rw [hafter.tracked k (Bool.not_eq_false _ ▸ htracked)] at hk
    cases hk
  conflicts orders result hresult conflict hconflict := by
    rintro rfl
    rw [h.matchesPrefix_of_conflict hresult hconflict] at hk
    cases hk

end Managers

/-- The managers of a state that a daemon with the prefix `pfx` reaches without a change of it. -/
def Reached (pfx : String) (m : Managers) : Prop :=
  ∃ platform setup s inputs, DaemonEventLoop.start platform setup = .ok s ∧
    setup.daemonConfig.daemon.namespacePrefix = pfx ∧
    AlongRun (DaemonEventLoop.step platform) (DaemonEventLoop.KeepsPrefix platform) s inputs ∧
    m = (run (DaemonEventLoop.step platform) s inputs).managers

theorem Reached.prefixed {pfx : String} {m : Managers} (h : Reached pfx m) : m.Prefixed pfx := by
  obtain ⟨platform, setup, s, inputs, hstart, rfl, hkeeps, rfl⟩ := h
  exact (DaemonEventLoop.prefixed_along_run hstart hkeeps).managers

/-- Daemons with these prefixes have no name in common, and what the one knows is ignored by
the other. -/
structure OwnDisjointly (p q : String) : Prop where
  names : ∀ name, ¬ (matchesPrefix p name = true ∧ matchesPrefix q name = true)
  ignored : ∀ m m', Reached p m → Reached q m' → ∀ k, m.Knows k → m'.Ignores k
  ignored' : ∀ m m', Reached p m → Reached q m' → ∀ k, m'.Knows k → m.Ignores k

/-- Two daemons own disjoint namespaces iff neither of their prefixes is a name under the
other. -/
theorem ownDisjointly_iff (p q : String) : OwnDisjointly p q ↔ Apart p q := by
  constructor
  · intro h
    by_contra hoverlap
    obtain ⟨name, hname⟩ := exists_matchesPrefix_iff.mpr hoverlap
    exact h.names name hname
  · intro hapart
    have hnames (name : String) : ¬ (matchesPrefix p name = true ∧ matchesPrefix q name = true) :=
      fun h => exists_matchesPrefix_iff.mp ⟨name, h⟩ hapart
    refine ⟨hnames, fun m m' hm hm' k hk => hm'.prefixed.ignores ?_,
      fun m m' hm hm' k hk => hm.prefixed.ignores ?_⟩
    · exact Bool.eq_false_iff.mpr fun hq => hnames k ⟨hm.prefixed.matchesPrefix_of_knows hk, hq⟩
    · exact Bool.eq_false_iff.mpr fun hp => hnames k ⟨hp, hm'.prefixed.matchesPrefix_of_knows hk⟩

/-- The names under `new-a` are names under `new`, too. -/
theorem not_ownDisjointly_of_dash : ¬ ∀ p q, validateNamespacePrefix p = .ok () →
    validateNamespacePrefix q = .ok () → p ≠ q → OwnDisjointly p q := by
  intro h
  exact (h "new" "new-a" (by decide) (by decide) (by decide)).names "new-a-x" (by decide)

end Segwire.Daemon
