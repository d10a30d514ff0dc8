import Segwire.Daemon.ConfigManager
import Segwire.Foundation.Debounce

/-!
# The configuration file watcher

The loop of `watch_directory_inotify` turns raw inotify events into configuration
events, dropping those that follow a sent event of the same path too closely. It
remembers when it last let an event of each path through and forgets old entries.

## Main definitions

* `ConfigWatcher.watchEvents` — the loop over a sequence of raw events
* `ConfigWatcher.Tracks` — the memory of the loop, up to forgotten entries

## Main results

* `ConfigWatcher.watchEvents_eq_decisions` — the loop is a leading-edge debouncer
* `ConfigWatcher.event_sent_or_debounced` — what becomes of an event, in particular
  of the last one of a path
* `ConfigWatcher.not_lastChangesReported` — the last change of a file can be dropped
-/

namespace Segwire.Daemon.ConfigWatcher

open Foundation Foundation.Text Segwire.Common

/-- The bits of an inotify event mask: the watched ones, and any other. -/
inductive EventMask
  | create | modify | delete | movedFrom | movedTo | closeWrite | other
  deriving DecidableEq, Repr

/-- The masks that the watch is registered for. -/
def watchMask : List EventMask := [.create, .modify, .delete, .movedFrom, .movedTo, .closeWrite]

/-- An inotify event at the instant it is processed. Events about the watched
directory itself, and names that are not UTF-8, carry no name. -/
structure RawEvent where
  name : Option String
  mask : List EventMask
  time : Nat
  deriving DecidableEq, Repr

/-- The path of an event about a `.toml` file. -/
def RawEvent.tomlPath (configDir : PathBuf) (event : RawEvent) : Option PathBuf :=
  match event.name with
  | none => none
  | some name => if endsWith name ".toml" then some (configDir.join name) else none

/-- The configuration event that a mask stands for. -/
def fileEvent (mask : List EventMask) (path : PathBuf) : Option ConfigFileEvent :=
  if mask.contains .create || mask.contains .movedTo then some (.created path)
  else if mask.contains .modify || mask.contains .closeWrite then some (.modified path)
  else if mask.contains .delete || mask.contains .movedFrom then some (.deleted path)
  else none

/-- Why the loop ends. -/
inductive Stop
  | receiverDropped
  | durationOverflow
  deriving DecidableEq, Repr

/-- `Duration::MAX` -/
def maxDuration : Duration := 2 ^ 64 * 10 ^ 9 - 1

/-- Remove the entries older than ten debounce windows. The multiplication of the
duration panics on overflow. -/
def prune (debounceDuration : Duration) (now : Nat) (lastEvents : HashMap PathBuf Nat) :
    Except Stop (HashMap PathBuf Nat) :=
  if maxDuration < debounceDuration * 10 then .error .durationOverflow
  else .ok (lastEvents.retain fun _ last => now - last < debounceDuration * 10)

/-- One iteration of the loop: the new memory, and the event that was sent. -/
def watchEvent (configDir : PathBuf) (debounceDuration : Duration) (receiverAlive : Nat → Bool)
    (lastEvents : HashMap PathBuf Nat) (event : RawEvent) :
    Except Stop (HashMap PathBuf Nat × Option ConfigFileEvent) :=
  match event.tomlPath configDir with
  | none => .ok (lastEvents, none)
  | some path =>
    -- a suppressed event leaves the memory as it is, so that it does not extend the window
    if (lastEvents.lookup path).any fun last => decide (event.time - last < debounceDuration) then
      .ok (lastEvents, none)
    else
      -- the time is noted even if the mask stands for no event
      let lastEvents := lastEvents.insert path event.time
      let sent := fileEvent event.mask path
      -- sending fails once the receiver is gone
      if sent.isSome && !receiverAlive event.time then .error .receiverDropped
      else (prune debounceDuration event.time lastEvents).map fun lastEvents => (lastEvents, sent)

/-- The loop over a sequence of raw events: what each of them sent. -/
def watchEvents (configDir : PathBuf) (debounceDuration : Duration) (receiverAlive : Nat → Bool) :
    HashMap PathBuf Nat → List RawEvent → Except Stop (List (Option ConfigFileEvent))
  | _, [] => .ok []
  | lastEvents, event :: events => do
    let (lastEvents, sent) ← watchEvent configDir debounceDuration receiverAlive lastEvents event
    let rest ← watchEvents configDir debounceDuration receiverAlive lastEvents events
    return sent :: rest

/-- The memory holds the last times of `last`, except for entries that are at least
ten windows old. -/
def Tracks (debounceDuration : Duration) (now : Nat) (lastEvents : HashMap PathBuf Nat)
    (last : PathBuf → Option Nat) : Prop :=
  ∀ path, lastEvents.lookup path = last path ∨
    lastEvents.lookup path = none ∧ ∃ t, last path = some t ∧ debounceDuration * 10 ≤ now - t

/-- What an event sends when it is kept. -/
def sentIfKept (configDir : PathBuf) (event : RawEvent) (kept : Bool) : Option ConfigFileEvent :=
  if kept then (event.tomlPath configDir).bind (fileEvent event.mask) else none

variable {configDir : PathBuf} {debounceDuration : Duration} {receiverAlive : Nat → Bool}
  {lastEvents : HashMap PathBuf Nat} {last : PathBuf → Option Nat}

theorem tracks_empty (now : Nat) : Tracks debounceDuration now ∅ fun _ => none :=
  fun _ => Or.inl (Finmap.lookup_empty _)

theorem Tracks.mono {now later : Nat} (h : Tracks debounceDuration now lastEvents last)
    (hle : now ≤ later) : Tracks debounceDuration later lastEvents last := by
  intro path
  exact (h path).imp_right fun ⟨hnone, t, ht, hold⟩ =>
    ⟨hnone, t, ht, hold.trans (Nat.sub_le_sub_right hle t)⟩

/-- A forgotten entry is too old to suppress anything. -/
theorem Tracks.suppressed_iff {now : Nat} (h : Tracks debounceDuration now lastEvents last)
    (path : PathBuf) :
    ((lastEvents.lookup path).any fun t => decide (now - t < debounceDuration)) =
      Debounce.suppressed debounceDuration (last path) now := by
  rcases h path with heq | ⟨hnone, t, ht, hold⟩
  · rw [heq, Debounce.suppressed]
  · have hlate : ¬ now - t < debounceDuration :=
      not_lt.mpr ((Nat.le_mul_of_pos_right _ (by decide)).trans hold)
    simp [Debounce.suppressed, hnone, ht, hlate]

theorem Tracks.insert {now : Nat} (h : Tracks debounceDuration now lastEvents last)
    (path : PathBuf) :
    Tracks debounceDuration now (lastEvents.insert path now)
      (Function.update last path (some now)) := by
  intro path'
  rw [HashMap.lookup_insert_eq_ite]
  by_cases heq : path' = path
  · subst heq
    simp
  · rw [if_neg heq, Function.update_of_ne heq]
    exact h path'

theorem Tracks.prune {now : Nat} (h : Tracks debounceDuration now lastEvents last)
    {pruned : HashMap PathBuf Nat} (hprune : prune debounceDuration now lastEvents = .ok pruned) :
    Tracks debounceDuration now pruned last := by
  unfold ConfigWatcher.prune at hprune
  split_ifs at hprune
  obtain rfl := Except.ok.inj hprune
  intro path
  rw [HashMap.lookup_retain]
  rcases h path with heq | ⟨hnone, hold⟩
  · cases hlast : last path with
    | none => simp [heq, hlast]
    | some t =>
      rw [heq, hlast]
      by_cases hrecent : now - t < debounceDuration * 10
      · simp [hrecent]
      · exact Or.inr ⟨by simp [not_lt.mp hrecent], t, rfl, not_lt.mp hrecent⟩
  · exact Or.inr ⟨by simp [hnone], hold⟩

/-- The loop sends what a leading-edge debouncer with the paths as keys keeps. -/
theorem watchEvents_eq_decisions {events : List RawEvent} {outcomes : List (Option ConfigFileEvent)}
    (hordered : events.Pairwise (·.time ≤ ·.time))
    (htracks : ∀ event ∈ events, Tracks debounceDuration event.time lastEvents last)
    (hok : watchEvents configDir debounceDuration receiverAlive lastEvents events = .ok outcomes) :
    outcomes = List.zipWith (sentIfKept configDir) events
      (Debounce.decisions (RawEvent.tomlPath configDir) RawEvent.time debounceDuration last
        events) := by
  -- the memory and what it tracks change from event to event
  induction events generalizing lastEvents last outcomes with
  | nil => exact (Except.ok.inj hok).symm
  | cons event events ih =>
    obtain ⟨⟨lastEvents', sent⟩, hevent, hok⟩ := Except.bind_eq_ok_iff.mp hok
    obtain ⟨rest, hrest, heq⟩ := Except.bind_eq_ok_iff.mp hok
    rw [Except.pure_eq_ok_iff] at heq
    subst heq
    rw [List.pairwise_cons] at hordered
    have hnow := htracks event List.mem_cons_self
    have hlater : ∀ e ∈ events, Tracks debounceDuration e.time lastEvents last :=
      fun e he => htracks e (List.mem_cons_of_mem _ he)
    unfold watchEvent at hevent
    rw [Debounce.decisions]
    split at hevent
    · -- an event about another file changes neither memory
      rename_i hpath
      obtain ⟨rfl, rfl⟩ := Prod.mk.inj (Except.ok.inj hevent)
      simp only [hpath, List.zipWith_cons_cons, sentIfKept]
      rw [ih hordered.2 hlater hrest]
      rfl
    · rename_i path hpath
      rw [hnow.suppressed_iff path] at hevent
      simp only [hpath]
      by_cases hsuppressed : Debounce.suppressed debounceDuration (last path) event.time = true
      · rw [if_pos hsuppressed] at hevent ⊢
        obtain ⟨rfl, rfl⟩ := Prod.mk.inj (Except.ok.inj hevent)
        rw [List.zipWith_cons_cons, ih hordered.2 hlater hrest]
        rfl
      · rw [if_neg hsuppressed] at hevent ⊢
        dsimp only at hevent
        split_ifs at hevent with halive
        cases hprune : prune debounceDuration event.time (lastEvents.insert path event.time) with
        | error stop =>
          rw [hprune] at hevent
          cases hevent
        | ok pruned =>
          rw [hprune] at hevent
          obtain ⟨rfl, rfl⟩ := Prod.mk.inj (Except.ok.inj hevent)
          -- what was forgotten by now stays too old for every later event
          have htracks' := (hnow.insert path).prune hprune
          rw [List.zipWith_cons_cons,
            ih hordered.2 (fun e he => htracks'.mono (hordered.1 e he)) hrest]
          simp [sentIfKept, hpath]

/-- A watched mask stands for a configuration event of the same path. -/
theorem exists_fileEvent {mask : List EventMask} (h : ∃ m ∈ mask, m ∈ watchMask) (path : PathBuf) :
    ∃ sent, fileEvent mask path = some sent ∧ sent.path = path := by
  obtain ⟨m, hm, hwatched⟩ := h
  unfold fileEvent
  split_ifs with hcreated hmodified hdeleted
  · exact ⟨_, rfl, rfl⟩
  · exact ⟨_, rfl, rfl⟩
  · exact ⟨_, rfl, rfl⟩
  · simp only [List.contains_iff_mem, Bool.or_eq_true, not_or] at hcreated hmodified hdeleted
    cases m with
    | create => exact absurd hm hcreated.1
    | movedTo => exact absurd hm hcreated.2
    | modify => exact absurd hm hmodified.1
    | closeWrite => exact absurd hm hmodified.2
    | delete => exact absurd hm hdeleted.1
    | movedFrom => exact absurd hm hdeleted.2
    | other => exact absurd hwatched (by decide)

/-- An event of a `.toml` file that the debouncer keeps is sent. -/
theorem exists_sent_of_kept {events : List RawEvent} {decisions : List Bool} {i : Nat}
    {event : RawEvent} {path : PathBuf} (hevent : events[i]? = some event)
    (hkept : decisions[i]? = some true) (hpath : event.tomlPath configDir = some path)
    (hwatched : ∃ m ∈ event.mask, m ∈ watchMask) :
    ∃ sent, (List.zipWith (sentIfKept configDir) events decisions)[i]? = some (some sent) ∧
      sent.path = path := by
  obtain ⟨sent, hsent, hsame⟩ := exists_fileEvent hwatched path
  refine ⟨sent, ?_, hsame⟩
  rw [List.getElem?_zipWith, hevent, hkept]
  simp [sentIfKept, hpath, hsent]

/-- Every event of a `.toml` file, in particular the last one, is sent, or it
follows a sent event of the same path by less than the debounce duration. -/
theorem event_sent_or_debounced {events : List RawEvent} {outcomes : List (Option ConfigFileEvent)}
    (hordered : events.Pairwise (·.time ≤ ·.time))
    (hwatched : ∀ event ∈ events, ∃ m ∈ event.mask, m ∈ watchMask)
    (hok : watchEvents configDir debounceDuration receiverAlive ∅ events = .ok outcomes)
    {i : Nat} {event : RawEvent} {path : PathBuf} (hevent : events[i]? = some event)
    (hpath : event.tomlPath configDir = some path) :
    (∃ sent, outcomes[i]? = some (some sent) ∧ sent.path = path) ∨
      ∃ j earlier sent, j < i ∧ events[j]? = some earlier ∧ outcomes[j]? = some (some sent) ∧
        sent.path = path ∧ event.time - earlier.time < debounceDuration := by
  have houtcomes := watchEvents_eq_decisions hordered (fun event _ => tracks_empty event.time) hok
  have hmask {j : Nat} {e : RawEvent} (he : events[j]? = some e) : ∃ m ∈ e.mask, m ∈ watchMask :=
    hwatched e (List.mem_of_getElem? he)
  rw [houtcomes]
  -- no event came before the first one, so the window was opened by an event of the list
  rcases Debounce.kept_or_within_window RawEvent.time debounceDuration (fun _ => none) hevent
    hpath with
    hkept | ⟨j, earlier, hj, hearlier, hsame, hkept, hwithin⟩ | ⟨t, ht, -⟩
  · exact Or.inl (exists_sent_of_kept hevent hkept hpath (hmask hevent))
  · obtain ⟨sent, hsent, hsentPath⟩ := exists_sent_of_kept hearlier hkept hsame (hmask hearlier)
    exact Or.inr ⟨j, earlier, sent, hj, hearlier, hsent, hsentPath, hwithin⟩
  · cases ht

/-- A file that is created and written within a second. -/
def createThenWrite : List RawEvent :=
  [⟨some "app.toml", [.create], 0⟩, ⟨some "app.toml", [.closeWrite], 5⟩]

/-- What the watcher of `/etc` sends for it. -/
def createThenWriteOutcomes : List (Option ConfigFileEvent) :=
  [some (.created ⟨["etc", "app.toml"]⟩), none]

theorem createThenWrite_sent_or_debounced :
    (∃ sent, createThenWriteOutcomes[1]? = some (some sent) ∧
        sent.path = ⟨["etc", "app.toml"]⟩) ∨
      ∃ j earlier sent, j < 1 ∧ createThenWrite[j]? = some earlier ∧
        createThenWriteOutcomes[j]? = some (some sent) ∧ sent.path = ⟨["etc", "app.toml"]⟩ ∧
        5 - earlier.time < Duration.fromSecs 1 :=
  have hok : watchEvents ⟨["etc"]⟩ (Duration.fromSecs 1) (fun _ => true) ∅ createThenWrite =
      .ok createThenWriteOutcomes := by
    decide
  have hevent : createThenWrite[1]? = some ⟨some "app.toml", [.closeWrite], 5⟩ := rfl
  event_sent_or_debounced (by decide) (by decide) hok hevent rfl

/-- After every last event of a `.toml` path in `events`, that event included, an
event of the path is sent. -/
def LastChangesReported (configDir : PathBuf) (events : List RawEvent)
    (outcomes : List (Option ConfigFileEvent)) : Prop :=
  ∀ (i : Nat) (event : RawEvent) (path : PathBuf), events[i]? = some event →
    event.tomlPath configDir = some path →
    (∀ (j : Nat) (later : RawEvent), i < j → events[j]? = some later →
      later.tomlPath configDir ≠ some path) →
    ∃ (j : Nat) (sent : ConfigFileEvent), i ≤ j ∧ outcomes[j]? = some (some sent) ∧ sent.path = path

/-- The write that follows a creation within the window is dropped. -/
theorem not_lastChangesReported :
    ¬ ∀ (configDir : PathBuf) (debounceDuration : Duration) (events : List RawEvent)
        (outcomes : List (Option ConfigFileEvent)),
      events.Pairwise (·.time ≤ ·.time) →
      (∀ event ∈ events, ∃ m ∈ event.mask, m ∈ watchMask) →
      watchEvents configDir debounceDuration (fun _ => true) ∅ events = .ok outcomes →
      LastChangesReported configDir events outcomes := by
  intro h
  obtain ⟨j, sent, hj, hsent, -⟩ := h ⟨["etc"]⟩ (Duration.fromSecs 1) createThenWrite
    createThenWriteOutcomes (by decide) (by decide) (by decide) 1 _ ⟨["etc", "app.toml"]⟩ rfl rfl
    fun j later hj hlater => by
      have hrange := (List.getElem?_eq_some_iff.mp hlater).1
      simp only [createThenWrite, List.length_cons, List.length_nil] at hrange
      omega
  -- only the first of the two events was sent
  match j, hj with
  | 1, _ => cases hsent
  | j + 2, _ => simp [createThenWriteOutcomes] at hsent

end Segwire.Daemon.ConfigWatcher
