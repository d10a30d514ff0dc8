import Mathlib.Data.List.ReduceOption
import Segwire.Daemon.ConfigWatcher

/-!
# The watcher as a filter of events

The loop of `watch_directory_inotify` has one memory for all paths and forgets old entries
while it runs. What it sends is what a filter keeps that looks at the events of each path by
themselves and remembers everything: neither the forgetting nor the other paths matter.

## Main definitions

* `ConfigWatcher.KeptAt` — the filter

## Main results

* `ConfigWatcher.exists_watchEvents` — the loop does not end while the receiver is there
* `ConfigWatcher.watchEvents_eq_filter` — it sends what the filter keeps
-/

namespace Segwire.Daemon.ConfigWatcher

open Foundation Segwire.Common

/-- The event at position `i` is about a `.toml` file, and no kept event of that file lies less
than the debounce duration before it. -/
abbrev KeptAt (configDir : PathBuf) (debounceDuration : Duration) (events : List RawEvent)
    (i : Nat) : Prop :=
  Debounce.Kept (RawEvent.tomlPath configDir) RawEvent.time debounceDuration events i

variable {configDir : PathBuf} {debounceDuration : Duration} {receiverAlive : Nat → Bool}
  {lastEvents : HashMap PathBuf Nat} {events : List RawEvent} {event : RawEvent} {path : PathBuf}

theorem path_of_fileEvent {mask : List EventMask} {sent : ConfigFileEvent}
    (h : fileEvent mask path = some sent) : sent.path = path := by
  unfold fileEvent at h
  split_ifs at h
  · rw [← Option.some.inj h, ConfigFileEvent.path]
  · rw [← Option.some.inj h, ConfigFileEvent.path]
  · rw [← Option.some.inj h, ConfigFileEvent.path]

theorem sentIfKept_eq_some_iff {kept : Bool} {sent : ConfigFileEvent} :
    sentIfKept configDir event kept = some sent ↔
      kept = true ∧ ∃ path, event.tomlPath configDir = some path ∧
        fileEvent event.mask path = some sent := by
  cases kept with
  | false => simp [sentIfKept]
  | true => simp [sentIfKept, Option.bind_eq_some_iff]

/-- With a receiver, and a duration whose tenfold can be represented, an iteration of the loop
leads to the next one. -/
theorem exists_watchEvent (configDir : PathBuf) (halive : receiverAlive event.time = true)
    (hfits : debounceDuration * 10 ≤ maxDuration) (lastEvents : HashMap PathBuf Nat) :
    ∃ outcome, watchEvent configDir debounceDuration receiverAlive lastEvents event =
      .ok outcome := by
  unfold watchEvent
  split
  · exact ⟨_, rfl⟩
  · split_ifs with hsuppressed
    · exact ⟨_, rfl⟩
    · unfold prune
      simp only [halive, Bool.not_true, Bool.and_false, Bool.false_eq_true, if_false,
        if_neg (not_lt.mpr hfits)]
      exact ⟨_, rfl⟩

theorem exists_watchEvents (configDir : PathBuf)
    (halive : ∀ event ∈ events, receiverAlive event.time = true)
    (hfits : debounceDuration * 10 ≤ maxDuration) (lastEvents : HashMap PathBuf Nat) :
    ∃ outcomes, watchEvents configDir debounceDuration receiverAlive lastEvents events =
      .ok outcomes := by
  induction events generalizing lastEvents with
  | nil => exact ⟨[], rfl⟩
  | cons event events ih =>
    rw [List.forall_mem_cons] at halive
    obtain ⟨⟨lastEvents', sent⟩, hevent⟩ := exists_watchEvent configDir halive.1 hfits lastEvents
    obtain ⟨rest, hrest⟩ := ih halive.2 lastEvents'
    refine ⟨sent :: rest, ?_⟩
    rw [watchEvents, hevent, Except.ok_bind]
    dsimp only
    rw [hrest]
    rfl

/-- The loop over events of one file sends what the loop over all events sends about it. -/
theorem reduceOption_zipWith_filter (path : PathBuf) (events : List RawEvent) :
    (List.zipWith (sentIfKept configDir) events (Debounce.decisions (RawEvent.tomlPath configDir)
        RawEvent.time debounceDuration (fun _ => none) events)).reduceOption.filter
        (fun sent => sent.path = path) =
      (List.zipWith (sentIfKept configDir)
        (events.filter fun event => event.tomlPath configDir = some path)
        (Debounce.decisions (RawEvent.tomlPath configDir) RawEvent.time debounceDuration
          (fun _ => none) (events.filter fun event =>
            event.tomlPath configDir = some path))).reduceOption := by
  -- a sent event has the path of the raw event, so both can be selected by it
  have hselect (x : RawEvent × Bool) :
      (sentIfKept configDir x.1 x.2).filter (fun sent => sent.path = path) =
        if x.1.tomlPath configDir = some path then sentIfKept configDir x.1 x.2 else none := by
    cases hsent : sentIfKept configDir x.1 x.2 with
    | none => simp
    | some sent =>
      obtain ⟨-, path', hpath', hfile⟩ := sentIfKept_eq_some_iff.mp hsent
      rw [hpath']
      simp [Option.filter_some, path_of_fileEvent hfile]
  rw [← List.map_uncurry_zip_eq_zipWith, ← List.map_uncurry_zip_eq_zipWith,
    ← Debounce.decisions_filter rfl]
  unfold List.reduceOption
  rw [List.filterMap_map, List.filterMap_map, List.filter_filterMap, List.filterMap_filter]
  refine List.filterMap_congr fun x _ => ?_
  simpa [Function.uncurry] using hselect x

/-- At non-decreasing times the loop ends for no event, and sends exactly the events that the
filter keeps; about each path it sends what it would send without the other events. -/
theorem watchEvents_eq_filter (configDir : PathBuf) (debounceDuration : Duration)
    (receiverAlive : Nat → Bool) (events : List RawEvent)
    (hordered : events.Pairwise (·.time ≤ ·.time))
    (hwatched : ∀ event ∈ events, ∃ m ∈ event.mask, m ∈ watchMask)
    (hfits : debounceDuration * 10 ≤ maxDuration)
    (halive : ∀ event ∈ events, receiverAlive event.time = true) :
    ∃ outcomes, watchEvents configDir debounceDuration receiverAlive ∅ events = .ok outcomes ∧
      outcomes.length = events.length ∧
      (∀ i sent, outcomes[i]? = some (some sent) ↔
        KeptAt configDir debounceDuration events i ∧ ∃ event path, events[i]? = some event ∧
          event.tomlPath configDir = some path ∧ fileEvent event.mask path = some sent) ∧
      (∀ i, KeptAt configDir debounceDuration events i →
        ∃ sent, outcomes[i]? = some (some sent)) ∧
      ∀ path, ∃ alone, watchEvents configDir debounceDuration receiverAlive ∅
          (events.filter fun event => event.tomlPath configDir = some path) = .ok alone ∧
        outcomes.reduceOption.filter (fun sent => sent.path = path) = alone.reduceOption := by
  obtain ⟨outcomes, hok⟩ := exists_watchEvents configDir halive hfits ∅
  have houtcomes := watchEvents_eq_decisions hordered (fun event _ => tracks_empty event.time) hok
  have hsent (i : Nat) (sent : ConfigFileEvent) : outcomes[i]? = some (some sent) ↔
      KeptAt configDir debounceDuration events i ∧ ∃ event path, events[i]? = some event ∧
        event.tomlPath configDir = some path ∧ fileEvent event.mask path = some sent := by
    rw [KeptAt, ← Debounce.decisions_getElem?_iff hordered, houtcomes,
      List.getElem?_zipWith_eq_some]
    constructor
    · rintro ⟨event, kept, hevent, hkept, h⟩
      obtain ⟨rfl, path, hpath, hfile⟩ := sentIfKept_eq_some_iff.mp h
      exact ⟨hkept, event, path, hevent, hpath, hfile⟩
    · rintro ⟨hkept, event, path, hevent, hpath, hfile⟩
      exact ⟨event, true, hevent, hkept, sentIfKept_eq_some_iff.mpr ⟨rfl, path, hpath, hfile⟩⟩
  refine ⟨outcomes, hok, by simp [houtcomes], hsent, ?_, ?_⟩
  · intro i hkept
    obtain ⟨event, path, hevent, hpath⟩ := Debounce.exists_of_kept hkept
    obtain ⟨sent, hfile, -⟩ := exists_fileEvent (hwatched event (List.mem_of_getElem? hevent)) path
    exact ⟨sent, (hsent i sent).mpr ⟨hkept, event, path, hevent, hpath, hfile⟩⟩
  · intro path
    have halive' : ∀ event ∈ events.filter fun event => event.tomlPath configDir = some path,
        receiverAlive event.time = true :=
      fun event hevent => halive event (List.mem_of_mem_filter hevent)
    obtain ⟨alone, halone⟩ := exists_watchEvents configDir halive' hfits ∅
    refine ⟨alone, halone, ?_⟩
    rw [watchEvents_eq_decisions (hordered.sublist List.filter_sublist)
      (fun event _ => tracks_empty event.time) halone, houtcomes]
    exact reduceOption_zipWith_filter path events

section Fixture

/-- Writes of two files that take turns, and one that comes after the memory was pruned. -/
def twoFiles : List RawEvent :=
  [⟨some "app.toml", [.create], 0⟩, ⟨some "vpn.toml", [.movedTo], 3⟩,
    ⟨some "app.toml", [.closeWrite], 5⟩, ⟨some "vpn.toml", [.modify], 11 * 10 ^ 9⟩,
    ⟨some "app.toml", [.delete], 11 * 10 ^ 9⟩]

end Fixture

theorem watchEvents_eq_filter_twoFiles :
    ∃ outcomes, watchEvents ⟨["etc"]⟩ (Duration.fromSecs 1) (fun _ => true) ∅ twoFiles =
        .ok outcomes ∧
      ∀ i, KeptAt ⟨["etc"]⟩ (Duration.fromSecs 1) twoFiles i →
        ∃ sent, outcomes[i]? = some (some sent) := by
  obtain ⟨outcomes, hok, -, -, hkept, -⟩ := watchEvents_eq_filter ⟨["etc"]⟩ (Duration.fromSecs 1)
    (fun _ => true) twoFiles (by decide) (by decide) (by decide) (by decide)
  exact ⟨outcomes, hok, hkept⟩

end Segwire.Daemon.ConfigWatcher
