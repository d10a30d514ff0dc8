import Segwire.Common.Wireguard

/-!
# The sections of a wg-quick file

What a file says, section by section: its headers, and for each the key lines up to the next
one. A scalar key has the last of its values, a list key all the items of its values. The loop
of the parser, with its pending peer, computes just that.

## Main definitions

* `WgLine`, `readLine` — a line that is not skipped
* `sections` — the headers with the key lines under them
* `WgQuickPeer.updated`, `WgQuickConfig.updated` — the values of some key lines
* `configOf` — the file, section by section

## Main results

* `WgParser.step_eq` — a step of the loop does what the line says
* `WgParser.config_of_run` — the loop over the rest of a file
* `parseWgQuickRaw_eq_configOf`
-/

namespace Segwire.Common

open Foundation Foundation.Text

/-! ### Lines -/

/-- A line that is not skipped. -/
inductive WgLine
  | header (name : String)
  | entry (key : String) (value : List Char)
  | invalid
  deriving DecidableEq, Repr

/-- What a line says, unless it is skipped. -/
def readLine (line : List Char) : Option WgLine :=
  let line := trim line
  if isSkipped line then none
  else if isHeader line then some (.header (String.ofList line.tail.dropLast))
  else
    match splitOnce ['='] line with
    | none => some .invalid
    | some (key, value) => some (.entry (String.ofList (trim key)) (trim value))

/-- The lines of a file that are not skipped. -/
def wgLines (content : String) : List WgLine := (lines content.toList).filterMap readLine

/-- A step of the loop does what the line says. -/
theorem WgParser.step_eq (parser : WgParser) (line : List Char) :
    parser.step line = match readLine line with
      | none => some (.ok parser)
      | some (.header name) => some (parser.header name)
      | some .invalid => some (.error (.invalidLine (String.ofList (trim line))))
      | some (.entry key value) => parser.entry (trim line) key value := by
  unfold step readLine
  dsimp only
  split_ifs with hskipped hheader
  · rfl
  · obtain ⟨name, hname⟩ := exists_of_isHeader hheader
    rw [hname, sliceBytes_header, List.cons_append, List.tail_cons, List.dropLast_concat]
    rfl
  · cases splitOnce ['='] (trim line) <;> rfl

/-! ### Key lines -/

/-- The last value of a key, read as a value of the field, or the field as it was. -/
def lastValue {α : Type} (key : String) (read : List Char → α) (previous : α)
    (entries : List (String × List Char)) : α :=
  ((entries.filter fun entry => entry.1 = key).getLast?.map fun entry => read entry.2).getD previous

/-- The items of all values of a key. -/
def allItems (key : String) (entries : List (String × List Char)) : List String :=
  (entries.filter fun entry => entry.1 = key).flatMap fun entry => commaItems entry.2

theorem lastValue_nil {α : Type} (key : String) (read : List Char → α) (previous : α) :
    lastValue key read previous [] = previous := rfl

theorem lastValue_cons {α : Type} (key : String) (read : List Char → α) (previous : α)
    (entry : String × List Char) (entries : List (String × List Char)) :
    lastValue key read previous (entry :: entries) =
      lastValue key read (if entry.1 = key then read entry.2 else previous) entries := by
  unfold lastValue
  by_cases hkey : entry.1 = key
  · rw [List.filter_cons_of_pos (by simpa using hkey), if_pos hkey, List.getLast?_cons]
    cases (entries.filter fun entry => entry.1 = key).getLast? <;> rfl
  · rw [List.filter_cons_of_neg (by simpa using hkey), if_neg hkey]

theorem allItems_nil (key : String) : allItems key [] = [] := rfl

theorem allItems_cons (key : String) (entry : String × List Char)
    (entries : List (String × List Char)) :
    allItems key (entry :: entries) =
      (if entry.1 = key then commaItems entry.2 else []) ++ allItems key entries := by
  unfold allItems
  by_cases hkey : entry.1 = key
  · rw [List.filter_cons_of_pos (by simpa using hkey), if_pos hkey, List.flatMap_cons]
  · rw [List.filter_cons_of_neg (by simpa using hkey), if_neg hkey, List.nil_append]

/-- A peer after some key lines. -/
def WgQuickPeer.updated (peer : WgQuickPeer) (entries : List (String × List Char)) :
    WgQuickPeer where
  publicKey := lastValue "PublicKey" String.ofList peer.publicKey entries
  presharedKey := lastValue "PresharedKey" (some ∘ String.ofList) peer.presharedKey entries
  endpoint := lastValue "Endpoint" (some ∘ String.ofList) peer.endpoint entries
  allowedIps := peer.allowedIps ++ allItems "AllowedIPs" entries
  -- an accepted file has numbers only
  persistentKeepalive := lastValue "PersistentKeepalive" (fun value => (parseU16 value).getD 0)
    peer.persistentKeepalive entries

/-- The interface fields after some key lines. -/
def WgQuickConfig.updated (config : WgQuickConfig) (entries : List (String × List Char)) :
    WgQuickConfig where
  privateKey := lastValue "PrivateKey" String.ofList config.privateKey entries
  listenPort := lastValue "ListenPort" (fun value => (parseU16 value).getD 0) config.listenPort
    entries
  addresses := config.addresses ++ allItems "Address" entries
  dnsServers := config.dnsServers ++ allItems "DNS" entries
  fwmark := lastValue "FwMark" (fun value => (parseU32 value).getD 0) config.fwmark entries
  peers := config.peers

theorem WgQuickPeer.updated_nil (peer : WgQuickPeer) : peer.updated [] = peer := by
  simp [updated, lastValue_nil, allItems_nil]

theorem WgQuickConfig.updated_nil (config : WgQuickConfig) : config.updated [] = config := by
  simp [updated, lastValue_nil, allItems_nil]

theorem parseNumber_eq_ok_iff {line : List Char} {number : Option Nat} {n : Nat} :
    parseNumber line number = .ok n ↔ number = some n := by
  cases number <;> simp [parseNumber]

/-- A key line of a peer section, and then the others. -/
theorem WgQuickPeer.updated_cons {peer peer' : WgQuickPeer} {line value : List Char} {key : String}
    (h : peer.set line key value = .ok peer') (entries : List (String × List Char)) :
    peer.updated ((key, value) :: entries) = peer'.updated entries := by
  unfold set at h
  split at h
  · obtain rfl := Except.ok.inj h
    simp [updated, lastValue_cons, allItems_cons]
  · obtain rfl := Except.ok.inj h
    simp [updated, lastValue_cons, allItems_cons]
  · obtain rfl := Except.ok.inj h
    simp [updated, lastValue_cons, allItems_cons]
  · obtain rfl := Except.ok.inj h
    simp [updated, lastValue_cons, allItems_cons]
  · obtain ⟨n, hn, rfl⟩ := Except.map_eq_ok_iff.mp h
    simp [updated, lastValue_cons, allItems_cons, parseNumber_eq_ok_iff.mp hn]
  · -- an unknown key sets nothing
    obtain rfl := Except.ok.inj h
    simp_all [updated, lastValue_cons, allItems_cons]

/-- A key line of an interface section, and then the others. -/
theorem WgQuickConfig.updated_cons {config config' : WgQuickConfig} {line value : List Char}
    {key : String} (h : config.set line key value = .ok config')
    (entries : List (String × List Char)) :
    config.updated ((key, value) :: entries) = config'.updated entries := by
  unfold set at h
  split at h
  · obtain rfl := Except.ok.inj h
    simp [updated, lastValue_cons, allItems_cons]
  · obtain ⟨n, hn, rfl⟩ := Except.map_eq_ok_iff.mp h
    simp [updated, lastValue_cons, allItems_cons, parseNumber_eq_ok_iff.mp hn]
  · obtain rfl := Except.ok.inj h
    simp [updated, lastValue_cons, allItems_cons]
  · obtain rfl := Except.ok.inj h
    simp [updated, lastValue_cons, allItems_cons]
  · obtain ⟨n, hn, rfl⟩ := Except.map_eq_ok_iff.mp h
    simp [updated, lastValue_cons, allItems_cons, parseNumber_eq_ok_iff.mp hn]
  · obtain rfl := Except.ok.inj h
    simp_all [updated, lastValue_cons, allItems_cons]

theorem WgQuickConfig.peers_of_set {config config' : WgQuickConfig} {line value : List Char}
    {key : String} (h : config.set line key value = .ok config') : config'.peers = config.peers :=
  (congrArg WgQuickConfig.peers (config.updated_cons h [])).symm

/-! ### Sections -/

/-- The key lines up to the next header. -/
def untilHeader : List WgLine → List (String × List Char)
  | [] => []
  | .header _ :: _ => []
  | .entry key value :: rest => (key, value) :: untilHeader rest
  | .invalid :: rest => untilHeader rest

/-- The headers, each with the key lines up to the next one. -/
def sections : List WgLine → List (String × List (String × List Char))
  | [] => []
  | .header name :: rest => (name, untilHeader rest) :: sections rest
  | .entry _ _ :: rest => sections rest
  | .invalid :: rest => sections rest

/-- The key lines of all interface sections. -/
def interfaceEntries (ls : List WgLine) : List (String × List Char) :=
  ((sections ls).filter fun s => s.1 = "Interface").flatMap Prod.snd

/-- The peers, one for each peer section. -/
def peersOf (ls : List WgLine) : List WgQuickPeer :=
  ((sections ls).filter fun s => s.1 = "Peer").map fun s => WgQuickPeer.default.updated s.2

/-- A file, section by section. -/
def configOf (ls : List WgLine) : WgQuickConfig :=
  { WgQuickConfig.default.updated (interfaceEntries ls) with peers := peersOf ls }

namespace WgParser

variable {parser parser' : WgParser}

/-- The rest of a file, from a parser that is in a section. -/
def outcome (parser : WgParser) (ls : List WgLine) : WgQuickConfig :=
  let pending := if parser.currentSection = some .interface then untilHeader ls else []
  { parser.config.updated (pending ++ interfaceEntries ls) with
    peers := parser.config.peers ++
      (parser.currentPeer.map fun peer => peer.updated (untilHeader ls)).toList ++ peersOf ls }

/-- Before the first line nothing is pending. -/
theorem outcome_start (ls : List WgLine) : start.outcome ls = configOf ls := by
  simp [outcome, configOf, start, WgQuickConfig.default]

theorem outcome_nil (parser : WgParser) : parser.outcome [] = parser.flush.config := by
  unfold flush
  cases hpeer : parser.currentPeer <;>
    simp [outcome, untilHeader, interfaceEntries, peersOf, sections, hpeer,
      WgQuickConfig.updated_nil, WgQuickPeer.updated_nil]

/-- At a header the pending peer is flushed, and the next section begins. -/
theorem outcome_header {name : String} (h : parser.header name = .ok parser') (ls : List WgLine) :
    parser.outcome (.header name :: ls) = parser'.outcome ls := by
  have hflushed : parser.flush.config = { parser.config with
      peers := parser.config.peers ++ parser.currentPeer.toList } := by
    unfold flush
    cases parser.currentPeer <;> simp
  unfold header at h
  dsimp only at h
  split at h
  · obtain rfl := Except.ok.inj h
    simp [outcome, untilHeader, interfaceEntries, peersOf, sections, hflushed, currentPeer_flush,
      WgQuickConfig.updated, WgQuickPeer.updated_nil]
  · obtain rfl := Except.ok.inj h
    simp [outcome, untilHeader, interfaceEntries, peersOf, sections, hflushed,
      WgQuickConfig.updated, WgQuickPeer.updated_nil]
  · cases h

/-- A key line belongs to the section that the parser is in. -/
theorem outcome_entry (hlinked : parser.Linked) {line value : List Char} {key : String}
    (h : parser.entry line key value = some (.ok parser')) (ls : List WgLine) :
    parser.outcome (.entry key value :: ls) = parser'.outcome ls := by
  have hinterface : interfaceEntries (.entry key value :: ls) = interfaceEntries ls := rfl
  have hpeers : peersOf (.entry key value :: ls) = peersOf ls := rfl
  unfold Linked at hlinked
  unfold entry at h
  split at h
  · next hsection =>
    -- in an interface section no peer is pending
    have hpeer : parser.currentPeer = none := by
      rw [← Option.not_isSome_iff_eq_none, ← hlinked, hsection]
      decide
    obtain ⟨config, hset, rfl⟩ := Except.map_eq_ok_iff.mp (Option.some.inj h)
    simp [outcome, hinterface, hpeers, hsection, hpeer, untilHeader,
      WgQuickConfig.updated_cons hset, WgQuickConfig.peers_of_set hset]
  · next hsection =>
    obtain ⟨peer, hpeer, hresult⟩ := Option.map_eq_some_iff.mp h
    obtain ⟨changed, hset, rfl⟩ := Except.map_eq_ok_iff.mp hresult
    simp [outcome, hinterface, hpeers, hsection, hpeer, untilHeader,
      WgQuickPeer.updated_cons hset]
  · next hsection =>
    -- nor is one before the first section, where key lines are ignored
    have hpeer : parser.currentPeer = none := by
      rw [← Option.not_isSome_iff_eq_none, ← hlinked, hsection]
      decide
    obtain rfl := Except.ok.inj (Option.some.inj h)
    simp [outcome, hinterface, hpeers, hsection, hpeer]

/-- The loop over the rest of a file, up to the last flush. -/
theorem config_of_run (hlinked : parser.Linked) {lines : List (List Char)}
    (h : parser.run lines = some (.ok parser')) :
    parser'.flush.config = parser.outcome (lines.filterMap readLine) := by
  induction lines generalizing parser with
  | nil =>
    obtain rfl := Except.ok.inj (Option.some.inj h)
    exact (outcome_nil _).symm
  | cons line rest ih =>
    rw [run] at h
    split at h
    · cases h
    · cases Option.some.inj h
    · next next hstep =>
      -- the outcome of the rest is the outcome of the line followed by the rest
      rw [ih (hlinked.step hstep) h, List.filterMap_cons]
      rw [step_eq] at hstep
      cases hread : readLine line with
      | none =>
        rw [hread] at hstep
        obtain rfl := Except.ok.inj (Option.some.inj hstep)
        rfl
      | some content =>
        rw [hread] at hstep
        cases content with
        | header name => exact (outcome_header (Option.some.inj hstep) _).symm
        | entry key value => exact (outcome_entry hlinked hstep _).symm
        | invalid => cases Option.some.inj hstep

end WgParser

/-- An accepted file is read section by section. -/
theorem parseWgQuickRaw_eq_configOf {content : String} {config : WgQuickConfig}
    (h : parseWgQuickRaw content = some (.ok config)) : config = configOf (wgLines content) := by
  obtain ⟨result, hrun, hfinish⟩ := Option.map_eq_some_iff.mp h
  cases result with
  | error e => cases hfinish
  | ok parser =>
    change parser.finish = .ok config at hfinish
    unfold WgParser.finish at hfinish
    dsimp only at hfinish
    split_ifs at hfinish
    obtain rfl := Except.ok.inj hfinish
    rw [WgParser.config_of_run WgParser.linked_start hrun, WgParser.outcome_start, wgLines]

end Segwire.Common
