import Segwire.Common.Config
import Segwire.Foundation.ByteOffset
import Segwire.Foundation.Lines

/-!
# The WireGuard configuration parser

Parses wg-quick `.conf` files and converts them into namespace configurations. One loop over
the lines carries the tag of the section it is in and the peer that is not finished yet. It
takes the peer for granted in a peer section, and cuts the name out of a header by byte
offsets; the model says where it would panic, and proves that it does not.

## Main definitions

* `WgQuickConfig`, `WgQuickPeer` — the intermediate representation of a file
* `WgParser`, `WgParser.step` — the local variables of the loop, and one line
* `parseWgQuickRaw`, `parseWgQuick` — the parser, and the configuration it is converted into

## Main results

* `WgParser.Linked` — the pending peer is there exactly in a peer section
* `exists_parseWgQuickRaw` — the parser does not panic
-/

namespace Segwire.Common

open Foundation Foundation.Text

/-- Errors that can occur during WireGuard config parsing. -/
inductive WgParseError
  | missingInterface
  | missingPrivateKey
  | invalidLine (line : String)
  | unknownSection (name : String)
  deriving DecidableEq, Repr

/-- The text of an error. -/
def WgParseError.display : WgParseError → String
  | missingInterface => "missing [Interface] section"
  | missingPrivateKey => "missing PrivateKey in [Interface]"
  | invalidLine line => "invalid line: " ++ line
  | unknownSection name => "unknown section: [" ++ name ++ "]"

structure WgQuickPeer where
  publicKey : String
  presharedKey : Option String
  endpoint : Option String
  allowedIps : List String
  persistentKeepalive : Nat
  deriving DecidableEq, Repr

/-- Intermediate representation of a parsed wg-quick config. -/
structure WgQuickConfig where
  privateKey : String
  listenPort : Nat
  addresses : List String
  dnsServers : List String
  fwmark : Nat
  peers : List WgQuickPeer
  deriving DecidableEq, Repr

/-- `WgQuickPeer::default()` -/
def WgQuickPeer.default : WgQuickPeer where
  publicKey := ""
  presharedKey := none
  endpoint := none
  allowedIps := []
  persistentKeepalive := 0

/-- `WgQuickConfig::default()` -/
def WgQuickConfig.default : WgQuickConfig where
  privateKey := ""
  listenPort := 0
  addresses := []
  dnsServers := []
  fwmark := 0
  peers := []

/-- The sections of a file, which the parser tells apart by their names. -/
inductive WgSection
  | interface | peer
  deriving DecidableEq, Repr

/-- The local variables of the loop over the lines. -/
structure WgParser where
  config : WgQuickConfig
  currentSection : Option WgSection
  currentPeer : Option WgQuickPeer
  deriving DecidableEq, Repr

/-- The items of `value.split(',')`, trimmed. -/
def commaItems (value : List Char) : List String :=
  (value.splitOn ',').map fun item => String.ofList (trim item)

/-- The number of a key line, which is invalid without one. -/
def parseNumber (line : List Char) (number : Option Nat) : Except WgParseError Nat :=
  match number with
  | some n => .ok n
  | none => .error (.invalidLine (String.ofList line))

/-- A key line of an interface section. -/
def WgQuickConfig.set (config : WgQuickConfig) (line : List Char) (key : String)
    (value : List Char) : Except WgParseError WgQuickConfig :=
  match key with
  | "PrivateKey" => .ok { config with privateKey := String.ofList value }
  | "ListenPort" => (parseNumber line (parseU16 value)).map fun listenPort =>
      { config with listenPort }
  | "Address" => .ok { config with addresses := config.addresses ++ commaItems value }
  | "DNS" => .ok { config with dnsServers := config.dnsServers ++ commaItems value }
  | "FwMark" => (parseNumber line (parseU32 value)).map fun fwmark => { config with fwmark }
  -- wg-quick directives and unknown keys are silently ignored
  | _ => .ok config

/-- A key line of a peer section. -/
def WgQuickPeer.set (peer : WgQuickPeer) (line : List Char) (key : String) (value : List Char) :
    Except WgParseError WgQuickPeer :=
  match key with
  | "PublicKey" => .ok { peer with publicKey := String.ofList value }
  | "PresharedKey" => .ok { peer with presharedKey := some (String.ofList value) }
  | "Endpoint" => .ok { peer with endpoint := some (String.ofList value) }
  | "AllowedIPs" => .ok { peer with allowedIps := peer.allowedIps ++ commaItems value }
  | "PersistentKeepalive" => (parseNumber line (parseU16 value)).map fun persistentKeepalive =>
      { peer with persistentKeepalive }
  | _ => .ok peer

/-- Whether a trimmed line is skipped: an empty line or a comment. -/
def isSkipped (line : List Char) : Bool :=
  line.isEmpty || line.head? == some '#' || line.head? == some ';'

/-- Whether a trimmed line is a section header. -/
def isHeader (line : List Char) : Bool :=
  line.head? == some '[' && line.getLast? == some ']'

namespace WgParser

/-- The parser before the first line. -/
def start : WgParser := ⟨.default, none, none⟩

/-- Flush any pending peer. -/
def flush (parser : WgParser) : WgParser :=
  match parser.currentPeer with
  | some peer =>
    { parser with
      config := { parser.config with peers := parser.config.peers ++ [peer] }
      currentPeer := none }
  | none => parser

/-- A section header of the name. -/
def header (parser : WgParser) (name : String) : Except WgParseError WgParser :=
  let parser := parser.flush
  match name with
  | "Interface" => .ok { parser with currentSection := some .interface }
  | "Peer" => .ok { parser with currentSection := some .peer, currentPeer := some .default }
  | other => .error (.unknownSection other)

/-- A key line in the current section. Without a pending peer, one in a peer section panics. -/
def entry (parser : WgParser) (line : List Char) (key : String) (value : List Char) :
    Option (Except WgParseError WgParser) :=
  match parser.currentSection with
  | some .interface => some ((parser.config.set line key value).map fun config =>
      { parser with config })
  | some .peer => parser.currentPeer.map fun peer =>
      (peer.set line key value).map fun peer => { parser with currentPeer := some peer }
  -- lines outside any section are silently ignored
  | none => some (.ok parser)

/-- One line of the loop, without a result where it panics. -/
def step (parser : WgParser) (line : List Char) : Option (Except WgParseError WgParser) :=
  let line := trim line
  if isSkipped line then some (.ok parser)
  else if isHeader line then
    (sliceBytes line 1 (byteSize line - 1)).map fun name => parser.header (String.ofList name)
  else
    match splitOnce ['='] line with
    | none => some (.error (.invalidLine (String.ofList line)))
    | some (key, value) => parser.entry line (String.ofList (trim key)) (trim value)

/-- The loop over the lines. -/
def run (parser : WgParser) : List (List Char) → Option (Except WgParseError WgParser)
  | [] => some (.ok parser)
  | line :: rest =>
    match parser.step line with
    | none => none
    | some (.error e) => some (.error e)
    | some (.ok parser) => parser.run rest

/-- What is returned after the last line. -/
def finish (parser : WgParser) : Except WgParseError WgQuickConfig :=
  let config := parser.flush.config
  if config.privateKey = "" then .error .missingPrivateKey else .ok config

end WgParser

/-- Parse the raw text of a wg-quick config into the intermediate representation, without a
result where the parser panics. -/
def parseWgQuickRaw (content : String) : Option (Except WgParseError WgQuickConfig) :=
  (WgParser.start.run (lines content.toList)).map fun result => result.bind WgParser.finish

/-- The peer of a namespace configuration. -/
def WgQuickPeer.toConfig (peer : WgQuickPeer) : WireguardPeerConfig where
  publicKey := peer.publicKey
  presharedKey := peer.presharedKey
  endpoint := peer.endpoint
  allowedIps := peer.allowedIps
  persistentKeepalive := peer.persistentKeepalive

/-- The namespace configuration that a wg-quick config is converted into. -/
def WgQuickConfig.toNamespaceConfig (config : WgQuickConfig) (namespaceName ifname : String) :
    NamespaceConfig where
  namespace_ := ⟨namespaceName, "WireGuard namespace (imported from wg-quick config)"⟩
  interfaces := ⟨[], [⟨ifname, "wireguard", none, config.addresses⟩]⟩
  -- the default routing, whatever the peers allow
  routing := ⟨none, []⟩
  dns := ⟨config.dnsServers, []⟩
  wireguard := some ⟨config.privateKey, config.listenPort, config.fwmark,
    config.peers.map WgQuickPeer.toConfig⟩
  environment := ∅

/-- Parse a wg-quick config file into a namespace configuration. The interface is named `wg0` by
default. -/
def parseWgQuick (content namespaceName : String) (wgInterfaceName : Option String) :
    Option (Except WgParseError NamespaceConfig) :=
  (parseWgQuickRaw content).map fun result => result.map fun config =>
    config.toNamespaceConfig namespaceName (wgInterfaceName.getD "wg0")

/-! ### The parser does not panic -/

namespace WgParser

variable {parser parser' : WgParser}

/-- The pending peer is there exactly in a peer section. -/
def Linked (parser : WgParser) : Prop :=
  parser.currentSection = some .peer ↔ parser.currentPeer.isSome = true

theorem currentPeer_flush (parser : WgParser) : parser.flush.currentPeer = none := by
  unfold flush
  cases hpeer : parser.currentPeer <;> simp [hpeer]

theorem linked_start : start.Linked := by simp [Linked, start]

theorem Linked.header {name : String} (h : parser.header name = .ok parser') : parser'.Linked := by
  unfold WgParser.header at h
  dsimp only at h
  split at h
  · obtain rfl := Except.ok.inj h
    simp [Linked, currentPeer_flush]
  · obtain rfl := Except.ok.inj h
    simp [Linked]
  · cases h

theorem Linked.entry (hlinked : parser.Linked) {line value : List Char} {key : String}
    (h : parser.entry line key value = some (.ok parser')) : parser'.Linked := by
  unfold WgParser.entry at h
  unfold Linked at hlinked ⊢
  split at h
  · obtain ⟨config, -, rfl⟩ := Except.map_eq_ok_iff.mp (Option.some.inj h)
    exact hlinked
  · next hsection =>
    obtain ⟨peer, -, hset⟩ := Option.map_eq_some_iff.mp h
    obtain ⟨changed, -, rfl⟩ := Except.map_eq_ok_iff.mp hset
    simp [hsection]
  · obtain rfl := Except.ok.inj (Option.some.inj h)
    exact hlinked

/-- A key line of a linked parser does not panic. -/
theorem Linked.exists_entry (hlinked : parser.Linked) (line : List Char) (key : String)
    (value : List Char) : ∃ result, parser.entry line key value = some result := by
  unfold WgParser.entry
  split
  · exact ⟨_, rfl⟩
  · next hsection =>
    obtain ⟨peer, hpeer⟩ := Option.isSome_iff_exists.mp (hlinked.mp hsection)
    rw [hpeer]
    exact ⟨_, rfl⟩
  · exact ⟨_, rfl⟩

/-- The name of a header lies between its brackets. -/
theorem exists_of_isHeader {line : List Char} (h : isHeader line = true) :
    ∃ name, line = '[' :: name ++ [']'] := by
  rw [isHeader, Bool.and_eq_true, beq_iff_eq, beq_iff_eq] at h
  obtain ⟨hhead, hlast⟩ := h
  cases line with
  | nil => cases hhead
  | cons c rest =>
    obtain rfl : c = '[' := Option.some.inj hhead
    cases hrest : rest.getLast? with
    | none =>
      -- the line is not a bracket alone
      obtain rfl := List.getLast?_eq_none_iff.mp hrest
      cases hlast
    | some last =>
      rw [List.getLast?_cons, hrest, Option.getD_some] at hlast
      obtain rfl : last = ']' := Option.some.inj hlast
      exact ⟨rest.dropLast, by rw [List.cons_append, List.dropLast_append_getLast? _ hrest]⟩

/-- The slice of a header is within the line and between characters. -/
theorem sliceBytes_header (name : List Char) :
    sliceBytes ('[' :: name ++ [']']) 1 (byteSize ('[' :: name ++ [']']) - 1) = some name := by
  have hstop : byteSize ('[' :: name ++ [']']) - 1 = byteSize ['['] + byteSize name := by
    rw [byteSize_append]
    exact Nat.add_sub_cancel _ 1
  rw [hstop]
  exact sliceBytes_append ['['] name [']']

theorem Linked.step (hlinked : parser.Linked) {line : List Char}
    (h : parser.step line = some (.ok parser')) : parser'.Linked := by
  unfold WgParser.step at h
  dsimp only at h
  split_ifs at h
  · obtain rfl := Except.ok.inj (Option.some.inj h)
    exact hlinked
  · obtain ⟨name, -, hheader⟩ := Option.map_eq_some_iff.mp h
    exact .header hheader
  · split at h
    · cases Option.some.inj h
    · exact hlinked.entry h

theorem Linked.exists_step (hlinked : parser.Linked) (line : List Char) :
    ∃ result, parser.step line = some result := by
  unfold WgParser.step
  dsimp only
  split_ifs with hskipped hheader
  · exact ⟨_, rfl⟩
  · obtain ⟨name, hname⟩ := exists_of_isHeader hheader
    rw [hname, sliceBytes_header]
    exact ⟨_, rfl⟩
  · split
    · exact ⟨_, rfl⟩
    · exact hlinked.exists_entry _ _ _

theorem Linked.exists_run (hlinked : parser.Linked) (lines : List (List Char)) :
    ∃ result, parser.run lines = some result := by
  induction lines generalizing parser with
  | nil => exact ⟨_, rfl⟩
  | cons line rest ih =>
    obtain ⟨result, hstep⟩ := hlinked.exists_step line
    rw [run, hstep]
    cases result with
    | error e => exact ⟨_, rfl⟩
    | ok parser' => exact ih (hlinked.step hstep)

end WgParser

/-- The parser does not panic. -/
theorem exists_parseWgQuickRaw (content : String) :
    ∃ result, parseWgQuickRaw content = some result := by
  obtain ⟨result, hrun⟩ := WgParser.linked_start.exists_run (lines content.toList)
  exact ⟨_, by rw [parseWgQuickRaw, hrun, Option.map_some]⟩

end Segwire.Common
