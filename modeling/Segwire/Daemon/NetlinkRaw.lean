import Segwire.Netlink.Socket

/-!
# Links of a namespace

The daemon finds an interface by a dump of all links: the kernel sends them in as many
datagrams as it likes, and the answer is searched for the first link of the name.

## Main definitions

* `LinkMessage`, `RouteNetlinkMessage` — route netlink messages, as far as they are read
* `dumpLinks` — the dump
* `extractInterfaceNames`, `extractInterfaceIndex` — what is read off the links

## Main results

* `dumpLinks_eq` — a dump gives the links of all its datagrams
* `extractInterfaceIndex_eq_ok_iff` — the index is that of the first link of the name
* `exists_getInterfaceIndexFresh_iff` — names and indices agree
-/

namespace Segwire.Daemon

open Segwire.Common Segwire.Netlink

/-- `LinkAttribute`; only names are read. -/
inductive LinkAttribute
  | ifName (name : String)
  | other
  deriving DecidableEq, Repr

/-- A link. -/
structure LinkMessage where
  index : UInt32
  attributes : List LinkAttribute
  deriving DecidableEq, Repr

/-- The messages of route netlink that a dump of links is about. -/
inductive RouteNetlinkMessage
  | getLink (link : LinkMessage)
  | newLink (link : LinkMessage)
  | other
  deriving DecidableEq, Repr

/-- The request for a dump of all links. -/
def dumpLinksMessage : NetlinkMessage RouteNetlinkMessage :=
  ⟨⟨0, 0, nlmFDump, 0, 0⟩, .innerMessage (.getLink ⟨0, []⟩)⟩

/-- Send a link dump request via a fresh socket. Without an answer this waits. -/
def dumpLinks (codec : Codec RouteNetlinkMessage) (opened : Except NetlinkError NetlinkSocket)
    (send : List UInt8 → Except String Nat) :
    Option (Except NetlinkError (List (NetlinkMessage RouteNetlinkMessage))) :=
  match opened with
  | .error e => some (.error e)
  | .ok sock =>
    match sock.request codec send dumpLinksMessage with
    | .returned result _ => some result
    | .waiting _ | .panicked => none

/-- The name that an attribute gives. -/
def LinkAttribute.name? : LinkAttribute → Option String
  | .ifName name => some name
  | .other => none

/-- The link that a message tells of. -/
def newLink? (resp : NetlinkMessage RouteNetlinkMessage) : Option LinkMessage :=
  match resp.payload with
  | .innerMessage (.newLink link) => some link
  | _ => none

/-- Extract interface names from a link dump response. -/
def extractInterfaceNames (responses : List (NetlinkMessage RouteNetlinkMessage)) : List String :=
  (responses.filterMap newLink?).flatMap fun link => link.attributes.filterMap LinkAttribute.name?

/-- Extract the interface index for a given name from link dump responses. -/
def extractInterfaceIndex (responses : List (NetlinkMessage RouteNetlinkMessage))
    (name : String) : Except NetlinkError UInt32 :=
  match (responses.filterMap newLink?).find? fun link => .ifName name ∈ link.attributes with
  | some link => .ok link.index
  | none => .error (.interfaceNotFound name)

/-- Dump all links and return their interface names. -/
def dumpInterfaceNamesFresh (codec : Codec RouteNetlinkMessage)
    (opened : Except NetlinkError NetlinkSocket) (send : List UInt8 → Except String Nat) :
    Option (Except String (List String)) :=
  (dumpLinks codec opened send).map fun result =>
    (result.map extractInterfaceNames).mapError NetlinkError.display

/-- Get an interface index. -/
def getInterfaceIndexFresh (codec : Codec RouteNetlinkMessage)
    (opened : Except NetlinkError NetlinkSocket) (send : List UInt8 → Except String Nat)
    (name : String) : Option (Except String UInt32) :=
  (dumpLinks codec opened send).map fun result =>
    (result.bind fun responses => extractInterfaceIndex responses name).mapError
      NetlinkError.display

variable {responses : List (NetlinkMessage RouteNetlinkMessage)} {name : String}

theorem LinkAttribute.name?_eq_some_iff {attr : LinkAttribute} :
    attr.name? = some name ↔ attr = .ifName name := by
  cases attr with
  | ifName other => simp [name?]
  | other => simp [name?]

theorem mem_extractInterfaceNames_iff :
    name ∈ extractInterfaceNames responses ↔
      ∃ link ∈ responses.filterMap newLink?, .ifName name ∈ link.attributes := by
  rw [extractInterfaceNames, List.mem_flatMap]
  refine exists_congr fun link => and_congr_right fun _ => ?_
  simp only [List.mem_filterMap, LinkAttribute.name?_eq_some_iff, exists_eq_right]

/-- The first link of a name. -/
theorem find?_eq_some_iff_named {links : List LinkMessage} {link : LinkMessage} :
    (links.find? fun link => .ifName name ∈ link.attributes) = some link ↔
      .ifName name ∈ link.attributes ∧ ∃ before after, links = before ++ link :: after ∧
        ∀ earlier ∈ before, .ifName name ∉ earlier.attributes := by
  rw [List.find?_eq_some_iff_append]
  simp only [decide_eq_true_eq, Bool.not_eq_true', decide_eq_false_iff_not]

theorem find?_eq_none_iff_named :
    ((responses.filterMap newLink?).find? fun link => .ifName name ∈ link.attributes) = none ↔
      name ∉ extractInterfaceNames responses := by
  rw [List.find?_eq_none, mem_extractInterfaceNames_iff]
  simp only [decide_eq_true_eq, not_exists, not_and]

/-- The index is that of the first link of this name. -/
theorem extractInterfaceIndex_eq_ok_iff {index : UInt32} :
    extractInterfaceIndex responses name = .ok index ↔
      ∃ before link after, responses.filterMap newLink? = before ++ link :: after ∧
        link.index = index ∧ .ifName name ∈ link.attributes ∧
        ∀ earlier ∈ before, .ifName name ∉ earlier.attributes := by
  unfold extractInterfaceIndex
  constructor
  · intro h
    split at h
    · rename_i link hfind
      obtain ⟨hname, before, after, hlinks, hbefore⟩ := find?_eq_some_iff_named.mp hfind
      exact ⟨before, link, after, hlinks, Except.ok.inj h, hname, hbefore⟩
    · cases h
  · rintro ⟨before, link, after, hlinks, rfl, hname, hbefore⟩
    rw [find?_eq_some_iff_named.mpr ⟨hname, before, after, hlinks, hbefore⟩]

/-- A name is not found exactly if no link has it. -/
theorem extractInterfaceIndex_eq_error_iff :
    extractInterfaceIndex responses name = .error (.interfaceNotFound name) ↔
      name ∉ extractInterfaceNames responses := by
  rw [← find?_eq_none_iff_named]
  unfold extractInterfaceIndex
  split
  · rename_i link hfind
    exact iff_of_false nofun (hfind ▸ nofun)
  · rename_i hfind
    exact iff_of_true rfl hfind

/-- The names that are listed are those of which an index is found. -/
theorem exists_getInterfaceIndexFresh_iff {codec : Codec RouteNetlinkMessage}
    {opened : Except NetlinkError NetlinkSocket} {send : List UInt8 → Except String Nat}
    {names : List String} (h : dumpInterfaceNamesFresh codec opened send = some (.ok names)) :
    (∃ index, getInterfaceIndexFresh codec opened send name = some (.ok index)) ↔
      name ∈ names := by
  obtain ⟨result, hdump, hnames⟩ := Option.map_eq_some_iff.mp h
  cases result with
  | error e => cases hnames
  | ok responses =>
    obtain rfl : extractInterfaceNames responses = names := Except.ok.inj hnames
    have hindex : getInterfaceIndexFresh codec opened send name =
        some ((extractInterfaceIndex responses name).mapError NetlinkError.display) := by
      rw [getInterfaceIndexFresh, hdump]
      rfl
    rw [hindex, ← not_iff_not, ← extractInterfaceIndex_eq_error_iff]
    unfold extractInterfaceIndex
    split
    · exact iff_of_false (not_not.mpr ⟨_, rfl⟩) nofun
    · exact iff_of_true (fun ⟨_, hok⟩ => nomatch hok) rfl

/-- A dump that the kernel sends in any number of datagrams is answered with the messages of
all of them. -/
theorem dumpLinks_eq (codec : Codec RouteNetlinkMessage)
    {encode : NetlinkMessage RouteNetlinkMessage → List UInt8} {seq : UInt32}
    {send : List UInt8 → Except String Nat} {inbox : List (Except String (List UInt8))}
    {batches : List (List (NetlinkMessage RouteNetlinkMessage) × List UInt8)}
    {messages : List (NetlinkMessage RouteNetlinkMessage)} {datagram : List UInt8}
    (hsend : ∀ bytes, ∃ n, send bytes = .ok n)
    (hbatches : ∀ batch ∈ batches, Delivers codec.deserialize encode batch.1 batch.2 ∧
      ∀ message ∈ batch.1, message.payload.ending = none)
    (hlast : Delivers codec.deserialize encode messages datagram)
    (hdone : batchOutcome messages = .ok true) :
    dumpLinks codec
        (.ok ⟨seq, batches.map (fun batch => .ok batch.2) ++ .ok datagram :: inbox⟩) send =
      some (.ok ((batches.map Prod.fst).flatten ++
        messages.takeWhile fun message => message.payload.ending.isNone)) := by
  obtain ⟨n, hsend⟩ := hsend (codec.emit (NetlinkSocket.prepare codec
    ⟨seq, batches.map (fun batch => .ok batch.2) ++ .ok datagram :: inbox⟩ dumpLinksMessage))
  have hrequest := NetlinkSocket.request_eq_receive hsend
  have hdump : (dumpLinksMessage.header.flags &&& nlmFDump != 0) = true := by decide
  rw [dumpLinks, hrequest, hdump, NetlinkSocket.nextSeq, receive_dump hbatches hlast hdone,
    List.nil_append]

end Segwire.Daemon
