import Segwire.Daemon.RouteFamilies
import Segwire.Foundation.IpAddrDisplay
import Segwire.Netlink.Socket

/-!
# Listing routes

The daemon lists the routes of a namespace as lines of text. Two dumps are asked for on one
socket, one for each family, and every route becomes a line. A line tells everything that is
read of a route, and a listed route can be added again from its line, except that the line has
the index of the interface where the request has its name.

## Main definitions

* `RouteDump.formatRoute`, `RouteDump.dumpRoutesFresh` — the lines, and the dump
* `RouteDump.RouteView` — what is read of a route
* `RouteDump.RouteLine` — the words of a line, and `RouteLine.read`, which reads them
* `RouteDump.listedRoute` — the route that a line asks for
* `RouteDump.Reports` — the kernel reports a route as it was asked for

## Main results

* `RouteDump.formatRoute_eq_iff` — lines are equal exactly if what is read of the routes is
* `RouteDump.dumpRoutesFresh_restores` — listed routes can be added again
-/

namespace Segwire.Daemon.RouteDump

open Foundation Foundation.Text Segwire.Common Segwire.Netlink
open IpAddr (Ipv4Addr Ipv6Addr)

/-! ### Route messages -/

/-- `RouteAddress`; addresses of other families are skipped. -/
inductive RouteAddress
  | inet (ip : Ipv4Addr)
  | inet6 (ip : Ipv6Addr)
  | other
  deriving DecidableEq

/-- `RouteAttribute`, as far as it is formatted. -/
inductive RouteAttribute
  | destination (addr : RouteAddress)
  | gateway (addr : RouteAddress)
  | oif (idx : UInt32)
  | priority (metric : UInt32)
  | other
  deriving DecidableEq

/-- A route that the kernel sends. -/
structure RouteMessage where
  destinationPrefixLength : UInt8
  attributes : List RouteAttribute
  deriving DecidableEq

/-- The messages of route netlink that a dump of routes is about. -/
inductive RouteNetlinkMessage
  | getRoute (addressFamily : AddressFamily)
  | newRoute (route : RouteMessage)
  | other
  deriving DecidableEq

/-! ### Lines -/

/-- The text of an address. -/
def RouteAddress.display : RouteAddress → Option String
  | .inet ip => some (String.ofList (IpAddr.display (.v4 ip.val)))
  | .inet6 ip => some (String.ofList (IpAddr.display (.v6 ip.val)))
  | .other => none

/-- The variables of `format_route`. -/
structure RouteParts where
  dest : String
  gateway : String
  oif : UInt32
  parts : List String

/-- One step of the loop over the attributes. -/
def RouteParts.step (prefixLength : UInt8) (r : RouteParts) : RouteAttribute → RouteParts
  | .destination addr =>
    match addr.display with
    | some ip => { r with dest := ip ++ "/" ++ toString prefixLength.toNat }
    | none => r
  | .gateway addr =>
    match addr.display with
    | some ip => { r with gateway := "via " ++ ip }
    | none => r
  | .oif idx => { r with oif := idx }
  | .priority metric => { r with parts := r.parts ++ ["metric " ++ toString metric.toNat] }
  | .other => r

/-- Format a route message into a human-readable string. -/
def formatRoute (route : RouteMessage) : String :=
  let r := route.attributes.foldl (RouteParts.step route.destinationPrefixLength)
    ⟨"default", "", 0, []⟩
  let line := r.dest
  let line := if r.gateway = "" then line else line ++ " " ++ r.gateway
  let line := if r.oif = 0 then line else line ++ " dev ifindex:" ++ toString r.oif.toNat
  r.parts.foldl (fun line part => line ++ " " ++ part) line

/-- The request for all routes of a family. -/
def getRouteMessage (family : AddressFamily) : NetlinkMessage RouteNetlinkMessage :=
  ⟨⟨0, 0, nlmFDump, 0, 0⟩, .innerMessage (.getRoute family)⟩

/-- The route that a message tells of. -/
def newRoute? (resp : NetlinkMessage RouteNetlinkMessage) : Option RouteMessage :=
  match resp.payload with
  | .innerMessage (.newRoute route) => some route
  | _ => none

/-- The loop over the families. -/
def dumpFamilies (codec : Codec RouteNetlinkMessage) (send : List UInt8 → Except String Nat) :
    NetlinkSocket → List String → List AddressFamily → Option (Except String (List String))
  | _, routes, [] => some (.ok routes)
  | sock, routes, family :: families =>
    match sock.request codec send (getRouteMessage family) with
    | .returned (.error e) _ => some (.error e.display)
    | .returned (.ok responses) sock =>
      dumpFamilies codec send sock (routes ++ (responses.filterMap newRoute?).map formatRoute)
        families
    | .waiting _ | .panicked => none

/-- Dump all routes (IPv4 and IPv6) and return them as formatted strings. Without an answer this
waits. -/
def dumpRoutesFresh (codec : Codec RouteNetlinkMessage)
    (opened : Except NetlinkError NetlinkSocket) (send : List UInt8 → Except String Nat) :
    Option (Except String (List String)) :=
  match opened with
  | .error e => some (.error e.display)
  | .ok sock => dumpFamilies codec send sock [] [.inet, .inet6]

/-! ### What is read of a route -/

/-- An address of either family. -/
abbrev Address := {ip : IpAddr // ip.WellFormed}

/-- The address, unless its family is another one. -/
def RouteAddress.ip? : RouteAddress → Option Address
  | .inet ip => some ⟨.v4 ip.val, ip.property⟩
  | .inet6 ip => some ⟨.v6 ip.val, ip.property⟩
  | .other => none

/-- The destination that an attribute gives. -/
@[simp] def RouteAttribute.destination? : RouteAttribute → Option Address
  | .destination addr => addr.ip?
  | _ => none

/-- The gateway that an attribute gives. -/
@[simp] def RouteAttribute.gateway? : RouteAttribute → Option Address
  | .gateway addr => addr.ip?
  | _ => none

/-- The index that an attribute gives. -/
@[simp] def RouteAttribute.oif? : RouteAttribute → Option UInt32
  | .oif idx => some idx
  | _ => none

/-- The metric that an attribute gives. -/
@[simp] def RouteAttribute.priority? : RouteAttribute → Option UInt32
  | .priority metric => some metric
  | _ => none

/-- What a line tells of a route; no interface has the index zero. -/
structure RouteView where
  destination : Option (Address × UInt8)
  gateway : Option Address
  oif : UInt32
  priorities : List UInt32
  deriving DecidableEq

/-- What is read of a route: the last destination, gateway and interface, and all metrics. -/
def RouteMessage.view (route : RouteMessage) : RouteView where
  destination := (route.attributes.filterMap RouteAttribute.destination?).getLast?.map
    (·, route.destinationPrefixLength)
  gateway := (route.attributes.filterMap RouteAttribute.gateway?).getLast?
  oif := (route.attributes.filterMap RouteAttribute.oif?).getLast?.getD 0
  priorities := route.attributes.filterMap RouteAttribute.priority?

/-! ### The words of a line -/

/-- The words of a line, without those that name the others. -/
structure RouteLine where
  destination : List Char
  gateway : Option (List Char)
  dev : Option (List Char)
  metrics : List (List Char)
  deriving DecidableEq

namespace RouteLine

/-- The words of the metrics. -/
def metricWords (metrics : List (List Char)) : List (List Char) :=
  metrics.flatMap fun metric => ["metric".toList, metric]

/-- All words of the line. -/
def words (line : RouteLine) : List (List Char) :=
  line.destination :: (line.gateway.elim [] (["via".toList, ·]) ++
    (line.dev.elim [] (["dev".toList, ·]) ++ metricWords line.metrics))

/-- Read a word behind its name, if there is one. -/
def readNamed (name : List Char) : List (List Char) → Option (List Char) × List (List Char)
  | first :: word :: words =>
    if first = name then (some word, words) else (none, first :: word :: words)
  | words => (none, words)

/-- Read the metrics. -/
def readMetrics : List (List Char) → List (List Char)
  | first :: metric :: words =>
    if first = "metric".toList then metric :: readMetrics words else []
  | _ => []

/-- Read the words of a line. -/
def read (words : List (List Char)) : RouteLine :=
  let (gateway, rest) := readNamed "via".toList words.tail
  let (dev, rest) := readNamed "dev".toList rest
  ⟨words.headD [], gateway, dev, readMetrics rest⟩

theorem readNamed_elim {name : List Char} (word : Option (List Char)) {words : List (List Char)}
    (h : words.head? ≠ some name) :
    readNamed name (word.elim [] ([name, ·]) ++ words) = (word, words) := by
  cases word with
  | some word => exact if_pos rfl
  | none =>
    rw [Option.elim_none, List.nil_append]
    match words, h with
    | [], _ => rfl
    | [_], _ => rfl
    | first :: _ :: _, h => exact if_neg fun heq => h (congrArg some heq)

theorem readMetrics_metricWords (metrics : List (List Char)) :
    readMetrics (metricWords metrics) = metrics := by
  induction metrics with
  | nil => rfl
  | cons metric metrics ih =>
    rw [metricWords, List.flatMap_cons, ← metricWords]
    exact (if_pos rfl).trans (congrArg (metric :: ·) ih)

theorem head?_metricWords (metrics : List (List Char)) {name : List Char}
    (h : name ≠ "metric".toList) : (metricWords metrics).head? ≠ some name := by
  cases metrics with
  | nil => exact Option.some_ne_none name |>.symm
  | cons metric metrics => exact fun heq => h (Option.some.inj heq).symm

/-- The words of a line are read back. -/
theorem read_words (line : RouteLine) : read line.words = line := by
  have hdev : (line.dev.elim [] (["dev".toList, ·]) ++ metricWords line.metrics).head? ≠
      some "via".toList := by
    cases line.dev with
    | none => exact head?_metricWords _ (by decide)
    | some dev => exact fun heq => absurd (Option.some.inj heq) (by decide)
  rw [read, words, List.tail_cons, List.headD_cons, readNamed_elim _ hdev]
  dsimp only
  rw [readNamed_elim _ (head?_metricWords _ (by decide))]
  dsimp only
  rw [readMetrics_metricWords]

end RouteLine

/-! ### The words of a route -/

/-- The text of a number. -/
def decimal (n : Nat) : List Char := Nat.toDigits 10 n

/-- The word for a destination. -/
def destinationWord : Option (Address × UInt8) → List Char
  | none => "default".toList
  | some (ip, prefixLength) => ip.val.display ++ '/' :: decimal prefixLength.toNat

/-- The words for what is read of a route. -/
def RouteView.line (view : RouteView) : RouteLine where
  destination := destinationWord view.destination
  gateway := view.gateway.map fun ip => ip.val.display
  dev := if view.oif = 0 then none else some ("ifindex:".toList ++ decimal view.oif.toNat)
  metrics := view.priorities.map fun metric => decimal metric.toNat

theorem toList_toString_nat (n : Nat) : (toString n).toList = decimal n := by
  rw [Nat.toString_eq_repr, Nat.toList_repr, decimal]

theorem display_eq_ip? (addr : RouteAddress) :
    addr.display = addr.ip?.map fun ip => String.ofList ip.val.display := by
  cases addr with
  | inet ip => rfl
  | inet6 ip => rfl
  | other => rfl

theorem ofList_destinationWord (ip : Address) (prefixLength : UInt8) :
    String.ofList (destinationWord (some (ip, prefixLength))) =
      String.ofList ip.val.display ++ "/" ++ toString prefixLength.toNat := by
  apply String.toList_inj.mp
  rw [String.toList_ofList, String.toList_append, String.toList_append, String.toList_ofList,
    toList_toString_nat, List.append_assoc]
  rfl

/-- The variables of `format_route` behind the loop. -/
def RouteView.parts (view : RouteView) : RouteParts where
  dest := String.ofList (destinationWord view.destination)
  gateway := view.gateway.elim "" fun ip => "via " ++ String.ofList ip.val.display
  oif := view.oif
  parts := view.priorities.map fun metric => "metric " ++ toString metric.toNat

theorem filterMap_concat {α β : Type} (f : α → Option β) (as : List α) (a : α) :
    (as ++ [a]).filterMap f = as.filterMap f ++ (f a).toList := by
  rw [List.filterMap_append]
  cases h : f a with
  | none => simp [h]
  | some b => simp [h]

theorem getLast?_filterMap_concat {α β : Type} (f : α → Option β) (as : List α) (a : α) :
    ((as ++ [a]).filterMap f).getLast? = (f a).or (as.filterMap f).getLast? := by
  rw [filterMap_concat, List.getLast?_append]
  cases f a with
  | none => rfl
  | some b => rfl

variable {prefixLength : UInt8} {attributes : List RouteAttribute} {attr : RouteAttribute}

/-- What one more attribute adds. -/
theorem view_concat :
    RouteMessage.view ⟨prefixLength, attributes ++ [attr]⟩ =
      let view := RouteMessage.view ⟨prefixLength, attributes⟩
      { destination := (attr.destination?.map (·, prefixLength)).or view.destination
        gateway := attr.gateway?.or view.gateway
        oif := attr.oif?.getD view.oif
        priorities := view.priorities ++ attr.priority?.toList } := by
  dsimp only [RouteMessage.view]
  rw [getLast?_filterMap_concat, getLast?_filterMap_concat, getLast?_filterMap_concat,
    filterMap_concat, Option.map_or, Option.getD_or]

/-- The loop collects what is read of the route. -/
theorem foldl_step (prefixLength : UInt8) (attributes : List RouteAttribute) :
    attributes.foldl (RouteParts.step prefixLength) ⟨"default", "", 0, []⟩ =
      RouteView.parts (RouteMessage.view ⟨prefixLength, attributes⟩) := by
  -- the last attribute of a kind decides, so the list is taken apart from its end
  induction attributes using List.reverseRecOn with
  | nil => rfl
  | append_singleton attributes attr ih =>
    rw [List.foldl_append, ih, List.foldl_cons, List.foldl_nil, view_concat]
    generalize RouteMessage.view ⟨prefixLength, attributes⟩ = view
    cases attr with
    | destination addr =>
      rw [RouteParts.step, display_eq_ip?]
      cases hip : addr.ip? with
      | none => simp [RouteView.parts, hip]
      | some ip =>
        simp only [RouteAttribute.destination?, RouteAttribute.gateway?, RouteAttribute.oif?,
          RouteAttribute.priority?, hip, RouteView.parts, Option.map_some, Option.some_or,
          Option.none_or, Option.getD_none, Option.toList_none, List.append_nil]
        rw [ofList_destinationWord]
    | gateway addr =>
      rw [RouteParts.step, display_eq_ip?]
      cases hip : addr.ip? with
      | none => simp [RouteView.parts, hip]
      | some ip => simp [RouteView.parts, hip]
    | oif idx => simp [RouteParts.step, RouteView.parts]
    | priority metric => simp [RouteParts.step, RouteView.parts]
    | other => simp [RouteParts.step, RouteView.parts]

theorem intercalate_cons_eq_flatMap (sep : Char) (part : List Char) (parts : List (List Char)) :
    [sep].intercalate (part :: parts) = part ++ parts.flatMap (sep :: ·) := by
  induction parts generalizing part with
  | nil => simp
  | cons next parts ih =>
    rw [List.intercalate_cons_cons, ih, List.flatMap_cons, List.append_assoc]
    rfl

theorem toList_foldl_parts (parts : List String) (line : String) :
    (parts.foldl (fun line part => line ++ " " ++ part) line).toList =
      line.toList ++ parts.flatMap fun part => ' ' :: part.toList := by
  induction parts generalizing line with
  | nil => simp
  | cons part parts ih =>
    rw [List.foldl_cons, ih, List.flatMap_cons, String.toList_append, String.toList_append,
      List.append_assoc, List.append_assoc]
    rfl

/-- A line consists of its words. -/
theorem toList_formatRoute (route : RouteMessage) :
    (formatRoute route).toList = [' '].intercalate route.view.line.words := by
  rw [formatRoute, foldl_step]
  obtain ⟨destination, gateway, oif, priorities⟩ := route.view
  dsimp only [RouteView.parts, RouteView.line, RouteLine.words]
  rw [toList_foldl_parts, intercalate_cons_eq_flatMap, List.flatMap_append, List.flatMap_append,
    ← List.append_assoc, ← List.append_assoc]
  have hmetric (metric : UInt32) : ' ' :: ("metric " ++ toString metric.toNat).toList =
      ["metric".toList, decimal metric.toNat].flatMap (' ' :: ·) := by
    rw [String.toList_append, toList_toString_nat]
    simp
  have hmetrics : (priorities.map fun metric => "metric " ++ toString metric.toNat).flatMap
        (fun part => ' ' :: part.toList) =
      (RouteLine.metricWords (priorities.map fun metric => decimal metric.toNat)).flatMap
        (' ' :: ·) := by
    rw [RouteLine.metricWords, List.flatMap_map, List.flatMap_map, List.flatMap_assoc]
    exact List.flatMap_congr fun metric _ => hmetric metric
  rw [hmetrics]
  congr 1
  have hvia (ip : Address) : "via " ++ String.ofList ip.val.display ≠ "" := by
    intro hempty
    have hlist := congrArg String.toList hempty
    rw [String.toList_append] at hlist
    exact absurd (List.append_eq_nil_iff.mp hlist).1 (by decide)
  cases gateway with
  | none =>
    by_cases hoif : oif = 0
    · simp [hoif]
    · simp [hoif, decimal]
  | some ip =>
    by_cases hoif : oif = 0
    · simp [hoif, hvia]
    · simp [hoif, hvia, decimal]

/-! ### Lines tell routes apart -/

theorem notMem_display (ip : Address) {c : Char} (hdigit : ¬ IpAddr.IsDigit 16 c)
    (hdot : c ≠ '.') (hcolon : c ≠ ':') : c ∉ ip.val.display := by
  intro hc
  rcases IpAddr.mem_display hc with h | h | h
  · exact hdigit h
  · exact hdot h
  · exact hcolon h

theorem space_notMem_display (ip : Address) : ' ' ∉ ip.val.display :=
  notMem_display ip (by decide) (by decide) (by decide)

theorem slash_notMem_display (ip : Address) : '/' ∉ ip.val.display :=
  notMem_display ip (by decide) (by decide) (by decide)

theorem space_notMem_decimal (n : Nat) : ' ' ∉ decimal n := fun hspace =>
  absurd (Nat.isDigit_of_mem_toDigits (by omega) le_rfl hspace) (by decide)

theorem decimal_injective : Function.Injective decimal := by
  intro m n h
  have hread := congrArg (Nat.ofDigitChars 10 · 0) h
  rwa [decimal, decimal, Nat.ofDigitChars_ten_toDigits, Nat.ofDigitChars_ten_toDigits] at hread

theorem space_notMem_destinationWord (destination : Option (Address × UInt8)) :
    ' ' ∉ destinationWord destination := by
  cases destination with
  | none => decide
  | some destination =>
    rw [destinationWord, List.mem_append, List.mem_cons, not_or, not_or]
    exact ⟨space_notMem_display _, by decide, space_notMem_decimal _⟩

/-- The words of a line have no spaces. -/
theorem space_notMem_words (view : RouteView) : ∀ word ∈ view.line.words, ' ' ∉ word := by
  obtain ⟨destination, gateway, oif, priorities⟩ := view
  dsimp only [RouteView.line, RouteLine.words, RouteLine.metricWords]
  simp only [List.forall_mem_cons, List.forall_mem_append, List.forall_mem_flatMap,
    List.forall_mem_map]
  refine ⟨space_notMem_destinationWord destination, ?_, ?_, fun metric _ => ?_⟩
  · cases gateway with
    | none => exact List.forall_mem_nil _
    | some ip => simpa using space_notMem_display ip
  · by_cases hoif : oif = 0
    · simp [hoif]
    · simpa [hoif] using space_notMem_decimal oif.toNat
  · simpa using space_notMem_decimal metric.toNat

/-- The words of a line are read back from its text. -/
theorem read_formatRoute (route : RouteMessage) :
    RouteLine.read ((formatRoute route).toList.splitOn ' ') = route.view.line := by
  have hne : route.view.line.words ≠ [] := List.cons_ne_nil _ _
  rw [toList_formatRoute, splitOn_intercalate_eq (space_notMem_words route.view), if_neg hne,
    RouteLine.read_words]

theorem splitOnce_destinationWord (ip : Address) (prefixLength : UInt8) :
    splitOnce ['/'] (destinationWord (some (ip, prefixLength))) =
      some (ip.val.display, decimal prefixLength.toNat) :=
  splitOnce_singleton_eq_some_iff.mpr ⟨rfl, slash_notMem_display ip⟩

theorem display_injective : Function.Injective fun ip : Address => ip.val.display :=
  fun ip ip' h => Subtype.ext (IpAddr.display_injOn ip.property ip'.property h)

theorem destinationWord_injective : Function.Injective destinationWord := by
  have hdefault : splitOnce ['/'] (destinationWord none) = none := by decide
  intro destination destination' h
  have hsplit := congrArg (splitOnce ['/']) h
  cases destination with
  | none =>
    cases destination' with
    | none => rfl
    | some destination' =>
      rw [hdefault, splitOnce_destinationWord] at hsplit
      cases hsplit
  | some destination =>
    cases destination' with
    | none =>
      rw [hdefault, splitOnce_destinationWord] at hsplit
      cases hsplit
    | some destination' =>
      rw [splitOnce_destinationWord, splitOnce_destinationWord] at hsplit
      obtain ⟨hip, hlength⟩ := Prod.mk.inj (Option.some.inj hsplit)
      exact congrArg some (Prod.ext (display_injective hip)
        (UInt8.toNat_inj.mp (decimal_injective hlength)))

theorem line_injective : Function.Injective RouteView.line := by
  intro view view' h
  obtain ⟨destination, gateway, oif, priorities⟩ := view
  obtain ⟨destination', gateway', oif', priorities'⟩ := view'
  obtain ⟨hdestination, hgateway, hdev, hmetrics⟩ := RouteLine.mk.inj h
  have hnumber : Function.Injective fun n : UInt32 => decimal n.toNat := fun m n h =>
    UInt32.toNat_inj.mp (decimal_injective h)
  obtain rfl := destinationWord_injective hdestination
  obtain rfl := Option.map_injective display_injective hgateway
  obtain rfl := List.map_injective_iff.mpr hnumber hmetrics
  congr 1
  dsimp only at hdev
  split_ifs at hdev with hzero hzero' hzero'
  · rw [hzero, hzero']
  · exact hnumber (List.append_cancel_left (Option.some.inj hdev))

/-- Two routes have the same line if and only if the same is read of them: their destination and
its length, their gateway, their interface and their metrics. -/
theorem formatRoute_eq_iff (route route' : RouteMessage) :
    formatRoute route = formatRoute route' ↔ route.view = route'.view := by
  constructor
  · intro h
    apply line_injective
    rw [← read_formatRoute, h, read_formatRoute]
  · intro h
    apply String.toList_inj.mp
    rw [toList_formatRoute, toList_formatRoute, h]

example : formatRoute ⟨64, [.destination (.inet6 ⟨[64768, 0, 0, 0, 0, 0, 0, 0], by decide⟩),
    .gateway (.inet6 ⟨[65152, 0, 0, 0, 0, 0, 0, 1], by decide⟩), .priority 200]⟩ =
      "fd00::/64 via fe80::1 metric 200" := by decide

/-! ### Adding a listed route again -/

/-- The route that the words of a line ask for. The index of the interface is no name. -/
def RouteLine.config (line : RouteLine) : RouteConfig where
  destination := String.ofList line.destination
  gateway := String.ofList (line.gateway.getD [])
  interface := none
  metric := line.metrics.getLast?.bind parseU32

/-- The route that a line asks for. -/
def listedRoute (text : String) : RouteConfig := (RouteLine.read (text.toList.splitOn ' ')).config

/-- The message asks for a route of the daemon. -/
def Requested (message : Daemon.RouteMessage) : Prop :=
  ∃ interfaceIndex params, addRouteFresh interfaceIndex params = .ok message

/-- The kernel reports a route with the destination, the gateway and the metric that it was asked
for. -/
structure Reports (message : Daemon.RouteMessage) (route : RouteMessage) : Prop where
  destination : route.view.destination.map (fun d => (d.1.val, d.2.toNat)) =
    message.destination.map (·, message.destinationPrefixLength)
  gateway : route.view.gateway.map Subtype.val = message.gateway
  priorities : route.view.priorities.map UInt32.toNat = message.priority.toList

variable {message : Daemon.RouteMessage} {route : RouteMessage}

/-- Only a route with a destination has a prefix. -/
theorem Requested.prefixLength_eq_zero (h : Requested message)
    (hnone : message.destination = none) :
    message.destinationPrefixLength = 0 := by
  obtain ⟨interfaceIndex, params, hmessage⟩ := h
  have hdestination := (exists_of_addRouteFresh hmessage).1
  rw [hnone, parseDestination] at hdestination
  split at hdestination
  · exact (Prod.mk.inj (Except.ok.inj hdestination)).1.symm
  · split at hdestination
    · split at hdestination
      · cases hdestination
      · obtain ⟨ip, -, hip⟩ := Except.bind_eq_ok_iff.mp hdestination
        cases (Prod.mk.inj (Except.ok.inj hip)).2
    · obtain ⟨ip, -, hip⟩ := Except.bind_eq_ok_iff.mp hdestination
      cases (Prod.mk.inj (Except.ok.inj hip)).2

theorem Requested.addressFamily_eq (h : Requested message) : message.addressFamily =
    ((message.destination.map familyFor).or (message.gateway.map familyFor)).getD .inet := by
  obtain ⟨interfaceIndex, params, hmessage⟩ := h
  exact (exists_of_addRouteFresh hmessage).2.2

theorem parseRouteAddress_display (role : String) (ip : Address) :
    parseRouteAddress role ip.val.display = .ok ip.val :=
  parseRouteAddress_eq_ok_iff.mpr (IpAddr.parse_display ip.property)

/-- A destination is read back from its word. -/
theorem parseDestination_destinationWord (ip : Address) (prefixLength : UInt8) :
    parseDestination (String.ofList (destinationWord (some (ip, prefixLength)))) =
      .ok (prefixLength.toNat, some ip.val) := by
  have hne : String.ofList (destinationWord (some (ip, prefixLength))) ≠ "default" := by
    intro h
    have hword := congrArg String.toList h
    rw [String.toList_ofList] at hword
    have hsame : some (ip, prefixLength) = none := destinationWord_injective hword
    cases hsame
  have hlength : parseU8 (decimal prefixLength.toNat) = some prefixLength.toNat :=
    parseUnsigned_toDigits (Nat.le_of_lt_succ prefixLength.toNat_lt)
  rw [parseDestination, if_neg hne, String.toList_ofList, splitOnce_destinationWord]
  dsimp only
  rw [hlength]
  dsimp only
  rw [parseRouteAddress_display]
  rfl

/-- The message for a route without an interface. -/
theorem addRouteFresh_of_parts {interfaceIndex : String → Except String Nat} {prefixLength : Nat}
    {destination : Option IpAddr} (params : RouteConfig)
    (hdestination : parseDestination params.destination = .ok (prefixLength, destination))
    (gateway : Option Address)
    (hgateway : params.gateway = (gateway.map fun ip => String.ofList ip.val.display).getD "")
    (hinterface : params.interface = none) :
    addRouteFresh interfaceIndex params = .ok {
      addressFamily := ((destination.map familyFor).or
        ((gateway.map Subtype.val).map familyFor)).getD .inet
      destinationPrefixLength := prefixLength
      destination
      gateway := gateway.map Subtype.val
      priority := params.metric
      oif := none } := by
  rw [addRouteFresh, hdestination, hinterface]
  dsimp only [bind, Except.bind]
  cases gateway with
  | none =>
    have hempty : params.gateway = "" := hgateway
    rw [if_pos hempty]
    rfl
  | some ip =>
    have hne : params.gateway ≠ "" := by
      intro hempty
      have hdisplay : (String.ofList ip.val.display).toList = [] :=
        congrArg String.toList (hgateway.symm.trans hempty)
      have hparse := IpAddr.parse_display ip.property
      rw [← String.toList_ofList (l := ip.val.display), hdisplay] at hparse
      cases hparse
    have hread : parseRouteAddress "gateway" params.gateway.toList = .ok ip.val := by
      rw [hgateway, Option.map_some, Option.getD_some, String.toList_ofList,
        parseRouteAddress_display]
    rw [if_neg hne, hread]
    rfl

/-- A route that is reported as it was asked for can be asked for again by its line. -/
theorem addRouteFresh_listedRoute (h : Requested message) (hreports : Reports message route)
    (interfaceIndex : String → Except String Nat) :
    addRouteFresh interfaceIndex (listedRoute (formatRoute route)) =
      .ok { message with oif := none } := by
  have hconfig : listedRoute (formatRoute route) = route.view.line.config := by
    rw [listedRoute, read_formatRoute]
  have hdestination : parseDestination route.view.line.config.destination =
      .ok (message.destinationPrefixLength, message.destination) := by
    have hreported := hreports.destination
    dsimp only [RouteLine.config, RouteView.line]
    cases hview : route.view.destination with
    | none =>
      rw [hview] at hreported
      have hnone := Option.map_eq_none_iff.mp hreported.symm
      rw [h.prefixLength_eq_zero hnone, hnone]
      rfl
    | some destination =>
      rw [hview] at hreported
      obtain ⟨ip, hip, hpair⟩ := Option.map_eq_some_iff.mp hreported.symm
      obtain ⟨rfl, hlength⟩ := Prod.mk.inj hpair
      rw [hip, hlength]
      exact parseDestination_destinationWord _ _
  have hgateway : route.view.line.config.gateway =
      (route.view.gateway.map fun ip => String.ofList ip.val.display).getD "" := by
    dsimp only [RouteLine.config, RouteView.line]
    cases route.view.gateway with
    | none => rfl
    | some ip => rfl
  have hmetric : route.view.line.config.metric = message.priority := by
    have hparse (metric : UInt32) : parseU32 (decimal metric.toNat) = some metric.toNat :=
      parseUnsigned_toDigits (Nat.le_of_lt_succ metric.toNat_lt)
    have hlast : message.priority.toList.getLast? = message.priority := by
      cases message.priority with
      | none => rfl
      | some metric => rfl
    have hreported := congrArg List.getLast? hreports.priorities
    rw [hlast, List.getLast?_map] at hreported
    dsimp only [RouteLine.config, RouteView.line]
    rw [List.getLast?_map, ← hreported]
    cases route.view.priorities.getLast? with
    | none => rfl
    | some metric => exact hparse metric
  rw [hconfig, addRouteFresh_of_parts _ hdestination _ hgateway rfl, hreports.gateway, hmetric,
    ← h.addressFamily_eq]

/-! ### The dump -/

variable {codec : Codec RouteNetlinkMessage} {send : List UInt8 → Except String Nat}
  {encode : NetlinkMessage RouteNetlinkMessage → List UInt8}

/-- The routes that a dump brings. -/
def dumpedRoutes (answer : DumpAnswer codec.deserialize encode) : List RouteMessage :=
  answer.delivered.filterMap newRoute?

/-- One dump for each family: the lines of all routes, in the order of the families. -/
theorem dumpFamilies_eq (hsend : ∀ bytes, ∃ n, send bytes = .ok n)
    (dumps : List (AddressFamily × DumpAnswer codec.deserialize encode)) (seq : UInt32)
    (inbox : List (Except String (List UInt8))) (lines : List String) :
    dumpFamilies codec send ⟨seq, (dumps.map fun dump => dump.2.datagrams).flatten ++ inbox⟩ lines
        (dumps.map Prod.fst) =
      some (.ok (lines ++ (dumps.flatMap fun dump => dumpedRoutes dump.2).map formatRoute)) := by
  induction dumps generalizing seq lines with
  | nil => simp [dumpFamilies]
  | cons dump dumps ih =>
    have hdump : (getRouteMessage dump.1).header.flags &&& nlmFDump ≠ 0 := by
      change nlmFDump &&& nlmFDump ≠ 0
      decide
    rw [List.map_cons, List.map_cons, List.flatten_cons, List.append_assoc, dumpFamilies,
      NetlinkSocket.request_dumpAnswer hsend hdump]
    dsimp only
    rw [ih, List.flatMap_cons, List.map_append, List.append_assoc, dumpedRoutes]

/-- Routes that the kernel reports as they were asked for can be asked for again by the lines
that list them, in the order of the lines, whatever datagrams bring them. -/
theorem dumpRoutesFresh_restores (hsend : ∀ bytes, ∃ n, send bytes = .ok n)
    (inet inet6 : DumpAnswer codec.deserialize encode) (seq : UInt32)
    (inbox : List (Except String (List UInt8))) (messages : List Daemon.RouteMessage)
    (hrequested : ∀ message ∈ messages, Requested message)
    (hreports : List.Forall₂ Reports messages (dumpedRoutes inet ++ dumpedRoutes inet6))
    (interfaceIndex : String → Except String Nat) :
    ∃ lines, dumpRoutesFresh codec (.ok ⟨seq, inet.datagrams ++ (inet6.datagrams ++ inbox)⟩) send =
        some (.ok lines) ∧
      lines.map (fun line => addRouteFresh interfaceIndex (listedRoute line)) =
        messages.map fun message => .ok { message with oif := none } := by
  refine ⟨(dumpedRoutes inet ++ dumpedRoutes inet6).map formatRoute, ?_, ?_⟩
  · have hdump := dumpFamilies_eq hsend [(.inet, inet), (.inet6, inet6)] seq inbox []
    simpa [dumpRoutesFresh] using hdump
  · generalize dumpedRoutes inet ++ dumpedRoutes inet6 = routes at hreports
    induction hreports with
    | nil => rfl
    | cons hreport hreports ih =>
      rw [List.forall_mem_cons] at hrequested
      rw [List.map_cons, List.map_cons, List.map_cons, ih hrequested.2,
        addRouteFresh_listedRoute hrequested.1 hreport]

section Fixture

/-- The bytes of an address. -/
def RouteAddress.bytes : RouteAddress → List UInt8
  | .inet ip => ip.val.map UInt8.ofNat
  | .inet6 ip => ip.val.flatMap fun group => [UInt8.ofNat (group / 256), UInt8.ofNat group]
  | .other => []

/-- The bytes of an attribute: its length, its kind and its value. -/
def RouteAttribute.bytes : RouteAttribute → List UInt8
  | .destination addr => UInt8.ofNat (4 + addr.bytes.length) :: 0 :: 1 :: 0 :: addr.bytes
  | .gateway addr => UInt8.ofNat (4 + addr.bytes.length) :: 0 :: 5 :: 0 :: addr.bytes
  | .oif idx => 8 :: 0 :: 4 :: 0 :: toNeBytes 4 idx.toNat
  | .priority metric => 8 :: 0 :: 6 :: 0 :: toNeBytes 4 metric.toNat
  | .other => []

/-- The attribute has an IPv6 address. -/
def RouteAttribute.isInet6 : RouteAttribute → Bool
  | .destination (.inet6 _) | .gateway (.inet6 _) => true
  | _ => false

/-- The number of an address family. -/
def familyByte : AddressFamily → UInt8
  | .inet => 2
  | .inet6 => 10

/-- The bytes of a route behind its header. -/
def RouteNetlinkMessage.bytes : RouteNetlinkMessage → List UInt8
  | .getRoute family => [familyByte family, 0, 0, 0, 0, 0, 0, 0, 0, 0, 0, 0]
  | .newRoute route =>
    let family := if route.attributes.any RouteAttribute.isInet6 then .inet6 else .inet
    [familyByte family, route.destinationPrefixLength, 0, 0, 254, 4, 0, 1, 0, 0, 0, 0] ++
      route.attributes.flatMap RouteAttribute.bytes
  | .other => []

/-- The bytes of a message. -/
def routeEncode (message : NetlinkMessage RouteNetlinkMessage) : List UInt8 :=
  plainEncode ⟨message.header,
    match message.payload with
    | .done => .done
    | .error code => .error code
    | .noop => .noop
    | .overrun bytes => .overrun bytes
    | .innerMessage route => .innerMessage route.bytes⟩

/-- The address in these bytes. -/
def readAddress (bytes : List UInt8) : RouteAddress :=
  let octets := bytes.map UInt8.toNat
  let groups := (List.range 8).map fun i => 256 * octets.getD (2 * i) 0 + octets.getD (2 * i + 1) 0
  if h : bytes.length = 4 ∧ (IpAddr.v4 octets).WellFormed then .inet ⟨octets, h.2⟩
  else if h : bytes.length = 16 ∧ (IpAddr.v6 groups).WellFormed then .inet6 ⟨groups, h.2⟩
  else .other

/-- The attributes in these bytes. -/
def readAttributes : Nat → List UInt8 → List RouteAttribute
  | fuel + 1, length :: _ :: kind :: _ :: rest =>
    let value := rest.take (length.toNat - 4)
    let attr : RouteAttribute :=
      if kind = 1 then .destination (readAddress value)
      else if kind = 5 then .gateway (readAddress value)
      else if kind = 4 then .oif (UInt32.ofNat (fromNeBytes value))
      else if kind = 6 then .priority (UInt32.ofNat (fromNeBytes value))
      else .other
    attr :: readAttributes fuel (rest.drop (length.toNat - 4))
  | _, _ => []

/-- The message in these bytes. -/
def routeDeserialize (bytes : List UInt8) : Except String (NetlinkMessage RouteNetlinkMessage) :=
  (plainDeserialize bytes).map fun message => ⟨message.header,
    match message.payload with
    | .done => .done
    | .error code => .error code
    | .noop => .noop
    | .overrun bytes => .overrun bytes
    | .innerMessage body =>
      if message.header.messageType = 24 then
        .innerMessage (.newRoute ⟨body.getD 1 0, readAttributes body.length (body.drop 12)⟩)
      else .innerMessage .other⟩

/-- The codec that fills in the length of a message. -/
def routeCodec : Codec RouteNetlinkMessage where
  finalize message := { message with header := { message.header with
    length := UInt32.ofNat (routeEncode message).length } }
  emit := routeEncode
  deserialize := routeDeserialize
  finalize_flags _ := rfl

/-- A default route, as the kernel sends it. -/
def defaultRoute : NetlinkMessage RouteNetlinkMessage :=
  ⟨⟨44, 24, 2, 1, 0⟩, .innerMessage (.newRoute ⟨0,
    [.oif 3, .gateway (.inet ⟨[10, 0, 0, 1], by decide⟩)]⟩)⟩

/-- A route to an IPv6 network. -/
def ipv6Route : NetlinkMessage RouteNetlinkMessage :=
  ⟨⟨56, 24, 2, 2, 0⟩, .innerMessage (.newRoute ⟨64,
    [.destination (.inet6 ⟨[64768, 0, 0, 0, 0, 0, 0, 0], by decide⟩), .priority 100]⟩)⟩

/-- The end of a dump. -/
def routesDone : NetlinkMessage RouteNetlinkMessage := ⟨⟨20, 3, 2, 1, 0⟩, .done⟩

theorem delivers_one {message : NetlinkMessage RouteNetlinkMessage}
    (h : WellFormed routeDeserialize routeEncode message)
    (hfits : (routeEncode message).length ≤ recvBufLen) :
    Delivers routeDeserialize routeEncode [message] (routeEncode message) where
  wellFormed := List.forall_mem_singleton.mpr h
  concatenated := .unpadded _
  fits := hfits

/-- A dump that brings one route, and its end in a datagram of its own. -/
def oneRoute (message : NetlinkMessage RouteNetlinkMessage)
    (h : WellFormed routeDeserialize routeEncode message)
    (hfits : (routeEncode message).length ≤ recvBufLen) (hdata : message.payload.ending = none) :
    DumpAnswer routeCodec.deserialize routeEncode where
  batches := [([message], routeEncode message)]
  messages := [routesDone]
  datagram := routeEncode routesDone
  data := List.forall_mem_singleton.mpr
    ⟨delivers_one h hfits, List.forall_mem_singleton.mpr hdata⟩
  last := delivers_one ⟨by decide, by decide, rfl⟩ (by decide)
  done := rfl

/-- The answer to the dump of IPv4 routes. -/
def inetAnswer : DumpAnswer routeCodec.deserialize routeEncode :=
  oneRoute defaultRoute ⟨by decide, by decide, rfl⟩ (by decide) rfl

/-- The answer to the dump of IPv6 routes. -/
def inet6Answer : DumpAnswer routeCodec.deserialize routeEncode :=
  oneRoute ipv6Route ⟨by decide, by decide, rfl⟩ (by decide) rfl

/-- The messages that asked for these routes. -/
def askedRoutes : List Daemon.RouteMessage :=
  [⟨.inet, 0, none, some (.v4 [10, 0, 0, 1]), none, some 3⟩,
    ⟨.inet6, 64, some (.v6 [64768, 0, 0, 0, 0, 0, 0, 0]), none, some 100, none⟩]

end Fixture

theorem dumpRoutesFresh_restores_twoRoutes :
    ∃ lines, dumpRoutesFresh routeCodec (.ok ⟨1, inetAnswer.datagrams ++
        (inet6Answer.datagrams ++ [])⟩) (fun bytes => .ok bytes.length) = some (.ok lines) ∧
      lines.map (fun line => addRouteFresh (fun _ => .error "no interface") (listedRoute line)) =
        askedRoutes.map fun message => .ok { message with oif := none } := by
  refine dumpRoutesFresh_restores (fun bytes => ⟨bytes.length, rfl⟩) inetAnswer inet6Answer 1 []
    askedRoutes ?_ ?_ _
  · rw [askedRoutes, List.forall_mem_cons, List.forall_mem_singleton]
    exact ⟨⟨fun _ => .ok 3, ⟨"default", "10.0.0.1", some "eth0", none⟩, by decide⟩,
      ⟨fun _ => .ok 3, ⟨"fd00::/64", "", none, some 100⟩, by decide⟩⟩
  · exact .cons ⟨rfl, rfl, rfl⟩ (.cons ⟨rfl, rfl, rfl⟩ .nil)

end Segwire.Daemon.RouteDump
