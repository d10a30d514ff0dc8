import Segwire.Netlink.Batch

/-!
# Batches of encoded messages

A datagram of encoded messages, padded as the kernel pads them, gives back these messages: all
that come before the first one that ends the batch, in their order.

## Main definitions

* `Concatenated` — messages one after the other, with their padding
* `WellFormed` — what the walk needs of the encoding of a message
* `batchOutcome` — how the first message that ends the batch ends it

## Main results

* `parseResponseBatch_concatenated` — the messages and the outcome, and that no byte string
  makes the walk leave the datagram or go on forever
-/

namespace Segwire.Netlink

open Foundation Segwire.Common

/-- Messages one after the other, each padded to a multiple of four bytes except that the last
one need not be. -/
inductive Concatenated : List (List UInt8) → List UInt8 → Prop
  | nil : Concatenated [] []
  | unpadded (frame : List UInt8) : Concatenated [frame] frame
  | padded (frame padding : List UInt8)
      (hpadding : frame.length + padding.length = align4 frame.length)
      {frames : List (List UInt8)} {rest : List UInt8} (hrest : Concatenated frames rest) :
      Concatenated (frame :: frames) (frame ++ padding ++ rest)

variable {I : Type} {deserialize : List UInt8 → Except String (NetlinkMessage I)}
  {encode : NetlinkMessage I → List UInt8} {message : NetlinkMessage I}
  {messages : List (NetlinkMessage I)} {before rest data : List UInt8}

/-- The encoding of a message starts with its length and has a header, and the packet library
reads it back. -/
structure WellFormed (deserialize : List UInt8 → Except String (NetlinkMessage I))
    (encode : NetlinkMessage I → List UInt8) (message : NetlinkMessage I) : Prop where
  length : fromNeBytes ((encode message).take 4) = (encode message).length
  header : 16 ≤ (encode message).length
  decode : deserialize (encode message) = .ok message

/-- How the first message that is not data ends a batch; without one, more is expected. -/
def batchOutcome (messages : List (NetlinkMessage I)) : Except NetlinkError Bool :=
  (messages.findSome? fun message => message.payload.ending).getD (.ok false)

theorem batchOutcome_cons_of_data (h : message.payload.ending = none) :
    batchOutcome (message :: messages) = batchOutcome messages := by
  rw [batchOutcome, List.findSome?_cons, h]
  rfl

theorem batchOutcome_cons_of_ending {outcome : Except NetlinkError Bool}
    (h : message.payload.ending = some outcome) : batchOutcome (message :: messages) = outcome := by
  rw [batchOutcome, List.findSome?_cons, h]
  rfl

/-! ### A message among other bytes -/

theorem WellFormed.lengthAt_eq (h : WellFormed deserialize encode message)
    (before rest : List UInt8) :
    lengthAt (before ++ (encode message ++ rest)) before.length = (encode message).length := by
  have hfour : 4 ≤ (encode message).length := by
    have := h.header
    omega
  rw [lengthAt, List.drop_left, List.take_append_of_le_length hfour, h.length]

theorem WellFormed.messageAt_eq (h : WellFormed deserialize encode message)
    (before rest : List UInt8) :
    messageAt (before ++ (encode message ++ rest)) before.length = encode message := by
  rw [messageAt, h.lengthAt_eq, List.drop_left, List.take_left]

theorem WellFormed.framed (h : WellFormed deserialize encode message)
    (before rest : List UInt8) :
    Framed (before ++ (encode message ++ rest)) before.length := by
  have hheader := h.header
  have hlength := h.lengthAt_eq before rest
  constructor
  · rw [List.length_append, List.length_append]
    omega
  · omega
  · rw [hlength, List.length_append, List.length_append]
    omega

/-- A message that ends the batch ends the walk; behind any other message the walk goes on. -/
theorem WellFormed.exists_consumes (h : WellFormed deserialize encode message)
    (hdata : data = before ++ (encode message ++ rest))
    (hrest : message.payload.ending = none →
      ∃ stop, Consumes deserialize data (nextOffset data before.length)
          (messages.takeWhile fun message => message.payload.ending.isNone) stop ∧
        Stops deserialize data stop (batchOutcome messages)) :
    ∃ stop, Consumes deserialize data before.length
        ((message :: messages).takeWhile fun message => message.payload.ending.isNone) stop ∧
      Stops deserialize data stop (batchOutcome (message :: messages)) := by
  have hframed : Framed data before.length := hdata ▸ h.framed before rest
  have hdecode : deserialize (messageAt data before.length) = .ok message := by
    rw [hdata, h.messageAt_eq before rest, h.decode]
  cases hending : message.payload.ending with
  | some outcome =>
    rw [batchOutcome_cons_of_ending hending, List.takeWhile_cons_of_neg (by simp [hending])]
    exact ⟨before.length, .nil, .ended message outcome hframed hdecode hending⟩
  | none =>
    obtain ⟨stop, hconsumes, hstops⟩ := hrest hending
    rw [batchOutcome_cons_of_data hending, List.takeWhile_cons_of_pos (by simp [hending])]
    exact ⟨stop, .cons hframed hdecode hending hconsumes, hstops⟩

/-- The walk over well-formed messages, from an offset at which messages may start. -/
theorem exists_consumes_of_concatenated {frames : List (List UInt8)}
    (hrest : Concatenated frames rest) (hframes : messages.map encode = frames)
    (hmessages : ∀ message ∈ messages, WellFormed deserialize encode message)
    (before : List UInt8) (hbefore : 4 ∣ before.length) :
    ∃ stop, Consumes deserialize (before ++ rest) before.length
        (messages.takeWhile fun message => message.payload.ending.isNone) stop ∧
      Stops deserialize (before ++ rest) stop (batchOutcome messages) := by
  -- the rest of the datagram is taken apart frame by frame
  induction hrest generalizing messages before with
  | nil =>
    rw [List.map_eq_nil_iff.mp hframes, List.append_nil]
    exact ⟨before.length, .nil, .finished le_rfl⟩
  | unpadded frame =>
    obtain ⟨message, rfl, rfl⟩ := List.map_eq_singleton_iff.mp hframes
    have hwell := hmessages message (List.mem_singleton_self message)
    have hlength := hwell.lengthAt_eq before []
    rw [List.append_nil] at hlength
    refine hwell.exists_consumes (by rw [List.append_nil]) fun _ => ⟨_, .nil, .finished ?_⟩
    -- the next offset may lie behind the end of the datagram
    rw [List.length_append, ← hlength]
    exact le_nextOffset _ _
  | padded frame padding hpadding hrest ih =>
    obtain ⟨message, messages, rfl, rfl, rfl⟩ := List.map_eq_cons_iff.mp hframes
    rename_i rest
    have hwell := hmessages message List.mem_cons_self
    have hlength := hwell.lengthAt_eq before (padding ++ rest)
    rw [List.append_assoc]
    refine hwell.exists_consumes rfl fun _ => ?_
    have hnext : (before ++ (encode message ++ padding)).length =
        before.length + align4 (encode message).length := by
      rw [List.length_append, List.length_append, hpadding]
    have haligned : 4 ∣ (before ++ (encode message ++ padding)).length := by
      rw [hnext]
      exact Nat.dvd_add hbefore (dvd_align4 _)
    have hwalk := ih rfl (fun m hm => hmessages m (List.mem_cons_of_mem _ hm))
      (before ++ (encode message ++ padding)) haligned
    rw [nextOffset, hlength, align4_add hbefore, ← hnext]
    simpa only [List.append_assoc] using hwalk

/-- What the walk makes of a whole datagram of well-formed messages. -/
theorem result_of_concatenated
    (hmessages : ∀ message ∈ messages, WellFormed deserialize encode message)
    (hdata : Concatenated (messages.map encode) data) (responses : List (NetlinkMessage I)) :
    (parseResponseBatch deserialize data responses).result =
      some (batchOutcome messages,
        responses ++ messages.takeWhile fun message => message.payload.ending.isNone) := by
  obtain ⟨stop, hconsumes, hstops⟩ := exists_consumes_of_concatenated hdata rfl hmessages
    [] (dvd_zero 4)
  exact parseFrom_of_consumes hconsumes hstops responses

/-- A batch of data messages is not the last one. -/
theorem batchOutcome_of_data (h : ∀ message ∈ messages, message.payload.ending = none) :
    batchOutcome messages = .ok false := by
  rw [batchOutcome, List.findSome?_eq_none_iff.mpr h]
  rfl

section Fixture

/-- `NLMSG_NOOP`, `NLMSG_ERROR`, `NLMSG_DONE` and `NLMSG_OVERRUN` are the types below 5; every
other message is its bytes. -/
def plainDeserialize (bytes : List UInt8) : Except String (NetlinkMessage (List UInt8)) :=
  let number (start count : Nat) := fromNeBytes ((bytes.drop start).take count)
  let header : NetlinkHeader := ⟨UInt32.ofNat (number 0 4), UInt16.ofNat (number 4 2),
    UInt16.ofNat (number 6 2), UInt32.ofNat (number 8 4), UInt32.ofNat (number 12 4)⟩
  let body := bytes.drop 16
  match number 4 2 with
  | 1 => .ok ⟨header, .noop⟩
  | 2 =>
    if body.length < 4 then .error "failed to parse NLMSG_ERROR" else
      let code := Int32.ofNat (number 16 4)
      .ok ⟨header, .error (if h : code ≠ 0 then some ⟨code, h⟩ else none)⟩
  | 3 => .ok ⟨header, .done⟩
  | 4 => .ok ⟨header, .overrun body⟩
  | _ => .ok ⟨header, .innerMessage body⟩

/-- A header, and behind it what the message carries. -/
def plainEncode (message : NetlinkMessage (List UInt8)) : List UInt8 :=
  let header := message.header
  toNeBytes 4 header.length.toNat ++ toNeBytes 2 header.messageType.toNat ++
    toNeBytes 2 header.flags.toNat ++ toNeBytes 4 header.sequenceNumber.toNat ++
    toNeBytes 4 header.portNumber.toNat ++
    match message.payload with
    | .done | .error none => [0, 0, 0, 0]
    | .error (some code) => toNeBytes 4 code.val.toUInt32.toNat
    | .noop => []
    | .overrun bytes | .innerMessage bytes => bytes

/-- A link. -/
def firstLink : NetlinkMessage (List UInt8) := ⟨⟨20, 16, 2, 1, 0⟩, .innerMessage [1, 1, 1, 1]⟩

/-- A link of an odd length. -/
def secondLink : NetlinkMessage (List UInt8) := ⟨⟨18, 16, 2, 1, 0⟩, .innerMessage [2, 2]⟩

/-- The end of a dump. -/
def dumpDone : NetlinkMessage (List UInt8) := ⟨⟨20, 3, 2, 1, 0⟩, .done⟩

end Fixture

/-- Well-formed messages are decoded up to the one that ends the batch, and no byte string makes
the walk leave the datagram or go on forever. -/
theorem parseResponseBatch_concatenated
    (deserialize : List UInt8 → Except String (NetlinkMessage I))
    (encode : NetlinkMessage I → List UInt8) (data : List UInt8)
    (responses : List (NetlinkMessage I)) :
    (∀ messages : List (NetlinkMessage I),
      (∀ message ∈ messages, WellFormed deserialize encode message) →
      Concatenated (messages.map encode) data →
      (parseResponseBatch deserialize data responses).result =
        some (batchOutcome messages,
          responses ++ messages.takeWhile fun message => message.payload.ending.isNone)) ∧
      (∃ r, (parseResponseBatch deserialize data responses).result = some r) ∧
      (parseResponseBatch deserialize data responses).Below data.length := by
  obtain ⟨outcome, messages, stop, -, -, hresult⟩ :=
    exists_parseFrom_result deserialize data 0 responses
  exact ⟨fun messages hmessages hdata => result_of_concatenated hmessages hdata responses,
    ⟨_, hresult⟩, below_parseFrom deserialize data 0 responses⟩

theorem parseResponseBatch_concatenated_twoLinks :
    (parseResponseBatch plainDeserialize
      (plainEncode firstLink ++ [] ++ (plainEncode secondLink ++ [0, 0] ++ plainEncode dumpDone))
      []).result = some (.ok true, [firstLink, secondLink]) :=
  (parseResponseBatch_concatenated plainDeserialize plainEncode _ []).1
    [firstLink, secondLink, dumpDone]
    (by
      rw [List.forall_mem_cons, List.forall_mem_cons, List.forall_mem_singleton]
      exact ⟨⟨rfl, by decide, rfl⟩, ⟨rfl, by decide, rfl⟩, rfl, by decide, rfl⟩)
    (.padded _ _ rfl (.padded _ _ rfl (.unpadded _)))

end Segwire.Netlink
