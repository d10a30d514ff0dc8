import Mathlib.Data.List.TakeWhile
import Segwire.Netlink.MalformedBatches

/-!
# Requests over a netlink socket

A request is sent, and then datagrams are received until one of them ends the batch. A request
that is not a dump ends with the first datagram that brings anything. Whether it is a dump is
read off two bits of the flags, which mean something else in a request that creates: one bit is
enough for the socket, and then it reads on behind the answer.

## Main definitions

* `NetlinkSocket` — the next sequence number, and what the kernel has queued
* `receive`, `NetlinkSocket.request` — the receive loop and the request
* `Answers` — a datagram holds data, an acknowledgement or an error
* `StopsAt` — a request leaves unread what comes behind a datagram
* `DumpAnswer` — the datagrams in which a dump is delivered

## Main results

* `request_stopsAt_iff` — a request stops at its first answer exactly if neither bit is set or
  a message ends the batch by then
* `receive_dump` — a dump gives the messages of all its datagrams
-/

namespace Segwire.Netlink

open Foundation Segwire.Common

/-! ### Flags -/

/-- `NLM_F_REQUEST` -/
def nlmFRequest : UInt16 := 0x1

/-- `NLM_F_ACK` -/
def nlmFAck : UInt16 := 0x4

/-- `NLM_F_ROOT`, for requests that get something -/
def nlmFRoot : UInt16 := 0x100

/-- `NLM_F_MATCH`, for requests that get something -/
def nlmFMatch : UInt16 := 0x200

/-- `NLM_F_DUMP` -/
def nlmFDump : UInt16 := nlmFRoot ||| nlmFMatch

/-- `NLM_F_EXCL`, for requests that create something -/
def nlmFExcl : UInt16 := 0x200

/-- `NLM_F_CREATE`, for requests that create something -/
def nlmFCreate : UInt16 := 0x400

theorem or_nlmFRequest_and_nlmFDump (flags : UInt16) :
    (flags ||| nlmFRequest) &&& nlmFDump = flags &&& nlmFDump := by
  have hrequest : nlmFRequest.toNat &&& nlmFDump.toNat = 0 := by decide
  apply UInt16.toNat_inj.mp
  rw [UInt16.toNat_and, UInt16.toNat_or, Nat.and_or_distrib_right, hrequest, Nat.or_zero,
    UInt16.toNat_and]

/-! ### The socket -/

/-- What the packet library does with the messages of a protocol. -/
structure Codec (I : Type) where
  finalize : NetlinkMessage I → NetlinkMessage I
  emit : NetlinkMessage I → List UInt8
  deserialize : List UInt8 → Except String (NetlinkMessage I)
  /-- The length and the type of a message are filled in, its flags stay. -/
  finalize_flags : ∀ message, (finalize message).header.flags = message.header.flags

/-- A socket, with what `recv` hands over in this order: datagrams or the texts of errors. -/
structure NetlinkSocket where
  seq : UInt32
  inbox : List (Except String (List UInt8))

/-- How a request goes on: it returns and leaves something unread, it waits for a datagram that
is not there, or it panics. -/
inductive Reception (I : Type)
  | returned (result : Except NetlinkError (List (NetlinkMessage I))) (socket : NetlinkSocket)
  | waiting (responses : List (NetlinkMessage I))
  | panicked

variable {I : Type}

/-- The number of bytes that the receive buffer holds; the rest of a datagram is cut off. -/
def recvBufLen : Nat := 65536

/-- What of a datagram is received. -/
def received (datagram : List UInt8) : List UInt8 := datagram.take recvBufLen

/-- Receive and parse responses. -/
def receive (deserialize : List UInt8 → Except String (NetlinkMessage I)) (isDump : Bool)
    (seq : UInt32) : List (Except String (List UInt8)) → List (NetlinkMessage I) → Reception I
  | [], responses => .waiting responses
  | .error e :: inbox, _ =>
    .returned (.error (.socketError ("recv() failed: " ++ e))) ⟨seq, inbox⟩
  | .ok datagram :: inbox, responses =>
    match (parseResponseBatch deserialize (received datagram) responses).result with
    | none => .panicked
    | some (.error e, _) => .returned (.error e) ⟨seq, inbox⟩
    | some (.ok true, responses) => .returned (.ok responses) ⟨seq, inbox⟩
    | some (.ok false, responses) =>
      -- for non-DUMP requests, stop after the first batch
      if !isDump && !responses.isEmpty then .returned (.ok responses) ⟨seq, inbox⟩
      else receive deserialize isDump seq inbox responses

namespace NetlinkSocket

/-- Allocate a fresh sequence number for outgoing netlink messages. -/
def nextSeq (socket : NetlinkSocket) : UInt32 × NetlinkSocket :=
  (socket.seq, { socket with seq := socket.seq + 1 })

/-- The message that is sent. -/
def prepare (codec : Codec I) (socket : NetlinkSocket) (message : NetlinkMessage I) :
    NetlinkMessage I :=
  codec.finalize { message with header := { message.header with
    sequenceNumber := socket.nextSeq.1, flags := message.header.flags ||| nlmFRequest } }

/-- Send a typed netlink message and collect all response messages. -/
def request (codec : Codec I) (send : List UInt8 → Except String Nat) (socket : NetlinkSocket)
    (message : NetlinkMessage I) : Reception I :=
  let prepared := socket.prepare codec message
  let socket := socket.nextSeq.2
  match send (codec.emit prepared) with
  | .error e => .returned (.error (.socketError ("send() failed: " ++ e))) socket
  | .ok _ =>
    let isDump := prepared.header.flags &&& nlmFDump != 0
    receive codec.deserialize isDump socket.seq socket.inbox []

end NetlinkSocket

/-! ### What a datagram holds -/

/-- Where messages start, whatever they are. -/
inductive MessageStart (data : List UInt8) : Nat → Prop
  | first : MessageStart data 0
  | next {offset : Nat} (h : MessageStart data offset) (hframed : Framed data offset) :
      MessageStart data (nextOffset data offset)

/-- A datagram holds a data message, an acknowledgement or an error. -/
def Answers (deserialize : List UInt8 → Except String (NetlinkMessage I)) (data : List UInt8) :
    Prop :=
  ∃ start message, MessageStart data start ∧ Framed data start ∧
    deserialize (messageAt data start) = .ok message ∧ message.payload ≠ .done

/-- The walk comes to a message that is not data. -/
def EndsBatch (deserialize : List UInt8 → Except String (NetlinkMessage I)) (data : List UInt8) :
    Prop :=
  ∃ stop, Boundary deserialize data stop ∧ Framed data stop ∧
    ∀ message, deserialize (messageAt data stop) = .ok message → message.payload.ending ≠ none

/-- A request that gets datagrams reads nothing behind one of them, and if nothing at all comes
earlier, it reads up to this one. -/
def StopsAt (before : List (List UInt8)) (after : List (Except String (List UInt8)))
    (reception : Reception I) : Prop :=
  ∃ result socket, reception = .returned result socket ∧ after <:+ socket.inbox ∧
    ((∀ datagram ∈ before, ¬ Framed (received datagram) 0) → socket.inbox = after)

variable {deserialize : List UInt8 → Except String (NetlinkMessage I)} {isDump : Bool}
  {seq : UInt32} {data datagram : List UInt8} {inbox : List (Except String (List UInt8))}
  {responses : List (NetlinkMessage I)} {before : List (List UInt8)}
  {after : List (Except String (List UInt8))}

theorem MessageStart.framed_zero {start : Nat} (h : MessageStart data start)
    (hframed : Framed data start) : Framed data 0 := by
  induction h with
  | first => exact hframed
  | next h hprevious ih => exact ih hprevious

theorem Answers.framed (h : Answers deserialize data) : Framed data 0 := by
  obtain ⟨start, message, hstart, hframed, -⟩ := h
  exact hstart.framed_zero hframed

/-- A complete message that is no answer ends the batch. -/
theorem endsBatch_of_not_answers (h : ¬ Answers deserialize data) (hframed : Framed data 0) :
    EndsBatch deserialize data := by
  refine ⟨0, ⟨[], .nil⟩, hframed, fun message hdecode hdata => h ?_⟩
  refine ⟨0, message, .first, hframed, hdecode, fun hdone => ?_⟩
  rw [hdone] at hdata
  cases hdata

theorem EndsBatch.framed (h : EndsBatch deserialize data) : Framed data 0 := by
  obtain ⟨stop, ⟨messages, hconsumes⟩, hframed, -⟩ := h
  cases hconsumes with
  | nil => exact hframed
  | cons hfirst hdecode hdata hrest => exact hfirst

/-- The message that ends the batch decides the outcome. -/
theorem EndsBatch.exists_result (h : EndsBatch deserialize data)
    (responses : List (NetlinkMessage I)) :
    ∃ outcome collected,
      (parseResponseBatch deserialize data responses).result = some (outcome, collected) ∧
        outcome ≠ .ok false := by
  obtain ⟨stop, ⟨messages, hconsumes⟩, hframed, hend⟩ := h
  cases hdecode : deserialize (messageAt data stop) with
  | error e =>
    have hresult := parseFrom_of_consumes hconsumes (.undecodable e hframed hdecode) responses
    exact ⟨_, _, hresult, nofun⟩
  | ok message =>
    obtain ⟨outcome, hending⟩ := Option.ne_none_iff_exists'.mp (hend message hdecode)
    have hresult :=
      parseFrom_of_consumes hconsumes (.ended message outcome hframed hdecode hending) responses
    refine ⟨_, _, hresult, ?_⟩
    rintro rfl
    exact message.payload.ending_ne_ok_false hending

/-- Without a message that ends the batch there are only data messages, and more is expected. -/
theorem exists_data_of_not_endsBatch (h : ¬ EndsBatch deserialize data) (hframed : Framed data 0)
    (responses : List (NetlinkMessage I)) :
    ∃ messages, messages ≠ [] ∧
      (parseResponseBatch deserialize data responses).result =
        some (.ok false, responses ++ messages) := by
  obtain ⟨outcome, messages, stop, hconsumes, hstops, hresult⟩ :=
    exists_parseFrom_result deserialize data 0 responses
  have hoff : outcome = .ok false ∧ ¬ Framed data stop := by
    cases hstops with
    | finished hend => exact ⟨rfl, not_framed_of_le hend⟩
    | unframed hlt hunframed => exact ⟨rfl, hunframed⟩
    | undecodable e hstop hdecode =>
      refine absurd ⟨stop, ⟨messages, hconsumes⟩, hstop, fun message hmessage => ?_⟩ h
      rw [hdecode] at hmessage
      cases hmessage
    | ended message outcome hstop hdecode hending =>
      refine absurd ⟨stop, ⟨messages, hconsumes⟩, hstop, fun other hother => ?_⟩ h
      rw [hdecode] at hother
      cases hother
      rw [hending]
      exact Option.some_ne_none outcome
  obtain ⟨rfl, hunframed⟩ := hoff
  refine ⟨messages, ?_, hresult⟩
  rintro rfl
  cases hconsumes
  exact hunframed hframed

/-! ### The receive loop -/

theorem receive_of_endsBatch (h : EndsBatch deserialize (received datagram)) :
    ∃ result, receive deserialize isDump seq (.ok datagram :: inbox) responses =
      .returned result ⟨seq, inbox⟩ := by
  obtain ⟨outcome, collected, hresult, hne⟩ := h.exists_result responses
  rw [receive, hresult]
  match outcome, hne with
  | .error e, _ => exact ⟨_, rfl⟩
  | .ok true, _ => exact ⟨_, rfl⟩

/-- A datagram without a complete message is as good as none. -/
theorem receive_of_not_framed (h : ¬ Framed (received datagram) 0) :
    receive deserialize isDump seq (.ok datagram :: inbox) [] =
      receive deserialize isDump seq inbox [] := by
  rw [receive, parseResponseBatch, parseFrom_of_not_framed h]
  simp

/-- Behind a data message a dump goes on, and any other request returns. -/
theorem exists_receive_of_not_endsBatch (h : ¬ EndsBatch deserialize (received datagram))
    (hframed : Framed (received datagram) 0) :
    ∃ messages, receive deserialize isDump seq (.ok datagram :: inbox) responses =
      if isDump then receive deserialize isDump seq inbox messages
      else .returned (.ok messages) ⟨seq, inbox⟩ := by
  obtain ⟨messages, hne, hresult⟩ := exists_data_of_not_endsBatch h hframed responses
  refine ⟨responses ++ messages, ?_⟩
  rw [receive, hresult]
  cases isDump <;> simp [hne]

/-- The loop returns only after it has read something. -/
theorem length_lt_of_receive {result : Except NetlinkError (List (NetlinkMessage I))}
    {socket : NetlinkSocket}
    (h : receive deserialize isDump seq inbox responses = .returned result socket) :
    socket.inbox.length < inbox.length := by
  induction inbox generalizing responses with
  | nil => cases h
  | cons next inbox ih =>
    cases next with
    | error e =>
      cases h
      exact Nat.lt_succ_self _
    | ok datagram =>
      rw [receive] at h
      split at h
      · cases h
      · cases h
        exact Nat.lt_succ_self _
      · cases h
        exact Nat.lt_succ_self _
      · split at h
        · cases h
          exact Nat.lt_succ_self _
        · exact (ih h).trans (Nat.lt_succ_self _)

theorem stopsAt_returned (result : Except NetlinkError (List (NetlinkMessage I))) :
    StopsAt before after (.returned result ⟨seq, after⟩) :=
  ⟨result, ⟨seq, after⟩, rfl, List.suffix_rfl, fun _ => rfl⟩

theorem stopsAt_of_framed {b : List UInt8} (hframed : Framed (received b) 0)
    (hsuffix : after <:+ inbox) (result : Except NetlinkError (List (NetlinkMessage I))) :
    StopsAt (b :: before) after (.returned result ⟨seq, inbox⟩) :=
  ⟨result, ⟨seq, inbox⟩, rfl, hsuffix, fun h => absurd hframed (h b List.mem_cons_self)⟩

theorem stopsAt_cons_iff {b : List UInt8} (h : ¬ Framed (received b) 0)
    {reception : Reception I} :
    StopsAt (b :: before) after reception ↔ StopsAt before after reception := by
  simp only [StopsAt, List.forall_mem_cons, h, not_false_eq_true, true_and]

theorem not_stopsAt_receive (responses : List (NetlinkMessage I)) :
    ¬ StopsAt before after (receive deserialize isDump seq after responses) := by
  rintro ⟨result, socket, hreceive, hsuffix, -⟩
  have hshorter := length_lt_of_receive hreceive
  have hlonger := hsuffix.length_le
  omega

/-- Behind datagrams without an answer, the loop stops at the first answer exactly if it is not
the loop of a dump or if a message ends the batch. -/
theorem receive_stopsAt_iff (hbefore : ∀ b ∈ before, ¬ Answers deserialize (received b))
    (hanswer : Answers deserialize (received datagram)) :
    StopsAt before after
        (receive deserialize isDump seq (before.map .ok ++ .ok datagram :: after) []) ↔
      isDump = false ∨ ∃ b ∈ before ++ [datagram], EndsBatch deserialize (received b) := by
  induction before with
  | nil =>
    simp only [List.map_nil, List.nil_append, List.mem_singleton, exists_eq_left]
    by_cases hends : EndsBatch deserialize (received datagram)
    · obtain ⟨result, hreceive⟩ : ∃ result, receive deserialize isDump seq
          (.ok datagram :: after) [] = .returned result ⟨seq, after⟩ := receive_of_endsBatch hends
      rw [hreceive]
      exact iff_of_true (stopsAt_returned result) (.inr hends)
    · obtain ⟨messages, hreceive⟩ : ∃ messages, receive deserialize isDump seq
          (.ok datagram :: after) [] = _ := exists_receive_of_not_endsBatch hends hanswer.framed
      rw [hreceive]
      cases isDump with
      | false => exact iff_of_true (stopsAt_returned _) (.inl rfl)
      | true => exact iff_of_false (not_stopsAt_receive messages) (by simp [hends])
  | cons b before ih =>
    rw [List.forall_mem_cons] at hbefore
    simp only [List.map_cons, List.cons_append, List.exists_mem_cons_iff]
    by_cases hframed : Framed (received b) 0
    · -- the earlier datagram ends the batch, since it is no answer
      have hends := endsBatch_of_not_answers hbefore.1 hframed
      obtain ⟨result, hreceive⟩ : ∃ result, receive deserialize isDump seq
          (.ok b :: (before.map .ok ++ .ok datagram :: after)) [] = .returned result _ :=
        receive_of_endsBatch hends
      rw [hreceive]
      refine iff_of_true (stopsAt_of_framed hframed ?_ result) (.inr (.inl hends))
      exact (List.suffix_cons _ _).trans (List.suffix_append _ _)
    · have hends : ¬ EndsBatch deserialize (received b) := fun h => hframed h.framed
      rw [receive_of_not_framed hframed, stopsAt_cons_iff hframed, ih hbefore.2,
        or_iff_right hends]

/-- What a request receives once it was sent. -/
theorem NetlinkSocket.request_eq_receive {codec : Codec I}
    {send : List UInt8 → Except String Nat} {socket : NetlinkSocket} {message : NetlinkMessage I}
    {n : Nat} (hsend : send (codec.emit (socket.prepare codec message)) = .ok n) :
    socket.request codec send message =
      receive codec.deserialize (message.header.flags &&& nlmFDump != 0) socket.nextSeq.2.seq
        socket.inbox [] := by
  have hflags : (socket.prepare codec message).header.flags &&& nlmFDump =
      message.header.flags &&& nlmFDump := by
    rw [prepare, codec.finalize_flags]
    exact or_nlmFRequest_and_nlmFDump _
  unfold request
  dsimp only
  rw [hsend, hflags]
  rfl

/-- A request that was sent stops at its first answer exactly if its flags have neither bit of a
dump or if a message up to there ends the batch. -/
theorem request_stopsAt_iff (codec : Codec I) (send : List UInt8 → Except String Nat)
    (socket : NetlinkSocket) (message : NetlinkMessage I)
    (hinbox : socket.inbox = before.map .ok ++ .ok datagram :: after)
    (hsend : ∃ n, send (codec.emit (socket.prepare codec message)) = .ok n)
    (hbefore : ∀ b ∈ before, ¬ Answers codec.deserialize (received b))
    (hanswer : Answers codec.deserialize (received datagram)) :
    StopsAt before after (socket.request codec send message) ↔
      message.header.flags &&& nlmFDump = 0 ∨
        ∃ b ∈ before ++ [datagram], EndsBatch codec.deserialize (received b) := by
  obtain ⟨n, hsend⟩ := hsend
  rw [NetlinkSocket.request_eq_receive hsend, hinbox, receive_stopsAt_iff hbefore hanswer,
    bne_eq_false_iff_eq]

section Fixture

/-- The codec that fills in the length of a message. -/
def plainCodec : Codec (List UInt8) where
  finalize message := { message with header := { message.header with
    length := UInt32.ofNat (plainEncode message).length } }
  emit := plainEncode
  deserialize := plainDeserialize
  finalize_flags _ := rfl

/-- A request that sets something. -/
def setLink : NetlinkMessage (List UInt8) := ⟨⟨0, 19, nlmFAck, 0, 0⟩, .innerMessage [3, 3, 3, 3]⟩

/-- A request that creates something, with the flags that the daemon uses. -/
def newLink : NetlinkMessage (List UInt8) :=
  ⟨⟨0, 16, nlmFAck ||| nlmFCreate ||| nlmFExcl, 0, 0⟩, .innerMessage [3, 3, 3, 3]⟩

/-- An acknowledgement. -/
def acknowledged : NetlinkMessage (List UInt8) := ⟨⟨20, 2, 0, 1, 0⟩, .error none⟩

/-- A data message comes first, the acknowledgement in a datagram of its own. -/
def twoDatagrams : NetlinkSocket :=
  ⟨1, [.ok (plainEncode firstLink), .ok (plainEncode acknowledged)]⟩

end Fixture

theorem request_stopsAt_iff_setLink :
    StopsAt [] [.ok (plainEncode acknowledged)]
      (twoDatagrams.request plainCodec (fun bytes => .ok bytes.length) setLink) :=
  (request_stopsAt_iff plainCodec (fun bytes => .ok bytes.length) twoDatagrams setLink rfl
    ⟨_, rfl⟩ (List.forall_mem_nil _)
    ⟨0, firstLink, .first, by decide, rfl, nofun⟩).mpr (.inl (by decide))

/-- The request to create is no dump, and yet it reads on behind its first answer. -/
theorem not_stopsAt_newLink :
    ¬ (newLink.header.flags &&& nlmFRoot ≠ 0 ∧ newLink.header.flags &&& nlmFMatch ≠ 0) ∧
      Answers plainCodec.deserialize (received (plainEncode firstLink)) ∧
      ¬ StopsAt [] [.ok (plainEncode acknowledged)]
        (twoDatagrams.request plainCodec (fun bytes => .ok bytes.length) newLink) := by
  have hlink : (parseResponseBatch plainDeserialize (received (plainEncode firstLink)) []).result =
      some (.ok false, [firstLink]) :=
    parseFrom_of_consumes (.cons (by decide) rfl rfl .nil) (.finished (by decide)) []
  refine ⟨by decide, ⟨0, firstLink, .first, by decide, rfl, nofun⟩, ?_⟩
  have hrequest : twoDatagrams.request plainCodec (fun bytes => .ok bytes.length) newLink =
      receive plainDeserialize true 2 twoDatagrams.inbox [] := rfl
  rw [hrequest, twoDatagrams, receive, hlink]
  exact not_stopsAt_receive [firstLink]

/-! ### Dumps -/

/-- No datagram makes the loop panic. -/
theorem receive_ne_panicked (inbox : List (Except String (List UInt8)))
    (responses : List (NetlinkMessage I)) :
    receive deserialize isDump seq inbox responses ≠ .panicked := by
  intro h
  induction inbox generalizing responses with
  | nil => cases h
  | cons next inbox ih =>
    cases next with
    | error e => cases h
    | ok datagram =>
      obtain ⟨outcome, messages, stop, -, -, hresult⟩ :=
        exists_parseFrom_result deserialize (received datagram) 0 responses
      rw [receive, parseResponseBatch, hresult] at h
      cases outcome with
      | error e => cases h
      | ok complete =>
        cases complete with
        | true => cases h
        | false =>
          dsimp only at h
          split at h
          · cases h
          · exact ih _ h

/-- A datagram consists of well-formed messages and fits in the receive buffer. -/
structure Delivers (deserialize : List UInt8 → Except String (NetlinkMessage I))
    (encode : NetlinkMessage I → List UInt8) (messages : List (NetlinkMessage I))
    (datagram : List UInt8) : Prop where
  wellFormed : ∀ message ∈ messages, WellFormed deserialize encode message
  concatenated : Concatenated (messages.map encode) datagram
  fits : datagram.length ≤ recvBufLen

theorem Delivers.result_eq {encode : NetlinkMessage I → List UInt8}
    {messages : List (NetlinkMessage I)} (h : Delivers deserialize encode messages datagram)
    (responses : List (NetlinkMessage I)) :
    (parseResponseBatch deserialize (received datagram) responses).result =
      some (batchOutcome messages,
        responses ++ messages.takeWhile fun message => message.payload.ending.isNone) := by
  rw [received, List.take_of_length_le h.fits]
  exact result_of_concatenated h.wellFormed h.concatenated responses

/-- A dump in any number of datagrams gives all their messages up to the end of the dump, in
their order, and nothing behind it is read. -/
theorem receive_dump {encode : NetlinkMessage I → List UInt8}
    {batches : List (List (NetlinkMessage I) × List UInt8)} {messages : List (NetlinkMessage I)}
    (hbatches : ∀ batch ∈ batches, Delivers deserialize encode batch.1 batch.2 ∧
      ∀ message ∈ batch.1, message.payload.ending = none)
    (hlast : Delivers deserialize encode messages datagram)
    (hdone : batchOutcome messages = .ok true) (responses : List (NetlinkMessage I)) :
    receive deserialize true seq
        (batches.map (fun batch => .ok batch.2) ++ .ok datagram :: inbox) responses =
      .returned (.ok (responses ++ (batches.map Prod.fst).flatten ++
        messages.takeWhile fun message => message.payload.ending.isNone)) ⟨seq, inbox⟩ := by
  induction batches generalizing responses with
  | nil =>
    rw [List.map_nil, List.nil_append, receive, hlast.result_eq, hdone]
    dsimp only
    rw [List.map_nil, List.flatten_nil, List.append_nil]
  | cons batch batches ih =>
    rw [List.forall_mem_cons] at hbatches
    obtain ⟨⟨hfirst, hdata⟩, hrest⟩ := hbatches
    have htake : batch.1.takeWhile (fun message => message.payload.ending.isNone) = batch.1 :=
      List.takeWhile_eq_self_iff.mpr fun message hmessage => by rw [hdata message hmessage]; rfl
    rw [List.map_cons, List.cons_append, receive, hfirst.result_eq, batchOutcome_of_data hdata,
      htake]
    dsimp only
    rw [Bool.not_true, Bool.false_and, if_neg Bool.false_ne_true, ih hrest, List.map_cons,
      List.flatten_cons, List.append_assoc responses]

/-- What is sent in answer to one dump: datagrams of data messages, and behind them the one that
ends the dump. -/
structure DumpAnswer (deserialize : List UInt8 → Except String (NetlinkMessage I))
    (encode : NetlinkMessage I → List UInt8) where
  batches : List (List (NetlinkMessage I) × List UInt8)
  messages : List (NetlinkMessage I)
  datagram : List UInt8
  data : ∀ batch ∈ batches, Delivers deserialize encode batch.1 batch.2 ∧
    ∀ message ∈ batch.1, message.payload.ending = none
  last : Delivers deserialize encode messages datagram
  done : batchOutcome messages = .ok true

namespace DumpAnswer

variable {encode : NetlinkMessage I → List UInt8}

/-- The datagrams of the answer. -/
def datagrams (answer : DumpAnswer deserialize encode) : List (Except String (List UInt8)) :=
  answer.batches.map (fun batch => .ok batch.2) ++ [.ok answer.datagram]

/-- The data messages of the answer. -/
def delivered (answer : DumpAnswer deserialize encode) : List (NetlinkMessage I) :=
  (answer.batches.map Prod.fst).flatten ++
    answer.messages.takeWhile fun message => message.payload.ending.isNone

end DumpAnswer

/-- A dump returns the data messages of its answer, and what is queued behind the answer stays
for the next request. -/
theorem NetlinkSocket.request_dumpAnswer {codec : Codec I}
    {encode : NetlinkMessage I → List UInt8} {send : List UInt8 → Except String Nat}
    {message : NetlinkMessage I} (hsend : ∀ bytes, ∃ n, send bytes = .ok n)
    (hdump : message.header.flags &&& nlmFDump ≠ 0)
    (answer : DumpAnswer codec.deserialize encode) (seq : UInt32)
    (inbox : List (Except String (List UInt8))) :
    NetlinkSocket.request codec send ⟨seq, answer.datagrams ++ inbox⟩ message =
      .returned (.ok answer.delivered) ⟨seq + 1, inbox⟩ := by
  obtain ⟨n, hsend⟩ := hsend (codec.emit (NetlinkSocket.prepare codec
    ⟨seq, answer.datagrams ++ inbox⟩ message))
  rw [NetlinkSocket.request_eq_receive hsend, bne_iff_ne.mpr hdump, DumpAnswer.datagrams,
    List.append_assoc, List.singleton_append]
  dsimp only [NetlinkSocket.nextSeq]
  rw [receive_dump answer.data answer.last answer.done, List.nil_append, DumpAnswer.delivered]

end Segwire.Netlink
