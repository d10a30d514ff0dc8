import Mathlib.Data.Nat.Digits.Defs
import Segwire.Common.Error
import Segwire.Foundation.Reads

/-!
# Batches of netlink messages

What the kernel answers comes in datagrams of several messages, each with its length in front
and padded to a multiple of four bytes. `parse_response_batch` walks over one datagram by
these lengths. It trusts none of them, but where one makes no sense it stops as if nothing
more had been sent.

## Main definitions

* `NetlinkMessage` — messages of the third-party packet library
* `parseResponseBatch` — the walk
* `Framed` — at an offset lies a complete message
* `Consumes`, `Stops` — the messages that the walk takes, and how it ends

## Main results

* `parseFrom_of_consumes`, `exists_consumes` — every walk takes some messages and then ends
* `below_parseFrom` — it never leaves the datagram
-/

namespace Segwire.Netlink

open Foundation Segwire.Common

/-- `NonZeroI32` -/
abbrev NonZeroI32 := { code : Int32 // code ≠ 0 }

/-- The header of a netlink message. -/
structure NetlinkHeader where
  length : UInt32
  messageType : UInt16
  flags : UInt16
  sequenceNumber : UInt32
  portNumber : UInt32
  deriving DecidableEq, Repr

/-- What a netlink message carries; an error without a code is an acknowledgement. -/
inductive NetlinkPayload (I : Type)
  | done
  | error (code : Option NonZeroI32)
  | noop
  | overrun (bytes : List UInt8)
  | innerMessage (message : I)
  deriving DecidableEq

/-- `netlink_packet_core::NetlinkMessage` -/
structure NetlinkMessage (I : Type) where
  header : NetlinkHeader
  payload : NetlinkPayload I
  deriving DecidableEq

variable {I : Type}

/-- How a message ends the batch: the messages of a dump are done, the request is acknowledged,
or the kernel reports an error. Any other message is data. -/
def NetlinkPayload.ending : NetlinkPayload I → Option (Except NetlinkError Bool)
  | .done => some (.ok true)
  | .error (some code) =>
    some (.error (.protocolError ("netlink error: code " ++ toString code.val)))
  | .error none => some (.ok true)
  | .noop | .overrun _ | .innerMessage _ => none

/-- The number in the machine's byte order, the lowest byte first. -/
def fromNeBytes (bytes : List UInt8) : Nat := Nat.ofDigits 256 (bytes.map UInt8.toNat)

/-- The lowest `count` bytes of a number in the machine's byte order. -/
def toNeBytes : Nat → Nat → List UInt8
  | 0, _ => []
  | count + 1, n => UInt8.ofNat n :: toNeBytes count (n / 256)

@[simp] theorem length_toNeBytes (count n : Nat) : (toNeBytes count n).length = count := by
  induction count generalizing n with
  | zero => rfl
  | succ count ih => rw [toNeBytes, List.length_cons, ih]

/-- The bytes of a number are read back, as far as they go. -/
theorem fromNeBytes_toNeBytes (count n : Nat) :
    fromNeBytes (toNeBytes count n) = n % 256 ^ count := by
  induction count generalizing n with
  | zero => exact (Nat.mod_one n).symm
  | succ count ih =>
    have hrest : Nat.ofDigits 256 ((toNeBytes count (n / 256)).map UInt8.toNat) =
        n / 256 % 256 ^ count := ih (n / 256)
    calc fromNeBytes (toNeBytes (count + 1) n)
        = n % 256 + 256 * (n / 256 % 256 ^ count) := by
          rw [fromNeBytes, toNeBytes, List.map_cons, Nat.ofDigits_cons, hrest]
          rfl
      _ = n % 256 ^ (count + 1) := by rw [pow_succ', Nat.mod_mul]

/-- `(n + 3) & !3` -/
def align4 (n : Nat) : Nat := (n + 3) / 4 * 4

theorem le_align4 (n : Nat) : n ≤ align4 n := by
  unfold align4
  omega

theorem align4_add {m : Nat} (h : 4 ∣ m) (n : Nat) : align4 (m + n) = m + align4 n := by
  unfold align4
  omega

theorem dvd_align4 (n : Nat) : 4 ∣ align4 n := Nat.dvd_mul_left 4 _

/-- The loop from an offset: whether the stream is complete, and the messages collected. -/
def parseFrom (deserialize : List UInt8 → Except String (NetlinkMessage I)) (data : List UInt8)
    (offset : Nat) (responses : List (NetlinkMessage I)) :
    Reads (Except NetlinkError Bool × List (NetlinkMessage I)) :=
  if _ : offset < data.length then
    -- parse the netlink header to get message length
    if data.length - offset < 4 then pure (.ok false, responses)
    else do
      let lengthBytes ← Reads.slice data offset (offset + 4)
      let msgLen := fromNeBytes lengthBytes
      if _ : msgLen < 16 ∨ data.length < offset + msgLen then return (.ok false, responses)
      else
        let msgData ← Reads.slice data offset (offset + msgLen)
        match deserialize msgData with
        | .error e =>
          return (.error (.protocolError ("failed to parse netlink message: " ++ e)), responses)
        | .ok parsed =>
          match parsed.payload.ending with
          | some outcome => return (outcome, responses)
          | none =>
            parseFrom deserialize data (align4 (offset + msgLen)) (responses ++ [parsed])
  else pure (.ok false, responses)
termination_by data.length - offset
decreasing_by
  have := le_align4 (offset + fromNeBytes lengthBytes)
  omega

/-- Parse one recv buffer of netlink messages, appending results to `responses`. -/
def parseResponseBatch (deserialize : List UInt8 → Except String (NetlinkMessage I))
    (data : List UInt8) (responses : List (NetlinkMessage I)) :
    Reads (Except NetlinkError Bool × List (NetlinkMessage I)) :=
  parseFrom deserialize data 0 responses

/-! ### Messages in a datagram -/

/-- The length that a message at an offset claims. -/
def lengthAt (data : List UInt8) (offset : Nat) : Nat := fromNeBytes ((data.drop offset).take 4)

/-- The bytes of a message at an offset. -/
def messageAt (data : List UInt8) (offset : Nat) : List UInt8 :=
  (data.drop offset).take (lengthAt data offset)

/-- Where the message after the one at an offset starts. -/
def nextOffset (data : List UInt8) (offset : Nat) : Nat := align4 (offset + lengthAt data offset)

/-- At the offset lies a complete message: its length is there, covers a header and does not
exceed what is left of the datagram. -/
structure Framed (data : List UInt8) (offset : Nat) : Prop where
  length : offset + 4 ≤ data.length
  header : 16 ≤ lengthAt data offset
  complete : offset + lengthAt data offset ≤ data.length

instance (data : List UInt8) : DecidablePred (Framed data) := fun _ =>
  decidable_of_iff (_ ∧ _ ∧ _) ⟨fun ⟨h₁, h₂, h₃⟩ => ⟨h₁, h₂, h₃⟩, fun h => ⟨h.1, h.2, h.3⟩⟩

/-- From one offset to another the datagram consists of messages that are data. -/
inductive Consumes (deserialize : List UInt8 → Except String (NetlinkMessage I))
    (data : List UInt8) : Nat → List (NetlinkMessage I) → Nat → Prop
  | nil {offset : Nat} : Consumes deserialize data offset [] offset
  | cons {offset stop : Nat} {message : NetlinkMessage I} {messages : List (NetlinkMessage I)}
      (hframed : Framed data offset)
      (hdecode : deserialize (messageAt data offset) = .ok message)
      (hdata : message.payload.ending = none)
      (hrest : Consumes deserialize data (nextOffset data offset) messages stop) :
      Consumes deserialize data offset (message :: messages) stop

/-- How the walk ends at an offset. -/
inductive Stops (deserialize : List UInt8 → Except String (NetlinkMessage I))
    (data : List UInt8) (offset : Nat) : Except NetlinkError Bool → Prop
  | finished (hend : data.length ≤ offset) : Stops deserialize data offset (.ok false)
  | unframed (hlt : offset < data.length) (hframed : ¬ Framed data offset) :
      Stops deserialize data offset (.ok false)
  | undecodable (e : String) (hframed : Framed data offset)
      (hdecode : deserialize (messageAt data offset) = .error e) :
      Stops deserialize data offset
        (.error (.protocolError ("failed to parse netlink message: " ++ e)))
  | ended (message : NetlinkMessage I) (outcome : Except NetlinkError Bool)
      (hframed : Framed data offset)
      (hdecode : deserialize (messageAt data offset) = .ok message)
      (hending : message.payload.ending = some outcome) :
      Stops deserialize data offset outcome

variable {deserialize : List UInt8 → Except String (NetlinkMessage I)} {data : List UInt8}
  {offset stop : Nat} {messages responses : List (NetlinkMessage I)} {message : NetlinkMessage I}
  {outcome : Except NetlinkError Bool}

theorem le_nextOffset (data : List UInt8) (offset : Nat) :
    offset + lengthAt data offset ≤ nextOffset data offset := le_align4 _

theorem Framed.lt_nextOffset (h : Framed data offset) : offset < nextOffset data offset := by
  have := le_nextOffset data offset
  have := h.header
  omega

/-- A complete message decides how the loop goes on. -/
theorem parseFrom_of_framed (h : Framed data offset) (responses : List (NetlinkMessage I)) :
    (parseFrom deserialize data offset responses).result =
      match deserialize (messageAt data offset) with
      | .error e =>
        some (.error (.protocolError ("failed to parse netlink message: " ++ e)), responses)
      | .ok message =>
        match message.payload.ending with
        | some outcome => some (outcome, responses)
        | none => (parseFrom deserialize data (nextOffset data offset)
            (responses ++ [message])).result := by
  obtain ⟨hfour, hheader, hcomplete⟩ := h
  have hlength : (Reads.slice data offset (offset + 4)).result =
      some ((data.drop offset).take 4) := by
    rw [Reads.result_slice (Nat.le_add_right _ _) hfour, Nat.add_sub_cancel_left]
  have hmessage : (Reads.slice data offset (offset + lengthAt data offset)).result =
      some (messageAt data offset) := by
    rw [Reads.result_slice (Nat.le_add_right _ _) hcomplete, Nat.add_sub_cancel_left, messageAt]
  have hsound : ¬ (lengthAt data offset < 16 ∨ data.length < offset + lengthAt data offset) := by
    omega
  rw [parseFrom, dif_pos (by omega), if_neg (by omega), Reads.result_bind_of_eq hlength]
  dsimp only
  rw [← lengthAt, dif_neg hsound, Reads.result_bind_of_eq hmessage]
  cases deserialize (messageAt data offset) with
  | error e => rfl
  | ok message =>
    dsimp only
    cases message.payload.ending with
    | none => rfl
    | some outcome => rfl

/-- Anything but a complete message ends the loop, without an error. -/
theorem parseFrom_of_not_framed (h : ¬ Framed data offset) (responses : List (NetlinkMessage I)) :
    (parseFrom deserialize data offset responses).result = some (.ok false, responses) := by
  rw [parseFrom]
  split_ifs with hlt hshort
  · rfl
  · have hlength : (Reads.slice data offset (offset + 4)).result =
        some ((data.drop offset).take 4) := by
      rw [Reads.result_slice (Nat.le_add_right _ _) (by omega), Nat.add_sub_cancel_left]
    rw [Reads.result_bind_of_eq hlength]
    dsimp only
    rw [← lengthAt, dif_pos]
    · rfl
    · by_contra hsound
      exact h ⟨by omega, by omega, by omega⟩
  · rfl

theorem not_framed_of_le (h : data.length ≤ offset) : ¬ Framed data offset := by
  intro hframed
  have := hframed.length
  omega

/-- The end of the walk. -/
theorem parseFrom_of_stops (h : Stops deserialize data offset outcome)
    (responses : List (NetlinkMessage I)) :
    (parseFrom deserialize data offset responses).result = some (outcome, responses) := by
  cases h with
  | finished hend => exact parseFrom_of_not_framed (not_framed_of_le hend) responses
  | unframed hlt hframed => exact parseFrom_of_not_framed hframed responses
  | undecodable e hframed hdecode => rw [parseFrom_of_framed hframed, hdecode]
  | ended message outcome hframed hdecode hending =>
    rw [parseFrom_of_framed hframed, hdecode]
    dsimp only
    rw [hending]

/-- The walk collects the messages that it takes. -/
theorem parseFrom_of_consumes (h : Consumes deserialize data offset messages stop)
    (hstops : Stops deserialize data stop outcome) (responses : List (NetlinkMessage I)) :
    (parseFrom deserialize data offset responses).result =
      some (outcome, responses ++ messages) := by
  induction h generalizing responses with
  | nil => rw [parseFrom_of_stops hstops, List.append_nil]
  | cons hframed hdecode hdata hrest ih =>
    rw [parseFrom_of_framed hframed, hdecode]
    dsimp only
    rw [hdata, ih hstops, List.append_assoc, List.singleton_append]

/-- From every offset the walk takes some messages and then ends. -/
theorem exists_consumes (deserialize : List UInt8 → Except String (NetlinkMessage I))
    (data : List UInt8) (offset : Nat) :
    ∃ messages stop outcome, Consumes deserialize data offset messages stop ∧
      Stops deserialize data stop outcome := by
  -- what is left of the datagram shrinks with every message
  induction hleft : data.length - offset using Nat.strong_induction_on generalizing offset with
  | _ left ih =>
    by_cases hend : data.length ≤ offset
    · exact ⟨[], offset, _, .nil, .finished hend⟩
    by_cases hframed : Framed data offset
    · cases hdecode : deserialize (messageAt data offset) with
      | error e => exact ⟨[], offset, _, .nil, .undecodable e hframed hdecode⟩
      | ok message =>
        cases hending : message.payload.ending with
        | some outcome =>
          exact ⟨[], offset, outcome, .nil, .ended message outcome hframed hdecode hending⟩
        | none =>
          have hlt := hframed.lt_nextOffset
          obtain ⟨messages, stop, outcome, hconsumes, hstops⟩ :=
            ih _ (by omega) (nextOffset data offset) rfl
          exact ⟨message :: messages, stop, outcome, .cons hframed hdecode hending hconsumes,
            hstops⟩
    · exact ⟨[], offset, _, .nil, .unframed (not_le.mp hend) hframed⟩

/-- Every walk returns. -/
theorem exists_parseFrom_result (deserialize : List UInt8 → Except String (NetlinkMessage I))
    (data : List UInt8) (offset : Nat) (responses : List (NetlinkMessage I)) :
    ∃ outcome messages stop, Consumes deserialize data offset messages stop ∧
      Stops deserialize data stop outcome ∧
      (parseFrom deserialize data offset responses).result =
        some (outcome, responses ++ messages) := by
  obtain ⟨messages, stop, outcome, hconsumes, hstops⟩ := exists_consumes deserialize data offset
  exact ⟨outcome, messages, stop, hconsumes, hstops, parseFrom_of_consumes hconsumes hstops _⟩

/-- The walk looks at nothing behind the datagram. -/
theorem below_parseFrom (deserialize : List UInt8 → Except String (NetlinkMessage I))
    (data : List UInt8) (offset : Nat) (responses : List (NetlinkMessage I)) :
    (parseFrom deserialize data offset responses).Below data.length := by
  induction hleft : data.length - offset using Nat.strong_induction_on
    generalizing offset responses with
  | _ left ih =>
    rw [parseFrom]
    split_ifs with hlt hshort
    · exact Reads.below_pure _
    · refine Reads.below_bind (Reads.below_slice (by omega)) fun lengthBytes _ => ?_
      dsimp only
      split_ifs with hbad
      · exact Reads.below_pure _
      · refine Reads.below_bind (Reads.below_slice (by omega)) fun msgData _ => ?_
        cases deserialize msgData with
        | error e => exact Reads.below_pure _
        | ok message =>
          dsimp only
          cases message.payload.ending with
          | some outcome => exact Reads.below_pure _
          | none =>
            have hnext := le_align4 (offset + fromNeBytes lengthBytes)
            exact ih _ (by omega) _ _ rfl
    · exact Reads.below_pure _

end Segwire.Netlink
