import Segwire.Netlink.EncodedBatches

/-!
# Malformed datagrams

A message that claims more bytes than are left, or fewer than a header, ends the walk in the
same way as the end of the datagram does. What follows is dropped, and nobody is told: a cut
datagram and a complete one have the same outcome.

## Main definitions

* `Boundary` — where the walk comes to
* `NothingDropped` — what is not consumed is reported

## Main results

* `nothingDropped_iff` — this holds exactly for the datagrams with a complete message wherever
  the walk comes to
-/

namespace Segwire.Netlink

open Foundation Segwire.Common

variable {I : Type} {deserialize : List UInt8 → Except String (NetlinkMessage I)}
  {data : List UInt8} {offset stop : Nat} {messages responses : List (NetlinkMessage I)}

/-- The walk comes to this offset: in front of it lie messages that are data. -/
def Boundary (deserialize : List UInt8 → Except String (NetlinkMessage I)) (data : List UInt8)
    (offset : Nat) : Prop := ∃ messages, Consumes deserialize data 0 messages offset

/-- Nothing in a datagram is dropped silently. -/
structure NothingDropped (deserialize : List UInt8 → Except String (NetlinkMessage I))
    (data : List UInt8) (responses : List (NetlinkMessage I)) : Prop where
  /-- Without an error, every byte in front of the place where the walk ended belongs to a
  collected message or to the padding behind it, and all bytes are in front of it unless a
  message has ended the batch. -/
  consumed : ∀ complete collected,
    (parseResponseBatch deserialize data responses).result = some (.ok complete, collected) →
    ∃ messages stop, collected = responses ++ messages ∧
      Stops deserialize data stop (.ok complete) ∧
      (∀ i < stop, ∃ message ∈ messages, ∃ start, Framed data start ∧
        deserialize (messageAt data start) = .ok message ∧ start ≤ i ∧ i < nextOffset data start) ∧
      (complete = false → data.length ≤ stop)
  /-- A truncated message, or one of an impossible length, is an error. -/
  malformed : ∀ offset, Boundary deserialize data offset → offset < data.length →
    ¬ Framed data offset →
    ∃ e collected,
      (parseResponseBatch deserialize data responses).result = some (.error e, collected)

/-- What the walk has passed belongs to the messages that it took. -/
theorem Consumes.exists_mem (h : Consumes deserialize data offset messages stop) {i : Nat}
    (hlow : offset ≤ i) (hhigh : i < stop) :
    ∃ message ∈ messages, ∃ start, Framed data start ∧
      deserialize (messageAt data start) = .ok message ∧ start ≤ i ∧ i < nextOffset data start := by
  induction h with
  | nil => omega
  | @cons offset stop message messages hframed hdecode hdata hrest ih =>
    by_cases hnext : i < nextOffset data offset
    · exact ⟨message, List.mem_cons_self, offset, hframed, hdecode, hlow, hnext⟩
    · obtain ⟨later, hlater, hstart⟩ := ih (not_lt.mp hnext) hhigh
      exact ⟨later, List.mem_cons_of_mem _ hlater, hstart⟩

/-- No message says that more is to come. -/
theorem NetlinkPayload.ending_ne_ok_false (payload : NetlinkPayload I) :
    payload.ending ≠ some (.ok false) := by
  cases payload with
  | done => simp [ending]
  | error code => cases code <;> simp [ending]
  | noop => simp [ending]
  | overrun bytes => simp [ending]
  | innerMessage message => simp [ending]

/-- The walk expects more where the datagram is over or something malformed lies. -/
theorem Stops.not_framed (h : Stops deserialize data stop (.ok false)) : ¬ Framed data stop := by
  cases h with
  | finished hend => exact not_framed_of_le hend
  | unframed hlt hframed => exact hframed
  | ended message outcome hframed hdecode hending =>
    exact absurd hending (NetlinkPayload.ending_ne_ok_false _)

/-- Nothing is dropped exactly if wherever the walk comes to lies a complete message. -/
theorem nothingDropped_iff (deserialize : List UInt8 → Except String (NetlinkMessage I))
    (data : List UInt8) (responses : List (NetlinkMessage I)) :
    NothingDropped deserialize data responses ↔
      ∀ offset, Boundary deserialize data offset → offset < data.length →
        Framed data offset := by
  constructor
  · intro h offset hboundary hlt
    by_contra hframed
    obtain ⟨e, collected, herror⟩ := h.malformed offset hboundary hlt hframed
    obtain ⟨messages, hconsumes⟩ := hboundary
    have hfalse : (parseResponseBatch deserialize data responses).result =
        some (.ok false, responses ++ messages) :=
      parseFrom_of_consumes hconsumes (.unframed hlt hframed) responses
    rw [hfalse] at herror
    cases herror
  · intro h
    constructor
    · intro complete collected hresult
      obtain ⟨outcome, messages, stop, hconsumes, hstops, hparse⟩ :=
        exists_parseFrom_result deserialize data 0 responses
      rw [parseResponseBatch, hparse] at hresult
      cases hresult
      refine ⟨messages, stop, rfl, hstops, fun i hi => hconsumes.exists_mem (Nat.zero_le i) hi,
        fun hcomplete => ?_⟩
      subst hcomplete
      by_contra hlt
      exact hstops.not_framed (h stop ⟨messages, hconsumes⟩ (not_le.mp hlt))
    · intro offset hboundary hlt hframed
      exact absurd (h offset hboundary hlt) hframed

/-- A datagram that was cut in its second message. -/
def cutDatagram : List UInt8 := plainEncode firstLink ++ (plainEncode secondLink).take 16

/-- The rest of the second message is missing, and the walk returns as if it had seen all. -/
theorem not_nothingDropped_cutDatagram : ¬ NothingDropped plainDeserialize cutDatagram [] := by
  intro h
  have hconsumes : Consumes plainDeserialize cutDatagram 0 [firstLink] 20 :=
    .cons (by decide) rfl rfl .nil
  have hcut : ¬ Framed cutDatagram 20 := by decide
  obtain ⟨e, collected, herror⟩ := h.malformed 20 ⟨_, hconsumes⟩ (by decide) hcut
  have hfalse : (parseResponseBatch plainDeserialize cutDatagram []).result =
      some (.ok false, [firstLink]) :=
    parseFrom_of_consumes hconsumes (.unframed (by decide) hcut) []
  rw [hfalse] at herror
  cases herror

end Segwire.Netlink
