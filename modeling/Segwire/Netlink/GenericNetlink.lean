import Mathlib.Logic.Relation
import Segwire.Netlink.Socket

/-!
# The family of a generic netlink protocol

The kernel numbers the generic netlink protocols when it loads them, so the number of a
protocol is asked for by its name. The answer is a message with attributes, and a loop walks
over them to the one that holds the number. It tests that the head of an attribute is there and
that the attribute claims to hold a number, but not that the number is there: behind a truncated
attribute it reads what the buffer held before, or past the end of the buffer.

## Main definitions

* `resolveGenlFamilyId`, `sendGenlRequest` — requests with one answer each
* `findFamilyId` — the loop over the attributes
* `AttributeStart` — where attributes lie in the answer
* `StaysInside` — the loop looks at the answer only

## Main results

* `staysInside_iff` — it does exactly if the first attribute with a number is all there
* `framed_genlMessage` — what is sent is a complete message
-/

namespace Segwire.Netlink

open Foundation Segwire.Common

/-! ### Requests -/

/-- `GENL_ID_CTRL` -/
def genlIdCtrl : UInt16 := 0x10

/-- `CTRL_CMD_GETFAMILY` -/
def ctrlCmdGetFamily : UInt8 := 3

/-- `CTRL_ATTR_FAMILY_NAME` -/
def ctrlAttrFamilyName : UInt16 := 2

/-- `CTRL_ATTR_FAMILY_ID` -/
def ctrlAttrFamilyId : Nat := 1

/-- `NLMSG_ERROR` -/
def nlmsgError : Nat := 2

/-- The netlink header and the generic netlink header around a payload. -/
def genlMessage (messageType flags : UInt16) (seq : UInt32) (cmd version : UInt8)
    (payload : List UInt8) : List UInt8 :=
  let nlmsgLen := 16 + 4 + payload.length
  toNeBytes 4 nlmsgLen ++ toNeBytes 2 messageType.toNat ++ toNeBytes 2 flags.toNat ++
    toNeBytes 4 seq.toNat ++ [0, 0, 0, 0] ++ [cmd, version, 0, 0] ++ payload

/-- The attribute with the name of a family, padded. -/
def familyNameAttribute (familyName : String) : List UInt8 :=
  let nameBytes := familyName.toUTF8.toList ++ [0]
  let nlaLen := 4 + nameBytes.length
  let nlaPadded := align4 nlaLen
  toNeBytes 2 nlaLen ++ toNeBytes 2 ctrlAttrFamilyName.toNat ++ nameBytes ++
    List.replicate (nlaPadded - nlaLen) 0

/-- The request for the number of a family. -/
def getFamilyRequest (familyName : String) (seq : UInt32) : List UInt8 :=
  genlMessage genlIdCtrl nlmFRequest seq ctrlCmdGetFamily 1 (familyNameAttribute familyName)

/-- A raw generic netlink request that asks for an acknowledgement. -/
def genlRequest (familyId : UInt16) (cmd version : UInt8) (payload : List UInt8) (seq : UInt32) :
    List UInt8 :=
  genlMessage familyId (nlmFRequest ||| nlmFAck) seq cmd version payload

/-! ### The answer -/

/-- `u16::from_ne_bytes([recv_buf[i], recv_buf[i + 1]])` -/
def readU16 (buf : List UInt8) (i : Nat) : Reads Nat := do
  let low ← Reads.byte buf i
  let high ← Reads.byte buf (i + 1)
  return fromNeBytes [low, high]

/-- `i32::from_ne_bytes` of four bytes -/
def readI32 (buf : List UInt8) (i : Nat) : Reads Int32 := do
  let b₀ ← Reads.byte buf i
  let b₁ ← Reads.byte buf (i + 1)
  let b₂ ← Reads.byte buf (i + 2)
  let b₃ ← Reads.byte buf (i + 3)
  return Int32.ofNat (fromNeBytes [b₀, b₁, b₂, b₃])

/-- The loop over the attributes from an offset, for `CTRL_ATTR_FAMILY_ID`. -/
def findFamilyId (buf : List UInt8) (n offset : Nat) : Reads (Option UInt16) :=
  if _ : offset + 4 ≤ n then do
    let nlaLen ← readU16 buf offset
    let nlaType ← readU16 buf (offset + 2)
    if _ : nlaLen < 4 then return none
    else if nlaType = ctrlAttrFamilyId ∧ 6 ≤ nlaLen then
      let familyId ← readU16 buf (offset + 4)
      return some (UInt16.ofNat familyId)
    else findFamilyId buf n (offset + align4 nlaLen)
  else pure none
termination_by n - offset
decreasing_by
  have := le_align4 nlaLen
  omega

/-- Parse an answer of `n` bytes. -/
def parseFamilyResponse (familyName : String) (buf : List UInt8) (n : Nat) :
    Reads (Except NetlinkError UInt16) :=
  if n < 20 then return .error (.protocolError "response too short")
  else do
    let nlmsgType ← readU16 buf 4
    if nlmsgType = nlmsgError then
      if 24 ≤ n then
        let errno ← readI32 buf 16
        if errno ≠ 0 then
          return .error (.protocolError
            ("GETFAMILY '" ++ familyName ++ "' error: errno " ++ toString errno))
        else return .error (.protocolError "unexpected ACK for GETFAMILY")
      else return .error (.protocolError "unexpected ACK for GETFAMILY")
    else
      match ← findFamilyId buf n 20 with
      | some familyId => return .ok familyId
      | none =>
        return .error (.protocolError (familyName ++ " family ID not found in GETFAMILY response"))

/-- Check the answer to a raw request. -/
def parseGenlResponse (buf : List UInt8) (n : Nat) : Reads (Except NetlinkError Unit) :=
  if 20 ≤ n then do
    let nlmsgType ← readU16 buf 4
    if nlmsgType = nlmsgError then
      let errno ← readI32 buf 16
      if errno ≠ 0 then
        return .error (.protocolError ("genetlink error: errno " ++ toString errno))
      else return .ok ()
    else return .ok ()
  else return .ok ()

/-- Send a request on a fresh socket, receive one datagram and parse it. Without an answer this
waits. -/
def exchange {α : Type} (opened : Except NetlinkError NetlinkSocket)
    (send : List UInt8 → Except String Nat) (request : UInt32 → List UInt8)
    (parse : List UInt8 → Nat → Reads (Except NetlinkError α)) :
    Option (Reads (Except NetlinkError α)) :=
  match opened with
  | .error e => some (return .error e)
  | .ok socket =>
    match send (request socket.nextSeq.1) with
    | .error e => some (return .error (.socketError ("send() failed: " ++ e)))
    | .ok _ =>
      match socket.inbox with
      | [] => none
      | .error e :: _ => some (return .error (.socketError ("recv() failed: " ++ e)))
      | .ok datagram :: _ =>
        let n := min datagram.length 4096
        let recvBuf := datagram.take n ++ List.replicate (4096 - n) 0
        some (parse recvBuf n)

/-- Resolve a generic netlink family name to its kernel family ID. -/
def resolveGenlFamilyId (opened : Except NetlinkError NetlinkSocket)
    (send : List UInt8 → Except String Nat) (familyName : String) :
    Option (Reads (Except NetlinkError UInt16)) :=
  exchange opened send (getFamilyRequest familyName) (parseFamilyResponse familyName)

/-- Send a raw generic netlink request and check for an acknowledgement. -/
def sendGenlRequest (opened : Except NetlinkError NetlinkSocket)
    (send : List UInt8 → Except String Nat) (familyId : UInt16) (cmd version : UInt8)
    (payload : List UInt8) : Option (Reads (Except NetlinkError Unit)) :=
  exchange opened send (genlRequest familyId cmd version payload) parseGenlResponse

/-! ### Attributes in an answer -/

/-- The length that an attribute claims. -/
def attributeLength (buf : List UInt8) (offset : Nat) : Nat :=
  fromNeBytes ((buf.drop offset).take 2)

/-- The type of an attribute. -/
def attributeType (buf : List UInt8) (offset : Nat) : Nat :=
  fromNeBytes ((buf.drop (offset + 2)).take 2)

/-- The number behind the head of an attribute. -/
def attributeId (buf : List UInt8) (offset : Nat) : UInt16 :=
  UInt16.ofNat (fromNeBytes ((buf.drop (offset + 4)).take 2))

/-- An attribute claims to hold the number of the family. -/
def IsFamilyId (buf : List UInt8) (offset : Nat) : Prop :=
  attributeType buf offset = ctrlAttrFamilyId ∧ 6 ≤ attributeLength buf offset

instance (buf : List UInt8) : DecidablePred (IsFamilyId buf) := fun _ =>
  inferInstanceAs (Decidable (_ ∧ _))

/-- At the two offsets lie attributes one behind the other. -/
structure NextAttribute (buf : List UInt8) (n offset next : Nat) : Prop where
  head : offset + 4 ≤ n
  length : 4 ≤ attributeLength buf offset
  next : next = offset + align4 (attributeLength buf offset)

/-- Where attributes lie in an answer. -/
def AttributeStart (buf : List UInt8) (n offset : Nat) : Prop :=
  Relation.ReflTransGen (NextAttribute buf n) 20 offset

/-- The loop passes over an attribute that does not hold the number. -/
def Passes (buf : List UInt8) (n offset next : Nat) : Prop :=
  NextAttribute buf n offset next ∧ ¬ IsFamilyId buf offset

/-- The loop comes to this offset. -/
def Reached (buf : List UInt8) (n offset : Nat) : Prop :=
  Relation.ReflTransGen (Passes buf n) 20 offset

/-- The loop over an answer of `n` bytes ends, looks at nothing behind them, and finds only a
number that is in them. -/
structure StaysInside (buf : List UInt8) (n : Nat) : Prop where
  returns : ∃ found, (findFamilyId buf n 20).result = some found
  below : (findFamilyId buf n 20).Below n
  complete : ∀ familyId, (findFamilyId buf n 20).result = some (some familyId) →
    ∃ offset, AttributeStart buf n offset ∧ IsFamilyId buf offset ∧
      offset + attributeLength buf offset ≤ n ∧ attributeId buf offset = familyId

variable {buf : List UInt8} {n offset next : Nat}

theorem NextAttribute.lt (h : NextAttribute buf n offset next) :
    offset + attributeLength buf offset ≤ next := by
  rw [h.next]
  exact Nat.add_le_add_left (le_align4 _) offset

theorem NextAttribute.eq {other : Nat} (h : NextAttribute buf n offset next)
    (h' : NextAttribute buf n offset other) : next = other := h.next.trans h'.next.symm

theorem le_of_reflTransGen (h : Relation.ReflTransGen (NextAttribute buf n) offset next) :
    offset ≤ next := by
  induction h with
  | refl => exact le_rfl
  | tail _ hstep ih => exact ih.trans ((Nat.le_add_right _ _).trans hstep.lt)

/-- The loop comes only to attributes. -/
theorem Reached.attributeStart (h : Reached buf n offset) : AttributeStart buf n offset := by
  induction h with
  | refl => exact .refl
  | tail _ hpasses ih => exact ih.tail hpasses.1

/-- Attributes with a number that lie in the answer are not passed over. -/
theorem reflTransGen_of_passes {start last : Nat}
    (h : Relation.ReflTransGen (Passes buf n) start offset)
    (hlast : Relation.ReflTransGen (NextAttribute buf n) start last)
    (hid : IsFamilyId buf last) : Relation.ReflTransGen (NextAttribute buf n) offset last := by
  induction h using Relation.ReflTransGen.head_induction_on with
  | refl => exact hlast
  | head hpasses _ ih =>
    rcases hlast.cases_head with rfl | ⟨next, hnext, hrest⟩
    · exact absurd hid hpasses.2
    · exact ih (hpasses.1.eq hnext ▸ hrest)

/-! ### The loop -/

/-- Two bytes next to each other. -/
theorem take_two_drop {i : Nat} (h : i + 2 ≤ buf.length) :
    (buf.drop i).take 2 = [buf[i], buf[i + 1]] := by
  rw [List.drop_eq_getElem_cons (by omega), List.drop_eq_getElem_cons (by omega)]
  rfl

theorem result_readU16 {i : Nat} (h : i + 2 ≤ buf.length) :
    (readU16 buf i).result = some (fromNeBytes ((buf.drop i).take 2)) := by
  rw [readU16, Reads.result_bind_of_eq (Reads.result_byte (by omega)),
    Reads.result_bind_of_eq (Reads.result_byte (by omega)), Reads.result_pure, take_two_drop h]

/-- The second byte is asked for unless the first one is missing. -/
theorem below_readU16_iff {i : Nat} (hn : n ≤ buf.length) :
    (readU16 buf i).Below n ↔ i + 2 ≤ n := by
  rw [readU16, Reads.below_bind_iff, Reads.below_byte_iff]
  constructor
  · rintro ⟨hlow, hrest⟩
    have hhigh := hrest _ (Reads.result_byte (by omega))
    rw [Reads.below_bind_iff, Reads.below_byte_iff] at hhigh
    exact hhigh.1
  · intro h
    refine ⟨by omega, fun low _ => ?_⟩
    exact Reads.below_bind (Reads.below_byte_iff.mpr h) fun high _ => Reads.below_pure _

/-- What one pass of the loop does with an attribute whose head is there. -/
theorem agree_findFamilyId (hn : n ≤ buf.length) (h : offset + 4 ≤ n) :
    Reads.Agree n (findFamilyId buf n offset)
      (if attributeLength buf offset < 4 then pure none
      else if IsFamilyId buf offset then do
        let familyId ← readU16 buf (offset + 4)
        return some (UInt16.ofNat familyId)
      else findFamilyId buf n (offset + align4 (attributeLength buf offset))) := by
  rw [findFamilyId, dif_pos h]
  refine (Reads.agree_bind (result_readU16 (by omega))
    ((below_readU16_iff hn).mpr (by omega))).trans ?_
  exact Reads.agree_bind (result_readU16 (by omega)) ((below_readU16_iff hn).mpr (by omega))

theorem Passes.agree (hn : n ≤ buf.length) (h : Passes buf n offset next) :
    Reads.Agree n (findFamilyId buf n offset) (findFamilyId buf n next) := by
  have hpass := agree_findFamilyId hn h.1.head
  rwa [if_neg (not_lt.mpr h.1.length), if_neg h.2, ← h.1.next] at hpass

/-- The loop goes on as from any offset that it comes to. -/
theorem Reached.agree (hn : n ≤ buf.length) (h : Reached buf n offset) :
    Reads.Agree n (findFamilyId buf n 20) (findFamilyId buf n offset) := by
  induction h with
  | refl => exact Reads.agree_refl _
  | tail _ hpasses ih => exact ih.trans (hpasses.agree hn)

/-- The loop comes to the first attribute with a number, or to where attributes end. -/
theorem exists_reached (buf : List UInt8) (n : Nat) :
    ∃ offset, Reached buf n offset ∧ (offset + 4 ≤ n → 4 ≤ attributeLength buf offset →
      IsFamilyId buf offset) := by
  suffices h : ∀ left offset, n - offset = left → Reached buf n offset →
      ∃ stop, Reached buf n stop ∧ (stop + 4 ≤ n → 4 ≤ attributeLength buf stop →
        IsFamilyId buf stop) from h _ 20 rfl .refl
  intro left
  induction left using Nat.strong_induction_on with
  | _ left ih =>
    intro offset hleft hreached
    by_cases hpasses : offset + 4 ≤ n ∧ 4 ≤ attributeLength buf offset ∧ ¬ IsFamilyId buf offset
    · obtain ⟨hhead, hlength, hid⟩ := hpasses
      have hnext : NextAttribute buf n offset _ := ⟨hhead, hlength, rfl⟩
      have hlt := hnext.lt
      exact ih _ (by omega) _ rfl (hreached.tail ⟨hnext, hid⟩)
    · exact ⟨offset, hreached, fun hhead hlength => by
        by_contra hid
        exact hpasses ⟨hhead, hlength, hid⟩⟩

/-- At an attribute with a number the loop reads this number. -/
theorem agree_of_isFamilyId (hn : n ≤ buf.length) (h : offset + 4 ≤ n)
    (hid : IsFamilyId buf offset) :
    Reads.Agree n (findFamilyId buf n offset) (do
      let familyId ← readU16 buf (offset + 4)
      return some (UInt16.ofNat familyId)) := by
  have hpass := agree_findFamilyId hn h
  have hlength := hid.2
  rwa [if_neg (by omega), if_pos hid] at hpass

/-- Where attributes end nothing is found. -/
theorem agree_of_end (hn : n ≤ buf.length)
    (h : offset + 4 ≤ n → attributeLength buf offset < 4) :
    Reads.Agree n (findFamilyId buf n offset) (pure none) := by
  by_cases hhead : offset + 4 ≤ n
  · have hpass := agree_findFamilyId hn hhead
    rwa [if_pos (h hhead)] at hpass
  · rw [findFamilyId, dif_neg hhead]
    exact Reads.agree_refl _

/-- What the loop does where it comes to an attribute with a number: the number is read in any
case, and lies in the answer or not. -/
theorem Reached.below_iff (hn : n ≤ buf.length) (h : Reached buf n offset) (hhead : offset + 4 ≤ n)
    (hid : IsFamilyId buf offset) : (findFamilyId buf n 20).Below n ↔ offset + 6 ≤ n := by
  rw [((h.agree hn).trans (agree_of_isFamilyId hn hhead hid)).2, Reads.below_bind_iff,
    below_readU16_iff hn]
  exact and_iff_left fun familyId _ => Reads.below_pure _

theorem Reached.result_eq (hn : n ≤ buf.length) (h : Reached buf n offset) (hhead : offset + 4 ≤ n)
    (hid : IsFamilyId buf offset) (hsix : offset + 6 ≤ n) :
    (findFamilyId buf n 20).result = some (some (attributeId buf offset)) := by
  rw [((h.agree hn).trans (agree_of_isFamilyId hn hhead hid)).1,
    Reads.result_bind_of_eq (result_readU16 (by omega))]
  rfl

/-- The loop stays inside the answer exactly if the first attribute with a number that it comes
to is all there. -/
theorem staysInside_iff (buf : List UInt8) (n : Nat) (hn : n ≤ buf.length) :
    StaysInside buf n ↔
      ∀ offset, Reached buf n offset → offset + 4 ≤ n → IsFamilyId buf offset →
        offset + attributeLength buf offset ≤ n := by
  constructor
  · intro h offset hreached hhead hid
    have hsix := (hreached.below_iff hn hhead hid).mp h.below
    obtain ⟨last, hlast, hlastId, hcomplete, -⟩ :=
      h.complete _ (hreached.result_eq hn hhead hid hsix)
    -- the complete attribute is this one or lies behind it
    have hlater := reflTransGen_of_passes hreached hlast hlastId
    rcases hlater.cases_head with rfl | ⟨next, hnext, hrest⟩
    · exact hcomplete
    · have hlt := hnext.lt
      have hle := le_of_reflTransGen hrest
      omega
  · intro h
    obtain ⟨offset, hreached, hstop⟩ := exists_reached buf n
    by_cases hid : offset + 4 ≤ n ∧ IsFamilyId buf offset
    · obtain ⟨hhead, hid⟩ := hid
      have hcomplete := h offset hreached hhead hid
      have hlength := hid.2
      have hresult := hreached.result_eq hn hhead hid (by omega)
      refine ⟨⟨_, hresult⟩, (hreached.below_iff hn hhead hid).mpr (by omega), ?_⟩
      intro familyId hfound
      rw [hresult] at hfound
      exact ⟨offset, hreached.attributeStart, hid, hcomplete,
        Option.some.inj (Option.some.inj hfound)⟩
    · have hend : offset + 4 ≤ n → attributeLength buf offset < 4 := by
        intro hhead
        by_contra hlength
        exact hid ⟨hhead, hstop hhead (not_lt.mp hlength)⟩
      have hagree := (hreached.agree hn).trans (agree_of_end hn hend)
      refine ⟨⟨none, hagree.1⟩, hagree.2.mpr (Reads.below_pure _), fun familyId hfound => ?_⟩
      rw [hagree.1] at hfound
      cases hfound

section Fixture

/-- The name of the family and then its number, 24, with two bytes of padding. -/
def familyResponse : List UInt8 :=
  List.replicate 20 0 ++ [8, 0, 2, 0, 119, 103, 48, 0] ++ [6, 0, 1, 0, 24, 0, 0, 0]

end Fixture

theorem staysInside_iff_familyResponse : StaysInside familyResponse 36 := by
  refine (staysInside_iff familyResponse 36 (by decide)).mpr fun offset hreached _ hid => ?_
  rcases hreached.cases_head with rfl | ⟨next, ⟨hnext, -⟩, hrest⟩
  · exact absurd hid (by decide)
  · obtain rfl : next = 28 := hnext.next.trans (by decide)
    rcases hrest.cases_head with rfl | ⟨_, hpasses, -⟩
    · decide
    · exact absurd (by decide) hpasses.2

/-- Of the attribute with the number only the head was received: the loop reads the two bytes
behind it all the same. -/
theorem not_staysInside_truncated : ¬ StaysInside familyResponse 32 := by
  intro h
  have hname : Passes familyResponse 32 20 28 := ⟨⟨by decide, by decide, by decide⟩, by decide⟩
  have hreached : Reached familyResponse 32 28 := .single hname
  exact absurd ((hreached.below_iff (by decide) (by decide) (by decide)).mp h.below) (by decide)

/-! ### The whole answer -/

theorem below_readI32 {i : Nat} (h : i + 4 ≤ n) : (readI32 buf i).Below n := by
  have hbyte {j : Nat} (hj : j < i + 4) : (Reads.byte buf j).Below n :=
    Reads.below_byte_iff.mpr (by omega)
  refine Reads.below_bind (hbyte (by omega)) fun _ _ => ?_
  refine Reads.below_bind (hbyte (by omega)) fun _ _ => ?_
  refine Reads.below_bind (hbyte (by omega)) fun _ _ => ?_
  exact Reads.below_bind (hbyte (by omega)) fun _ _ => Reads.below_pure _

theorem exists_result_readI32 {i : Nat} (h : i + 4 ≤ buf.length) :
    ∃ number, (readI32 buf i).result = some number := by
  rw [readI32, Reads.result_bind_of_eq (Reads.result_byte (by omega)),
    Reads.result_bind_of_eq (Reads.result_byte (by omega)),
    Reads.result_bind_of_eq (Reads.result_byte (by omega)),
    Reads.result_bind_of_eq (Reads.result_byte (by omega))]
  exact ⟨_, rfl⟩

/-- An answer whose attributes are parsed inside it is parsed inside it as a whole. -/
theorem below_parseFamilyResponse (familyName : String) (hn : n ≤ buf.length)
    (h : StaysInside buf n) : (parseFamilyResponse familyName buf n).Below n := by
  rw [parseFamilyResponse]
  by_cases hshort : n < 20
  · rw [if_pos hshort]
    exact Reads.below_pure _
  rw [if_neg hshort]
  refine Reads.below_bind ((below_readU16_iff hn).mpr (by omega)) fun nlmsgType _ => ?_
  split_ifs with herror hlong
  · refine Reads.below_bind (below_readI32 (by omega)) fun errno _ => ?_
    split_ifs
    · exact Reads.below_pure _
    · exact Reads.below_pure _
  · exact Reads.below_pure _
  · refine Reads.below_bind h.below fun found _ => ?_
    cases found with
    | some familyId => exact Reads.below_pure _
    | none => exact Reads.below_pure _

/-- Such an answer is an error or gives a number that is in it. -/
theorem exists_result_parseFamilyResponse (familyName : String) (hn : n ≤ buf.length)
    (h : StaysInside buf n) :
    ∃ result, (parseFamilyResponse familyName buf n).result = some result ∧
      ∀ familyId, result = .ok familyId →
        ∃ offset, AttributeStart buf n offset ∧ IsFamilyId buf offset ∧
          offset + attributeLength buf offset ≤ n ∧ attributeId buf offset = familyId := by
  rw [parseFamilyResponse]
  by_cases hshort : n < 20
  · rw [if_pos hshort]
    exact ⟨_, rfl, nofun⟩
  rw [if_neg hshort, Reads.result_bind_of_eq (result_readU16 (by omega))]
  split_ifs with herror hlong
  · obtain ⟨errno, herrno⟩ := exists_result_readI32 (show 16 + 4 ≤ buf.length by omega)
    rw [Reads.result_bind_of_eq herrno]
    split_ifs
    · exact ⟨_, rfl, nofun⟩
    · exact ⟨_, rfl, nofun⟩
  · exact ⟨_, rfl, nofun⟩
  · obtain ⟨found, hfound⟩ := h.returns
    rw [Reads.result_bind_of_eq hfound]
    cases found with
    | none => exact ⟨_, rfl, nofun⟩
    | some familyId =>
      refine ⟨_, rfl, fun other hother => ?_⟩
      obtain rfl := Except.ok.inj hother
      exact h.complete familyId hfound

/-- The answer to a raw request is always parsed inside it. -/
theorem below_parseGenlResponse (hn : n ≤ buf.length) : (parseGenlResponse buf n).Below n := by
  rw [parseGenlResponse]
  by_cases hlong : 20 ≤ n
  · rw [if_pos hlong]
    refine Reads.below_bind ((below_readU16_iff hn).mpr (by omega)) fun nlmsgType _ => ?_
    split_ifs with herror
    · refine Reads.below_bind (below_readI32 (by omega)) fun errno _ => ?_
      split_ifs
      · exact Reads.below_pure _
      · exact Reads.below_pure _
    · exact Reads.below_pure _
  · rw [if_neg hlong]
    exact Reads.below_pure _

theorem exists_result_parseGenlResponse (hn : n ≤ buf.length) :
    ∃ result, (parseGenlResponse buf n).result = some result := by
  rw [parseGenlResponse]
  by_cases hlong : 20 ≤ n
  · rw [if_pos hlong, Reads.result_bind_of_eq (result_readU16 (by omega))]
    split_ifs with herror
    · obtain ⟨errno, herrno⟩ := exists_result_readI32 (show 16 + 4 ≤ buf.length by omega)
      rw [Reads.result_bind_of_eq herrno]
      split_ifs
      · exact ⟨_, rfl⟩
      · exact ⟨_, rfl⟩
    · exact ⟨_, rfl⟩
  · rw [if_neg hlong]
    exact ⟨_, rfl⟩

/-- An exchange ends with an error or with an answer that the buffer holds. -/
theorem exists_of_exchange {α : Type} {opened : Except NetlinkError NetlinkSocket}
    {send : List UInt8 → Except String Nat} {request : UInt32 → List UInt8}
    {parse : List UInt8 → Nat → Reads (Except NetlinkError α)}
    {reads : Reads (Except NetlinkError α)} (h : exchange opened send request parse = some reads) :
    (∃ e, reads = pure (.error e)) ∨ ∃ buf n, n ≤ buf.length ∧ reads = parse buf n := by
  unfold exchange at h
  split at h
  · exact .inl ⟨_, (Option.some.inj h).symm⟩
  split at h
  · exact .inl ⟨_, (Option.some.inj h).symm⟩
  split at h
  · cases h
  · exact .inl ⟨_, (Option.some.inj h).symm⟩
  · refine .inr ⟨_, _, ?_, (Option.some.inj h).symm⟩
    rw [List.length_append, List.length_take, List.length_replicate]
    omega

/-- A raw request does not panic, whatever the kernel answers. -/
theorem exists_result_sendGenlRequest {opened : Except NetlinkError NetlinkSocket}
    {send : List UInt8 → Except String Nat} {familyId : UInt16} {cmd version : UInt8}
    {payload : List UInt8} {reads : Reads (Except NetlinkError Unit)}
    (h : sendGenlRequest opened send familyId cmd version payload = some reads) :
    ∃ result, reads.result = some result := by
  rcases exists_of_exchange h with ⟨e, rfl⟩ | ⟨buf, n, hn, rfl⟩
  · exact ⟨_, rfl⟩
  · exact exists_result_parseGenlResponse hn

/-! ### Requests as messages -/

theorem length_genlMessage (messageType flags : UInt16) (seq : UInt32) (cmd version : UInt8)
    (payload : List UInt8) :
    (genlMessage messageType flags seq cmd version payload).length = 16 + 4 + payload.length := by
  simp only [genlMessage, List.length_append, length_toNeBytes, List.length_cons, List.length_nil]

/-- A request is one complete message, if four bytes hold its length. -/
theorem framed_genlMessage (messageType flags : UInt16) (seq : UInt32) (cmd version : UInt8)
    (payload : List UInt8) (h : 16 + 4 + payload.length < 2 ^ 32) :
    Framed (genlMessage messageType flags seq cmd version payload) 0 ∧
      lengthAt (genlMessage messageType flags seq cmd version payload) 0 =
        (genlMessage messageType flags seq cmd version payload).length := by
  have hheader := length_genlMessage messageType flags seq cmd version payload
  have hlength : lengthAt (genlMessage messageType flags seq cmd version payload) 0 =
      (genlMessage messageType flags seq cmd version payload).length := by
    rw [hheader]
    simp only [lengthAt, genlMessage, List.append_assoc, List.drop_zero]
    rw [List.take_left' (length_toNeBytes 4 _), fromNeBytes_toNeBytes]
    exact Nat.mod_eq_of_lt h
  exact ⟨⟨by omega, by omega, by omega⟩, hlength⟩

end Segwire.Netlink
