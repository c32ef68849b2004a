import ArduinoNfc.Foundation.RecordCodec
import ArduinoNfc.Nci.Transmission

/-!
# What the controller decodes

The other side reads a control packet back into its header fields and its payload,
and a data packet into its connection and its bytes.  A command whose whole packet
fits in 255 bytes is read back as it was meant.  The size of a longer one wraps
around, since it is computed in `uint8_t`: 84 mappings or 126 configurations are
too many, and so are 253 bytes of data.
-/

namespace ArduinoNfc
namespace Nci

open Foundation

/-! ## Decoding -/

/-- What the controller makes of a control packet. -/
structure ControlPacket where
  mt : UInt8
  pbf : UInt8
  gid : UInt8
  oid : UInt8
  payload : List UInt8
  deriving DecidableEq, Repr

/-- Read a control packet whose length byte counts the bytes that follow. -/
def decodeControl : List UInt8 → Option ControlPacket
  | hdr0 :: hdr1 :: len :: payload =>
      if payload.length = len.toNat then
        some ⟨prsMt hdr0, prsPbf hdr0, prsGid hdr0, prsOid hdr1, payload⟩
      else
        none
  | _ => none

/-- What the controller makes of a data packet. -/
structure DataPacket where
  pbf : UInt8
  cid : UInt8
  payload : List UInt8
  deriving DecidableEq, Repr

/-- Read a data packet; the second byte is reserved and ignored. -/
def decodeData : List UInt8 → Option DataPacket
  | hdr0 :: _ :: len :: payload =>
      if prsMt hdr0 = nciMtData ∧ payload.length = len.toNat then
        some ⟨prsPbf hdr0, prsGid hdr0, payload⟩
      else
        none
  | _ => none

/-- `tNCI_DISCOVER_MAPS` on the wire. -/
def mapCodec : RecordCodec NciDiscoverMaps where
  width := 3
  encode m := [m.protocol, m.mode, m.intfType]
  decode bytes := ⟨bytes.getD 0 0, bytes.getD 1 0, bytes.getD 2 0⟩
  encode_length _ := rfl
  decode_encode _ := rfl

/-- `tNCI_DISCOVER_CONFS` on the wire. -/
def confCodec : RecordCodec NciDiscoverConfs where
  width := 2
  encode c := [c.mode, c.freq]
  decode bytes := ⟨bytes.getD 0 0, bytes.getD 1 0⟩
  encode_length _ := rfl
  decode_encode _ := rfl

/-- The entries of a table from the last one to the first. -/
def entriesDown {α : Type} (table : Nat → α) (num : Nat) : List α :=
  (List.range num).reverse.map table

@[simp] theorem entriesDown_length {α : Type} (table : Nat → α) (num : Nat) :
    (entriesDown table num).length = num := by
  simp [entriesDown]

theorem entriesDown_succ {α : Type} (table : Nat → α) (num : Nat) :
    entriesDown table (num + 1) = table num :: entriesDown table num := by
  simp [entriesDown, List.range_succ]

/-- The loop over a table writes its records in that order. -/
theorem recordsDown_eq {α : Type} (c : RecordCodec α) (table : Nat → α) (num : Nat) :
    recordsDown c.encode table num = c.encodeAll (entriesDown table num) := by
  induction num with
  | zero => rfl
  | succ num ih =>
      rw [recordsDown, ih, entriesDown_succ, RecordCodec.encodeAll_cons]

theorem recordsDown_length {α : Type} (c : RecordCodec α) (table : Nat → α) (num : Nat) :
    (recordsDown c.encode table num).length = c.width * num := by
  rw [recordsDown_eq, RecordCodec.encodeAll_length, entriesDown_length]

/-! ## A packet that is handed over -/

/-- A control packet is read back when its length byte can count its payload. -/
theorem decodeControl_controlPacket {gid oid : UInt8} {payload : List UInt8}
    (h : payload.length ≤ 255) :
    decodeControl (controlPacket gid oid payload) =
      some ⟨prsMt (bldHdr0 nciMtCmd gid), prsPbf (bldHdr0 nciMtCmd gid),
        prsGid (bldHdr0 nciMtCmd gid), prsOid oid, payload⟩ := by
  have hlen : payload.length = (UInt8.ofNat payload.length).toNat := by
    simp
    omega
  exact if_pos hlen

/-- What can be read back has its header and the bytes that this one counts. -/
theorem decodeControl_length {bytes : List UInt8} {pkt : ControlPacket}
    (h : decodeControl bytes = some pkt) :
    bytes.length = nciMsgHdrSize + pkt.payload.length := by
  unfold decodeControl at h
  split at h
  · split_ifs at h
    cases h
    simp only [List.length_cons, nciMsgHdrSize]
    omega
  · cases h

theorem decodeData_length {bytes : List UInt8} {pkt : DataPacket}
    (h : decodeData bytes = some pkt) :
    bytes.length = nciMsgHdrSize + pkt.payload.length := by
  unfold decodeData at h
  split at h
  · split_ifs at h
    cases h
    simp only [List.length_cons, nciMsgHdrSize]
    omega
  · cases h

/-- What is written of a packet that the length byte cannot hold is not a packet with
that payload. -/
theorem send_written_ne {nci : NfcNci} {hw : HwWrite} {bytes written : List UInt8} {n : Nat}
    (hwritten : (nci.send hw bytes (UInt8.ofNat bytes.length)).written = some written)
    (hlong : 255 < bytes.length) (hn : bytes.length ≤ nciMsgHdrSize + 255) :
    written.length ≠ nciMsgHdrSize + n := by
  obtain ⟨cut, hcut, hlen⟩ := send_written_length nci hw bytes
  obtain rfl : cut = written := Option.some.inj (hcut.symm.trans hwritten)
  simp only [nciMsgHdrSize] at hn ⊢
  omega

/-! ## The discovery tables -/

/-- A table reaches the controller as it is: a success means one control packet,
formatted inside the transmit buffer, with the records in it; a table that is too
long is refused before anything is written. -/
def DiscoverEncoded {α : Type} (c : RecordCodec α) (oid num : UInt8) (table : Nat → α)
    (r : CmdResult) : Prop :=
  (r.status = nciStatusOk →
    r.txStored ≤ nciPacketSize ∧
      ∃ bytes payload, r.written = some bytes ∧
        decodeControl bytes =
          some ⟨nciMtCmd, nciPbfNoOrLast, nciGidRfManage, oid, payload⟩ ∧
        payload.head? = some num ∧
        c.decodeCounted payload = some (entriesDown table num.toNat)) ∧
  (255 < 1 + c.width * num.toNat →
    r.status ≠ nciStatusOk ∧ r.txStored ≤ nciPacketSize ∧ r.written = none)

/-- The packet of a table is read back when it has at most 255 bytes, header
included, and only then. -/
theorem discoverEncoded_send {α : Type} (nci : NfcNci) (c : RecordCodec α) (oid : UInt8)
    (hoid : prsOid oid = oid) (num : UInt8) (table : Nat → α) :
    DiscoverEncoded c oid num table
        (nci.send acceptAll
          (controlPacket nciGidRfManage oid (num :: recordsDown c.encode table num.toNat))
          (UInt8.ofNat (controlPacket nciGidRfManage oid
            (num :: recordsDown c.encode table num.toNat)).length)) ↔
      nciMsgHdrSize + 1 + c.width * num.toNat ≤ 255 := by
  generalize hpayload : num :: recordsDown c.encode table num.toNat = payload
  generalize hpacket : controlPacket nciGidRfManage oid payload = packet
  have hpayloadLen : payload.length = 1 + c.width * num.toNat := by
    rw [← hpayload, List.length_cons, recordsDown_length, Nat.add_comm]
  have hpacketLen : packet.length = nciMsgHdrSize + (1 + c.width * num.toNat) := by
    rw [← hpacket, controlPacket_length, hpayloadLen]
  have hok := send_acceptAll nci packet (UInt8.ofNat packet.length)
  rw [Nat.add_assoc, ← hpacketLen]
  constructor
  · rintro ⟨hdecodes, hrefuses⟩
    obtain ⟨-, bytes, payload', hwritten, hdecode, -, hcounted⟩ := hdecodes hok
    -- a success is no refusal, so the payload fits its length byte
    have hfits : ¬ 255 < 1 + c.width * num.toNat := fun hlong => (hrefuses hlong).1 hok
    by_contra hlong
    have hle : packet.length ≤ nciMsgHdrSize + 255 := by omega
    exact send_written_ne hwritten (by omega) hle (decodeControl_length hdecode)
  · intro hle
    have hheader : nciMsgHdrSize = 3 := rfl
    have hcounted : c.decodeCounted payload = some (entriesDown table num.toNat) := by
      rw [← hpayload, recordsDown_eq]
      exact c.decodeCounted_cons (entriesDown_length table num.toNat).symm
    have hread : decodeControl packet =
        some ⟨nciMtCmd, nciPbfNoOrLast, nciGidRfManage, oid, payload⟩ := by
      rw [← hpacket, decodeControl_controlPacket (by omega), hoid]
      rfl
    refine ⟨fun _ => ⟨hle.trans (by decide), packet, payload, send_written _ hle, hread, ?_,
      hcounted⟩, fun hlong => ?_⟩
    · rw [← hpayload]
      rfl
    · omega

/-- In idle state, 83 mappings and 125 configurations are the largest tables that
reach the controller. -/
theorem discover_encoded_iff {nci : NfcNci} (hstate : nci.state = .rfstIdle) (num : UInt8)
    (maps : Nat → NciDiscoverMaps) (confs : Nat → NciDiscoverConfs) :
    (DiscoverEncoded mapCodec nciMsgRfDiscoverMap num maps
        (cmdRfDiscoverMap nci acceptAll num (some maps)) ↔ num.toNat ≤ 83) ∧
      (num ≠ 0 →
        (DiscoverEncoded confCodec nciMsgRfDiscover num confs
          (cmdRfDiscover nci acceptAll num (some confs)) ↔ num.toNat ≤ 125)) := by
  constructor
  · have hissues : nci.Issues (.cmdRfDiscoverMap num (some maps)) :=
      ⟨hstate, Option.some_ne_none maps⟩
    have hsend := discoverEncoded_send nci mapCodec nciMsgRfDiscoverMap rfl num maps
    refine (iff_of_eq (congrArg _ (exec_send acceptAll hissues))).trans (hsend.trans ?_)
    simp only [nciMsgHdrSize, mapCodec]
    omega
  · intro hnum
    have hissues : nci.Issues (.cmdRfDiscover num (some confs)) :=
      ⟨hstate, hnum, Option.some_ne_none confs⟩
    have hsend := discoverEncoded_send nci confCodec nciMsgRfDiscover rfl num confs
    refine (iff_of_eq (congrArg _ (exec_send acceptAll hissues))).trans (hsend.trans ?_)
    simp only [nciMsgHdrSize, confCodec]
    omega

theorem discover_encoded_two :
    (DiscoverEncoded mapCodec nciMsgRfDiscoverMap 2
        (fun i => ⟨UInt8.ofNat i, nciInterfaceModePoll, nciInterfaceFrame⟩)
        (cmdRfDiscoverMap { NfcNci.init with state := .rfstIdle } acceptAll 2
          (some fun i => ⟨UInt8.ofNat i, nciInterfaceModePoll, nciInterfaceFrame⟩)) ↔ 2 ≤ 83) ∧
      ((2 : UInt8) ≠ 0 →
        (DiscoverEncoded confCodec nciMsgRfDiscover 2
          (fun i => ⟨UInt8.ofNat i, nciDiscoveryFrequencyAlways⟩)
          (cmdRfDiscover { NfcNci.init with state := .rfstIdle } acceptAll 2
            (some fun i => ⟨UInt8.ofNat i, nciDiscoveryFrequencyAlways⟩)) ↔ 2 ≤ 125)) :=
  discover_encoded_iff rfl 2 _ _

/-- 84 mappings are 253 bytes of payload.  With the header they are 256, which is no
byte at all: the command succeeds and writes nothing. -/
theorem discover_map_84_lost :
    let maps : Nat → NciDiscoverMaps := fun _ =>
      ⟨nciProtocolT2T, nciInterfaceModePoll, nciInterfaceFrame⟩
    let r := cmdRfDiscoverMap { NfcNci.init with state := .rfstIdle } acceptAll 84 (some maps)
    r.status = nciStatusOk ∧ r.written = some [] ∧
      ¬ DiscoverEncoded mapCodec nciMsgRfDiscoverMap 84 maps r := by
  intro maps r
  have hok : r.status = nciStatusOk := by decide +kernel
  have hnothing : r.written = some [] := by decide +kernel
  refine ⟨hok, hnothing, ?_⟩
  rintro ⟨hdecodes, -⟩
  obtain ⟨-, bytes, payload, hwritten, hdecode, -⟩ := hdecodes hok
  obtain rfl : [] = bytes := Option.some.inj (hnothing.symm.trans hwritten)
  cases hdecode

/-! ## Data -/

/-- A byte string reaches the controller as it is: a success means one data packet
for the connection; a string that no length byte can count is refused before
anything is written. -/
def DataEncoded (cid : UInt8) (data : List UInt8) (r : CmdResult) : Prop :=
  (r.status = nciStatusOk →
    ∃ bytes, r.written = some bytes ∧
      decodeData bytes = some ⟨nciPbfNoOrLast, cid, data⟩) ∧
  (255 < data.length →
    r.status ≠ nciStatusOk ∧ r.txStored ≤ nciPacketSize ∧ r.written = none)

/-- The header of a data packet always names the static connection. -/
theorem decodeData_packet (cid : UInt8) {data : List UInt8} (h : data.length ≤ 255) :
    decodeData (NciCmd.dataSend cid data).packet =
      some ⟨nciPbfNoOrLast, nciCidRfStatic, data⟩ := by
  have hlen : data.length = (UInt8.ofNat data.length).toNat := by
    simp
    omega
  exact if_pos ⟨rfl, hlen⟩

/-- In an activation, `dataSend` works for the static connection and up to 252 bytes. -/
theorem dataSend_encoded_iff {nci : NfcNci} (hstate : nci.state = .rfstPollActive)
    (cid : UInt8) (data : List UInt8) :
    DataEncoded cid data (dataSend nci acceptAll cid data) ↔
      cid = nciCidRfStatic ∧ data.length ≤ 252 := by
  have hissues : nci.Issues (.dataSend cid data) := ⟨hstate, trivial⟩
  have hsend : dataSend nci acceptAll cid data = _ := exec_send acceptAll hissues
  have hlen : (NciCmd.dataSend cid data).packet.length = nciMsgHdrSize + data.length := by
    rw [NciCmd.packet, List.length_append]
    rfl
  have hok := send_acceptAll nci (NciCmd.dataSend cid data).packet
    (UInt8.ofNat (NciCmd.dataSend cid data).packet.length)
  have hheader : nciMsgHdrSize = 3 := rfl
  rw [hsend]
  constructor
  · rintro ⟨hdecodes, hrefuses⟩
    obtain ⟨bytes, hwritten, hdecode⟩ := hdecodes hok
    have hfits : ¬ 255 < data.length := fun hlong => (hrefuses hlong).1 hok
    have hle : (NciCmd.dataSend cid data).packet.length ≤ 255 := by
      by_contra hlong
      exact send_written_ne hwritten (by omega) (by omega) (decodeData_length hdecode)
    -- the packet is written as a whole, so what is decoded is what was formatted
    obtain rfl : _ = bytes := Option.some.inj ((send_written acceptAll hle).symm.trans hwritten)
    rw [decodeData_packet cid (by omega)] at hdecode
    cases hdecode
    exact ⟨rfl, by omega⟩
  · rintro ⟨rfl, hshort⟩
    refine ⟨fun _ => ⟨_, send_written acceptAll (by omega), decodeData_packet _ (by omega)⟩,
      fun hlong => ?_⟩
    omega

theorem dataSend_encoded_read :
    DataEncoded nciCidRfStatic [0x30, 0x00]
        (dataSend { NfcNci.init with state := .rfstPollActive } acceptAll nciCidRfStatic
          [0x30, 0x00]) ↔
      nciCidRfStatic = nciCidRfStatic ∧ [(0x30 : UInt8), 0x00].length ≤ 252 :=
  dataSend_encoded_iff rfl _ _

/-- The connection identifier does not get into the header. -/
theorem dataSend_cid_lost :
    let r := dataSend { NfcNci.init with state := .rfstPollActive } acceptAll 1 [0x30, 0x00]
    r.status = nciStatusOk ∧ r.written = some [0, 0, 2, 0x30, 0x00] ∧
      ¬ DataEncoded 1 [0x30, 0x00] r := by
  intro r
  have hok : r.status = nciStatusOk := by decide +kernel
  have hbytes : r.written = some [0, 0, 2, 0x30, 0x00] := by decide +kernel
  refine ⟨hok, hbytes, ?_⟩
  rintro ⟨hdecodes, -⟩
  obtain ⟨bytes, hwritten, hdecode⟩ := hdecodes hok
  obtain rfl : _ = bytes := Option.some.inj (hbytes.symm.trans hwritten)
  exact absurd hdecode (by decide)

end Nci
end ArduinoNfc
