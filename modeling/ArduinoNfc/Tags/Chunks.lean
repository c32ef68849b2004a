import ArduinoNfc.Tags.Receptions

/-!
# A data packet as a chunk of a dump

`NfcTagsIntfType2::handleDataDump` looks at the packet through the pointer that
`NfcNci::handleDataEvent` hands on.  The lemmas below say what it does in terms
of the packet itself.
-/

namespace ArduinoNfc
namespace Tags

open Foundation Nci

/-- Sixteen data bytes, followed by a status byte of zero. -/
def ValidChunk (pkt : Packet) : Prop := pkt.payload.length = 17 ∧ pkt.byte 16 = 0

instance (pkt : Packet) : Decidable (ValidChunk pkt) := inferInstanceAs (Decidable (_ ∧ _))

/-- A valid chunk. -/
def wholeChunk : Packet := ⟨nciMtData, 0, List.replicate 17 0, by decide⟩

/-- The `NACK` of a tag: one byte. -/
def nackPacket : Packet := ⟨nciMtData, 0, [0], by decide⟩

/-- The first byte behind the pointer is the length byte. -/
theorem dataByte_len (nci : NfcNci) (pkt : Packet) :
    dataByte (nci.handOn pkt) (.rxBuf 2) 0 = pkt.len :=
  rxByte_fill_two nci pkt

/-- The payload follows. -/
theorem dataByte_payload (nci : NfcNci) (pkt : Packet) (i : Nat)
    (hi : i < pkt.payload.length) :
    dataByte (nci.handOn pkt) (.rxBuf 2) (i + 1) = pkt.byte i := by
  have hbyte : dataByte (nci.handOn pkt) (.rxBuf 2) (i + 1) =
      (nci.fill pkt).rxByte (nciMsgHdrSize + i) := by
    simp only [dataByte, NfcNci.handOn, nciMsgHdrSize, rxByte_mk]
    congr 1
    omega
  rw [hbyte, rxByte_payload nci pkt i hi]

theorem chunkOk_iff (nci : NfcNci) (pkt : Packet) :
    NfcTagsIntfType2.ChunkOk (nci.handOn pkt) .ok (.rxBuf 2) ↔ ValidChunk pkt := by
  unfold NfcTagsIntfType2.ChunkOk ValidChunk
  rw [dataByte_len, Packet.len_eq_iff]
  constructor
  · rintro ⟨-, hlen, hstatus⟩
    have hlength : pkt.payload.length = 17 := hlen
    exact ⟨hlength, (dataByte_payload nci pkt 16 (by omega)).symm.trans hstatus⟩
  · rintro ⟨hlen, hstatus⟩
    exact ⟨rfl, hlen, (dataByte_payload nci pkt 16 (by omega)).trans hstatus⟩

/-- What the dump buffer holds: the payload without its last byte. -/
theorem chunk_bytes {nci : NfcNci} {pkt : Packet} (h : ValidChunk pkt) :
    (List.range 16).map (dataByte (nci.handOn pkt) (.rxBuf 3)) = pkt.payload.take 16 := by
  have hlen : pkt.payload.length = 17 := h.1
  apply List.ext_getElem
  · simp [hlen]
  · intro i hi hi'
    have hlt : i < 16 := by simpa using hi
    have hbyte : dataByte (nci.handOn pkt) (.rxBuf 3) i = pkt.byte i := by
      rw [← dataByte_payload nci pkt i (by omega)]
      simp only [dataByte]
      congr 1
      omega
    have hpkt : i < pkt.payload.length := by omega
    simp [hbyte, Packet.byte, hpkt]

/-! ## What the type 2 interface does with a data packet -/

namespace NfcTagsIntfType2

/-- The interface after a chunk, and the dump record it hands to the application. -/
def chunked (t : NfcTagsIntfType2) (pkt : Packet) : NfcTagsIntfType2 :=
  if ValidChunk pkt then
    if t.block < memoryLastBlock + 1 - memoryReadBlock then
      { t with
        dump := ⟨.rxBuf 3, 16, 1⟩, state := .dump, block := t.block + memoryReadBlock }
    else
      { t with dump := ⟨.rxBuf 3, 16, 0⟩, state := .none }
  else
    { t with dump := ⟨.null, 0, 0⟩, state := .none }

@[simp] theorem chunked_id (t : NfcTagsIntfType2) (pkt : Packet) :
    (t.chunked pkt).id = t.id := by
  unfold chunked
  split_ifs <;> rfl

/-- While a dump is selected, a data packet is taken for a chunk, whether a `READ` is
outstanding or not. -/
theorem handleData_dump {t : NfcTagsIntfType2} (hid : t.id = .dump) (nci : NfcNci)
    (pkt : Packet) (id : UInt16) :
    t.handleData (nci.handOn pkt) nciStatusOk id (.rxBuf 2) =
      (t.chunked pkt,
        [.call ⟨.cbDump, .ok, .dump, some (t.chunked pkt).dump⟩
          (if ValidChunk pkt then pkt.payload.take 16 else [])]) := by
  have hstatus : NfcTagsIntf.translateNciStatus nciStatusOk = .ok := rfl
  have hbuf : advance (.rxBuf 2) 1 = .rxBuf 3 := rfl
  have hsize : (16 : UInt8).toNat = 16 := rfl
  by_cases hvalid : ValidChunk pkt
  · have hlen : dataByte (nci.handOn pkt) (.rxBuf 2) 0 - 1 = 16 := by
      rw [dataByte_len, (pkt.len_eq_iff 17).mpr hvalid.1]
      rfl
    by_cases hblock : t.block < memoryLastBlock + 1 - memoryReadBlock
    · simp only [handleData, hid, handleDataDump, hstatus, chunkOk_iff, chunked, hvalid, if_true,
        hblock, hbuf, hlen, hsize, chunk_bytes hvalid]
    · simp only [handleData, hid, handleDataDump, hstatus, chunkOk_iff, chunked, hvalid, if_true,
        hblock, if_false, hbuf, hlen, hsize, chunk_bytes hvalid]
  · simp only [handleData, hid, handleDataDump, hstatus, chunkOk_iff, chunked, hvalid, if_false]
    rfl

theorem handleData_none {t : NfcTagsIntfType2} (hid : t.id = .none) (nci : NfcNci)
    (status : UInt8) (id : UInt16) (data : DataPtr) :
    t.handleData nci status id data = (t, []) := by
  simp only [handleData, hid]

end NfcTagsIntfType2

/-! ## What the stack does with a data packet -/

/-- The packet is a data packet that the type 2 interface takes for a chunk. -/
def Stack.Consumes (s : Stack) (pkt : Packet) : Prop :=
  pkt.IsData ∧ s.tags.pTagIntf = some .tag2 ∧ s.tags.tag2.id = .dump

instance (s : Stack) (pkt : Packet) : Decidable (s.Consumes pkt) :=
  inferInstanceAs (Decidable (_ ∧ _ ∧ _))

/-- The stack after a chunk, and the call that hands it to the application. -/
structure Consumed (s : Stack) (pkt : Packet) (r : Stack × List StackOutput) : Prop where
  state_eq : r.1.tags.state = s.tags.state
  id_eq : r.1.tags.id = s.tags.id
  intf_eq : r.1.tags.pTagIntf = s.tags.pTagIntf
  tag2_eq : r.1.tags.tag2 = s.tags.tag2.chunked pkt
  out_eq : r.2 = [.call ⟨.cbDump, .ok, .dump, some (s.tags.tag2.chunked pkt).dump⟩
    (if ValidChunk pkt then pkt.payload.take 16 else [])]

theorem receive_consumed {s : Stack} (hcb : s.nci.cbRegistered = true) {pkt : Packet}
    (h : s.Consumes pkt) (garbage : NciRfIntf) : Consumed s pkt (s.receive pkt garbage) := by
  obtain ⟨hdata, hintf, hid⟩ := h
  cases stack_receive_cases hcb pkt garbage with
  | accepted m carries _ _ _ _ _ _ _ => exact absurd hdata carries.not_isData
  | refused m carries _ _ _ _ _ _ _ _ _ => exact absurd hdata carries.not_isData
  | dropped _ intf _ _ _ _ _ _ => exact absurd hintf intf
  | other _ noData _ _ _ => exact absurd hdata noData
  | chunk _ _ nci_eq id state_eq id_eq intf_eq run_eq =>
      rw [nci_eq, NfcTagsIntfType2.handleData_dump hid] at run_eq
      obtain ⟨htag2, hout⟩ := Prod.mk.inj run_eq
      exact ⟨state_eq, id_eq, intf_eq, htag2, hout⟩

/-- Any other data packet, a segment of a longer message among them, goes unnoticed. -/
theorem receive_ignored {s : Stack} (hcb : s.nci.cbRegistered = true) {pkt : Packet}
    (hdata : prsMt pkt.hdr0 = nciMtData) (h : ¬ s.Consumes pkt) (garbage : NciRfIntf) :
    (s.receive pkt garbage).1.tags.tag2 = s.tags.tag2 ∧ (s.receive pkt garbage).2 = [] := by
  cases stack_receive_cases hcb pkt garbage with
  | accepted m carries _ _ _ _ _ _ _ => exact absurd ⟨carries.1, hdata⟩ carries.not_isData
  | refused m carries _ _ _ _ _ _ _ _ _ => exact absurd ⟨carries.1, hdata⟩ carries.not_isData
  | dropped _ _ _ _ _ tag2_eq _ out_eq => exact ⟨tag2_eq, out_eq⟩
  | other _ _ _ tags_eq out_eq => exact ⟨congrArg NfcTags.tag2 tags_eq, out_eq⟩
  | chunk isData intf _ id _ _ _ run_eq =>
      have hid : s.tags.tag2.id = .none := by
        cases hid : s.tags.tag2.id with
        | none => rfl
        | dump => exact absurd ⟨isData, intf, hid⟩ h
      rw [NfcTagsIntfType2.handleData_none hid] at run_eq
      exact Prod.mk.inj run_eq

end Tags
end ArduinoNfc
