import ArduinoNfc.Nci.Dispatch

/-!
# The messages of the controller

The seven messages that `NfcNci` understands, each with the header that names it,
the callback that reports it, the states it leads from and to and the condition on
its payload.  Packets are described by what they carry, and the bytes of the
receive buffer by the packet that was stored last.
-/

namespace ArduinoNfc
namespace Nci

open Foundation

/-! ## Running the parser monad -/

@[simp] theorem bind_run {α β : Type} (a : NciM α) (b : α → NciM β) (f : Frame) :
    (a >>= b) f = b (a f).1 (a f).2 := rfl

@[simp] theorem pure_run {α : Type} (a : α) (f : Frame) : (pure a : NciM α) f = (a, f) := rfl

@[simp] theorem get_run (f : Frame) : (get : NciM Frame) f = (f, f) := rfl

@[simp] theorem modify_run (g : Frame → Frame) (f : Frame) :
    (modify g : NciM PUnit) f = (⟨⟩, g f) := rfl

@[simp] theorem map_run {α β : Type} (g : α → β) (a : NciM α) (f : Frame) :
    (g <$> a) f = (g (a f).1, (a f).2) := rfl

@[simp] theorem ite_run {α : Type} (c : Prop) [Decidable c] (a b : NciM α) (f : Frame) :
    (if c then a else b) f = if c then a f else b f := by
  split <;> rfl

@[simp] theorem fetch_run (f : Frame) :
    fetch f = (f.nci.rxByte f.pos,
      { f with pos := f.pos + 1, reads := f.reads ++ [f.pos] }) := rfl

@[simp] theorem update_run (g : NfcNci → NfcNci) (f : Frame) :
    update g f = ((), { f with nci := g f.nci }) := rfl

@[simp] theorem seek_run (pos : Nat) (f : Frame) : seek pos f = ((), { f with pos }) := rfl

/-! ## The messages -/

/-- The responses and notifications with a parser. -/
inductive NciMsg where
  | rspCoreReset
  | rspCoreInit
  | rspRfDiscoverMap
  | rspRfDiscover
  | rspRfDeactivate
  | ntfRfIntfActivated
  | ntfRfDeactivate
  deriving DecidableEq, Repr

namespace NciMsg

def parser : NciMsg → NciM UInt8
  | .rspCoreReset => Nci.rspCoreReset
  | .rspCoreInit => Nci.rspCoreInit
  | .rspRfDiscoverMap => Nci.rspRfDiscoverMap
  | .rspRfDiscover => Nci.rspRfDiscover
  | .rspRfDeactivate => Nci.rspRfDeactivate
  | .ntfRfIntfActivated => Nci.ntfRfIntfActivated
  | .ntfRfDeactivate => Nci.ntfRfDeactivate

def method : NciMsg → NciCb
  | .rspCoreReset => .cbCoreReset
  | .rspCoreInit => .cbCoreInit
  | .rspRfDiscoverMap => .cbRfDiscoverMap
  | .rspRfDiscover => .cbRfDiscover
  | .rspRfDeactivate => .cbRfDeactivate
  | .ntfRfIntfActivated => .cbRfDiscoverNtf
  | .ntfRfDeactivate => .cbRfDeactivateNtf

def mt : NciMsg → UInt8
  | .ntfRfIntfActivated => nciMtNtf
  | .ntfRfDeactivate => nciMtNtf
  | _ => nciMtRsp

def gid : NciMsg → UInt8
  | .rspCoreReset => nciGidCore
  | .rspCoreInit => nciGidCore
  | _ => nciGidRfManage

def oid : NciMsg → UInt8
  | .rspCoreReset => nciMsgCoreReset
  | .rspCoreInit => nciMsgCoreInit
  | .rspRfDiscoverMap => nciMsgRfDiscoverMap
  | .rspRfDiscover => nciMsgRfDiscover
  | .rspRfDeactivate => nciMsgRfDeactivate
  | .ntfRfIntfActivated => nciMsgRfIntfActivated
  | .ntfRfDeactivate => nciMsgRfDeactivate

/-- The identifier passed to the callback. -/
def id (m : NciMsg) : UInt16 := uint16Id m.mt m.oid

/-- The state in which the parser accepts the message. -/
def source : NciMsg → NciState
  | .rspCoreReset => .none
  | .rspCoreInit => .rfstReset
  | .rspRfDiscoverMap => .rfstIdle
  | .rspRfDiscover => .rfstIdle
  | .rspRfDeactivate => .rfstPollActive
  | .ntfRfIntfActivated => .rfstDiscovery
  | .ntfRfDeactivate => .rfstDiscovery

/-- The state after an accepted message. -/
def target : NciMsg → NciState
  | .rspCoreReset => .rfstReset
  | .rspCoreInit => .rfstIdle
  | .rspRfDiscoverMap => .rfstIdle
  | .rspRfDiscover => .rfstDiscovery
  | .rspRfDeactivate => .rfstDiscovery
  | .ntfRfIntfActivated => .rfstPollActive
  | .ntfRfDeactivate => .rfstDiscovery

/-- The object that an accepted message hands to its callback. -/
def object : NciMsg → DataPtr
  | .rspCoreReset => .reset
  | .ntfRfIntfActivated => .rfIntf
  | .ntfRfDeactivate => .deactivate
  | _ => .null

/-- The payload has the length and the status that the parser asks for. -/
def WellFormed (m : NciMsg) (pkt : Packet) : Prop :=
  match m with
  | .rspCoreReset => pkt.payload.length = 3 ∧ pkt.byte 0 = nciStatusOk
  | .rspCoreInit => 17 ≤ pkt.payload.length ∧ pkt.byte 0 = nciStatusOk
  | .rspRfDiscoverMap => pkt.payload.length = 1 ∧ pkt.byte 0 = nciStatusOk
  | .rspRfDiscover => pkt.payload.length = 1 ∧ pkt.byte 0 = nciStatusOk
  | .rspRfDeactivate => pkt.payload.length = 1 ∧ pkt.byte 0 = nciStatusOk
  | .ntfRfIntfActivated => 11 ≤ pkt.payload.length
  | .ntfRfDeactivate => pkt.payload.length = 2

instance decidableWellFormed : ∀ (m : NciMsg) (pkt : Packet), Decidable (m.WellFormed pkt)
  | .rspCoreReset, pkt => inferInstanceAs (Decidable (pkt.payload.length = 3 ∧ _ = _))
  | .rspCoreInit, pkt => inferInstanceAs (Decidable (17 ≤ pkt.payload.length ∧ _ = _))
  | .rspRfDiscoverMap, pkt => inferInstanceAs (Decidable (pkt.payload.length = 1 ∧ _ = _))
  | .rspRfDiscover, pkt => inferInstanceAs (Decidable (pkt.payload.length = 1 ∧ _ = _))
  | .rspRfDeactivate, pkt => inferInstanceAs (Decidable (pkt.payload.length = 1 ∧ _ = _))
  | .ntfRfIntfActivated, pkt => inferInstanceAs (Decidable (11 ≤ pkt.payload.length))
  | .ntfRfDeactivate, pkt => inferInstanceAs (Decidable (pkt.payload.length = 2))

/-- The message is accepted. -/
def Accepts (m : NciMsg) (state : NciState) (pkt : Packet) : Prop :=
  state = m.source ∧ m.WellFormed pkt

instance (m : NciMsg) (state : NciState) (pkt : Packet) : Decidable (m.Accepts state pkt) :=
  inferInstanceAs (Decidable (_ ∧ _))

end NciMsg

namespace Packet

/-- The packet is complete, unsegmented and not empty. -/
def Whole (pkt : Packet) : Prop :=
  pkt.payload ≠ [] ∧ prsPbf pkt.hdr0 = nciPbfNoOrLast

/-- The packet carries the message `m`. -/
def Carries (pkt : Packet) (m : NciMsg) : Prop :=
  pkt.Whole ∧ prsMt pkt.hdr0 = m.mt ∧ prsGid pkt.hdr0 = m.gid ∧ prsOid pkt.hdr1 = m.oid

/-- The packet is a data packet. -/
def IsData (pkt : Packet) : Prop := pkt.Whole ∧ prsMt pkt.hdr0 = nciMtData

/-- The packet is a `CORE_CONN_CREDITS` notification, which `NfcNci` ignores. -/
def IsCredits (pkt : Packet) : Prop :=
  pkt.Whole ∧ prsMt pkt.hdr0 = nciMtNtf ∧ prsGid pkt.hdr0 = nciGidCore ∧
    prsOid pkt.hdr1 = nciMsgCoreConnCredits

instance (pkt : Packet) : Decidable pkt.Whole := inferInstanceAs (Decidable (_ ∧ _))

instance (pkt : Packet) (m : NciMsg) : Decidable (pkt.Carries m) :=
  inferInstanceAs (Decidable (_ ∧ _))

instance (pkt : Packet) : Decidable pkt.IsData := inferInstanceAs (Decidable (_ ∧ _))

instance (pkt : Packet) : Decidable pkt.IsCredits := inferInstanceAs (Decidable (_ ∧ _))

/-- The packet that carries the message `m` with a payload. -/
def ofMsg (m : NciMsg) (payload : List UInt8) (hle : payload.length ≤ 255) : Packet :=
  ⟨bldHdr0 m.mt m.gid, m.oid, payload, hle⟩

/-- The shortest packet that the parser of a message accepts. -/
def minimal (m : NciMsg) : Packet :=
  match m with
  | .rspCoreReset => ofMsg m [nciStatusOk, 0x10, nciResetTypeKeepCfg] (by decide)
  | .rspCoreInit => ofMsg m (List.replicate 17 nciStatusOk) (by decide)
  | .ntfRfIntfActivated => ofMsg m (List.replicate 11 0) (by decide)
  | .ntfRfDeactivate => ofMsg m [nciDeactivateTypeDiscovery, 0] (by decide)
  | m => ofMsg m [nciStatusOk] (by decide)

theorem carries_minimal (m : NciMsg) : (minimal m).Carries m := by
  cases m <;> decide

theorem wellFormed_minimal (m : NciMsg) : m.WellFormed (minimal m) := by
  cases m <;> decide

/-- The header names one message at most. -/
theorem Carries.unique {pkt : Packet} {m n : NciMsg} (hm : pkt.Carries m)
    (hn : pkt.Carries n) : m = n := by
  have hmt : m.mt = n.mt := hm.2.1.symm.trans hn.2.1
  have hgid : m.gid = n.gid := hm.2.2.1.symm.trans hn.2.2.1
  have hoid : m.oid = n.oid := hm.2.2.2.symm.trans hn.2.2.2
  revert hmt hgid hoid
  cases m <;> cases n <;> decide

theorem IsCredits.not_carries {pkt : Packet} (h : pkt.IsCredits) (m : NciMsg) :
    ¬ pkt.Carries m := by
  rintro ⟨-, hmt, hgid, hoid⟩
  have h₁ : nciMtNtf = m.mt := h.2.1.symm.trans hmt
  have h₂ : nciGidCore = m.gid := h.2.2.1.symm.trans hgid
  revert h₁ h₂
  cases m <;> decide

theorem IsCredits.not_isData {pkt : Packet} (h : pkt.IsCredits) : ¬ pkt.IsData := by
  rintro ⟨-, hdata⟩
  have hmt : nciMtNtf = nciMtData := h.2.1.symm.trans hdata
  exact absurd hmt (by decide)

/-- One credit for the static connection. -/
def credits : Packet :=
  ⟨bldHdr0 nciMtNtf nciGidCore, nciMsgCoreConnCredits, [0x01, nciCidRfStatic, 0x01], by decide⟩

theorem Carries.not_isData {pkt : Packet} {m : NciMsg} (hm : pkt.Carries m) :
    ¬ pkt.IsData := by
  rintro ⟨-, hdata⟩
  have hmt : m.mt = nciMtData := hm.2.1.symm.trans hdata
  revert hmt
  cases m <;> decide

end Packet

/-! ## The receive buffer after a reception -/

/-- The object once the packet is in its receive buffer. -/
def NfcNci.fill (nci : NfcNci) (pkt : Packet) : NfcNci :=
  { nci with rxBuf := (nci.rxBuf.store 0 pkt.header).store nciMsgHdrSize pkt.payload }

theorem fill_rxBuf (nci : NfcNci) (pkt : Packet) :
    (nci.fill pkt).rxBuf =
      (nci.rxBuf.store 0 pkt.header).store nciMsgHdrSize pkt.payload := rfl

@[simp] theorem fill_state (nci : NfcNci) (pkt : Packet) :
    (nci.fill pkt).state = nci.state := rfl

@[simp] theorem fill_data (nci : NfcNci) (pkt : Packet) :
    (nci.fill pkt).data = nci.data := rfl

@[simp] theorem fill_rfIntf (nci : NfcNci) (pkt : Packet) :
    (nci.fill pkt).rfIntf = nci.rfIntf := rfl

@[simp] theorem fill_cbRegistered (nci : NfcNci) (pkt : Packet) :
    (nci.fill pkt).cbRegistered = nci.cbRegistered := rfl

@[simp] theorem header_length (pkt : Packet) : pkt.header.length = 3 := rfl

/-- The header bytes, once stored. -/
theorem rxByte_header (nci : NfcNci) (pkt : Packet) {i : Nat} (hi : i < nciMsgHdrSize) :
    (nci.fill pkt).rxByte i = pkt.header.getD i 0 := by
  have hsize : i < nciPacketSize := hi.trans (by decide)
  rw [NfcNci.rxByte, dif_pos hsize, fill_rxBuf,
    ByteBuffer.store_below _ _ (by exact hi),
    ByteBuffer.store_inside _ _ (Nat.zero_le _) (by simpa [nciMsgHdrSize] using hi)]
  simp

/-- The payload bytes, once stored. -/
theorem rxByte_payload (nci : NfcNci) (pkt : Packet) (i : Nat)
    (hi : i < pkt.payload.length) :
    (nci.fill pkt).rxByte (nciMsgHdrSize + i) = pkt.byte i := by
  have hle := pkt.payload_le
  have hsize : nciMsgHdrSize + i < nciPacketSize := by
    simp only [nciMsgHdrSize, nciPacketSize]
    omega
  rw [NfcNci.rxByte, dif_pos hsize, fill_rxBuf,
    ByteBuffer.store_inside _ _ (Nat.le_add_right _ _) (by simpa using hi)]
  simp [Packet.byte]

end Nci
end ArduinoNfc
