import Mathlib.Data.List.GetD
import ArduinoNfc.Nci.Calls

/-!
# Activation records on the wire

An `ActivationRecord` is what an `RF_INTF_ACTIVATED` notification says.  The
technology parameters are nested in its payload and the NFCID is nested in these,
each behind a length byte; the parameters of the activation follow at the end and
are skipped.  `activation_decodes` is the round trip: in discovery, the RF
interface record that the notification leaves behind is the one that was encoded.
-/

namespace ArduinoNfc
namespace Nci

open Foundation

/-! ## Records -/

/-- The parameters of an NFC-A technology. -/
structure PollAParams where
  sensRes0 : UInt8
  sensRes1 : UInt8
  nfcid : List UInt8
  selRes : Option UInt8
  nfcid_le : nfcid.length ≤ nciRfPaNfcidLength

namespace PollAParams

/-- `SEL_RES` behind its length byte. -/
def selResBytes (p : PollAParams) : List UInt8 :=
  match p.selRes with
  | none => [0]
  | some selRes => [1, selRes]

def bytes (p : PollAParams) : List UInt8 :=
  [p.sensRes0, p.sensRes1, UInt8.ofNat p.nfcid.length] ++ (p.nfcid ++ p.selResBytes)

end PollAParams

/-- The technology mode with its parameters, which are not empty. -/
inductive TechParams where
  | pollA (params : PollAParams)
  | other (mode : UInt8) (block : List UInt8) (mode_ne : mode ≠ nciDiscoveryTypePollA)
      (block_ne : block ≠ [])

namespace TechParams

def mode : TechParams → UInt8
  | .pollA _ => nciDiscoveryTypePollA
  | .other mode _ _ _ => mode

def bytes : TechParams → List UInt8
  | .pollA params => params.bytes
  | .other _ block _ _ => block

theorem bytes_ne (t : TechParams) : t.bytes ≠ [] := by
  cases t with
  | pollA params => exact List.cons_ne_nil _ _
  | other _ block _ block_ne => exact block_ne

end TechParams

/-- What an activation notification says; it fits in one packet. -/
structure ActivationRecord where
  id : UInt8
  interface : UInt8
  protocol : UInt8
  maxPayloadSize : UInt8
  credits : UInt8
  tech : TechParams
  exchangeMode : UInt8
  txBitrate : UInt8
  rxBitrate : UInt8
  activation : List UInt8
  fits : 11 + tech.bytes.length + activation.length ≤ 255

namespace ActivationRecord

variable (r : ActivationRecord)

/-- The fields behind the technology parameters. -/
def tail : List UInt8 :=
  [r.exchangeMode, r.txBitrate, r.rxBitrate, UInt8.ofNat r.activation.length] ++ r.activation

/-- The payload of the notification. -/
def payload : List UInt8 :=
  [r.id, r.interface, r.protocol, r.tech.mode, r.maxPayloadSize, r.credits,
    UInt8.ofNat r.tech.bytes.length] ++ (r.tech.bytes ++ r.tail)

/-- Payload byte `i`. -/
def byte (i : Nat) : UInt8 := r.payload.getD i 0

theorem payload_length : r.payload.length = 11 + r.tech.bytes.length + r.activation.length := by
  simp only [payload, tail, List.length_append, List.length_cons, List.length_nil]
  omega

theorem payload_le : r.payload.length ≤ 255 := by
  rw [payload_length]
  exact r.fits

/-! ## Where the fields are -/

/-- The length byte of the technology parameters. -/
theorem byte_techLen : (r.byte 6).toNat = r.tech.bytes.length := by
  have hle := r.fits
  show (UInt8.ofNat r.tech.bytes.length).toNat = r.tech.bytes.length
  simp
  omega

theorem byte_techLen_ne : r.byte 6 ≠ 0 := by
  intro hzero
  have hlen := r.byte_techLen
  rw [hzero] at hlen
  exact r.tech.bytes_ne (List.length_eq_zero_iff.mp hlen.symm)

/-- Behind the first length byte. -/
theorem byte_seven_add (i : Nat) : r.byte (7 + i) = (r.tech.bytes ++ r.tail).getD i 0 := by
  rw [Nat.add_comm]
  rfl

theorem byte_tech {i : Nat} (hi : i < r.tech.bytes.length) :
    r.byte (7 + i) = r.tech.bytes.getD i 0 := by
  rw [byte_seven_add, List.getD_append _ _ _ _ hi]

/-- Behind the technology parameters. -/
theorem byte_tail (i : Nat) : r.byte (7 + (r.byte 6).toNat + i) = r.tail.getD i 0 := by
  rw [byte_techLen, Nat.add_assoc, byte_seven_add,
    List.getD_append_right _ _ _ _ (Nat.le_add_right _ _), Nat.add_sub_cancel_left]

end ActivationRecord

namespace PollAParams

variable (p : PollAParams)

theorem nfcidLen_toNat : (UInt8.ofNat p.nfcid.length).toNat = p.nfcid.length := by
  have hle := p.nfcid_le
  simp only [nciRfPaNfcidLength] at hle
  simp
  omega

theorem bytes_length : p.bytes.length = 3 + p.nfcid.length + p.selResBytes.length := by
  simp only [bytes, List.length_append, List.length_cons, List.length_nil]
  omega

/-- Behind the length byte of the NFCID. -/
theorem bytes_three_add (i : Nat) :
    p.bytes.getD (3 + i) 0 = (p.nfcid ++ p.selResBytes).getD i 0 := by
  rw [Nat.add_comm]
  rfl

theorem bytes_nfcid {i : Nat} (hi : i < p.nfcid.length) :
    p.bytes.getD (3 + i) 0 = p.nfcid.getD i 0 := by
  rw [bytes_three_add, List.getD_append _ _ _ _ hi]

theorem bytes_selRes (i : Nat) :
    p.bytes.getD (3 + p.nfcid.length + i) 0 = p.selResBytes.getD i 0 := by
  rw [Nat.add_assoc, bytes_three_add, List.getD_append_right _ _ _ _ (Nat.le_add_right _ _),
    Nat.add_sub_cancel_left]

/-- The length byte of `SEL_RES` counts what follows it. -/
theorem selResBytes_length : p.selResBytes.length = 1 + (p.selResBytes.getD 0 0).toNat := by
  unfold selResBytes
  cases p.selRes <;> rfl

end PollAParams

namespace ActivationRecord

variable (r : ActivationRecord)

/-- The nested bytes of NFC-A parameters. -/
theorem byte_pollA {p : PollAParams} (htech : r.tech = .pollA p) {i : Nat}
    (hi : i < p.bytes.length) : r.byte (7 + i) = p.bytes.getD i 0 := by
  have hbytes : r.tech.bytes = p.bytes := congrArg TechParams.bytes htech
  rw [byte_tech r (by rw [hbytes]; exact hi), hbytes]

/-- The lengths of an encoded record fit. -/
theorem nestedFits {pkt : Packet} (hpayload : pkt.payload = r.payload) : pkt.NestedFits := by
  have hbyte : pkt.byte = r.byte := by
    funext i
    rw [Packet.byte, hpayload]
    rfl
  rw [Packet.NestedFits, hbyte, hpayload, payload_length, byte_techLen]
  refine ⟨by omega, fun _ hmode => ?_⟩
  cases htech : r.tech with
  | other mode block mode_ne _ =>
      have hmode' : r.tech.mode = nciDiscoveryTypePollA := hmode
      rw [htech] at hmode'
      exact absurd hmode' mode_ne
  | pollA p =>
      have hlen := p.bytes_length
      have hsel := p.selResBytes_length
      have hnine : r.byte 9 = UInt8.ofNat p.nfcid.length := r.byte_pollA htech (i := 2) (by omega)
      have hselLen : r.byte (10 + p.nfcid.length) = p.selResBytes.getD 0 0 := by
        have hat := r.byte_pollA htech (i := 3 + p.nfcid.length) (by omega)
        rw [← Nat.add_assoc] at hat
        rw [hat, ← p.bytes_selRes 0]
        rfl
      rw [hnine, p.nfcidLen_toNat, hselLen]
      refine ⟨p.nfcid_le, ?_⟩
      show p.nfcid.length + 11 + _ ≤ 11 + p.bytes.length + r.activation.length
      omega

end ActivationRecord

/-! ## The round trip -/

/-- The stored NFC-A parameters are these. -/
structure PollAParams.StoredIn (p : PollAParams) (pa : NciRfParamsPa) : Prop where
  sensRes : pa.sensRes.take nciRfPaSensResLength = [p.sensRes0, p.sensRes1]
  nfcidLen : pa.nfcidLen.toNat = p.nfcid.length
  nfcid : pa.nfcid.take p.nfcid.length = p.nfcid
  selResLen : pa.selResLen = if p.selRes.isSome then 1 else 0
  selRes : ∀ selRes, p.selRes = some selRes → pa.selRes = selRes

/-- The RF interface record says what the notification said. -/
structure ActivationRecord.StoredIn (r : ActivationRecord) (rf : NciRfIntf) : Prop where
  id : rf.id = r.id
  interface : rf.interface = r.interface
  protocol : rf.protocol = r.protocol
  activationMode : rf.activationMode = r.tech.mode
  maxPayloadSize : rf.maxPayloadSize = r.maxPayloadSize
  credits : rf.credits = r.credits
  type : rf.specific.type = r.tech.mode
  pollA : ∀ p, r.tech = .pollA p → p.StoredIn rf.specific.pollA
  exchangeMode : rf.exchangeMode = r.exchangeMode
  txBitrate : rf.txBitrate = r.txBitrate
  rxBitrate : rf.rxBitrate = r.rxBitrate

namespace ActivationRecord

variable (r : ActivationRecord)

/-- The NFC-A parameters that are decoded are those that were encoded. -/
theorem storedIn_decoded (old : NciRfParams) {p : PollAParams} (htech : r.tech = .pollA p) :
    p.StoredIn (old.decoded r.byte nciDiscoveryTypePollA 7).pollA := by
  have hlen := p.bytes_length
  have hsel := p.selResBytes_length
  have h0 : r.byte 7 = p.sensRes0 := r.byte_pollA htech (i := 0) (by omega)
  have h1 : r.byte (7 + 1) = p.sensRes1 := r.byte_pollA htech (by omega)
  have h2 : r.byte (7 + 2) = UInt8.ofNat p.nfcid.length := r.byte_pollA htech (by omega)
  have hnfcid : ∀ i, i < p.nfcid.length → r.byte (7 + 3 + i) = p.nfcid.getD i 0 := by
    intro i hi
    rw [Nat.add_assoc, r.byte_pollA htech (by omega), p.bytes_nfcid hi]
  have hselAt : ∀ i, i < p.selResBytes.length →
      r.byte (7 + (3 + p.nfcid.length + i)) = p.selResBytes.getD i 0 := by
    intro i hi
    rw [r.byte_pollA htech (by omega), p.bytes_selRes]
  have hselLen : r.byte (7 + 3 + (r.byte (7 + 2)).toNat) = p.selResBytes.getD 0 0 := by
    rw [h2, p.nfcidLen_toNat, Nat.add_assoc]
    exact hselAt 0 (by omega)
  constructor
  · simp [NciRfParams.decoded, ByteBuffer.take, nciRfPaSensResLength, h0, h1, List.range_succ]
  · show (r.byte (7 + 2)).toNat = p.nfcid.length
    rw [h2, p.nfcidLen_toNat]
  · apply List.ext_getElem
    · simp [ByteBuffer.take]
    · intro i hi hi'
      have hfits : i < nciRfPaNfcidLength := hi'.trans_le p.nfcid_le
      have hcopied : i < (r.byte (7 + 2)).toNat := by rwa [h2, p.nfcidLen_toNat]
      simp [ByteBuffer.take, NciRfParams.decoded, hfits, hcopied, hnfcid i hi', hi']
  · show r.byte (7 + 3 + (r.byte (7 + 2)).toNat) = _
    rw [hselLen, PollAParams.selResBytes]
    cases p.selRes <;> rfl
  · intro selRes hselRes
    have hbytes : p.selResBytes = [1, selRes] := by rw [PollAParams.selResBytes, hselRes]
    have hat : r.byte (7 + 4 + (r.byte (7 + 2)).toNat) = selRes := by
      have hpos : 7 + 4 + p.nfcid.length = 7 + (3 + p.nfcid.length + 1) := by omega
      rw [h2, p.nfcidLen_toNat, hpos, hselAt 1 (by rw [hbytes]; exact Nat.lt_succ_self 1), hbytes]
      rfl
    have hne : r.byte (7 + 3 + (r.byte (7 + 2)).toNat) ≠ 0 := by
      have hone : p.selResBytes.getD 0 0 = 1 := by
        rw [hbytes]
        rfl
      rw [hselLen, hone]
      decide
    show (if r.byte (7 + 3 + (r.byte (7 + 2)).toNat) ≠ 0 then
      r.byte (7 + 4 + (r.byte (7 + 2)).toNat) else old.pollA.selRes) = selRes
    rw [if_pos hne, hat]

/-- Whatever was stored before, a record is decoded as it was encoded. -/
theorem storedIn_activated (old : NciRfIntf) : r.StoredIn (old.activated r.byte) := by
  have hspecific : (old.activated r.byte).specific = old.specific.decoded r.byte r.tech.mode 7 :=
    if_pos r.byte_techLen_ne
  have htail : ∀ {i j}, i + 7 = j → r.byte (j + (r.byte 6).toNat) = r.tail.getD i 0 := by
    rintro i j rfl
    have hat := r.byte_tail i
    rw [Nat.add_right_comm, Nat.add_comm 7] at hat
    exact hat
  constructor
  · rfl
  · rfl
  · rfl
  · rfl
  · rfl
  · rfl
  · rw [hspecific]
    unfold NciRfParams.decoded
    split_ifs <;> rfl
  · intro p htech
    have hmode : r.tech.mode = nciDiscoveryTypePollA := congrArg TechParams.mode htech
    rw [hspecific, hmode]
    exact r.storedIn_decoded _ htech
  · exact htail (i := 0) rfl
  · exact htail (i := 1) rfl
  · exact htail (i := 2) rfl

/-- The notification that carries the record. -/
def packet : Packet := .ofMsg .ntfRfIntfActivated r.payload r.payload_le

end ActivationRecord

/-- In discovery, a notification with the payload of a record succeeds, activates the
interface and stores the record, whatever the object held before. -/
theorem activation_decodes {nci : NfcNci} (hcb : nci.cbRegistered = true)
    (hstate : nci.state = .rfstDiscovery) {pkt : Packet}
    (hcarries : pkt.Carries .ntfRfIntfActivated) {r : ActivationRecord}
    (hpayload : pkt.payload = r.payload) :
    (NciMsg.ntfRfIntfActivated.parser (nci.received pkt)).1 = nciStatusOk ∧
      (nci.receive pkt).call =
        some ⟨.cbRfDiscoverNtf, nciStatusOk, nciIdNtfRfIntfActivated, .rfIntf⟩ ∧
      (nci.receive pkt).nci.state = .rfstPollActive ∧
      r.StoredIn (nci.receive pkt).nci.rfIntf := by
  have hlen : 11 ≤ pkt.payload.length := by
    rw [hpayload, r.payload_length]
    omega
  have hacc : NciMsg.ntfRfIntfActivated.Accepts nci.state pkt := ⟨hstate, hlen⟩
  obtain ⟨hstatus, hnci⟩ := (parser_spec .ntfRfIntfActivated nci pkt).ok hacc
  have hrun := receive_message hcb hcarries
  have hbyte : pkt.byte = r.byte := by
    funext i
    rw [Packet.byte, hpayload]
    rfl
  refine ⟨hstatus, ?_, ?_, ?_⟩
  · rw [hrun, hstatus, hnci]
    rfl
  · rw [hrun, hnci]
    rfl
  · rw [hrun, hnci]
    show r.StoredIn (nci.rfIntf.activated (nci.fill pkt).payloadByte)
    rw [activated_payloadByte _ _ (r.nestedFits hpayload), hbyte]
    exact r.storedIn_activated _

/-- A type 2 tag with a four-byte NFCID. -/
def type2Record : ActivationRecord where
  id := 0x01
  interface := nciInterfaceFrame
  protocol := nciProtocolT2T
  maxPayloadSize := 0xFF
  credits := 0x01
  tech := .pollA ⟨0x44, 0x00, [0x04, 0xA1, 0xB2, 0xC3], some 0x00, by decide⟩
  exchangeMode := 0x00
  txBitrate := 0x00
  rxBitrate := 0x00
  activation := []
  fits := by decide

theorem activation_decodes_type2 :
    type2Record.StoredIn
      ((nciSystem.run NfcNci.init discoveryRun).receive type2Record.packet).nci.rfIntf :=
  (activation_decodes (by decide +kernel) (by decide +kernel) (by decide) rfl).2.2.2

end Nci
end ArduinoNfc
