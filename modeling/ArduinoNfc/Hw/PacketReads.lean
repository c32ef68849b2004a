import ArduinoNfc.Hw.TransportCounts
import ArduinoNfc.Nci.PacketFraming

/-!
# Packets over the driver

The controller offers its bytes one after the other, and `NfcNci` takes them in two
requests, the second of which depends on what the first one brought.  `reception_whole` says
that a packet at the front is received as a whole, and that nothing behind it is touched,
as long as its payload is not empty and fits in the buffer of `Wire`.
-/

namespace ArduinoNfc
namespace Hw

open Foundation Nci

/-- A device that has bytes to be read; a request is cut to the size of the buffer. -/
def offering (capacity : Nat) (bytes : List UInt8) : WireDevice where
  acked := List.length
  acked_le := fun _ => Nat.le_refl _
  result := fun _ => 0
  result_eq_zero := fun _ _ => rfl
  reply := fun n => bytes.take (min n capacity)
  reply_le := fun _ => (List.length_take_le _ _).trans (Nat.min_le_left _ _)

/-- What a request leaves. -/
def requested (wire : Wire) (bytes : List UInt8) (n : Nat) : List UInt8 :=
  bytes.drop (min n wire.capacity)

/-- The two reads of `waitForEvent`. -/
def reception (wire : Wire) (bytes : List UInt8) : Reception where
  header := read wire (offering wire.capacity bytes) nciMsgHdrSize
  payload len :=
    read wire (offering wire.capacity (requested wire bytes nciMsgHdrSize)) len.toNat

/-- The length byte that `waitForEvent` finds behind the first read. -/
def lengthRead (nci : NfcNci) (hw : Reception) : UInt8 :=
  NfcNci.rxByte { nci with rxBuf := nci.rxBuf.store 0 hw.header.bytes } nciOffsetLen

/-- What `NfcNci::handleEvent` leaves; without a callback object it does not read. -/
def unread (wire : Wire) (nci : NfcNci) (bytes : List UInt8) : List UInt8 :=
  if nci.cbRegistered then
    requested wire (requested wire bytes nciMsgHdrSize)
      (lengthRead nci (reception wire bytes)).toNat
  else
    bytes

/-- A packet on the wire. -/
def packetBytes (pkt : Packet) : List UInt8 := pkt.header ++ pkt.payload

/-- A packet that the driver can hand on: it has a payload, which fits in the buffer. -/
def Fits (wire : Wire) (pkt : Packet) : Prop :=
  pkt.payload ≠ [] ∧ pkt.payload.length ≤ wire.capacity

instance (wire : Wire) (pkt : Packet) : Decidable (Fits wire pkt) :=
  inferInstanceAs (Decidable (_ ∧ _))

variable {wire : Wire} {nci : NfcNci} {pkt : Packet}

/-! ## One read -/

/-- Bytes that fit in the buffer are read as they are. -/
theorem read_front {front : List UInt8} (hne : front ≠ []) (hfit : front.length ≤ wire.capacity)
    (rest : List UInt8) :
    read wire (offering wire.capacity (front ++ rest)) front.length =
      ⟨front, UInt8.ofNat front.length⟩ := by
  have hreply : (front ++ rest).take (min front.length wire.capacity) = front := by
    rw [Nat.min_eq_left hfit, List.take_left]
  have hbytes : (wire.requestFrom (offering wire.capacity (front ++ rest))
      front.length).received = front := hreply
  rw [read, readLoop_eq, hbytes, if_neg hne]

theorem requested_front {front : List UInt8} (hfit : front.length ≤ wire.capacity)
    (rest : List UInt8) : requested wire (front ++ rest) front.length = rest := by
  rw [requested, Nat.min_eq_left hfit, List.drop_left]

/-! ## A packet -/

theorem reception_header (hcap : nciMsgHdrSize ≤ wire.capacity) (rest : List UInt8) :
    (reception wire (packetBytes pkt ++ rest)).header = pkt.reception.header := by
  have hfit : pkt.header.length ≤ wire.capacity := hcap
  rw [packetBytes, List.append_assoc]
  exact read_front (List.cons_ne_nil _ _) hfit _

theorem requested_header (hcap : nciMsgHdrSize ≤ wire.capacity) (rest : List UInt8) :
    requested wire (packetBytes pkt ++ rest) nciMsgHdrSize = pkt.payload ++ rest := by
  have hfit : pkt.header.length ≤ wire.capacity := hcap
  rw [packetBytes, List.append_assoc]
  exact requested_front hfit _

theorem reception_payload (hcap : nciMsgHdrSize ≤ wire.capacity) (hfits : Fits wire pkt)
    (rest : List UInt8) :
    (reception wire (packetBytes pkt ++ rest)).payload pkt.len = pkt.reception.payload pkt.len := by
  show read wire (offering wire.capacity (requested wire _ nciMsgHdrSize)) pkt.len.toNat = _
  rw [requested_header hcap, Packet.len_toNat]
  exact read_front hfits.1 hfits.2 rest

/-- The second read is as long as the header says. -/
theorem lengthRead_packet (nci : NfcNci) {hw : Reception}
    (h : hw.header = pkt.reception.header) : lengthRead nci hw = pkt.len := by
  rw [lengthRead, h]
  simp [NfcNci.rxByte, nciPacketSize, ByteBuffer.store, Packet.header, Packet.reception,
    nciOffsetLen]

/-- Receptions that agree on the reads that are made are handled alike. -/
theorem handleEvent_congr {hw hw' : Reception} (hheader : hw.header = hw'.header)
    (hpayload : hw.payload (lengthRead nci hw) = hw'.payload (lengthRead nci hw)) :
    nci.handleEvent hw = nci.handleEvent hw' := by
  have hlen : NfcNci.rxByte { nci with rxBuf := nci.rxBuf.store 0 hw'.header.bytes }
      nciOffsetLen = lengthRead nci hw := by rw [lengthRead, hheader]
  have hwait : waitForEvent hw ⟨nci, 0, [], 0⟩ = waitForEvent hw' ⟨nci, 0, [], 0⟩ := by
    by_cases hret : hw'.header.ret ≤ 0
    · simp only [waitForEvent, bind_run, update_run, hheader, hret, if_true]
    · simp only [waitForEvent, bind_run, update_run, seek_run, fetch_run, hheader, hret, if_false,
        hlen, hpayload]
  by_cases hcb : nci.cbRegistered = true
  · simp only [NfcNci.handleEvent, handleEvent_eq hcb, hwait]
  · simp [NfcNci.handleEvent, Nci.handleEvent, hcb]

/-- The packet at the front is received as a whole, and nothing else is. -/
theorem reception_whole (hcb : nci.cbRegistered = true) (hcap : nciMsgHdrSize ≤ wire.capacity)
    (hfits : Fits wire pkt) (rest : List UInt8) :
    nci.handleEvent (reception wire (packetBytes pkt ++ rest)) = nci.receive pkt ∧
      unread wire nci (packetBytes pkt ++ rest) = rest := by
  have hheader : (reception wire (packetBytes pkt ++ rest)).header = pkt.reception.header :=
    reception_header hcap rest
  have hlen := lengthRead_packet nci hheader
  constructor
  · refine handleEvent_congr hheader ?_
    rw [hlen]
    exact reception_payload hcap hfits rest
  · rw [unread, if_pos hcb, requested_header hcap, hlen, Packet.len_toNat]
    exact requested_front hfits.2 rest

end Hw
end ArduinoNfc
