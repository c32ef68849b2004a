import ArduinoNfc.Nci.Reception

/-!
# Packets and short reads

The transport delivers a stream of bytes, and a packet is what stands at its front:
three bytes of header, the third of which counts the payload.  A read may deliver
fewer bytes than it was asked for.  `waitForEvent` only asks whether a read delivered
anything, so it takes a part of a packet for the whole, and a packet with an empty
payload for none: `framing_iff` says for which deliveries this makes no difference.
-/

namespace ArduinoNfc
namespace Nci

open Foundation

/-! ## Deliveries -/

/-- A read that delivers the next `count` bytes of the stream from `off` on. -/
def delivered (stream : Nat → UInt8) (off count : Nat) : HwRead where
  bytes := (List.range count).map fun i => stream (off + i)
  ret := UInt8.ofNat count

/-- How many bytes the two reads deliver; the second one is asked for a number that
the code reads out of its buffer. -/
structure Delivery where
  header : Nat
  payload : UInt8 → Nat
  header_le : header ≤ nciMsgHdrSize
  payload_le : ∀ n, payload n ≤ n.toNat

namespace Delivery

/-- The two reads on a stream. -/
def reception (d : Delivery) (stream : Nat → UInt8) : Reception where
  header := delivered stream 0 d.header
  payload := fun n => delivered stream d.header (d.payload n)

/-- Both reads delivered all of their part of the packet. -/
def Complete (d : Delivery) (stream : Nat → UInt8) : Prop :=
  d.header = nciMsgHdrSize ∧ d.payload (stream nciOffsetLen) = (stream nciOffsetLen).toNat

/-- The length byte that the code finds: of the packet, or of whatever was received
before. -/
def lengthByte (d : Delivery) (nci : NfcNci) (stream : Nat → UInt8) : UInt8 :=
  if d.header = nciMsgHdrSize then stream nciOffsetLen else nci.rxByte nciOffsetLen

end Delivery

@[simp] theorem delivered_length (stream : Nat → UInt8) (off count : Nat) :
    (delivered stream off count).bytes.length = count := by
  simp [delivered]

@[simp] theorem delivered_ret (stream : Nat → UInt8) (off count : Nat) :
    (delivered stream off count).ret = UInt8.ofNat count := rfl

theorem delivered_getD (stream : Nat → UInt8) {off count i : Nat} (hi : i < count) :
    (delivered stream off count).bytes.getD i 0 = stream (off + i) := by
  simp [delivered, hi]

/-- A count that a read can return. -/
theorem ofNat_eq_zero_iff {n : Nat} (h : n ≤ 255) : UInt8.ofNat n = 0 ↔ n = 0 := by
  rw [← UInt8.toNat_inj]
  simp
  omega

/-! ## The two reads -/

theorem rxByte_rxBuf (nci : NfcNci) (rxBuf : ByteBuffer nciPacketSize) {i : Nat}
    (hi : i < nciPacketSize) : NfcNci.rxByte { nci with rxBuf } i = rxBuf ⟨i, hi⟩ := dif_pos hi

/-- The length byte behind the first read. -/
theorem rxByte_lengthByte (nci : NfcNci) (d : Delivery) (stream : Nat → UInt8) :
    NfcNci.rxByte { nci with rxBuf := nci.rxBuf.store 0 (delivered stream 0 d.header).bytes }
      nciOffsetLen = d.lengthByte nci stream := by
  have hle := d.header_le
  have hsize : nciOffsetLen < nciPacketSize := by decide
  have hfirst : nciOffsetLen < nciMsgHdrSize := by decide
  rw [rxByte_rxBuf nci _ hsize]
  unfold Delivery.lengthByte
  split_ifs with hheader
  · rw [ByteBuffer.store_inside _ _ (Nat.zero_le _) (by simpa [hheader] using hfirst), hheader]
    exact (delivered_getD stream hfirst).trans (congrArg stream (Nat.zero_add _))
  · have hshort : d.header ≤ nciOffsetLen := by
      simp only [nciMsgHdrSize, nciOffsetLen] at *
      omega
    rw [ByteBuffer.store_above _ _ (by simpa using hshort)]
    exact (rxByte_rxBuf nci nci.rxBuf hsize).symm

/-- The object behind both reads. -/
def Delivery.filled (d : Delivery) (nci : NfcNci) (stream : Nat → UInt8) : NfcNci :=
  { nci with
    rxBuf := (nci.rxBuf.store 0 (delivered stream 0 d.header).bytes).store nciMsgHdrSize
      (delivered stream d.header (d.payload (d.lengthByte nci stream))).bytes }

/-- Only a read that delivers nothing at all is noticed. -/
theorem waitForEvent_delivered (nci : NfcNci) (d : Delivery) (stream : Nat → UInt8) :
    (d.header = 0 → (waitForEvent (d.reception stream) ⟨nci, 0, [], 0⟩).1 = 0) ∧
      (d.header ≠ 0 → waitForEvent (d.reception stream) ⟨nci, 0, [], 0⟩ =
        (if d.payload (d.lengthByte nci stream) = 0 then 0
          else (d.lengthByte nci stream).toNat + nciMsgHdrSize,
          ⟨d.filled nci stream, nciOffsetLen + 1, [nciOffsetLen], 0⟩)) := by
  have hheader : UInt8.ofNat d.header = 0 ↔ d.header = 0 :=
    ofNat_eq_zero_iff (d.header_le.trans (by decide))
  have hpayload : ∀ n, UInt8.ofNat (d.payload n) = 0 ↔ d.payload n = 0 := fun n =>
    ofNat_eq_zero_iff ((d.payload_le n).trans (Nat.le_of_lt_succ n.toNat_lt))
  have hlen := rxByte_lengthByte nci d stream
  constructor
  · intro hnone
    simp [waitForEvent, Delivery.reception, hnone]
  · intro hsome
    by_cases hempty : d.payload (d.lengthByte nci stream) = 0
    · simp [waitForEvent, Delivery.reception, hheader, hsome, hlen, hpayload, hempty,
        Delivery.filled]
    · simp [waitForEvent, Delivery.reception, hheader, hsome, hlen, hpayload, hempty,
        Delivery.filled]

/-- A complete packet is in the receive buffer. -/
theorem filled_complete {nci : NfcNci} {d : Delivery} {stream : Nat → UInt8}
    (h : d.Complete stream) {i : Nat}
    (hi : i < nciMsgHdrSize + (stream nciOffsetLen).toNat) :
    (d.filled nci stream).rxByte i = stream i := by
  obtain ⟨hheader, hpayload⟩ := h
  have hlen : d.lengthByte nci stream = stream nciOffsetLen := if_pos hheader
  have hbyte := (stream nciOffsetLen).toNat_lt
  have hsize : i < nciPacketSize := by
    simp only [nciMsgHdrSize, nciPacketSize] at *
    omega
  refine (rxByte_rxBuf nci _ hsize).trans ?_
  rw [hlen, hpayload, hheader]
  by_cases hfirst : i < nciMsgHdrSize
  · rw [ByteBuffer.store_below _ _ hfirst,
      ByteBuffer.store_inside _ _ (Nat.zero_le _) (by simpa using hfirst)]
    exact (delivered_getD stream hfirst).trans (congrArg stream (Nat.zero_add _))
  · have hlow : nciMsgHdrSize ≤ i := Nat.le_of_not_lt hfirst
    rw [ByteBuffer.store_inside _ _ hlow (by simpa using hi),
      delivered_getD stream (Nat.sub_lt_left_of_lt_add hlow hi), Nat.add_sub_cancel' hlow]

/-! ## Framing -/

/-- Past the callback check, an event is dispatched unless nothing was received. -/
theorem handleEvent_eq {nci : NfcNci} (hcb : nci.cbRegistered = true) (hw : Reception) :
    handleEvent hw ⟨nci, 0, [], 0⟩ =
      if (waitForEvent hw ⟨nci, 0, [], 0⟩).1 = 0 then
        (some ⟨.cbError, nciStatusFailed, uint16Id 0 0, .null⟩,
          (waitForEvent hw ⟨nci, 0, [], 0⟩).2)
      else
        dispatch (waitForEvent hw ⟨nci, 0, [], 0⟩).2 := by
  by_cases hnone : (waitForEvent hw ⟨nci, 0, [], 0⟩).1 = 0
  · simp [handleEvent, hcb, hnone, cbError]
  · simp [handleEvent, hcb, hnone]

/-- The packet at the front of the stream is handled when it is complete, and only
then. -/
structure FramedRight (nci : NfcNci) (stream : Nat → UInt8) (d : Delivery) : Prop where
  complete : d.Complete stream →
    (waitForEvent (d.reception stream) ⟨nci, 0, [], 0⟩).1 =
        nciMsgHdrSize + (stream nciOffsetLen).toNat ∧
      ∀ i, i < nciMsgHdrSize + (stream nciOffsetLen).toNat →
        (waitForEvent (d.reception stream) ⟨nci, 0, [], 0⟩).2.nci.rxByte i = stream i
  incomplete : ¬ d.Complete stream →
    (waitForEvent (d.reception stream) ⟨nci, 0, [], 0⟩).1 = 0
  dispatched : d.Complete stream →
    handleEvent (d.reception stream) ⟨nci, 0, [], 0⟩ =
      dispatch (waitForEvent (d.reception stream) ⟨nci, 0, [], 0⟩).2
  dropped : ¬ d.Complete stream →
    (handleEvent (d.reception stream) ⟨nci, 0, [], 0⟩).1 =
      some ⟨.cbError, nciStatusFailed, uint16Id 0 0, .null⟩

/-- It comes down to telling complete packets by the returned count. -/
theorem framedRight_iff {nci : NfcNci} (hcb : nci.cbRegistered = true) (stream : Nat → UInt8)
    (d : Delivery) :
    FramedRight nci stream d ↔
      (d.Complete stream ↔ d.header ≠ 0 ∧ d.payload (d.lengthByte nci stream) ≠ 0) := by
  obtain ⟨hnone, hsome⟩ := waitForEvent_delivered nci d stream
  have hevent := handleEvent_eq hcb (d.reception stream)
  have hzero : (waitForEvent (d.reception stream) ⟨nci, 0, [], 0⟩).1 = 0 ↔
      ¬ (d.header ≠ 0 ∧ d.payload (d.lengthByte nci stream) ≠ 0) := by
    by_cases hheader : d.header = 0
    · exact iff_of_true (hnone hheader) fun h => h.1 hheader
    · rw [hsome hheader]
      by_cases hpayload : d.payload (d.lengthByte nci stream) = 0
      · simp [hpayload]
      · simp [hheader, hpayload, nciMsgHdrSize]
  constructor
  · intro hframed
    by_cases hcomplete : d.Complete stream
    · refine iff_of_true hcomplete (not_not.mp fun hnot => ?_)
      have hret := (hframed.complete hcomplete).1
      rw [hzero.mpr hnot] at hret
      simp only [nciMsgHdrSize] at hret
      omega
    · exact iff_of_false hcomplete (hzero.mp (hframed.incomplete hcomplete))
  · intro hiff
    constructor
    · intro hcomplete
      obtain ⟨hheader, hpayload⟩ := hiff.mp hcomplete
      have hlen : d.lengthByte nci stream = stream nciOffsetLen := if_pos hcomplete.1
      rw [hsome hheader, if_neg hpayload, hlen, Nat.add_comm]
      exact ⟨rfl, fun i hi => filled_complete hcomplete hi⟩
    · exact fun hnot => hzero.mpr fun h => hnot (hiff.mpr h)
    · intro hcomplete
      rw [hevent, if_neg fun hret => hzero.mp hret (hiff.mp hcomplete)]
    · intro hnot
      rw [hevent, if_pos (hzero.mpr fun h => hnot (hiff.mpr h))]

/-- What the two reads have to do: a read that delivers too little delivers nothing, and
there is a payload to be read. -/
def Delivery.AllOrNothing (d : Delivery) (nci : NfcNci) (stream : Nat → UInt8) : Prop :=
  d.header = 0 ∨
    d.header < nciMsgHdrSize ∧ d.payload (nci.rxByte nciOffsetLen) = 0 ∨
    d.header = nciMsgHdrSize ∧ stream nciOffsetLen ≠ 0 ∧
      (d.payload (stream nciOffsetLen) = 0 ∨
        d.payload (stream nciOffsetLen) = (stream nciOffsetLen).toNat)

instance (d : Delivery) (nci : NfcNci) (stream : Nat → UInt8) :
    Decidable (d.AllOrNothing nci stream) :=
  inferInstanceAs (Decidable (_ ∨ _ ∧ _ ∨ _ ∧ _ ∧ (_ ∨ _)))

/-- Packets are framed right exactly when each read delivers all or nothing and the
payload is not empty. -/
theorem framing_iff {nci : NfcNci} (hcb : nci.cbRegistered = true) (stream : Nat → UInt8)
    (d : Delivery) : FramedRight nci stream d ↔ d.AllOrNothing nci stream := by
  rw [framedRight_iff hcb]
  by_cases hheader : d.header = nciMsgHdrSize
  · have hlen : d.lengthByte nci stream = stream nciOffsetLen := if_pos hheader
    have hle := d.payload_le (stream nciOffsetLen)
    have hzero : stream nciOffsetLen = 0 ↔ (stream nciOffsetLen).toNat = 0 := UInt8.toNat_inj.symm
    simp only [Delivery.Complete, Delivery.AllOrNothing, hheader, hlen, ne_eq, hzero,
      nciMsgHdrSize]
    grind
  · have hlen : d.lengthByte nci stream = nci.rxByte nciOffsetLen := if_neg hheader
    have hle := d.header_le
    simp only [Delivery.Complete, Delivery.AllOrNothing, hlen]
    omega

/-- A transport that delivers all it is asked for. -/
def Delivery.whole : Delivery where
  header := nciMsgHdrSize
  payload := UInt8.toNat
  header_le := Nat.le_refl _
  payload_le _ := Nat.le_refl _

/-- A `CORE_RESET` response, delivered as a whole. -/
theorem framing_iff_whole :
    FramedRight NfcNci.init ([0x40, 0x00, 0x03, 0x00, 0x10, 0x00].getD · 0) .whole :=
  (framing_iff rfl _ _).mpr (by decide)

/-- A packet with an empty payload is never dispatched, however it is delivered. -/
theorem framing_counterexample :
    ¬ ∀ nci : NfcNci, nci.cbRegistered = true → ∀ stream d, FramedRight nci stream d := by
  intro h
  have hframed := h NfcNci.init rfl ([0x60, 0x07, 0x00].getD · 0) .whole
  have hret := (hframed.complete ⟨rfl, rfl⟩).1
  have hzero : (waitForEvent (Delivery.whole.reception ([0x60, 0x07, 0x00].getD · 0))
      ⟨NfcNci.init, 0, [], 0⟩).1 = 0 := by decide +kernel
  rw [hzero] at hret
  exact absurd hret (by decide)

end Nci
end ArduinoNfc
