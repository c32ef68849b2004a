import ArduinoNfc.Foundation.LabelledSystem
import ArduinoNfc.Nci.Reception
import ArduinoNfc.Nci.Transmission

/-!
# What a packet makes the parsers touch

`nciSystem` drives an `NfcNci` object by command calls and receptions in any
order.  A command whose packet is longer than the transmit buffer changes `_state`,
which lies behind it.  In each of the states of the system, handling a packet stays
inside the packet unless the packet is an activation notification that is accepted
although its nested lengths do not fit: `packet_bounds_iff` is exact.
-/

namespace ArduinoNfc
namespace Nci

open Foundation

/-! ## `NfcNci` as a labelled system -/

/-- One step of a client or of the controller. -/
inductive NciEvent where
  | command (hw : HwWrite) (cmd : NciCmd)
  | receive (pkt : Packet)

/-- An `NfcNci` object under any use.  A copy past `nfcid` has no successor, nor has a
command that stores past `_state`. -/
def nciSystem : LabelledSystem NfcNci NciEvent NciCall where
  enabled nci e :=
    match e with
    | .command _ cmd => nci.stateLeft cmd ≠ none
    | .receive pkt => nci.NfcidFits pkt
  next nci e :=
    match e with
    | .command hw cmd => { (nci.exec hw cmd).nci with
        state := (nci.stateLeft cmd).getD nci.state }
    | .receive pkt => (nci.receive pkt).nci
  emit nci e :=
    match e with
    | .command _ _ => []
    | .receive pkt => (nci.receive pkt).call.toList

instance (nci : NfcNci) : ∀ e, Decidable (nciSystem.enabled nci e)
  | .command _ cmd => inferInstanceAs (Decidable (nci.stateLeft cmd ≠ none))
  | .receive pkt => inferInstanceAs (Decidable (nci.NfcidFits pkt))

/-- A command whose packet fits in the transmit buffer does what its function says. -/
theorem next_command {nci : NfcNci} {cmd : NciCmd} (h : nci.overrun cmd = []) (hw : HwWrite) :
    nciSystem.next nci (.command hw cmd) = (nci.exec hw cmd).nci := by
  have hstate : (nci.exec hw cmd).nci.state = nci.state := exec_state nci hw cmd
  show { (nci.exec hw cmd).nci with state := (nci.stateLeft cmd).getD nci.state } = _
  rw [stateLeft_of_overrun_nil h, Option.getD_some, ← hstate]

/-- A state that some legal run leads to. -/
abbrev NfcNci.Reachable (nci : NfcNci) : Prop := nciSystem.Reachable NfcNci.init nci

/-- The callback object stays registered. -/
theorem registered_next {nci : NfcNci} (h : nci.cbRegistered = true) (e : NciEvent) :
    (nciSystem.next nci e).cbRegistered = true := by
  cases e with
  | command hw cmd => exact (exec_cbRegistered nci hw cmd).trans h
  | receive pkt => exact receive_cbRegistered h pkt

theorem NfcNci.Reachable.registered {nci : NfcNci} (h : nci.Reachable) :
    nci.cbRegistered = true :=
  LabelledSystem.Reachable.invariant (I := fun nci => nci.cbRegistered = true)
    (fun _ e hs _ => registered_next hs e) h rfl

/-! ## Nested lengths -/

/-- The nested lengths of an activation notification fit in its payload, and its
NFCID fits in `nfcid`. -/
def Packet.NestedFits (pkt : Packet) : Prop :=
  (pkt.byte 6).toNat + 11 ≤ pkt.payload.length ∧
    (pkt.byte 6 ≠ 0 → pkt.byte 3 = nciDiscoveryTypePollA →
      (pkt.byte 9).toNat ≤ nciRfPaNfcidLength ∧
        (pkt.byte 9).toNat + 11 + (pkt.byte (10 + (pkt.byte 9).toNat)).toNat ≤
          pkt.payload.length)

instance (pkt : Packet) : Decidable pkt.NestedFits :=
  inferInstanceAs (Decidable (_ ∧ (_ → _ → _ ∧ _)))

/-- An activation notification with a technology mode and its parameters. -/
def Packet.activation (mode : UInt8) (params : List UInt8) (hle : params.length ≤ 244) : Packet :=
  .ofMsg .ntfRfIntfActivated
    ([0x01, nciInterfaceFrame, nciProtocolT2T, mode, 0xFF, 0x01, UInt8.ofNat params.length] ++
      params ++ [mode, 0x00, 0x00, 0x00])
    (by simp only [List.length_append, List.length_cons, List.length_nil]; omega)

/-- The packet is an activation notification that `NfcNci` accepts. -/
def NfcNci.Activates (nci : NfcNci) (pkt : Packet) : Prop :=
  pkt.Carries .ntfRfIntfActivated ∧ NciMsg.ntfRfIntfActivated.Accepts nci.state pkt

instance (nci : NfcNci) (pkt : Packet) : Decidable (nci.Activates pkt) :=
  inferInstanceAs (Decidable (_ ∧ _))

/-- The offsets behind fitting lengths are inside the payload. -/
theorem techOffsets_lt {byte : Nat → UInt8} {mode : UInt8} {off len : Nat}
    (h : mode = nciDiscoveryTypePollA →
      off + (byte (off + 2)).toNat + 4 +
        (byte (off + 3 + (byte (off + 2)).toNat)).toNat ≤ len) :
    ∀ o ∈ techOffsets byte mode off, o < len := by
  unfold techOffsets
  split_ifs with hmode
  swap
  · intro o ho
    cases ho
  have hlen := h hmode
  -- the last byte read is `sel_res`, or its length byte when that is zero
  by_cases hsel : byte (off + 3 + (byte (off + 2)).toNat) = 0
  · simp only [hsel, ne_eq, not_true_eq_false, if_false, List.append_nil, List.mem_append,
      List.mem_cons, List.not_mem_nil, or_false, List.mem_range'_1]
    rintro o ((ho | ho | ho) | ho) <;> omega
  · have hpos : 0 < (byte (off + 3 + (byte (off + 2)).toNat)).toNat := by
      rw [Nat.pos_iff_ne_zero]
      exact fun hzero => hsel (UInt8.toNat_inj.mp hzero)
    simp only [hsel, ne_eq, not_false_eq_true, if_true, List.mem_append,
      List.mem_cons, List.not_mem_nil, or_false, List.mem_range'_1]
    rintro o (((ho | ho | ho) | ho) | ho | ho) <;> omega

theorem activatedOffsets_lt {byte : Nat → UInt8} {len : Nat}
    (houter : (byte 6).toNat + 11 ≤ len)
    (hinner : byte 6 ≠ 0 → byte 3 = nciDiscoveryTypePollA →
      (byte 9).toNat + 11 + (byte (10 + (byte 9).toNat)).toNat ≤ len) :
    ∀ o ∈ activatedOffsets byte, o < len := by
  have htech : ∀ o ∈ (if byte 6 ≠ 0 then techOffsets byte (byte 3) 7 else []), o < len := by
    split_ifs with hparams
    · refine techOffsets_lt fun hmode => ?_
      have hlen := hinner hparams hmode
      show 7 + (byte 9).toNat + 4 + (byte (10 + (byte 9).toNat)).toNat ≤ len
      omega
    · intro o ho
      cases ho
  have hfixed : ∀ o ∈ [7 + (byte 6).toNat, 8 + (byte 6).toNat, 9 + (byte 6).toNat,
      10 + (byte 6).toNat], o < len := by
    simp only [List.mem_cons, List.not_mem_nil, or_false]
    rintro o (ho | ho | ho | ho) <;> omega
  have hleading : ∀ o ∈ [0, 1, 2, 3, 4, 5, 6], o < len := by
    simp only [List.mem_cons, List.not_mem_nil, or_false]
    rintro o (ho | ho | ho | ho | ho | ho | ho) <;> omega
  exact List.forall_mem_append.mpr ⟨List.forall_mem_append.mpr ⟨hleading, htech⟩, hfixed⟩

/-- The effect of an accepted activation notification on the record of accesses. -/
theorem receive_activated {nci : NfcNci} (hcb : nci.cbRegistered = true) {pkt : Packet}
    (h : nci.Activates pkt) :
    (nci.receive pkt).reads = [2, 0, 1, 0, 1, 2] ++
        (activatedOffsets (nci.fill pkt).payloadByte).map (nciMsgHdrSize + ·) ∧
      (nci.receive pkt).nfcidStored = activatedNfcidStored (nci.fill pkt).payloadByte ∧
      (nci.receive pkt).call =
        some ⟨.cbRfDiscoverNtf, nciStatusOk, nciIdNtfRfIntfActivated, .rfIntf⟩ := by
  obtain ⟨pos, hrun⟩ := activated_run h.2
  rw [receive_message hcb h.1, hrun]
  exact ⟨rfl, rfl, rfl⟩

/-- The bytes that the nested lengths are made of lie in the payload. -/
theorem nestedFits_payloadByte (nci : NfcNci) {pkt : Packet} (hfits : pkt.NestedFits) :
    ((nci.fill pkt).payloadByte 6).toNat + 11 ≤ pkt.payload.length ∧
      ((nci.fill pkt).payloadByte 6 ≠ 0 →
        (nci.fill pkt).payloadByte 3 = nciDiscoveryTypePollA →
        ((nci.fill pkt).payloadByte 9).toNat ≤ nciRfPaNfcidLength ∧
        ((nci.fill pkt).payloadByte 9).toNat + 11 +
          ((nci.fill pkt).payloadByte (10 + ((nci.fill pkt).payloadByte 9).toNat)).toNat ≤
            pkt.payload.length) := by
  obtain ⟨houter, hinner⟩ := hfits
  have hbyte : ∀ i, i < 11 → (nci.fill pkt).payloadByte i = pkt.byte i :=
    fun i hi => payloadByte_fill nci pkt i (by omega)
  rw [hbyte 6 (by decide), hbyte 3 (by decide), hbyte 9 (by decide)]
  refine ⟨houter, fun hparams hmode => ?_⟩
  obtain ⟨hnfcid, hsel⟩ := hinner hparams hmode
  rw [payloadByte_fill nci pkt _ (by omega)]
  exact ⟨hnfcid, hsel⟩

/-- An accepted notification whose lengths fit is handled inside its bounds. -/
theorem receive_fits {nci : NfcNci} (hcb : nci.cbRegistered = true) {pkt : Packet}
    (h : nci.Activates pkt) (hfits : pkt.NestedFits) :
    (∀ i ∈ (nci.receive pkt).reads, i < nciMsgHdrSize + pkt.payload.length) ∧
      (nci.receive pkt).nfcidStored ≤ nciRfPaNfcidLength := by
  obtain ⟨hreads, hstored, -⟩ := receive_activated hcb h
  obtain ⟨houter, hinner⟩ := nestedFits_payloadByte nci hfits
  rw [hreads, hstored]
  constructor
  · have hheader : ∀ i ∈ [2, 0, 1, 0, 1, 2], i < nciMsgHdrSize := by decide
    refine List.forall_mem_append.mpr ⟨fun i hi => Nat.lt_add_right _ (hheader i hi), ?_⟩
    intro i hi
    obtain ⟨o, ho, rfl⟩ := List.mem_map.mp hi
    exact Nat.add_lt_add_left
      (activatedOffsets_lt houter (fun hparams hmode => (hinner hparams hmode).2) o ho) _
  · unfold activatedNfcidStored
    split_ifs with htech
    · exact (hinner htech.1 htech.2).1
    · exact Nat.zero_le _

/-! ## The bounds -/

/-- Handling the packet reads bytes of the packet only, which all lie in the receive
buffer, stores at most ten bytes into `nfcid`, and does not accept an activation
notification whose nested lengths do not fit. -/
structure PacketSafe (nci : NfcNci) (pkt : Packet) : Prop where
  reads : ∀ i ∈ (nci.receive pkt).reads,
    i < nciMsgHdrSize + pkt.payload.length ∧ i < nciPacketSize
  stores : (nci.receive pkt).nfcidStored ≤ nciRfPaNfcidLength
  answer : pkt.Carries .ntfRfIntfActivated → ¬ pkt.NestedFits →
    ∀ c ∈ (nci.receive pkt).call, c.status ≠ nciStatusOk

/-- A packet is handled safely exactly when it is not an activation notification that
is accepted although its nested lengths do not fit. -/
theorem packet_bounds_iff {nci : NfcNci} (h : nci.Reachable) (pkt : Packet) :
    PacketSafe nci pkt ↔ (nci.Activates pkt → pkt.NestedFits) := by
  have hcb := h.registered
  constructor
  · intro hsafe hactivates
    by_contra hfits
    obtain ⟨-, -, hcall⟩ := receive_activated hcb hactivates
    exact hsafe.answer hactivates.1 hfits _ hcall rfl
  · intro hfits
    have hle := pkt.payload_le
    have hbuffer : ∀ i, i < nciMsgHdrSize + pkt.payload.length → i < nciPacketSize := by
      intro i hi
      simp only [nciMsgHdrSize, nciPacketSize] at *
      omega
    by_cases hactivates : nci.Activates pkt
    · obtain ⟨hreads, hstored⟩ := receive_fits hcb hactivates (hfits hactivates)
      exact ⟨fun i hi => ⟨hreads i hi, hbuffer i (hreads i hi)⟩, hstored,
        fun _ hnot => absurd (hfits hactivates) hnot⟩
    · obtain ⟨hreads, hstored⟩ := receive_bounded hcb hactivates
      refine ⟨fun i hi => ⟨hreads i hi, hbuffer i (hreads i hi)⟩,
        hstored.trans_le (Nat.zero_le _), ?_⟩
      -- a notification that is not accepted is answered with an error
      intro hcarries _ c hcall
      have hrefused : ¬ NciMsg.ntfRfIntfActivated.Accepts nci.state pkt :=
        fun hacc => hactivates ⟨hcarries, hacc⟩
      rw [receive_message hcb hcarries] at hcall
      cases hcall
      exact ((parser_spec .ntfRfIntfActivated nci pkt).failed hrefused).1

/-- The run that brings `NfcNci` into discovery. -/
def discoveryRun : List NciEvent :=
  [.receive (.minimal .rspCoreReset), .receive (.minimal .rspCoreInit),
    .receive (.minimal .rspRfDiscover)]

/-- The least activation notification, in discovery: the equivalence at an input where
both sides hold. -/
theorem packet_bounds_iff_minimal :
    PacketSafe (nciSystem.run NfcNci.init discoveryRun) (.minimal .ntfRfIntfActivated) :=
  (packet_bounds_iff ⟨discoveryRun, by decide +kernel, rfl⟩ _).mpr fun _ => by decide

/-- A notification whose lengths are consistent, with an NFCID of eleven bytes. -/
def longNfcid : Packet :=
  .activation nciDiscoveryTypePollA
    ([0x44, 0x00, 0x0B] ++ List.replicate 11 0x04 ++ [0x00]) (by decide)

/-- In discovery such a notification is accepted, and overruns `nfcid`. -/
theorem packet_bounds_counterexample :
    ¬ ∀ nci : NfcNci, nci.Reachable → ∀ pkt, PacketSafe nci pkt := by
  intro h
  have hsafe := h _ ⟨discoveryRun, by decide +kernel, rfl⟩ longNfcid
  have hstored : ((nciSystem.run NfcNci.init discoveryRun).receive longNfcid).nfcidStored =
      11 := by decide +kernel
  have hle := hsafe.stores
  rw [hstored] at hle
  exact absurd hle (by decide)

end Nci
end ArduinoNfc
