import ArduinoNfc.Nci.Commands

/-!
# What a command hands to the transport

Every command that passes its checks formats one packet from the start of the
transmit buffer and writes as many bytes of it as fit in the `uint8_t` that holds
the length.  `NciCmd.packet` is that packet, and `exec_send` says that there is
nothing else to a command.

`_state` is declared right behind the transmit buffer, so a packet of more than
`NCI_PACKET_SIZE` bytes continues in it: `NfcNci.overrun` is what is stored there.
-/

namespace ArduinoNfc
namespace Nci

open Foundation

/-! ## The packets -/

/-- Header, size byte and payload of a control command. -/
def controlPacket (gid oid : UInt8) (payload : List UInt8) : List UInt8 :=
  [bldHdr0 nciMtCmd gid, oid, UInt8.ofNat payload.length] ++ payload

/-- The payload of `cmdRfDiscoverMap`. -/
def mapsPayload (num : UInt8) (maps : Nat → NciDiscoverMaps) : List UInt8 :=
  num :: recordsDown (fun m => [m.protocol, m.mode, m.intfType]) maps num.toNat

/-- The payload of `cmdRfDiscover`. -/
def confsPayload (num : UInt8) (confs : Nat → NciDiscoverConfs) : List UInt8 :=
  num :: recordsDown (fun c => [c.mode, c.freq]) confs num.toNat

/-- The bytes that a command formats once its checks are passed. -/
def NciCmd.packet : NciCmd → List UInt8
  | .cmdCoreReset type => controlPacket nciGidCore nciMsgCoreReset [type]
  | .cmdCoreInit => controlPacket nciGidCore nciMsgCoreInit []
  | .cmdRfDiscoverMap _ none => []
  | .cmdRfDiscoverMap num (some maps) =>
      controlPacket nciGidRfManage nciMsgRfDiscoverMap (mapsPayload num maps)
  | .cmdRfDiscover _ none => []
  | .cmdRfDiscover num (some confs) =>
      controlPacket nciGidRfManage nciMsgRfDiscover (confsPayload num confs)
  | .cmdRfDeactivate type => controlPacket nciGidRfManage nciMsgRfDeactivate [type]
  | .dataSend _ data => [nciMtData, 0, UInt8.ofNat data.length] ++ data

instance (cmd : NciCmd) : Decidable cmd.ParamsOk :=
  match cmd with
  | .cmdCoreReset _ => inferInstanceAs (Decidable (_ ∨ _))
  | .cmdCoreInit => isTrue trivial
  | .cmdRfDiscoverMap _ none => isFalse fun h => h rfl
  | .cmdRfDiscoverMap _ (some _) => isTrue nofun
  | .cmdRfDiscover _ none => isFalse fun h => h.2 rfl
  | .cmdRfDiscover num (some _) =>
      decidable_of_iff (num ≠ 0) ⟨fun h => ⟨h, nofun⟩, fun h => h.1⟩
  | .cmdRfDeactivate _ => isTrue trivial
  | .dataSend _ _ => isTrue trivial

/-- The command passes its checks. -/
def NfcNci.Issues (nci : NfcNci) (cmd : NciCmd) : Prop :=
  nci.state = cmd.guard ∧ cmd.ParamsOk

instance (nci : NfcNci) (cmd : NciCmd) : Decidable (nci.Issues cmd) :=
  inferInstanceAs (Decidable (_ ∧ _))

theorem controlPacket_length (gid oid : UInt8) (payload : List UInt8) :
    (controlPacket gid oid payload).length = nciMsgHdrSize + payload.length := by
  rw [controlPacket, List.length_append]
  rfl

/-- The size computed in `uint8_t` is the length of the packet in `uint8_t`. -/
theorem sendSized_eq (nci : NfcNci) (hw : HwWrite) (oid : UInt8) (payload : List UInt8) :
    nci.sendSized hw oid payload =
      nci.send hw (controlPacket nciGidRfManage oid payload)
        (UInt8.ofNat (controlPacket nciGidRfManage oid payload).length) := by
  rw [controlPacket_length, UInt8.ofNat_add]
  rfl

/-- A command that passes its checks sends its packet. -/
theorem exec_send {nci : NfcNci} {cmd : NciCmd} (hw : HwWrite) (h : nci.Issues cmd) :
    nci.exec hw cmd = nci.send hw cmd.packet (UInt8.ofNat cmd.packet.length) := by
  obtain ⟨hstate, hparams⟩ := h
  have hguard : ¬ nci.state ≠ cmd.guard := not_not.mpr hstate
  cases cmd with
  | cmdCoreReset type =>
      have htype : ¬ (type ≠ nciResetTypeKeepCfg ∧ type ≠ nciResetTypeResetCfg) := by
        rintro ⟨hkeep, hreset⟩
        exact hparams.elim hkeep hreset
      exact (if_neg hguard).trans (if_neg htype)
  | cmdCoreInit => exact if_neg hguard
  | cmdRfDiscoverMap num maps =>
      cases maps with
      | none => exact absurd rfl hparams
      | some maps =>
          exact (if_neg hguard).trans (sendSized_eq nci hw _ (mapsPayload num maps))
  | cmdRfDiscover num confs =>
      cases confs with
      | none => exact absurd rfl hparams.2
      | some confs =>
          exact ((if_neg hguard).trans (if_neg hparams.1)).trans
            (sendSized_eq nci hw _ (confsPayload num confs))
  | cmdRfDeactivate type => exact if_neg hguard
  | dataSend cid data =>
      have hlen : (NciCmd.dataSend cid data).packet.length = nciMsgHdrSize + data.length := by
        rw [NciCmd.packet, List.length_append]
        rfl
      rw [hlen]
      exact if_neg hguard

/-- Any other command does not get to the transmit buffer. -/
theorem exec_not_issues {nci : NfcNci} {cmd : NciCmd} (hw : HwWrite) (h : ¬ nci.Issues cmd) :
    ∃ status, status ≠ nciStatusOk ∧ nci.exec hw cmd = nci.refuse status := by
  by_cases hstate : nci.state = cmd.guard
  · have hparams : ¬ cmd.ParamsOk := fun hparams => h ⟨hstate, hparams⟩
    exact ⟨_, by decide, exec_invalid hw hstate hparams⟩
  · exact ⟨_, by decide, exec_refused hw hstate⟩

/-! ## The transport -/

/-- A packet that the length byte can hold is handed over as a whole. -/
theorem send_written {nci : NfcNci} (hw : HwWrite) {bytes : List UInt8}
    (h : bytes.length ≤ 255) :
    (nci.send hw bytes (UInt8.ofNat bytes.length)).written = some bytes := by
  have hlen : (UInt8.ofNat bytes.length).toNat = bytes.length := by
    simp
    omega
  have hfit : bytes.length ≤ nciPacketSize := h.trans (by decide)
  simp only [NfcNci.send, hlen, ByteBuffer.take_store _ _ hfit]

/-- A longer one is cut short. -/
theorem send_written_length (nci : NfcNci) (hw : HwWrite) (bytes : List UInt8) :
    ∃ written, (nci.send hw bytes (UInt8.ofNat bytes.length)).written = some written ∧
      written.length = bytes.length % 256 := by
  refine ⟨_, rfl, ?_⟩
  simp [ByteBuffer.take]

/-! ## Behind the transmit buffer -/

/-- The bytes that a command stores behind the transmit buffer. -/
def NfcNci.overrun (nci : NfcNci) (cmd : NciCmd) : List UInt8 :=
  if nci.Issues cmd then cmd.packet.drop nciPacketSize else []

/-- The byte of a state: most states have a value in the enumeration. -/
def NciState.toByte : NciState → UInt8
  | .none => 0
  | .rfstReset => 1
  | .rfstIdle => 2
  | .rfstDiscovery => 3
  | .rfstW4AllDiscoveries => 4
  | .rfstPollActive => 5
  | .rfstW4HostSelect => 6
  | .rfstListenSleep => 7
  | .rfstListenActive => 8
  | .other byte _ => byte

/-- What `_state` holds after a command: the first byte of an overrun. -/
def NfcNci.stateByte (nci : NfcNci) (cmd : NciCmd) : UInt8 :=
  (nci.overrun cmd).headD nci.state.toByte

/-- The state that a byte stands for. -/
def NciState.ofByte (byte : UInt8) : NciState :=
  if unnamed : 8 < byte then
    .other byte unnamed
  else
    [.none, .rfstReset, .rfstIdle, .rfstDiscovery, .rfstW4AllDiscoveries, .rfstPollActive,
      .rfstW4HostSelect, .rfstListenSleep, .rfstListenActive].getD byte.toNat .none

/-- The state that a command leaves behind, unless it stores past `_state`, where the
references to the other objects lie. -/
def NfcNci.stateLeft (nci : NfcNci) (cmd : NciCmd) : Option NciState :=
  if (nci.overrun cmd).length ≤ 1 then some (.ofByte (nci.stateByte cmd)) else none

/-- A command overruns the transmit buffer when it issues a packet that is longer. -/
theorem overrun_eq_nil_iff (nci : NfcNci) (cmd : NciCmd) :
    nci.overrun cmd = [] ↔ (nci.Issues cmd → cmd.packet.length ≤ nciPacketSize) := by
  unfold NfcNci.overrun
  split_ifs with h
  · rw [List.drop_eq_nil_iff]
    exact ⟨fun hle _ => hle, fun hle => hle h⟩
  · exact iff_of_true rfl fun hissues => absurd hissues h

/-- Without an overrun, `_state` is as it was. -/
theorem stateByte_of_overrun_nil {nci : NfcNci} {cmd : NciCmd} (h : nci.overrun cmd = []) :
    nci.stateByte cmd = nci.state.toByte := by
  rw [NfcNci.stateByte, h]
  rfl

theorem NciState.ofByte_toByte (state : NciState) : NciState.ofByte state.toByte = state := by
  cases state with
  | other byte unnamed => exact dif_pos unnamed
  | _ => rfl

/-- A command whose packet fits leaves the state that it finds. -/
theorem stateLeft_of_overrun_nil {nci : NfcNci} {cmd : NciCmd} (h : nci.overrun cmd = []) :
    nci.stateLeft cmd = some nci.state := by
  rw [NfcNci.stateLeft, stateByte_of_overrun_nil h, h, NciState.ofByte_toByte]
  rfl

end Nci
end ArduinoNfc
