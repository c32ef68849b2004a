import ArduinoNfc.Nci.Parsers

/-!
# The commands of `NfcNci`

A command checks the state, formats its bytes in the transmit buffer and hands
them to the transport.  The transport is a function from the bytes it is handed
to the count it returns, which is all that a command looks at.
-/

namespace ArduinoNfc
namespace Nci

open Foundation

/-- `_hw.write(buf, len)`: the count returned for the bytes handed over. -/
abbrev HwWrite := List UInt8 → UInt8

/-- The transport that takes every byte it is given. -/
def acceptAll : HwWrite := fun bytes => UInt8.ofNat bytes.length

/-- What a command returns, and what it did. -/
structure CmdResult where
  status : UInt8
  nci : NfcNci
  /-- The bytes handed to the transport, if it was called. -/
  written : Option (List UInt8)
  /-- The number of bytes stored from the start of the transmit buffer on. -/
  txStored : Nat

/-- The exit taken before the transmit buffer is touched. -/
def NfcNci.refuse (nci : NfcNci) (status : UInt8) : CmdResult :=
  ⟨status, nci, none, 0⟩

/-- Store `bytes` in the transmit buffer, write its first `len` bytes and compare
the returned count with `len`. -/
def NfcNci.send (nci : NfcNci) (hw : HwWrite) (bytes : List UInt8) (len : UInt8) :
    CmdResult :=
  let txBuf := nci.txBuf.store 0 bytes
  let written := txBuf.take len.toNat
  { status := if hw written = len then nciStatusOk else nciStatusFailed
    nci := { nci with txBuf }
    written := some written
    txStored := bytes.length }

/-- Every command first checks the state. -/
def NfcNci.guarded (nci : NfcNci) (state : NciState) (body : CmdResult) : CmdResult :=
  if nci.state ≠ state then nci.refuse nciStatusRejected else body

def cmdCoreReset (nci : NfcNci) (hw : HwWrite) (type : UInt8) : CmdResult :=
  nci.guarded .none <|
    if type ≠ nciResetTypeKeepCfg ∧ type ≠ nciResetTypeResetCfg then
      nci.refuse nciStatusInvalidParam
    else
      nci.send hw
        [bldHdr0 nciMtCmd nciGidCore, nciMsgCoreReset, nciCoreParamSizeReset, type]
        (UInt8.ofNat nciMsgHdrSize + nciCoreParamSizeReset)

def cmdCoreInit (nci : NfcNci) (hw : HwWrite) : CmdResult :=
  nci.guarded .rfstReset <|
    nci.send hw
      [bldHdr0 nciMtCmd nciGidCore, nciMsgCoreInit, nciCoreParamSizeInit]
      (UInt8.ofNat nciMsgHdrSize + nciCoreParamSizeInit)

/-- `while (num--)` over a table: the records from the last one to the first. -/
def recordsDown {α : Type} (record : α → List UInt8) (table : Nat → α) : Nat → List UInt8
  | 0 => []
  | num + 1 => record (table num) ++ recordsDown record table num

/-- Header, size byte and payload of the two discovery commands; the size and the
length handed to the transport are computed in `uint8_t`. -/
def NfcNci.sendSized (nci : NfcNci) (hw : HwWrite) (oid : UInt8) (payload : List UInt8) :
    CmdResult :=
  let size := UInt8.ofNat payload.length
  nci.send hw ([bldHdr0 nciMtCmd nciGidRfManage, oid, size] ++ payload)
    (UInt8.ofNat nciMsgHdrSize + size)

def cmdRfDiscoverMap (nci : NfcNci) (hw : HwWrite) (num : UInt8)
    (maps : Option (Nat → NciDiscoverMaps)) : CmdResult :=
  nci.guarded .rfstIdle <|
    match maps with
    | none => nci.refuse nciStatusInvalidParam
    | some maps =>
        nci.sendSized hw nciMsgRfDiscoverMap
          (num :: recordsDown (fun m => [m.protocol, m.mode, m.intfType]) maps num.toNat)

def cmdRfDiscover (nci : NfcNci) (hw : HwWrite) (num : UInt8)
    (confs : Option (Nat → NciDiscoverConfs)) : CmdResult :=
  nci.guarded .rfstIdle <|
    match confs with
    | none => nci.refuse nciStatusInvalidParam
    | some confs =>
        if num = 0 then
          nci.refuse nciStatusInvalidParam
        else
          nci.sendSized hw nciMsgRfDiscover
            (num :: recordsDown (fun c => [c.mode, c.freq]) confs num.toNat)

def cmdRfDeactivate (nci : NfcNci) (hw : HwWrite) (type : UInt8) : CmdResult :=
  nci.guarded .rfstPollActive <|
    nci.send hw
      [bldHdr0 nciMtCmd nciGidRfManage, nciMsgRfDeactivate, nciRfParamSizeDeactivate, type]
      (UInt8.ofNat nciMsgHdrSize + nciRfParamSizeDeactivate)

/-- The connection identifier is not used: byte 0 is built from `NCI_MT_DATA`. -/
def dataSend (nci : NfcNci) (hw : HwWrite) (_cid : UInt8) (data : List UInt8) : CmdResult :=
  nci.guarded .rfstPollActive <|
    nci.send hw ([nciMtData, 0, UInt8.ofNat data.length] ++ data)
      (UInt8.ofNat (nciMsgHdrSize + data.length))

/-! ## Commands as data -/

/-- A call of one of the command functions. -/
inductive NciCmd where
  | cmdCoreReset (type : UInt8)
  | cmdCoreInit
  | cmdRfDiscoverMap (num : UInt8) (maps : Option (Nat → NciDiscoverMaps))
  | cmdRfDiscover (num : UInt8) (confs : Option (Nat → NciDiscoverConfs))
  | cmdRfDeactivate (type : UInt8)
  | dataSend (cid : UInt8) (data : List UInt8)

/-- Perform a call. -/
def NfcNci.exec (nci : NfcNci) (hw : HwWrite) : NciCmd → CmdResult
  | .cmdCoreReset type => Nci.cmdCoreReset nci hw type
  | .cmdCoreInit => Nci.cmdCoreInit nci hw
  | .cmdRfDiscoverMap num maps => Nci.cmdRfDiscoverMap nci hw num maps
  | .cmdRfDiscover num confs => Nci.cmdRfDiscover nci hw num confs
  | .cmdRfDeactivate type => Nci.cmdRfDeactivate nci hw type
  | .dataSend cid data => Nci.dataSend nci hw cid data

/-- The state that the guard of a command asks for. -/
def NciCmd.guard : NciCmd → NciState
  | .cmdCoreReset _ => .none
  | .cmdCoreInit => .rfstReset
  | .cmdRfDiscoverMap _ _ => .rfstIdle
  | .cmdRfDiscover _ _ => .rfstIdle
  | .cmdRfDeactivate _ => .rfstPollActive
  | .dataSend _ _ => .rfstPollActive

/-- The parameters pass the checks that follow the state guard. -/
def NciCmd.ParamsOk : NciCmd → Prop
  | .cmdCoreReset type => type = nciResetTypeKeepCfg ∨ type = nciResetTypeResetCfg
  | .cmdRfDiscoverMap _ maps => maps ≠ none
  | .cmdRfDiscover num confs => num ≠ 0 ∧ confs ≠ none
  | _ => True

/-! ## What a command can do -/

/-- In another state than its guard asks for, a command is rejected and writes
nothing. -/
theorem exec_refused {nci : NfcNci} {cmd : NciCmd} (hw : HwWrite)
    (h : nci.state ≠ cmd.guard) : nci.exec hw cmd = nci.refuse nciStatusRejected := by
  cases cmd <;> exact if_pos h

/-- In the state its guard asks for, a command with valid parameters is sent. -/
theorem exec_sent {nci : NfcNci} {cmd : NciCmd} (hw : HwWrite)
    (h : nci.state = cmd.guard) (hparams : cmd.ParamsOk) :
    ∃ bytes len, nci.exec hw cmd = nci.send hw bytes len := by
  cases cmd with
  | cmdCoreReset type =>
      have htype : ¬ (type ≠ nciResetTypeKeepCfg ∧ type ≠ nciResetTypeResetCfg) := by
        rintro ⟨hkeep, hreset⟩
        exact hparams.elim hkeep hreset
      refine ⟨_, _, (if_neg (not_not.mpr h)).trans (if_neg htype)⟩
  | cmdCoreInit => exact ⟨_, _, if_neg (not_not.mpr h)⟩
  | cmdRfDiscoverMap num maps =>
      cases maps with
      | none => exact absurd rfl hparams
      | some maps => exact ⟨_, _, if_neg (not_not.mpr h)⟩
  | cmdRfDiscover num confs =>
      cases confs with
      | none => exact absurd rfl hparams.2
      | some confs =>
          exact ⟨_, _, (if_neg (not_not.mpr h)).trans (if_neg hparams.1)⟩
  | cmdRfDeactivate type => exact ⟨_, _, if_neg (not_not.mpr h)⟩
  | dataSend cid data => exact ⟨_, _, if_neg (not_not.mpr h)⟩

/-- Parameters that fail their check are refused before anything is written. -/
theorem exec_invalid {nci : NfcNci} {cmd : NciCmd} (hw : HwWrite)
    (h : nci.state = cmd.guard) (hparams : ¬ cmd.ParamsOk) :
    nci.exec hw cmd = nci.refuse nciStatusInvalidParam := by
  cases cmd with
  | cmdCoreReset type =>
      have htype : type ≠ nciResetTypeKeepCfg ∧ type ≠ nciResetTypeResetCfg :=
        not_or.mp hparams
      exact (if_neg (not_not.mpr h)).trans (if_pos htype)
  | cmdCoreInit => exact absurd trivial hparams
  | cmdRfDiscoverMap num maps =>
      cases maps with
      | none => exact if_neg (not_not.mpr h)
      | some maps => exact absurd (Option.some_ne_none maps) hparams
  | cmdRfDiscover num confs =>
      cases confs with
      | none => exact if_neg (not_not.mpr h)
      | some confs =>
          have hnum : num = 0 := by
            by_contra hne
            exact hparams ⟨hne, Option.some_ne_none confs⟩
          exact (if_neg (not_not.mpr h)).trans (if_pos hnum)
  | cmdRfDeactivate type => exact absurd trivial hparams
  | dataSend cid data => exact absurd trivial hparams

/-- A command touches nothing but the transmit buffer. -/
theorem exec_nci (nci : NfcNci) (hw : HwWrite) (cmd : NciCmd) :
    ∃ txBuf, (nci.exec hw cmd).nci = { nci with txBuf } := by
  by_cases hstate : nci.state = cmd.guard
  · by_cases hparams : cmd.ParamsOk
    · obtain ⟨bytes, len, h⟩ := exec_sent hw hstate hparams
      exact ⟨nci.txBuf.store 0 bytes, by rw [h]; rfl⟩
    · exact ⟨nci.txBuf, by rw [exec_invalid hw hstate hparams]; rfl⟩
  · exact ⟨nci.txBuf, by rw [exec_refused hw hstate]; rfl⟩

@[simp] theorem exec_state (nci : NfcNci) (hw : HwWrite) (cmd : NciCmd) :
    (nci.exec hw cmd).nci.state = nci.state := by
  obtain ⟨txBuf, h⟩ := exec_nci nci hw cmd
  rw [h]

@[simp] theorem exec_data (nci : NfcNci) (hw : HwWrite) (cmd : NciCmd) :
    (nci.exec hw cmd).nci.data = nci.data := by
  obtain ⟨txBuf, h⟩ := exec_nci nci hw cmd
  rw [h]

@[simp] theorem exec_rfIntf (nci : NfcNci) (hw : HwWrite) (cmd : NciCmd) :
    (nci.exec hw cmd).nci.rfIntf = nci.rfIntf := by
  obtain ⟨txBuf, h⟩ := exec_nci nci hw cmd
  rw [h]

@[simp] theorem exec_cbRegistered (nci : NfcNci) (hw : HwWrite) (cmd : NciCmd) :
    (nci.exec hw cmd).nci.cbRegistered = nci.cbRegistered := by
  obtain ⟨txBuf, h⟩ := exec_nci nci hw cmd
  rw [h]

/-- A command that is sent reports success or a transport failure. -/
theorem send_status_ne_rejected (nci : NfcNci) (hw : HwWrite) (bytes : List UInt8)
    (len : UInt8) : (nci.send hw bytes len).status ≠ nciStatusRejected := by
  simp only [NfcNci.send]
  split_ifs
  · decide
  · decide

/-- A transport that takes every byte lets every command that is sent succeed. -/
theorem send_acceptAll (nci : NfcNci) (bytes : List UInt8) (len : UInt8) :
    (nci.send acceptAll bytes len).status = nciStatusOk := by
  have hlen : acceptAll ((nci.txBuf.store 0 bytes).take len.toNat) = len := by
    simp [acceptAll, ByteBuffer.take]
  exact if_pos hlen

theorem exec_acceptAll {nci : NfcNci} {cmd : NciCmd} (h : nci.state = cmd.guard)
    (hparams : cmd.ParamsOk) : (nci.exec acceptAll cmd).status = nciStatusOk := by
  obtain ⟨bytes, len, hsent⟩ := exec_sent acceptAll h hparams
  rw [hsent, send_acceptAll]

/-- A command that hands something to the transport was in the state its guard
asks for. -/
theorem guard_of_written {nci : NfcNci} {hw : HwWrite} {cmd : NciCmd}
    (h : (nci.exec hw cmd).written ≠ none) : nci.state = cmd.guard := by
  by_contra hstate
  rw [exec_refused hw hstate] at h
  exact h rfl

end Nci
end ArduinoNfc
