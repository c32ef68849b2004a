import ArduinoNfc.Nci.Messages

/-!
# The activation notification

`RF_INTF_ACTIVATED` is the one message with nested lengths: the technology
parameters are as long as payload byte 6 says, the NFCID inside them as long as
their own third byte says, and the fields behind them are located by the outer
length alone.  `NciRfIntf.activated` is the record that the notification leaves
behind, as a function of the payload bytes and of the record it overwrites, and
`ntfRfIntfActivated_run` ties it to the parser together with the exact list of
the indices the parser dereferences.
-/

namespace ArduinoNfc
namespace Nci

open Foundation

/-! ## What the notification decodes to -/

/-- The technology parameters at payload offset `off`. -/
def NciRfParams.decoded (old : NciRfParams) (byte : Nat → UInt8) (mode : UInt8)
    (off : Nat) : NciRfParams :=
  if mode = nciDiscoveryTypePollA then
    let nfcidLen := byte (off + 2)
    let selResLen := byte (off + 3 + nfcidLen.toNat)
    { type := mode
      pollA :=
        { sensRes := fun i => if i.val = 0 then byte off else byte (off + 1)
          nfcidLen
          nfcid := fun i =>
            if i.val < nfcidLen.toNat then byte (off + 3 + i.val) else old.pollA.nfcid i
          selResLen
          selRes :=
            if selResLen ≠ 0 then byte (off + 4 + nfcidLen.toNat) else old.pollA.selRes } }
  else
    { old with type := mode }

/-- The RF interface record after the notification with the payload `byte`. -/
def NciRfIntf.activated (old : NciRfIntf) (byte : Nat → UInt8) : NciRfIntf where
  id := byte 0
  interface := byte 1
  protocol := byte 2
  activationMode := byte 3
  maxPayloadSize := byte 4
  credits := byte 5
  specific := if byte 6 ≠ 0 then old.specific.decoded byte (byte 3) 7 else old.specific
  exchangeMode := byte (7 + (byte 6).toNat)
  txBitrate := byte (8 + (byte 6).toNat)
  rxBitrate := byte (9 + (byte 6).toNat)

/-- The payload offsets that the technology parameters are read from. -/
def techOffsets (byte : Nat → UInt8) (mode : UInt8) (off : Nat) : List Nat :=
  if mode = nciDiscoveryTypePollA then
    let nfcidLen := (byte (off + 2)).toNat
    [off, off + 1, off + 2] ++ List.range' (off + 3) nfcidLen ++ [off + 3 + nfcidLen] ++
      (if byte (off + 3 + nfcidLen) ≠ 0 then [off + 4 + nfcidLen] else [])
  else
    []

/-- The payload offsets that the notification is read from. -/
def activatedOffsets (byte : Nat → UInt8) : List Nat :=
  [0, 1, 2, 3, 4, 5, 6] ++
    (if byte 6 ≠ 0 then techOffsets byte (byte 3) 7 else []) ++
    [7 + (byte 6).toNat, 8 + (byte 6).toNat, 9 + (byte 6).toNat, 10 + (byte 6).toNat]

/-- The number of bytes that the notification puts into `nfcid`. -/
def activatedNfcidStored (byte : Nat → UInt8) : Nat :=
  if byte 6 ≠ 0 ∧ byte 3 = nciDiscoveryTypePollA then (byte 9).toNat else 0

/-! ## The parser -/

/-- What a parser reads depends on the buffers alone. -/
@[simp] theorem rxByte_mk (nci : NfcNci) (state : NciState) (cbRegistered : Bool)
    (data : DataPtr) (reset : NciReset) (rfIntf : NciRfIntf) (deactivate : NciDeactivate)
    (i : Nat) :
    NfcNci.rxByte ⟨nci.rxBuf, nci.txBuf, state, cbRegistered, data, reset, rfIntf,
      deactivate⟩ i = nci.rxByte i := rfl

@[simp] theorem updateRfIntf_run (g : NciRfIntf → NciRfIntf) (f : Frame) :
    updateRfIntf g f = ((), { f with nci := { f.nci with rfIntf := g f.nci.rfIntf } }) := rfl

@[simp] theorem updatePollA_run (g : NciRfParamsPa → NciRfParamsPa) (f : Frame) :
    updatePollA g f =
      ((), { f with nci := { f.nci with rfIntf := { f.nci.rfIntf with
        specific := { f.nci.rfIntf.specific with
          pollA := g f.nci.rfIntf.specific.pollA } } } }) := rfl

/-- The technology parameters, read from `p` on.  `byte` is the payload, which
starts at index `base` of the receive buffer. -/
theorem setRfTechSpecParams_run {nci : NfcNci} {base : Nat} {byte : Nat → UInt8}
    (hbyte : ∀ i, nci.rxByte (base + i) = byte i) {p : Nat} (off : Nat)
    (hp : p = base + off) (reads : List Nat) (stored : Nat) :
    ∃ pos, setRfTechSpecParams ⟨nci, p, reads, stored⟩ =
      ((), { nci := { nci with rfIntf := { nci.rfIntf with
              specific := nci.rfIntf.specific.decoded byte nci.rfIntf.activationMode off } }
             pos
             reads := reads ++
               (techOffsets byte nci.rfIntf.activationMode off).map (base + ·)
             nfcidStored := stored +
               if nci.rfIntf.activationMode = nciDiscoveryTypePollA then
                 (byte (off + 2)).toNat
               else 0 }) := by
  subst hp
  have hat : ∀ {q k : Nat}, q = base + k → nci.rxByte q = byte k := by
    rintro q k rfl
    exact hbyte k
  by_cases hmode : nci.rfIntf.activationMode = nciDiscoveryTypePollA
  · have h0 : nci.rxByte (base + off) = byte off := hat rfl
    have h1 : nci.rxByte (base + off + 1) = byte (off + 1) := hat (by omega)
    have h2 : nci.rxByte (base + off + 1 + 1) = byte (off + 2) := hat (by omega)
    have h3 : ∀ k, nci.rxByte (base + off + 1 + 1 + 1 + k) = byte (off + 3 + k) :=
      fun k => hat (by omega)
    have h4 : nci.rxByte (base + off + 1 + 1 + 1 + (byte (off + 2)).toNat + 1) =
        byte (off + 4 + (byte (off + 2)).toNat) := hat (by omega)
    have hrange : List.range' (base + off + 1 + 1 + 1) (byte (off + 2)).toNat =
        (List.range' (off + 3) (byte (off + 2)).toNat).map (base + ·) := by
      rw [List.map_add_range']
      congr 1
    -- `sel_res` is read only when its length byte is not zero
    by_cases hsel : byte (off + 3 + (byte (off + 2)).toNat) = 0
    · refine ⟨base + off + 1 + 1 + 1 + (byte (off + 2)).toNat + 1, Prod.ext rfl ?_⟩
      simp [setRfTechSpecParams, memcpyNfcid, hmode, h0, h1, h2, h3, hsel, hrange,
        NciRfParams.decoded, techOffsets]
      omega
    · refine ⟨base + off + 1 + 1 + 1 + (byte (off + 2)).toNat + 1 + 1, Prod.ext rfl ?_⟩
      simp [setRfTechSpecParams, memcpyNfcid, hmode, h0, h1, h2, h3, h4, hsel, hrange,
        NciRfParams.decoded, techOffsets]
      omega
  · refine ⟨base + off, Prod.ext rfl ?_⟩
    simp [setRfTechSpecParams, hmode, NciRfParams.decoded, techOffsets]

/-- An activation notification that passes the two checks is accepted whatever
its nested lengths are. -/
theorem ntfRfIntfActivated_run {nci : NfcNci} {base : Nat} {byte : Nat → UInt8}
    (hbyte : ∀ i, nci.rxByte (base + 1 + i) = byte i) (reads : List Nat)
    (hstate : nci.state = .rfstDiscovery)
    (hlen : ¬ nci.rxByte base < nciRfParamSizeIntfActivatedNtf) :
    ∃ pos, ntfRfIntfActivated ⟨nci, base, reads, 0⟩ =
      (nciStatusOk,
        { nci := { nci with
            rfIntf := nci.rfIntf.activated byte, data := .rfIntf, state := .rfstPollActive }
          pos
          reads := reads ++ [base] ++ (activatedOffsets byte).map (base + 1 + ·)
          nfcidStored := activatedNfcidStored byte }) := by
  have hat : ∀ {q k : Nat}, q = base + 1 + k → nci.rxByte q = byte k := by
    rintro q k rfl
    exact hbyte k
  have h0 : nci.rxByte (base + 1) = byte 0 := hat (by omega)
  have h1 : nci.rxByte (base + 1 + 1) = byte 1 := hat (by omega)
  have h2 : nci.rxByte (base + 1 + 1 + 1) = byte 2 := hat (by omega)
  have h3 : nci.rxByte (base + 1 + 1 + 1 + 1) = byte 3 := hat (by omega)
  have h4 : nci.rxByte (base + 1 + 1 + 1 + 1 + 1) = byte 4 := hat (by omega)
  have h5 : nci.rxByte (base + 1 + 1 + 1 + 1 + 1 + 1) = byte 5 := hat (by omega)
  have h6 : nci.rxByte (base + 1 + 1 + 1 + 1 + 1 + 1 + 1) = byte 6 := hat (by omega)
  by_cases htech : byte 6 = 0
  · have h7 : nci.rxByte (base + 1 + 1 + 1 + 1 + 1 + 1 + 1 + 1) = byte 7 := hat (by omega)
    have h8 : nci.rxByte (base + 1 + 1 + 1 + 1 + 1 + 1 + 1 + 1 + 1) = byte 8 :=
      hat (by omega)
    have h9 : nci.rxByte (base + 1 + 1 + 1 + 1 + 1 + 1 + 1 + 1 + 1 + 1) = byte 9 :=
      hat (by omega)
    refine ⟨base + 1 + 11, Prod.ext ?_ ?_⟩ <;>
      simp [ntfRfIntfActivated, checked, hstate, hlen, h0, h1, h2, h3, h4, h5, h6, h7, h8,
        h9, htech, NciRfIntf.activated, activatedOffsets, activatedNfcidStored]
  -- the object when `setRfTechSpecParams` is called: six fields are stored already
  · let read : NfcNci := { nci with rfIntf := { nci.rfIntf with
      id := byte 0, interface := byte 1, protocol := byte 2, activationMode := byte 3
      maxPayloadSize := byte 4, credits := byte 5 } }
    have hread : ∀ i, read.rxByte (base + 1 + i) = byte i := hbyte
    have hpos : base + 1 + 1 + 1 + 1 + 1 + 1 + 1 + 1 = base + 1 + 7 := by omega
    obtain ⟨pos, hparams⟩ := setRfTechSpecParams_run hread 7 hpos
      (reads ++ [base, base + 1, base + 1 + 1, base + 1 + 1 + 1, base + 1 + 1 + 1 + 1,
        base + 1 + 1 + 1 + 1 + 1, base + 1 + 1 + 1 + 1 + 1 + 1,
        base + 1 + 1 + 1 + 1 + 1 + 1 + 1]) 0
    have h7 : ∀ k, nci.rxByte (base + 1 + 1 + 1 + 1 + 1 + 1 + 1 + 1 + k) = byte (7 + k) :=
      fun k => hat (by omega)
    have h8 : ∀ k, nci.rxByte (base + 1 + 1 + 1 + 1 + 1 + 1 + 1 + 1 + k + 1) = byte (8 + k) :=
      fun k => hat (by omega)
    have h9 : ∀ k, nci.rxByte (base + 1 + 1 + 1 + 1 + 1 + 1 + 1 + 1 + k + 1 + 1) =
        byte (9 + k) := fun k => hat (by omega)
    simp [read, hstate] at hparams
    refine ⟨base + 1 + 11 + (byte 6).toNat, Prod.ext ?_ ?_⟩ <;>
      simp [ntfRfIntfActivated, checked, hstate, hlen, h0, h1, h2, h3, h4, h5, h6, h7, h8,
        h9, htech, hparams, NciRfIntf.activated, activatedOffsets, activatedNfcidStored]
    omega

end Nci
end ArduinoNfc
