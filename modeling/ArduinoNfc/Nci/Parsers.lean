import ArduinoNfc.Nci.Definitions

/-!
# The response and notification parsers of `NfcNci`

The parsers walk a pointer `p` over the receive buffer.  `Frame` is what one of
them works on: the `NfcNci` object, the index `p` points at, and a record of the
memory accesses made so far (the buffer indices dereferenced, and the number of
bytes `memcpy` put into `nfcid`).  The record is only written, so it cannot
influence what a parser does.

Two accesses of the source leave their object, and the model says what it makes
of them.  An index from `NCI_PACKET_SIZE` on reads the transmit buffer, which is
declared next to the receive buffer.  A copy of more than ten bytes into `nfcid`
keeps the ten that fit; what the rest overwrites is not described, and the count
in `nfcidStored` tells such a copy from the others.
-/

namespace ArduinoNfc
namespace Nci

open Foundation

/-- The `NfcNci` object, without its logger and transport. -/
structure NfcNci where
  rxBuf : ByteBuffer nciPacketSize
  txBuf : ByteBuffer nciPacketSize
  state : NciState
  /-- `_cb` is not `NULL`. -/
  cbRegistered : Bool
  data : DataPtr
  reset : NciReset
  rfIntf : NciRfIntf
  deactivate : NciDeactivate

namespace NfcNci

/-- The constructor, on a static (zero-initialised) object, followed by
`init` with a callback object. -/
def init : NfcNci where
  rxBuf := ByteBuffer.zero _
  txBuf := ByteBuffer.zero _
  state := .none
  cbRegistered := true
  data := .null
  reset := ⟨0, 0⟩
  rfIntf := NciRfIntf.zero
  deactivate := ⟨0, 0⟩

/-- The byte at index `i` of the receive buffer. -/
def rxByte (nci : NfcNci) (i : Nat) : UInt8 :=
  if h : i < nciPacketSize then
    nci.rxBuf ⟨i, h⟩
  else if h : i - nciPacketSize < nciPacketSize then
    nci.txBuf ⟨i - nciPacketSize, h⟩
  else
    0

end NfcNci

/-- What a parser works on. -/
structure Frame where
  nci : NfcNci
  /-- `p`, as an index of the receive buffer. -/
  pos : Nat
  /-- The indices dereferenced so far. -/
  reads : List Nat
  /-- The number of bytes copied into `nfcid`. -/
  nfcidStored : Nat

/-- A parser: it moves the frame and returns a value. -/
abbrev NciM := StateM Frame

/-- `*p++`. -/
def fetch : NciM UInt8 := fun f =>
  (f.nci.rxByte f.pos, { f with pos := f.pos + 1, reads := f.reads ++ [f.pos] })

/-- Update the object. -/
def update (g : NfcNci → NfcNci) : NciM Unit := fun f =>
  ((), { f with nci := g f.nci })

/-- `memcpy(nfcid, p, len); p += len;`. -/
def memcpyNfcid (len : Nat) : NciM Unit := fun f =>
  let pollA := f.nci.rfIntf.specific.pollA
  let nfcid : ByteBuffer nciRfPaNfcidLength := fun i =>
    if i.val < len then f.nci.rxByte (f.pos + i.val) else pollA.nfcid i
  let specific := { f.nci.rfIntf.specific with pollA := { pollA with nfcid } }
  ((), { f with
    nci := { f.nci with rfIntf := { f.nci.rfIntf with specific } }
    pos := f.pos + len
    reads := f.reads ++ List.range' f.pos len
    nfcidStored := f.nfcidStored + len })

/-! ## The common shape of the parsers -/

/-- Every parser first checks the state, then the length byte. -/
def checked (state : NciState) (badLen : UInt8 → Bool) (body : NciM UInt8) :
    NciM UInt8 := do
  if (← get).nci.state ≠ state then
    return nciStatusRejected
  let len ← fetch
  if badLen len then
    return nciStatusSyntaxError
  body

/-- Most responses then check the status byte, and act only on success.  The
pointer is local to the parser, so `*p` and `*p++` do the same here. -/
def onStatusOk (accept : NciM Unit) : NciM UInt8 := do
  let status ← fetch
  if status ≠ nciStatusOk then
    return status
  accept
  return status

/-! ## Responses -/

def rspCoreReset : NciM UInt8 :=
  checked .none (fun len => len ≠ nciCoreParamSizeResetRsp) <| onStatusOk do
    let version ← fetch
    let status ← fetch
    update fun nci =>
      { nci with reset := ⟨version, status⟩, data := .reset, state := .rfstReset }

def rspCoreInit : NciM UInt8 :=
  checked .rfstReset (fun len => len < nciCoreParamSizeInitRsp) <| onStatusOk do
    update fun nci => { nci with data := .null, state := .rfstIdle }

/-- The one response that clears `_data` whatever its status is. -/
def rspRfDiscoverMap : NciM UInt8 :=
  checked .rfstIdle (fun len => len ≠ nciRfParamSizeDiscoverMapRsp) do
    let status ← fetch
    update fun nci => { nci with data := .null }
    return status

def rspRfDiscover : NciM UInt8 :=
  checked .rfstIdle (fun len => len ≠ nciRfParamSizeDiscoverRsp) <| onStatusOk do
    update fun nci => { nci with state := .rfstDiscovery, data := .null }

def rspRfDeactivate : NciM UInt8 :=
  checked .rfstPollActive (fun len => len ≠ nciRfParamSizeDeactivateRsp) <| onStatusOk do
    update fun nci => { nci with state := .rfstDiscovery, data := .null }

/-! ## Notifications -/

/-- Update the RF interface record. -/
def updateRfIntf (g : NciRfIntf → NciRfIntf) : NciM Unit :=
  update fun nci => { nci with rfIntf := g nci.rfIntf }

/-- Update the NFC-A parameters of the RF interface record. -/
def updatePollA (g : NciRfParamsPa → NciRfParamsPa) : NciM Unit :=
  updateRfIntf fun rf =>
    { rf with specific := { rf.specific with pollA := g rf.specific.pollA } }

def setRfTechSpecParams : NciM Unit := do
  let mode := (← get).nci.rfIntf.activationMode
  updateRfIntf fun rf => { rf with specific := { rf.specific with type := mode } }
  if mode = nciDiscoveryTypePollA then
    let sensRes0 ← fetch
    let sensRes1 ← fetch
    updatePollA fun pa => { pa with sensRes := fun i => if i.val = 0 then sensRes0 else sensRes1 }
    let len ← fetch
    updatePollA fun pa => { pa with nfcidLen := len }
    memcpyNfcid len.toNat
    let selResLen ← fetch
    updatePollA fun pa => { pa with selResLen := selResLen }
    if selResLen ≠ 0 then
      let selRes ← fetch
      updatePollA fun pa => { pa with selRes := selRes }

def ntfRfIntfActivated : NciM UInt8 :=
  checked .rfstDiscovery (fun len => len < nciRfParamSizeIntfActivatedNtf) do
    let id ← fetch
    let interface ← fetch
    let protocol ← fetch
    let activationMode ← fetch
    let maxPayloadSize ← fetch
    let credits ← fetch
    updateRfIntf fun rf =>
      { rf with id, interface, protocol, activationMode, maxPayloadSize, credits }
    let len ← fetch
    if len ≠ 0 then
      -- the callee gets a copy of the pointer; the caller skips by `len`
      let p := (← get).pos
      setRfTechSpecParams
      modify fun f => { f with pos := p + len.toNat }
    let exchangeMode ← fetch
    let txBitrate ← fetch
    let rxBitrate ← fetch
    updateRfIntf fun rf => { rf with exchangeMode, txBitrate, rxBitrate }
    let _ ← fetch
    update fun nci => { nci with data := .rfIntf, state := .rfstPollActive }
    return nciStatusOk

def ntfRfDeactivate : NciM UInt8 :=
  checked .rfstDiscovery (fun len => len ≠ nciRfParamSizeDeactivateNtf) do
    let type ← fetch
    let reason ← fetch
    update fun nci => { nci with deactivate := ⟨type, reason⟩, data := .deactivate }
    return nciStatusOk

end Nci
end ArduinoNfc
