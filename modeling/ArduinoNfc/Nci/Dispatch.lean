import ArduinoNfc.Nci.Parsers

/-!
# `NfcNci::handleEvent` and the dispatchers

One call of `handleEvent` performs two reads on the transport and makes at most
one call on the callback object.  In every branch the callback is the last thing
that happens, so a handler is modelled as a function that returns the call to
make; what the client does inside the call acts on the object that the handler
leaves behind.
-/

namespace ArduinoNfc
namespace Nci

open Foundation

/-- What one `_hw.read(buf, n)` did: the bytes it stored from `buf[0]` on, and
the count it returned. -/
structure HwRead where
  bytes : List UInt8
  ret : UInt8

/-- The two reads behind one event: the header, then as many bytes as the length
byte asks for. -/
structure Reception where
  header : HwRead
  payload : UInt8 → HwRead

/-- Set `p` to index `pos`. -/
def seek (pos : Nat) : NciM Unit := fun f => ((), { f with pos })

def waitForEvent (hw : Reception) : NciM Nat := do
  update fun nci => { nci with rxBuf := nci.rxBuf.store 0 hw.header.bytes }
  if hw.header.ret ≤ 0 then
    return hw.header.ret.toNat
  seek nciOffsetLen
  let len ← fetch
  let payload := hw.payload len
  update fun nci => { nci with rxBuf := nci.rxBuf.store nciMsgHdrSize payload.bytes }
  if payload.ret ≤ 0 then
    return payload.ret.toNat
  return len.toNat + nciMsgHdrSize

/-- `_cb->cbError(status, id, NULL)`. -/
def cbError (status : UInt8) (id : UInt16) : NciM (Option NciCall) :=
  return some ⟨.cbError, status, id, .null⟩

/-- Run a parser and pass its status and the shared `_data` to a callback. -/
def report (method : NciCb) (id : UInt16) (parser : NciM UInt8) :
    NciM (Option NciCall) := do
  let status ← parser
  return some ⟨method, status, id, (← get).nci.data⟩

def handleDataEvent : NciM (Option NciCall) := do
  let hdr0 ← fetch
  modify fun f => { f with pos := f.pos + 1 }
  let p := (← get).pos
  update fun nci => { nci with data := .rxBuf p }
  return some ⟨.cbData, nciStatusOk, uint16Id (prsMt hdr0) (prsGid hdr0),
    (← get).nci.data⟩

def handleCoreEvent : NciM (Option NciCall) := do
  let hdr0 ← fetch
  let hdr1 ← fetch
  let mt := prsMt hdr0
  let oid := prsOid hdr1
  if mt = nciMtRsp then
    if oid = nciMsgCoreReset then
      report .cbCoreReset (uint16Id mt oid) rspCoreReset
    else if oid = nciMsgCoreInit then
      report .cbCoreInit (uint16Id mt oid) rspCoreInit
    else
      cbError nciStatusUnknownOid (uint16Id mt oid)
  else if mt = nciMtNtf then
    if oid = nciMsgCoreConnCredits then
      return none
    else
      cbError nciStatusUnknownOid (uint16Id mt oid)
  else
    -- the switch on the message type has no default
    return none

def handleRfEvent : NciM (Option NciCall) := do
  let hdr0 ← fetch
  let hdr1 ← fetch
  let mt := prsMt hdr0
  let oid := prsOid hdr1
  if mt = nciMtRsp then
    if oid = nciMsgRfDiscoverMap then
      report .cbRfDiscoverMap (uint16Id mt oid) rspRfDiscoverMap
    else if oid = nciMsgRfDiscover then
      report .cbRfDiscover (uint16Id mt oid) rspRfDiscover
    else if oid = nciMsgRfDeactivate then
      report .cbRfDeactivate (uint16Id mt oid) rspRfDeactivate
    else
      cbError nciStatusUnknownOid (uint16Id mt oid)
  else if mt = nciMtNtf then
    if oid = nciMsgRfIntfActivated then
      report .cbRfDiscoverNtf (uint16Id mt oid) ntfRfIntfActivated
    else if oid = nciMsgRfDeactivate then
      report .cbRfDeactivateNtf (uint16Id mt oid) ntfRfDeactivate
    else
      cbError nciStatusUnknownOid (uint16Id mt oid)
  else
    cbError nciStatusSyntaxError (uint16Id mt oid)

/-- Read the header and broadcast to the right handler. -/
def dispatch : NciM (Option NciCall) := do
  seek 0
  let hdr0 ← fetch
  let hdr1 ← fetch
  if prsPbf hdr0 ≠ nciPbfNoOrLast then
    cbError nciStatusSyntaxError (uint16Id (prsMt hdr0) (prsOid hdr1))
  else
    seek 0
    if prsMt hdr0 = nciMtData then
      handleDataEvent
    else if prsGid hdr0 = nciGidCore then
      handleCoreEvent
    else if prsGid hdr0 = nciGidRfManage then
      handleRfEvent
    else
      cbError nciStatusUnknownGid (uint16Id (prsMt hdr0) (prsOid hdr1))

def handleEvent (hw : Reception) : NciM (Option NciCall) := do
  if !(← get).nci.cbRegistered then
    return none
  let len ← waitForEvent hw
  if len ≤ 0 then
    cbError nciStatusFailed (uint16Id 0 0)
  else
    dispatch

/-- The effect of one `handleEvent` call. -/
structure Handled where
  nci : NfcNci
  call : Option NciCall
  reads : List Nat
  nfcidStored : Nat

/-- One `handleEvent` call on an object. -/
def NfcNci.handleEvent (nci : NfcNci) (hw : Reception) : Handled :=
  let r := Nci.handleEvent hw ⟨nci, 0, [], 0⟩
  ⟨r.2.nci, r.1, r.2.reads, r.2.nfcidStored⟩

/-- The reads of a transport that delivers the whole packet. -/
def Packet.reception (pkt : Packet) : Reception where
  header := ⟨pkt.header, 3⟩
  payload := fun _ => ⟨pkt.payload, pkt.len⟩

/-- One `handleEvent` call that receives a whole packet. -/
def NfcNci.receive (nci : NfcNci) (pkt : Packet) : Handled :=
  nci.handleEvent pkt.reception

end Nci
end ArduinoNfc
