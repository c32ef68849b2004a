import ArduinoNfc.Tags.Interfaces

/-!
# `NfcTags` on top of `NfcNci`

`NfcTags` is the only client of `NfcNci` and its registered callback object, so
the two objects form one state, `Stack`.  Every handler returns the stack it
leaves behind and what the environment observes of it.

A call on the application's callback object is always the last thing a handler
does, in both classes.  A command that the application issues from inside a
callback therefore acts on the stack that the handler leaves behind, exactly as
a command issued right after the handler has returned.
-/

namespace ArduinoNfc
namespace Tags

open Nci

/-- What `_p_tagIntf` points to, when it is not `NULL`. -/
inductive TagIntf where
  | tag2
  | tagMifare
  deriving DecidableEq, Repr

/-- The `NfcTags` object, without its logger. -/
structure NfcTags where
  state : TagsState
  id : TagsId
  nciRsp : TagsNciRsp
  tag2 : NfcTagsIntfType2
  tagMifare : NfcTagsIntfMifare
  /-- `_p_tagIntf`. -/
  pTagIntf : Option TagIntf
  deriving DecidableEq, Repr

/-- `NfcTags` and the `NfcNci` it drives. -/
structure Stack where
  tags : NfcTags
  nci : NfcNci

namespace NfcTags

/-- The constructor. -/
def init : NfcTags where
  state := .none
  id := .none
  nciRsp := ⟨.null, 0, 0⟩
  tag2 := NfcTagsIntfType2.init
  tagMifare := NfcTagsIntfMifare.init
  pTagIntf := none

def setNciResponse (t : NfcTags) (status : UInt8) (id : UInt16) (data : DataPtr) : NfcTags :=
  { t with nciRsp := ⟨data, id, status⟩ }

/-- `NfcTags::translateNciStatus`, which has no case for corrupted messages. -/
def translateNciStatus (status : UInt8) : TagsStatus :=
  if status = nciStatusOk then
    .ok
  else if status = nciStatusRejected then
    .rejected
  else
    .failed

/-! ## Application commands -/

def cmdReset (t : NfcTags) : TagsStatus × NfcTags :=
  (.ok, { t with state := .initReset, id := .reset, pTagIntf := none })

def cmdDiscover (t : NfcTags) : TagsStatus × NfcTags :=
  if t.state ≠ .initDone then
    (.rejected, t)
  else
    (.ok, { t with state := .discoverMap, id := .discover })

def cmdDeactivate (t : NfcTags) : TagsStatus × NfcTags :=
  if t.state = .discoverActivated ∨ t.state = .dump then
    (.ok, { t with state := .deactivate, id := .deactivate, pTagIntf := none })
  else
    (.rejected, t)

/-- `_p_tagIntf->cmdDump()`. -/
def intfCmdDump (t : NfcTags) : TagIntf → TagsStatus × NfcTags
  | .tag2 => let (status, tag2) := t.tag2.cmdDump; (status, { t with tag2 })
  | .tagMifare => let (status, tagMifare) := t.tagMifare.cmdDump; (status, { t with tagMifare })

def cmdDump (t : NfcTags) : TagsStatus × NfcTags :=
  if t.state ≠ .discoverActivated then
    (.rejected, t)
  else
    match t.pTagIntf with
    | none => (.failed, t)
    | some intf =>
        let (status, t) := t.intfCmdDump intf
        if status ≠ .ok then
          (.failed, t)
        else
          (.ok, { t with state := .dump, id := .dump })

/-- `getInterface`. -/
def getInterface (t : NfcTags) : Option TagIntf := t.pTagIntf

end NfcTags

/-- A call of one of the commands of `NfcTags`. -/
inductive AppCmd where
  | cmdReset
  | cmdDiscover
  | cmdDeactivate
  | cmdDump
  deriving DecidableEq, Repr

/-- Perform a command of the application. -/
def NfcTags.exec (t : NfcTags) : AppCmd → TagsStatus × NfcTags
  | .cmdReset => t.cmdReset
  | .cmdDiscover => t.cmdDiscover
  | .cmdDeactivate => t.cmdDeactivate
  | .cmdDump => t.cmdDump

/-! ## Tag identification -/

def uidSizeDouble : UInt8 := 7
def uidNxp : UInt8 := 0x04

/-- `BIT_MASK(val, bit)`, as a condition. -/
def bitMask (val : UInt8) (bit : UInt8) : Prop := val &&& (1 <<< bit) ≠ 0

instance (val bit : UInt8) : Decidable (bitMask val bit) := inferInstanceAs (Decidable (_ ≠ _))

/-- Some branches leave `_p_tagIntf` as it is. -/
def NfcTags.identifyTag (t : NfcTags) (data : DataPtr) (rfIntf : Option NciRfIntf) : NfcTags :=
  match rfIntf with
  | none => t
  | some rf =>
      if rf.specific.type = nciDiscoveryTypePollA then
        if rf.specific.pollA.nfcidLen = uidSizeDouble then
          if rf.specific.pollA.nfcidFirst = uidNxp then
            { t with tag2 := t.tag2.initTag data, pTagIntf := some .tag2 }
          else
            t
        else if rf.specific.pollA.selResLen = 1 then
          let b := rf.specific.pollA.selRes
          if bitMask b 3 ∧ bitMask b 4 then
            { t with tagMifare := t.tagMifare.initTag data, pTagIntf := some .tagMifare }
          else
            t
        else
          t
      else
        { t with pTagIntf := none }

/-! ## `NfcTags::handleEvent` -/

namespace Stack

/-- Both objects after their constructors and `init`. -/
def init : Stack := ⟨NfcTags.init, NfcNci.init⟩

/-- Run an `NfcNci` command. -/
def issue (s : Stack) (hw : HwWrite) (cmd : NciCmd) : UInt8 × Stack × List StackOutput :=
  let (status, nci, out) := Tags.issue s.nci hw cmd
  (status, { s with nci }, out)

/-- The end of the handlers: notify the application of a failure. -/
def notify (method : TagsCb) (id : TagsId) :
    UInt8 × Stack × List StackOutput → Stack × List StackOutput
  | (status, s, out) =>
      if status ≠ nciStatusOk then
        (s, out ++ [.call ⟨method, NfcTags.translateNciStatus status, id, none⟩ []])
      else
        (s, out)

def handleReset (s : Stack) (hw : HwWrite) : Stack × List StackOutput :=
  notify .cbReset .reset <|
    match s.tags.state with
    | .initReset => s.issue hw (.cmdCoreReset nciResetTypeKeepCfg)
    | .initInit => s.issue hw .cmdCoreInit
    | .initDone => (nciStatusOk, s, [])
    -- unhandled state
    | _ => (nciStatusRejected, s, [])

def handleDiscover (s : Stack) (hw : HwWrite) : Stack × List StackOutput :=
  notify .cbDiscover .discover <|
    match s.tags.state with
    | .discoverMap => s.issue hw cmdDiscoverMaps
    | .discover => s.issue hw cmdDiscoverConfs
    | .discoverNtf => (nciStatusOk, s, [])
    | .discoverActivated => (nciStatusOk, s, [])
    -- unhandled state
    | _ => (nciStatusRejected, s, [])

def handleDeactivate (s : Stack) (hw : HwWrite) : Stack × List StackOutput :=
  notify .cbDeactivate .deactivate <|
    match s.tags.state with
    | .deactivate => s.issue hw (.cmdRfDeactivate nciDeactivateTypeDiscovery)
    | .deactivateRsp => (nciStatusOk, s, [])
    | .deactivateNtf =>
        (nciStatusOk, { s with tags := { s.tags with id := .discover, state := .discoverNtf } }, [])
    -- unhandled state
    | _ => (nciStatusRejected, s, [])

/-- `_p_tagIntf->handleDump()`. -/
def intfHandleDump (s : Stack) (hw : HwWrite) (junk : UInt8) :
    TagIntf → TagsStatus × Stack × List StackOutput
  | .tag2 =>
      let (status, tag2, nci, out) := s.tags.tag2.handleDump s.nci hw junk
      (status, ⟨{ s.tags with tag2 }, nci⟩, out)
  | .tagMifare =>
      let (status, tagMifare) := s.tags.tagMifare.handleDump
      (status, { s with tags := { s.tags with tagMifare } }, [])

def handleDump (s : Stack) (hw : HwWrite) (junk : UInt8) : Stack × List StackOutput :=
  let (status, s, out) :=
    if s.tags.state ≠ .dump then
      (.rejected, s, [])
    else
      match s.tags.pTagIntf with
      | none => (.failed, s, [])
      | some intf => s.intfHandleDump hw junk intf
  if status ≠ .ok then
    (s, out ++ [.call ⟨.cbDump, status, .dump, none⟩ []])
  else
    (s, out)

/-- `NfcTags::handleEvent`.  `junk` is the value of the variable that
`NfcTagsIntfType2::handleDump` leaves uninitialised. -/
def handleEvent (s : Stack) (hw : HwWrite) (junk : UInt8) : Stack × List StackOutput :=
  match s.tags.id with
  | .reset => s.handleReset hw
  | .discover => s.handleDiscover hw
  | .deactivate => s.handleDeactivate hw
  | .dump => s.handleDump hw junk
  | _ => (s, [])

/-! ## The callbacks of `NfcNci` -/

/-- Replace the `NfcTags` object. -/
def withTags (s : Stack) (tags : NfcTags) : Stack := { s with tags }

/-- One call on the application's callback object, without data. -/
def calls (method : TagsCb) (status : TagsStatus) (id : TagsId) : List StackOutput :=
  [.call ⟨method, status, id, none⟩ []]

def cbCoreReset (s : Stack) (status : UInt8) (id : UInt16) (data : DataPtr) :
    Stack × List StackOutput :=
  let t := s.tags.setNciResponse status id data
  if status = nciStatusOk ∧ id = nciIdRspCoreReset then
    (s.withTags { t with state := .initInit }, [])
  else
    -- `cbDeactivate`, although `cmdReset` announces `cbReset`
    (s.withTags t, calls .cbDeactivate (NfcTags.translateNciStatus status) .reset)

def cbCoreInit (s : Stack) (status : UInt8) (id : UInt16) (data : DataPtr) :
    Stack × List StackOutput :=
  let t := s.tags.setNciResponse status id data
  if status = nciStatusOk then
    if id = nciIdRspCoreInit then
      (s.withTags { t with state := .initDone }, calls .cbReset .ok .reset)
    else
      (s.withTags t, calls .cbReset .failed .reset)
  else
    (s.withTags t, calls .cbReset (NfcTags.translateNciStatus status) .reset)

def cbRfDiscoverMap (s : Stack) (status : UInt8) (id : UInt16) (data : DataPtr) :
    Stack × List StackOutput :=
  let t := s.tags.setNciResponse status id data
  if status = nciStatusOk ∧ id = nciIdRspRfDiscoverMap then
    (s.withTags { t with state := .discover }, [])
  else
    -- `cbDeactivate`, although `cmdDiscover` announces `cbDiscover`
    (s.withTags t, calls .cbDeactivate (NfcTags.translateNciStatus status) .discover)

def cbRfDiscover (s : Stack) (status : UInt8) (id : UInt16) (data : DataPtr) :
    Stack × List StackOutput :=
  let t := s.tags.setNciResponse status id data
  if status = nciStatusOk then
    if id = nciIdRspRfDiscover then
      (s.withTags { t with state := .discoverNtf }, calls .cbDiscover .ok .discover)
    else
      (s.withTags t, calls .cbDiscover .failed .discover)
  else
    (s.withTags t, calls .cbDiscover (NfcTags.translateNciStatus status) .discover)

/-- The record that the callee finds behind a pointer it takes for a
`tNCI_RF_INTF *`.  Behind any other object of `NfcNci` it finds `garbage`. -/
def rfIntfAt (s : Stack) (garbage : NciRfIntf) : DataPtr → Option NciRfIntf
  | .null => none
  | .rfIntf => some s.nci.rfIntf
  | _ => some garbage

def cbRfDiscoverNtf (s : Stack) (garbage : NciRfIntf) (status : UInt8) (id : UInt16)
    (data : DataPtr) : Stack × List StackOutput :=
  let t := s.tags.setNciResponse status id data
  let (status, t) :=
    if status = nciStatusOk then
      if id = nciIdNtfRfIntfActivated then
        (TagsStatus.ok, { t with state := .discoverActivated })
      else
        (.failed, t)
    else
      (NfcTags.translateNciStatus status, t)
  (s.withTags (t.identifyTag data (s.rfIntfAt garbage data)),
    calls .cbDiscoverNtf status .discoverActivated)

def cbRfDeactivate (s : Stack) (status : UInt8) (id : UInt16) (data : DataPtr) :
    Stack × List StackOutput :=
  let t := s.tags.setNciResponse status id data
  if status = nciStatusOk ∧ id = nciIdRspRfDeactivate then
    (s.withTags { t with state := .deactivateRsp }, [])
  else
    (s.withTags t, calls .cbDeactivate (NfcTags.translateNciStatus status) .deactivate)

def cbRfDeactivateNtf (s : Stack) (status : UInt8) (id : UInt16) (data : DataPtr) :
    Stack × List StackOutput :=
  let t := s.tags.setNciResponse status id data
  if status = nciStatusOk then
    if id = nciIdNtfRfDeactivate then
      (s.withTags { t with id := .discover, state := .discoverNtf },
        calls .cbDeactivate .ok .deactivate)
    else
      (s.withTags t, calls .cbDeactivate .failed .deactivate)
  else
    (s.withTags t, calls .cbDeactivate (NfcTags.translateNciStatus status) .deactivate)

/-- `_p_tagIntf->handleData(...)`, when there is an interface. -/
def cbData (s : Stack) (status : UInt8) (id : UInt16) (data : DataPtr) :
    Stack × List StackOutput :=
  let t := s.tags.setNciResponse status id data
  match t.pTagIntf with
  | none => (s.withTags t, [])
  | some .tag2 =>
      let (tag2, out) := t.tag2.handleData s.nci status id data
      (s.withTags { t with tag2 }, out)
  | some .tagMifare => (s.withTags { t with tagMifare := t.tagMifare.handleData }, [])

/-- A call that `NfcNci` makes on its callback object. -/
def callback (s : Stack) (garbage : NciRfIntf) (c : NciCall) : Stack × List StackOutput :=
  match c.method with
  | .cbCoreReset => s.cbCoreReset c.status c.id c.data
  | .cbCoreInit => s.cbCoreInit c.status c.id c.data
  | .cbRfDiscoverMap => s.cbRfDiscoverMap c.status c.id c.data
  | .cbRfDiscover => s.cbRfDiscover c.status c.id c.data
  | .cbRfDiscoverNtf => s.cbRfDiscoverNtf garbage c.status c.id c.data
  | .cbRfDeactivate => s.cbRfDeactivate c.status c.id c.data
  | .cbRfDeactivateNtf => s.cbRfDeactivateNtf c.status c.id c.data
  | .cbData => s.cbData c.status c.id c.data
  -- `cbError` only logs
  | .cbError => (s, [])

/-- `NfcNci::handleEvent` on a whole packet. -/
def receive (s : Stack) (pkt : Packet) (garbage : NciRfIntf) : Stack × List StackOutput :=
  let h := s.nci.receive pkt
  let s := { s with nci := h.nci }
  match h.call with
  | none => (s, [])
  | some c => s.callback garbage c

end Stack
end Tags
end ArduinoNfc
