import ArduinoNfc.Nci.Reception
import ArduinoNfc.Tags.Definitions

/-!
# The tag interfaces

`NfcTagsIntfType2` dumps the sixteen blocks of a type 2 tag with four `READ`
commands; `NfcTagsIntfMifare` is a stub.  Both objects live as long as `NfcTags`
does: activating a tag does not touch their state.

The source of `NfcTagsIntfType2::handleDump` lacks its closing brace; the
function is taken to end after its `return`.  Its switch has no default, so in
state `NONE` the returned status is whatever the uninitialised variable holds:
this is the argument `junk`.
-/

namespace ArduinoNfc
namespace Tags

open Nci

/-- `NfcTagsIntf::translateNciStatus`. -/
def NfcTagsIntf.translateNciStatus (status : UInt8) : TagsStatus :=
  if status = nciStatusOk then
    .ok
  else if status = nciStatusRejected then
    .rejected
  else if status = nciStatusMessageCorrupted then
    .messageCorrupted
  else
    .failed

/-- The byte `p[i]` behind a data pointer of a callback.  The only pointers that
are dereferenced as bytes point into the receive buffer. -/
def dataByte (nci : NfcNci) (p : DataPtr) (i : Nat) : UInt8 :=
  match p with
  | .rxBuf off => nci.rxByte (off + i)
  | _ => 0

/-- The pointer `&p[i]`. -/
def advance (p : DataPtr) (i : Nat) : DataPtr :=
  match p with
  | .rxBuf off => .rxBuf (off + i)
  | p => p

/-- Run an `NfcNci` command from `NfcTags` or a tag interface. -/
def issue (nci : NfcNci) (hw : HwWrite) (cmd : NciCmd) :
    UInt8 × NfcNci × List StackOutput :=
  let r := nci.exec hw cmd
  (r.status, r.nci, [.nciCmd cmd r.status r.written])

/-! ## Type 2 tags -/

/-- `TAGS_INTF_T2_STATE_*`. -/
inductive Type2State where
  | none
  | dump
  | dumpRsp
  deriving DecidableEq, Repr

/-- `TAGS_INTF_T2_ID_*`. -/
inductive Type2Id where
  | none
  | dump
  deriving DecidableEq, Repr

def cmdRead : UInt8 := 0x30

def memoryBlockSizeBytes : UInt8 := 4
def memoryReadBlock : UInt8 := 4
def memoryFirstBlock : UInt8 := 0
def memoryLastBlock : UInt8 := 15

/-- The interface object of type 2 tags. -/
structure NfcTagsIntfType2 where
  state : Type2State
  id : Type2Id
  /-- `_p_rf`. -/
  pRf : DataPtr
  /-- `_dump`. -/
  dump : TagsDump
  block : UInt8
  deriving DecidableEq, Repr

namespace NfcTagsIntfType2

/-- The constructor, on a static (zero-initialised) object. -/
def init : NfcTagsIntfType2 where
  state := .none
  id := .none
  pRf := .null
  dump := ⟨.null, 0, 0⟩
  block := 0

def initTag (t : NfcTagsIntfType2) (rf : DataPtr) : NfcTagsIntfType2 := { t with pRf := rf }

def cmdDump (t : NfcTagsIntfType2) : TagsStatus × NfcTagsIntfType2 :=
  if t.state ≠ .none then
    (.rejected, t)
  else
    (.ok, { t with id := .dump, state := .dump, block := memoryFirstBlock })

/-- The `READ` command for a block, as a data packet on the static connection. -/
def readBlock (block : UInt8) : NciCmd := .dataSend nciCidRfStatic [cmdRead, block]

def handleDump (t : NfcTagsIntfType2) (nci : NfcNci) (hw : HwWrite) (junk : UInt8) :
    TagsStatus × NfcTagsIntfType2 × NfcNci × List StackOutput :=
  let (status, t, nci, out) :=
    match t.state with
    | .dump =>
        if t.block ≤ memoryLastBlock + 1 - memoryReadBlock then
          let (status, nci, out) := issue nci hw (readBlock t.block)
          (status, { t with state := .dumpRsp }, nci, out)
        else
          (nciStatusRejected, t, nci, [])
    | .dumpRsp => (nciStatusOk, t, nci, [])
    -- not a case of the switch: `status` is not assigned
    | .none => (junk, t, nci, [])
  if status ≠ nciStatusOk then
    (NfcTagsIntf.translateNciStatus status, t, nci, out)
  else
    (.ok, t, nci, out)

/-- A chunk is valid: sixteen data bytes and a status byte of zero. -/
def ChunkOk (nci : NfcNci) (status : TagsStatus) (data : DataPtr) : Prop :=
  status = .ok ∧
    dataByte nci data 0 = memoryReadBlock * memoryBlockSizeBytes + 1 ∧
    dataByte nci data (memoryReadBlock * memoryBlockSizeBytes + 1).toNat = 0

instance (nci : NfcNci) (status : TagsStatus) (data : DataPtr) :
    Decidable (ChunkOk nci status data) :=
  inferInstanceAs (Decidable (_ ∧ _ ∧ _))

def handleDataDump (t : NfcTagsIntfType2) (nci : NfcNci) (status : UInt8) (_id : UInt16)
    (data : DataPtr) : NfcTagsIntfType2 × List StackOutput :=
  let status := NfcTagsIntf.translateNciStatus status
  let t :=
    if ChunkOk nci status data then
      -- payload format is: len | data | status
      let buf := advance data 1
      let len := dataByte nci data 0 - 1
      if t.block < memoryLastBlock + 1 - memoryReadBlock then
        { t with dump := ⟨buf, len, 1⟩, state := .dump, block := t.block + memoryReadBlock }
      else
        { t with dump := ⟨buf, len, 0⟩, state := .none }
    else
      { t with dump := ⟨.null, 0, 0⟩, state := .none }
  (t, [.call ⟨.cbDump, status, .dump, some t.dump⟩
    ((List.range t.dump.len.toNat).map (dataByte nci t.dump.buf))])

def handleData (t : NfcTagsIntfType2) (nci : NfcNci) (status : UInt8) (id : UInt16)
    (data : DataPtr) : NfcTagsIntfType2 × List StackOutput :=
  match t.id with
  | .dump => t.handleDataDump nci status id data
  | .none => (t, [])

end NfcTagsIntfType2

/-! ## Mifare tags -/

/-- The interface object of Mifare tags; its one state and its one event identifier
are left out. -/
structure NfcTagsIntfMifare where
  /-- `_p_rf`. -/
  pRf : DataPtr
  deriving DecidableEq, Repr

namespace NfcTagsIntfMifare

def init : NfcTagsIntfMifare := ⟨.null⟩

def initTag (_ : NfcTagsIntfMifare) (rf : DataPtr) : NfcTagsIntfMifare := ⟨rf⟩

/-- Not implemented. -/
def cmdDump (t : NfcTagsIntfMifare) : TagsStatus × NfcTagsIntfMifare := (.rejected, t)

/-- Not implemented. -/
def handleDump (t : NfcTagsIntfMifare) : TagsStatus × NfcTagsIntfMifare := (.rejected, t)

/-- Not implemented. -/
def handleData (t : NfcTagsIntfMifare) : NfcTagsIntfMifare := t

end NfcTagsIntfMifare
end Tags
end ArduinoNfc
