import Mathlib.Tactic
import ArduinoNfc.Foundation.ByteBuffer

/-!
# NCI definitions

The constants, header macros and data records of `NfcNci.h`.  Status bytes,
opcodes and lengths stay bytes, because they are compared with bytes of the
packet; the two enumerations that only the library assigns (the NCI state and
the callback that is called) are inductive types.

`Packet` is a received packet: two header bytes and a payload whose length fits
the length byte, so that a packet whose length byte disagrees with its payload
cannot be built.
-/

namespace ArduinoNfc
namespace Nci

open Foundation

/-! ## Sizes and header fields -/

def nciPacketSize : Nat := 258
def nciMsgHdrSize : Nat := 3
def nciOffsetLen : Nat := 2

def nciMtData : UInt8 := 0x00
def nciMtCmd : UInt8 := 1
def nciMtRsp : UInt8 := 2
def nciMtNtf : UInt8 := 3

def nciPbfNoOrLast : UInt8 := 0x00

def nciGidCore : UInt8 := 0x00
def nciGidRfManage : UInt8 := 0x01

def nciCidRfStatic : UInt8 := 0x00

/-- `NCI_MSG_PRS_HDR0`, message type. -/
def prsMt (b : UInt8) : UInt8 := (b &&& 0xE0) >>> 5

/-- `NCI_MSG_PRS_HDR0`, packet boundary flag. -/
def prsPbf (b : UInt8) : UInt8 := (b &&& 0x10) >>> 4

/-- `NCI_MSG_PRS_HDR0`, group identifier (connection identifier of a data
packet). -/
def prsGid (b : UInt8) : UInt8 := b &&& 0x0F

/-- `NCI_MSG_PRS_HDR1`, opcode identifier. -/
def prsOid (b : UInt8) : UInt8 := b &&& 0x3F

/-- `NCI_MSG_BLD_HDR0`. -/
def bldHdr0 (mt gid : UInt8) : UInt8 := (mt <<< 5) ||| gid

/-- `UINT16_ID`: message type and opcode in one identifier. -/
def uint16Id (mt oid : UInt8) : UInt16 :=
  ((mt.toUInt16 <<< 13) ||| oid.toUInt16) &&& 0xE03F

/-! ## Status codes -/

def nciStatusOk : UInt8 := 0x00
def nciStatusRejected : UInt8 := 0x01
def nciStatusMessageCorrupted : UInt8 := 0x02
def nciStatusFailed : UInt8 := 0x03
def nciStatusSyntaxError : UInt8 := 0x05
def nciStatusUnknownGid : UInt8 := 0x07
def nciStatusUnknownOid : UInt8 := 0x08
def nciStatusInvalidParam : UInt8 := 0x09

/-! ## Opcodes, parameter sizes and parameter values -/

def nciMsgCoreReset : UInt8 := 0
def nciMsgCoreInit : UInt8 := 1
def nciMsgCoreConnCredits : UInt8 := 6

def nciMsgRfDiscoverMap : UInt8 := 0
def nciMsgRfDiscover : UInt8 := 3
def nciMsgRfIntfActivated : UInt8 := 5
def nciMsgRfDeactivate : UInt8 := 6

def nciIdRspCoreReset : UInt16 := uint16Id nciMtRsp nciMsgCoreReset
def nciIdRspCoreInit : UInt16 := uint16Id nciMtRsp nciMsgCoreInit
def nciIdRspRfDiscoverMap : UInt16 := uint16Id nciMtRsp nciMsgRfDiscoverMap
def nciIdRspRfDiscover : UInt16 := uint16Id nciMtRsp nciMsgRfDiscover
def nciIdNtfRfIntfActivated : UInt16 := uint16Id nciMtNtf nciMsgRfIntfActivated
def nciIdRspRfDeactivate : UInt16 := uint16Id nciMtRsp nciMsgRfDeactivate
def nciIdNtfRfDeactivate : UInt16 := uint16Id nciMtNtf nciMsgRfDeactivate

def nciCoreParamSizeReset : UInt8 := 0x01
def nciCoreParamSizeResetRsp : UInt8 := 0x03
def nciResetTypeKeepCfg : UInt8 := 0x00
def nciResetTypeResetCfg : UInt8 := 0x01
def nciCoreParamSizeInit : UInt8 := 0x00
def nciCoreParamSizeInitRsp : UInt8 := 0x11
def nciRfParamSizeDiscoverMapRsp : UInt8 := 0x01
def nciRfParamSizeDiscoverRsp : UInt8 := 0x01
def nciRfParamSizeIntfActivatedNtf : UInt8 := 0x0B
def nciRfParamSizeDeactivate : UInt8 := 0x01
def nciRfParamSizeDeactivateRsp : UInt8 := 0x01
def nciRfParamSizeDeactivateNtf : UInt8 := 0x02

def nciProtocolT1T : UInt8 := 0x01
def nciProtocolT2T : UInt8 := 0x02
def nciProtocolT3T : UInt8 := 0x03
def nciDiscoveryTypePollA : UInt8 := 0x00
def nciDiscoveryTypePollF : UInt8 := 0x02
def nciDiscoveryFrequencyAlways : UInt8 := 0x01
def nciDeactivateTypeIdle : UInt8 := 0
def nciDeactivateTypeDiscovery : UInt8 := 3
def nciInterfaceFrame : UInt8 := 1
def nciInterfaceModePoll : UInt8 := 1

/-! ## Records -/

/-- `tNCI_DISCOVER_CONFS`. -/
structure NciDiscoverConfs where
  mode : UInt8
  freq : UInt8
  deriving DecidableEq, Repr

/-- `tNCI_DISCOVER_MAPS`. -/
structure NciDiscoverMaps where
  protocol : UInt8
  mode : UInt8
  intfType : UInt8
  deriving DecidableEq, Repr

/-- `tNCI_RESET`. -/
structure NciReset where
  version : UInt8
  status : UInt8
  deriving DecidableEq, Repr

/-- `tNCI_DEACTIVATE`. -/
structure NciDeactivate where
  type : UInt8
  reason : UInt8
  deriving DecidableEq, Repr

def nciRfPaSensResLength : Nat := 2
def nciRfPaNfcidLength : Nat := 10

/-- `tNCI_RF_PARAMS_PA`. -/
structure NciRfParamsPa where
  sensRes : ByteBuffer nciRfPaSensResLength
  nfcidLen : UInt8
  nfcid : ByteBuffer nciRfPaNfcidLength
  selResLen : UInt8
  selRes : UInt8

/-- `nfcid[0]`. -/
def NciRfParamsPa.nfcidFirst (pa : NciRfParamsPa) : UInt8 := pa.nfcid ⟨0, by decide⟩

/-- `tNCI_RF_PARAMS`; the union has one member. -/
structure NciRfParams where
  type : UInt8
  pollA : NciRfParamsPa

/-- `tNCI_RF_INTF`. -/
structure NciRfIntf where
  id : UInt8
  interface : UInt8
  protocol : UInt8
  activationMode : UInt8
  maxPayloadSize : UInt8
  credits : UInt8
  specific : NciRfParams
  exchangeMode : UInt8
  txBitrate : UInt8
  rxBitrate : UInt8

/-- The zero-initialised record of a static object. -/
def NciRfIntf.zero : NciRfIntf where
  id := 0
  interface := 0
  protocol := 0
  activationMode := 0
  maxPayloadSize := 0
  credits := 0
  specific :=
    { type := 0
      pollA :=
        { sensRes := ByteBuffer.zero _
          nfcidLen := 0
          nfcid := ByteBuffer.zero _
          selResLen := 0
          selRes := 0 } }
  exchangeMode := 0
  txBitrate := 0
  rxBitrate := 0

/-- The states of `NfcNci`.  `_state` is a byte, which can have other values when it is
overwritten. -/
inductive NciState where
  | none
  | rfstReset
  | rfstIdle
  | rfstDiscovery
  | rfstW4AllDiscoveries
  | rfstPollActive
  | rfstW4HostSelect
  | rfstListenSleep
  | rfstListenActive
  | other (byte : UInt8) (unnamed : 8 < byte)
  deriving DecidableEq, Repr

/-- What the shared `void *_data` points to. -/
inductive DataPtr where
  | null
  | reset
  | rfIntf
  | deactivate
  | rxBuf (off : Nat)
  deriving DecidableEq, Repr

/-- The methods of the callback object `NfcNciCb`. -/
inductive NciCb where
  | cbCoreReset
  | cbCoreInit
  | cbRfDiscoverMap
  | cbRfDiscover
  | cbRfDiscoverNtf
  | cbRfDeactivate
  | cbRfDeactivateNtf
  | cbData
  | cbError
  deriving DecidableEq, Repr

/-- One call on the callback object. -/
structure NciCall where
  method : NciCb
  status : UInt8
  id : UInt16
  data : DataPtr
  deriving DecidableEq, Repr

/-! ## Received packets -/

/-- A received packet; the length byte is the length of the payload. -/
structure Packet where
  hdr0 : UInt8
  hdr1 : UInt8
  payload : List UInt8
  payload_le : payload.length ≤ 255

namespace Packet

/-- The length byte of the header. -/
def len (pkt : Packet) : UInt8 := UInt8.ofNat pkt.payload.length

/-- The header as it stands on the wire. -/
def header (pkt : Packet) : List UInt8 := [pkt.hdr0, pkt.hdr1, pkt.len]

/-- Payload byte `i`, zero past the end. -/
def byte (pkt : Packet) (i : Nat) : UInt8 := pkt.payload.getD i 0

@[simp] theorem len_toNat (pkt : Packet) : pkt.len.toNat = pkt.payload.length := by
  have h := pkt.payload_le
  simp [len]
  omega

theorem len_eq_iff (pkt : Packet) (n : UInt8) :
    pkt.len = n ↔ pkt.payload.length = n.toNat := by
  rw [← len_toNat, UInt8.toNat_inj]

theorem len_lt_iff (pkt : Packet) (n : UInt8) :
    pkt.len < n ↔ pkt.payload.length < n.toNat := by
  rw [← len_toNat, UInt8.lt_iff_toNat_lt]

end Packet
end Nci
end ArduinoNfc
