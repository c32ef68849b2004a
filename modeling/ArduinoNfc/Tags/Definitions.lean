import ArduinoNfc.Nci.Commands

/-!
# Tag API definitions

The enumerations and records of `NfcTagsDef.h`, the calls on the application's
callback object (`NfcTagsCb.h`), and the two constant tables of `NfcTags.cpp`.
-/

namespace ArduinoNfc
namespace Tags

open Nci

/-- `TAGS_STATUS_*`. -/
inductive TagsStatus where
  | ok
  | rejected
  | failed
  | messageCorrupted
  deriving DecidableEq, Repr

/-- `TAGS_ID_*`. -/
inductive TagsId where
  | none
  | reset
  | discover
  | discoverActivated
  | deactivate
  | dump
  deriving DecidableEq, Repr

/-- The states of `NfcTags`. -/
inductive TagsState where
  | none
  | initReset
  | initInit
  | initDone
  | discoverMap
  | discover
  | discoverNtf
  | discoverActivated
  | deactivate
  | deactivateRsp
  | deactivateNtf
  | dump
  | dumpRsp
  deriving DecidableEq, Repr

/-- `tTAGS_NCI_RSP`. -/
structure TagsNciRsp where
  data : DataPtr
  id : UInt16
  status : UInt8
  deriving DecidableEq, Repr

/-- `tTAGS_DUMP`. -/
structure TagsDump where
  buf : DataPtr
  len : UInt8
  more : UInt8
  deriving DecidableEq, Repr

/-- The methods of the callback object `NfcTagsCb`. -/
inductive TagsCb where
  | cbReset
  | cbDiscover
  | cbDiscoverNtf
  | cbDeactivate
  | cbDump
  deriving DecidableEq, Repr

/-- One call on the callback object. -/
structure TagsCall where
  method : TagsCb
  status : TagsStatus
  id : TagsId
  data : Option TagsDump
  deriving DecidableEq, Repr

/-- What the environment can observe of one step of the stack. -/
inductive StackOutput where
  /-- A call of an `NfcNci` command: its result, and the bytes it handed to the
  transport if it got there. -/
  | nciCmd (cmd : NciCmd) (status : UInt8) (written : Option (List UInt8))
  /-- A call on the application's callback object, with the bytes that its dump
  buffer holds at that moment. -/
  | call (call : TagsCall) (bytes : List UInt8)

/-- `discover_maps`: type 1, 2 and 3 tags in poll mode over the frame interface. -/
def discoverMaps : List NciDiscoverMaps :=
  [⟨nciProtocolT1T, nciInterfaceModePoll, nciInterfaceFrame⟩,
    ⟨nciProtocolT2T, nciInterfaceModePoll, nciInterfaceFrame⟩,
    ⟨nciProtocolT3T, nciInterfaceModePoll, nciInterfaceFrame⟩]

/-- `discover_confs`: poll mode A and F in every discovery period. -/
def discoverConfs : List NciDiscoverConfs :=
  [⟨nciDiscoveryTypePollA, nciDiscoveryFrequencyAlways⟩,
    ⟨nciDiscoveryTypePollF, nciDiscoveryFrequencyAlways⟩]

/-- The call `cmdRfDiscoverMap(sizeof(discover_maps) / ..., discover_maps)`. -/
def cmdDiscoverMaps : NciCmd :=
  .cmdRfDiscoverMap (UInt8.ofNat discoverMaps.length)
    (some fun i => discoverMaps.getD i ⟨0, 0, 0⟩)

/-- The call `cmdRfDiscover(sizeof(discover_confs) / ..., discover_confs)`. -/
def cmdDiscoverConfs : NciCmd :=
  .cmdRfDiscover (UInt8.ofNat discoverConfs.length)
    (some fun i => discoverConfs.getD i ⟨0, 0⟩)

end Tags
end ArduinoNfc
