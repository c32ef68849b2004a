import ArduinoNfc.Tags.LogLines
import ArduinoNfc.Tags.Nfcid

/-!
# The example sketches

`NfcApps` is the application on top of the stack: a state machine that calls one command
of `NfcTags` in some of its states, and that the callbacks move on.  The library comes
with two of them.  `TagDump` reads out the type 2 tags that it finds; `TagDetect` has no
states for that, and it deactivates every tag at once.

The two are one definition with the sketch as a parameter; where they differ, each has its
own.  Lines below the level `INFO`, which both sketches set, are left out.
-/

namespace ArduinoNfc
namespace Sketch

open Nci Tags Log

/-- The states of `NfcApps`. -/
inductive AppState where
  | reset
  | resetResponse
  | discover
  | discoverResponse
  | discovering
  | dump
  | dumpResponse
  | deactivate
  | deactivateResponse
  | error
  | ended
  deriving DecidableEq, Repr

/-- The two sketches. -/
inductive Kind where
  | tagDump
  | tagDetect
  deriving DecidableEq, Repr

/-- The enumeration of the states, in the order of the source. -/
def Kind.states : Kind → List AppState
  | .tagDump => [.reset, .resetResponse, .discover, .discoverResponse, .discovering, .dump,
      .dumpResponse, .deactivate, .deactivateResponse, .error, .ended]
  | .tagDetect => [.reset, .resetResponse, .discover, .discoverResponse, .discovering,
      .deactivate, .deactivateResponse, .error, .ended]

/-- The number of a state. -/
def Kind.stateCode (k : Kind) (state : AppState) : Nat := k.states.idxOf state

/-- A buffer that a sketch logs. -/
inductive LogBuf where
  /-- The array `nfcid` of the record behind a pointer. -/
  | nfcid (rf : DataPtr)
  /-- What a pointer points to. -/
  | data (buf : DataPtr)
  deriving DecidableEq, Repr

/-- A line that a sketch logs. -/
abbrev Line := LogCall LogBuf

/-! ## `NfcApps::handleEvent` -/

/-- What a case of the switch does. -/
inductive Action where
  /-- It calls a command, then assigns the next state. -/
  | call (cmd : AppCmd) (next : AppState)
  /-- It waits for a callback. -/
  | wait
  /-- It leaves the status at `TAGS_STATUS_FAILED`. -/
  | fail
  deriving DecidableEq, Repr

/-- The cases that both sketches have. -/
def commonAction : AppState → Action
  | .reset => .call .cmdReset .resetResponse
  | .resetResponse => .wait
  | .discover => .call .cmdDiscover .discoverResponse
  | .discoverResponse => .wait
  | .discovering => .wait
  | .deactivate => .call .cmdDeactivate .deactivateResponse
  | .deactivateResponse => .wait
  | _ => .fail

/-- The switch of `handleEvent`. -/
def Kind.action : Kind → AppState → Action
  | .tagDump, .dump => .call .cmdDump .dumpResponse
  | .tagDump, .dumpResponse => .wait
  | _, state => commonAction state

/-- What `handleEvent` leaves behind. -/
structure AppHandled where
  state : AppState
  tags : NfcTags
  /-- The command that it called, and the status of the call. -/
  called : Option (AppCmd × TagsStatus)
  lines : List Line

/-- `NfcApps::handleEvent`. -/
def Kind.handleEvent (k : Kind) (state : AppState) (tags : NfcTags) : AppHandled :=
  let (status, state, tags, called) :=
    match k.action state with
    | .call cmd next =>
        let (status, tags) := tags.exec cmd
        (status, next, tags, some (cmd, status))
    | .wait => (TagsStatus.ok, state, tags, none)
    | .fail => (.failed, state, tags, none)
  if status ≠ .ok then
    ⟨.error, tags, called, [.e "TagDetect error: %s status = %d state = %d\n"
      [.str "handleEvent".toList, dec status.code, dec (k.stateCode state)]]⟩
  else
    ⟨state, tags, called, []⟩

/-! ## The callbacks -/

/-- A callback that checks the status and the identifier, then logs and moves on. -/
def responded (status : TagsStatus) (id expected : TagsId) (next : AppState)
    (lines : List Line) : AppState × List Line :=
  if status ≠ .ok ∨ id ≠ expected then (.error, []) else (next, lines)

def cbReset (status : TagsStatus) (id : TagsId) : AppState × List Line :=
  responded status id .reset .discover [.i "TagDetect: NFC stack and HW reseted\n" []]

def cbDiscover (status : TagsStatus) (id : TagsId) : AppState × List Line :=
  responded status id .discover .discovering [.i "TagDetect: NFC stack discovering tags...\n" []]

def cbDeactivate (status : TagsStatus) (id : TagsId) : AppState × List Line :=
  responded status id .deactivate .discovering []

/-- What both sketches log about a tag. -/
def detected (s : Stack) (garbage : NciRfIntf) : List Line :=
  match s.tags.getInterface with
  | some intf =>
      [.i "TagDetect: tag type %d detected\n" [dec (s.getType intf).code],
        .bi "TagDetect: tag NFCID = " ((s.getNfcidBuf intf).map .nfcid) (s.nfcid garbage intf)]
  | none => [.i "TagDetect: unknown tag type detected\n" []]

namespace TagDump

/-- The dump interface is only implemented for type 2 tags. -/
def cbDiscoverNtf (s : Stack) (garbage : NciRfIntf) (status : TagsStatus) (id : TagsId) :
    AppState × List Line :=
  responded status id .discoverActivated
    (if s.tags.getInterface.map s.getType = some .type2 then .dump else .deactivate)
    (detected s garbage)

def cbDump (status : TagsStatus) (id : TagsId) (data : Option TagsDump) (bytes : List UInt8) :
    AppState × List Line :=
  match data with
  | none => (.error, [])
  | some dump =>
      responded status id .dump (if dump.more ≠ 0 then .dumpResponse else .deactivate)
        [.bi "TagDetect: tag dump = " (if dump.buf = .null then none else some (.data dump.buf))
          bytes]

end TagDump

namespace TagDetect

/-- The last assignment is made in every case. -/
def cbDiscoverNtf (s : Stack) (garbage : NciRfIntf) (status : TagsStatus) (id : TagsId) :
    AppState × List Line :=
  let (_, lines) := responded status id .discoverActivated .error (detected s garbage)
  (.deactivate, lines)

/-- Unused: the sketch only detects tags. -/
def cbDump (state : AppState) : AppState × List Line := (state, [])

end TagDetect

def Kind.cbDiscoverNtf : Kind → Stack → NciRfIntf → TagsStatus → TagsId → AppState × List Line
  | .tagDump => TagDump.cbDiscoverNtf
  | .tagDetect => TagDetect.cbDiscoverNtf

def Kind.cbDump (k : Kind) (state : AppState) (status : TagsStatus) (id : TagsId)
    (data : Option TagsDump) (bytes : List UInt8) : AppState × List Line :=
  match k with
  | .tagDump => TagDump.cbDump status id data bytes
  | .tagDetect => TagDetect.cbDump state

/-- A call on the callback object; `s` is the stack that the getters ask. -/
def Kind.callback (k : Kind) (s : Stack) (garbage : NciRfIntf) (state : AppState)
    (c : TagsCall) (bytes : List UInt8) : AppState × List Line :=
  match c.method with
  | .cbReset => cbReset c.status c.id
  | .cbDiscover => cbDiscover c.status c.id
  | .cbDiscoverNtf => k.cbDiscoverNtf s garbage c.status c.id
  | .cbDeactivate => cbDeactivate c.status c.id
  | .cbDump => k.cbDump state c.status c.id c.data bytes

end Sketch
end ArduinoNfc
