import ArduinoNfc.Controller.RfAgreement
import ArduinoNfc.Nci.ActivationRecord
import ArduinoNfc.Sketch.Commands
import ArduinoNfc.Tags.DumpTransfer

/-!
# A sketch in the field

The loop of a sketch together with the world that it is made for: a transport that takes
every byte, a controller that answers each command once and with success, and tags that
come one after the other and answer their `READ` commands.  What the environment decides
is when a tag comes, what it is, and when credits arrive, within two limits.  No credit
comes between a command and its response, where the sketch would send the command again.
And the controller announces the deactivation of a tag before it activates the next one.

`Linked` says what the application, the stack and the controller know of each other
between any two calls in the loop.
-/

namespace ArduinoNfc
namespace Sketch

open Foundation Nci Tags Log Controller

/-! ## The environment -/

/-- A tag, with the memory that it has if it is of type 2. -/
structure Tag where
  record : ActivationRecord
  memory : Type2Memory

/-- A tag that was activated, and the number of `READ` commands that it answered. -/
structure Visit where
  tag : Tag
  answered : Nat

/-- The controller. -/
structure Nfcc where
  rf : RfState
  /-- The commands that it has not answered, the oldest one first. -/
  unanswered : List NciCmd
  /-- The `READ` commands that the tag has not answered. -/
  reads : List UInt8
  /-- The notification of a deactivation is still to come. -/
  leaving : Bool
  /-- The tags that it has activated, the last one first. -/
  visits : List Visit

/-- A sketch in the field. -/
structure Field where
  loop : Runtime
  nfcc : Nfcc

def Field.init : Field := ⟨Runtime.init, ⟨.idle, [], [], false, []⟩⟩

/-- One call in the loop; what the controller sends lets the last one return. -/
inductive FieldEvent where
  | app
  | tags (junk : UInt8)
  /-- The controller answers the oldest command. -/
  | answer (pkt : Packet) (garbage : NciRfIntf)
  /-- It activates a tag. -/
  | activate (tag : Tag) (garbage : NciRfIntf)
  /-- It returns a credit. -/
  | credits (pkt : Packet) (garbage : NciRfIntf)
  /-- The tag answers the oldest `READ`. -/
  | chunk (pkt : Packet) (garbage : NciRfIntf)
  /-- The controller has deactivated the tag. -/
  | deactivated (pkt : Packet) (garbage : NciRfIntf)

/-- What happens in the loop. -/
def FieldEvent.loop : FieldEvent → LoopEvent
  | .app => .app
  | .tags junk => .tags acceptAll junk
  | .answer pkt garbage => .nci pkt garbage
  | .activate tag garbage => .nci tag.record.packet garbage
  | .credits pkt garbage => .nci pkt garbage
  | .chunk pkt garbage => .nci pkt garbage
  | .deactivated pkt garbage => .nci pkt garbage

/-- A `READ` command that reached the tag. -/
def sentRead : StackOutput → Option UInt8
  | .nciCmd (.dataSend _ _) status (some bytes) =>
      if status = nciStatusOk then readOf bytes else none
  | _ => none

namespace Nfcc

/-- The oldest command, and the message that answers it. -/
def owed (c : Nfcc) : Option NciMsg := c.unanswered.head?.bind response

/-- What the host has sent arrives. -/
def sent (c : Nfcc) (out : List StackOutput) : Nfcc :=
  { c with
    unanswered := c.unanswered ++ out.filterMap sentCmd
    reads := c.reads ++ out.filterMap sentRead }

/-- The oldest command is performed. -/
def perform (c : Nfcc) (m : NciMsg) : Nfcc :=
  { c with
    rf := (c.rf.after m).getD c.rf
    unanswered := c.unanswered.tail
    leaving := c.leaving || m = .rspRfDeactivate }

/-- The tag has answered the oldest `READ`. -/
def read (c : Nfcc) : Nfcc :=
  { c with
    reads := c.reads.tail
    visits := c.visits.modifyHead fun v => { v with answered := v.answered + 1 } }

end Nfcc

/-- The sketch, its controller and the tags. -/
def fieldSystem (k : Kind) : LabelledSystem Field FieldEvent LoopOutput where
  enabled f e :=
    match e with
    | .app => f.loop.turn = .app
    | .tags _ => f.loop.turn = .tags
    | .answer pkt _ => f.loop.turn = .nci ∧ ∃ m ∈ f.nfcc.owed,
        pkt.Carries m ∧ m.WellFormed pkt ∧ f.nfcc.rf.after m ≠ none
    | .activate _ _ => f.loop.turn = .nci ∧ f.nfcc.rf = .discovery ∧ f.nfcc.leaving = false
    | .credits pkt _ => f.loop.turn = .nci ∧ pkt.IsCredits ∧ f.nfcc.unanswered = []
    | .chunk pkt _ => f.loop.turn = .nci ∧ pkt.IsData ∧ ∃ block ∈ f.nfcc.reads.head?,
        ∃ v ∈ f.nfcc.visits.head?, pkt.payload = v.tag.memory.read block ++ [0]
    | .deactivated pkt _ => f.loop.turn = .nci ∧ f.nfcc.leaving = true ∧
        pkt.Carries .ntfRfDeactivate ∧ NciMsg.ntfRfDeactivate.WellFormed pkt
  next f e :=
    { loop := (loopSystem k).next f.loop e.loop
      nfcc :=
        match e with
        | .app => f.nfcc
        | .tags junk => f.nfcc.sent (f.loop.stackOut (.tags acceptAll junk))
        | .answer _ _ =>
            match f.nfcc.owed with
            | none => f.nfcc
            | some m => f.nfcc.perform m
        | .activate tag _ =>
            { f.nfcc with rf := .pollActive, visits := ⟨tag, 0⟩ :: f.nfcc.visits }
        | .credits _ _ => f.nfcc
        | .chunk _ _ => f.nfcc.read
        | .deactivated _ _ => { f.nfcc with leaving := false } }
  emit f e := (loopSystem k).emit f.loop e.loop

instance (k : Kind) (f : Field) : ∀ e, Decidable ((fieldSystem k).enabled f e)
  | .app => inferInstanceAs (Decidable (f.loop.turn = .app))
  | .tags _ => inferInstanceAs (Decidable (f.loop.turn = .tags))
  | .answer pkt _ => inferInstanceAs (Decidable (f.loop.turn = .nci ∧ ∃ m ∈ f.nfcc.owed,
      pkt.Carries m ∧ m.WellFormed pkt ∧ f.nfcc.rf.after m ≠ none))
  | .activate _ _ => inferInstanceAs (Decidable (_ ∧ _ ∧ _))
  | .credits pkt _ => inferInstanceAs (Decidable (_ ∧ pkt.IsCredits ∧ f.nfcc.unanswered = []))
  | .chunk pkt _ => inferInstanceAs (Decidable (_ ∧ pkt.IsData ∧
      ∃ block ∈ f.nfcc.reads.head?, ∃ v ∈ f.nfcc.visits.head?, _ = _))
  | .deactivated _ _ => inferInstanceAs (Decidable (_ ∧ _ ∧ _ ∧ _))

/-! ## What a sketch says of a tag -/

/-- The type that the interface of a tag reports. -/
def TagIntf.type : TagIntf → TagsType
  | .tag2 => .type2
  | .tagMifare => .mifare

namespace Tag

/-- The interface that the tag calls for. -/
def intf (tag : Tag) : Option TagIntf := classify tag.record.packet

/-- The identifier of an NFC-A tag. -/
def nfcid (tag : Tag) : List UInt8 :=
  match tag.record.tech with
  | .pollA params => params.nfcid
  | .other _ _ _ _ => []

/-- The lines about a tag that is found. -/
def found (tag : Tag) : List Line :=
  match tag.intf with
  | some intf =>
      [.i "TagDetect: tag type %d detected\n" [dec (TagIntf.type intf).code],
        .bi "TagDetect: tag NFCID = " (some (.nfcid .rfIntf)) tag.nfcid]
  | none => [.i "TagDetect: unknown tag type detected\n" []]

/-- The line about a chunk of its memory. -/
def chunk (tag : Tag) (n : Nat) : Line :=
  .bi "TagDetect: tag dump = " (some (.data (.rxBuf 3))) (tag.memory.read (chunkBlock n))

/-- The lines about a tag and its first chunks. -/
def report (tag : Tag) (chunks : Nat) : List Line :=
  tag.found ++ (List.range chunks).map tag.chunk

end Tag

/-- The sketch dumps the tag. -/
def Kind.Dumps (k : Kind) (tag : Tag) : Prop := k = .tagDump ∧ tag.intf = some .tag2

instance (k : Kind) (tag : Tag) : Decidable (k.Dumps tag) := inferInstanceAs (Decidable (_ ∧ _))

/-- The number of chunks that the sketch reads. -/
def Kind.chunks (k : Kind) (tag : Tag) : Nat := if k.Dumps tag then 4 else 0

/-- The lines about the start of the sketch, by the state of the application. -/
def AppState.startLines : AppState → List Line
  | .reset => []
  | .resetResponse => []
  | .discover => [.i "TagDetect: NFC stack and HW reseted\n" []]
  | .discoverResponse => [.i "TagDetect: NFC stack and HW reseted\n" []]
  | _ => [.i "TagDetect: NFC stack and HW reseted\n" [],
      .i "TagDetect: NFC stack discovering tags...\n" []]

/-- All that the sketch has logged. -/
def Field.logged (f : Field) : List Line :=
  f.loop.app.startLines ++ f.nfcc.visits.reverse.flatMap fun v => v.tag.report v.answered

/-! ## The invariant -/

/-- The sketch is done with the tags. -/
def Kind.AllDone (k : Kind) (visits : List Visit) : Prop :=
  ∀ v ∈ visits, v.answered = k.chunks v.tag

/-- The tags that have come, by the state of the application. -/
def Visiting (k : Kind) (f : Field) : Prop :=
  match f.loop.app with
  | .discovering => k.AllDone f.nfcc.visits
  | .dump => ∃ v past, f.nfcc.visits = v :: past ∧ k.Dumps v.tag ∧ v.answered = 0 ∧
      k.AllDone past
  | .dumpResponse => ∃ v past, f.nfcc.visits = v :: past ∧ k.Dumps v.tag ∧ v.answered < 4 ∧
      f.loop.stack.tags.tag2.block = chunkBlock v.answered ∧ k.AllDone past
  | .deactivate => k.AllDone f.nfcc.visits
  | .deactivateResponse => k.AllDone f.nfcc.visits
  | _ => f.nfcc.visits = []

/-- What the controller knows goes with what the host does. -/
structure Linked (k : Kind) (f : Field) : Prop where
  named : rfNamed f.loop.stack.nci.state = some f.nfcc.rf
  leaving : f.nfcc.leaving = true ↔ f.loop.stack.tags.state = .deactivateRsp
  /-- The pending command is the one that the controller has to answer, once it is sent. -/
  unanswered : f.nfcc.unanswered =
    if f.loop.turn = .nci then f.loop.stack.tags.pending.toList else []
  reads : f.nfcc.reads =
    if f.loop.app = .dumpResponse ∧ f.loop.stack.tags.tag2.state = .dumpRsp then
      [f.loop.stack.tags.tag2.block]
    else []
  asked : f.loop.turn = .nci → f.loop.app = .dumpResponse →
    f.loop.stack.tags.tag2.state = .dumpRsp
  dumped : f.loop.app = .dumpResponse → f.loop.stack.tags.state = .dump
  visiting : Visiting k f

end Sketch
end ArduinoNfc
