import ArduinoNfc.Sketch.Definitions
import ArduinoNfc.Tags.LayerAgreement

/-!
# The loop of a sketch

`loop` calls the three `handleEvent` functions in turn, forever.  The last one blocks
until the controller has a packet, so it is always called with one.  A callback is the
last thing that a handler does, and no callback of a sketch calls a command, so the
callbacks act on the application's state once the handler is done.

The loop drives the stack as any application does: `stack_reachable` lets everything
that holds in the reachable states of the stack hold here.
-/

namespace ArduinoNfc
namespace Sketch

open Foundation Nci Tags Log

/-- The function that `loop` calls next. -/
inductive Turn where
  | app
  | tags
  | nci
  deriving DecidableEq, Repr

/-- A sketch that runs. -/
structure Runtime where
  app : AppState
  stack : Stack
  turn : Turn

/-- After `setup`. -/
def Runtime.init : Runtime := ⟨.reset, Stack.init, .app⟩

/-- One call in the loop. -/
inductive LoopEvent where
  /-- `_app.handleEvent()`. -/
  | app
  /-- `_tags.handleEvent()`. -/
  | tags (hw : HwWrite) (junk : UInt8)
  /-- `_nci.handleEvent()`, which the controller lets return with a packet. -/
  | nci (pkt : Packet) (garbage : NciRfIntf)

/-- What can be observed of a sketch. -/
inductive LoopOutput where
  | command (cmd : AppCmd) (status : TagsStatus)
  | stack (o : StackOutput)
  | line (l : Line)

/-- The callbacks among what the stack shows, in order. -/
def Kind.called (k : Kind) (s : Stack) (garbage : NciRfIntf) :
    AppState → List StackOutput → AppState × List Line
  | state, [] => (state, [])
  | state, .call c bytes :: out =>
      let (state, lines) := k.callback s garbage state c bytes
      let (state, later) := k.called s garbage state out
      (state, lines ++ later)
  | state, .nciCmd _ _ _ :: out => k.called s garbage state out

variable (k : Kind)

/-- The runtime after one of the two handlers of the stack. -/
def Runtime.handled (r : Runtime) (turn : Turn) (garbage : NciRfIntf)
    (run : Stack × List StackOutput) : Runtime :=
  ⟨(k.called run.1 garbage r.app run.2).1, run.1, turn⟩

/-- What is observed of it. -/
def Runtime.shown (r : Runtime) (garbage : NciRfIntf) (run : Stack × List StackOutput) :
    List LoopOutput :=
  run.2.map .stack ++ (k.called run.1 garbage r.app run.2).2.map .line

/-- `NfcApps::handleEvent` of the sketch that runs. -/
def Runtime.appRun (r : Runtime) : AppHandled := k.handleEvent r.app r.stack.tags

/-- The loop of a sketch. -/
def loopSystem : LabelledSystem Runtime LoopEvent LoopOutput where
  enabled r e :=
    match e with
    | .app => r.turn = .app
    | .tags _ _ => r.turn = .tags
    | .nci pkt _ => r.turn = .nci ∧ r.stack.nci.NfcidFits pkt
  next r e :=
    match e with
    | .app => ⟨(r.appRun k).state, { r.stack with tags := (r.appRun k).tags }, .tags⟩
    -- a failure is all that `NfcTags::handleEvent` reports: the getters are not asked
    | .tags hw junk => r.handled k .nci NciRfIntf.zero (r.stack.handleEvent hw junk)
    | .nci pkt garbage => r.handled k .app garbage (r.stack.receive pkt garbage)
  emit r e :=
    match e with
    | .app =>
        (r.appRun k).called.toList.map (fun c => .command c.1 c.2) ++
          (r.appRun k).lines.map .line
    | .tags hw junk => r.shown k NciRfIntf.zero (r.stack.handleEvent hw junk)
    | .nci pkt garbage => r.shown k garbage (r.stack.receive pkt garbage)

instance (r : Runtime) : ∀ e, Decidable ((loopSystem k).enabled r e)
  | .app => inferInstanceAs (Decidable (r.turn = .app))
  | .tags _ _ => inferInstanceAs (Decidable (r.turn = .tags))
  | .nci pkt _ => inferInstanceAs (Decidable (r.turn = .nci ∧ r.stack.nci.NfcidFits pkt))

variable {k}

@[simp] theorem loop_next_app (r : Runtime) : (loopSystem k).next r .app =
    ⟨(r.appRun k).state, { r.stack with tags := (r.appRun k).tags }, .tags⟩ := rfl

@[simp] theorem loop_next_tags (r : Runtime) (hw : HwWrite) (junk : UInt8) :
    (loopSystem k).next r (.tags hw junk) =
      r.handled k .nci NciRfIntf.zero (r.stack.handleEvent hw junk) := rfl

@[simp] theorem loop_next_nci (r : Runtime) (pkt : Packet) (garbage : NciRfIntf) :
    (loopSystem k).next r (.nci pkt garbage) =
      r.handled k .app garbage (r.stack.receive pkt garbage) := rfl

@[simp] theorem loop_emit_app (r : Runtime) : (loopSystem k).emit r .app =
    (r.appRun k).called.toList.map (fun c => .command c.1 c.2) ++
      (r.appRun k).lines.map .line := rfl

@[simp] theorem loop_emit_tags (r : Runtime) (hw : HwWrite) (junk : UInt8) :
    (loopSystem k).emit r (.tags hw junk) =
      r.shown k NciRfIntf.zero (r.stack.handleEvent hw junk) := rfl

@[simp] theorem loop_emit_nci (r : Runtime) (pkt : Packet) (garbage : NciRfIntf) :
    (loopSystem k).emit r (.nci pkt garbage) =
      r.shown k garbage (r.stack.receive pkt garbage) := rfl

/-! ## What is shown -/

theorem lines_none {β : Type*} {shown : LoopOutput → Option β} (hline : ∀ l, shown (.line l) = none)
    (lines : List Line) : (lines.map LoopOutput.line).filterMap shown = [] := by
  refine List.filterMap_eq_nil_iff.mpr fun o ho => ?_
  obtain ⟨l, -, rfl⟩ := List.mem_map.mp ho
  exact hline l

/-- What is neither a callback nor a line is not shown by a handler of the stack. -/
theorem shown_none {β : Type*} {shown : LoopOutput → Option β}
    (hstack : ∀ o, shown (.stack o) = none) (hline : ∀ l, shown (.line l) = none) (r : Runtime)
    (garbage : NciRfIntf) (run : Stack × List StackOutput) :
    (r.shown k garbage run).filterMap shown = [] := by
  rw [Runtime.shown, List.filterMap_append, lines_none hline, List.append_nil]
  refine List.filterMap_eq_nil_iff.mpr fun o ho => ?_
  obtain ⟨o, -, rfl⟩ := List.mem_map.mp ho
  exact hstack o

/-! ## Callbacks -/

@[simp] theorem called_nil (s : Stack) (garbage : NciRfIntf) (state : AppState) :
    k.called s garbage state [] = (state, []) := rfl

@[simp] theorem called_nciCmd (s : Stack) (garbage : NciRfIntf) (state : AppState) (cmd : NciCmd)
    (status : UInt8) (written : Option (List UInt8)) (out : List StackOutput) :
    k.called s garbage state (.nciCmd cmd status written :: out) =
      k.called s garbage state out := rfl

@[simp] theorem called_call (s : Stack) (garbage : NciRfIntf) (state : AppState) (c : TagsCall)
    (bytes : List UInt8) :
    k.called s garbage state [.call c bytes] = k.callback s garbage state c bytes := by
  simp [Kind.called]

/-- Without a call, the application stays where it is. -/
theorem called_of_callsOf_nil {s : Stack} (garbage : NciRfIntf) {state : AppState}
    {out : List StackOutput} (h : callsOf out = []) :
    k.called s garbage state out = (state, []) := by
  induction out with
  | nil => rfl
  | cons o out ih =>
      cases o with
      | nciCmd cmd status written => exact ih h
      | call c bytes => cases h

/-- A handler calls back once at most, and last. -/
inductive CallsLast (out : List StackOutput) : Prop where
  | none (h : callsOf out = [])
  | last (before : List StackOutput) (h : callsOf before = []) (c : TagsCall)
      (bytes : List UInt8) (out_eq : out = before ++ [.call c bytes])

theorem callsLast_poll (s : Stack) (hw : HwWrite) (junk : UInt8) :
    CallsLast (s.handleEvent hw junk).2 := by
  cases poll_cases s hw junk with
  | issued cmd _ _ out_eq =>
      obtain ⟨status, -, hout⟩ := out_eq
      rw [hout]
      split_ifs
      · exact .none rfl
      · exact .last [_] rfl _ _ rfl
  | idle _ _ out_eq => rw [out_eq]; exact .none rfl
  | deactivated _ _ _ _ out_eq => rw [out_eq]; exact .none rfl
  | failed _ _ _ _ out_eq => rw [out_eq]; exact .last [] rfl _ _ rfl

theorem callsLast_receive {s : Stack} (hcb : s.nci.cbRegistered = true) (pkt : Packet)
    (garbage : NciRfIntf) : CallsLast (s.receive pkt garbage).2 := by
  cases stack_receive_cases hcb pkt garbage with
  | accepted m _ _ _ _ _ _ _ out_eq =>
      rw [out_eq]
      split_ifs
      · exact .last [] rfl _ _ rfl
      · exact .none rfl
  | refused m _ _ _ _ _ _ _ _ _ out_eq => rw [out_eq]; exact .last [] rfl _ _ rfl
  | chunk _ _ _ id _ _ _ run_eq =>
      rw [(Prod.mk.inj run_eq).2]
      cases hid : s.tags.tag2.id with
      | none => exact .none rfl
      | dump => exact .last [] rfl _ _ rfl
  | dropped _ _ _ _ _ _ _ out_eq => rw [out_eq]; exact .none rfl
  | other _ _ _ _ out_eq => rw [out_eq]; exact .none rfl

/-- What comes before the call changes nothing for the application. -/
theorem called_last {s : Stack} (garbage : NciRfIntf) (state : AppState)
    {out : List StackOutput} (h : callsOf out = []) (c : TagsCall) (bytes : List UInt8) :
    k.called s garbage state (out ++ [.call c bytes]) = k.callback s garbage state c bytes := by
  induction out with
  | nil => exact called_call s garbage state c bytes
  | cons o out ih =>
      cases o with
      | nciCmd cmd status written => exact ih h
      | call c bytes => cases h

/-- A failure moves `TagDump` to `ERROR`, whatever it is about. -/
theorem callback_failed_tagDump (s : Stack) (garbage : NciRfIntf) (state : AppState)
    {c : TagsCall} (h : c.status ≠ .ok) (bytes : List UInt8) :
    Kind.callback .tagDump s garbage state c bytes = (.error, []) := by
  obtain ⟨method, status, id, data⟩ := c
  have hfailed : ∀ expected next lines, responded status id expected next lines = (.error, []) :=
    fun _ _ _ => if_pos (Or.inl h)
  cases method with
  | cbDump =>
      cases data with
      | none => rfl
      | some dump => exact hfailed _ _ _
  | _ => exact hfailed _ _ _

/-- The failure of any other message than an activation moves `TagDetect` to `ERROR`. -/
theorem callback_failed_tagDetect (s : Stack) (garbage : NciRfIntf) (state : AppState)
    {m : NciMsg} (hm : m ≠ .ntfRfIntfActivated) {status : TagsStatus} (h : status ≠ .ok) :
    Kind.callback .tagDetect s garbage state ⟨reportMethod m, status, reportId m, none⟩ [] =
      (.error, []) := by
  have hfailed : ∀ id expected next lines,
      responded status id expected next lines = (.error, []) := fun _ _ _ _ => if_pos (Or.inl h)
  cases m with
  | ntfRfIntfActivated => exact absurd rfl hm
  | _ => exact hfailed _ _ _ _

/-! ## `NfcApps::handleEvent` -/

/-- What a turn of the application does. -/
inductive AppTurn (k : Kind) (r : Runtime) (h : AppHandled) : Prop where
  /-- It calls a command, which is accepted. -/
  | accepted (cmd : AppCmd) (next : AppState) (action : k.action r.app = .call cmd next)
      (status_eq : (r.stack.tags.exec cmd).1 = .ok) (state_eq : h.state = next)
      (tags_eq : h.tags = (r.stack.tags.exec cmd).2) (called_eq : h.called = some (cmd, .ok))
      (lines_eq : h.lines = [])
  /-- It calls a command, which is refused. -/
  | refused (cmd : AppCmd) (next : AppState) (action : k.action r.app = .call cmd next)
      (status_ne : (r.stack.tags.exec cmd).1 ≠ .ok) (state_eq : h.state = .error)
      (tags_eq : h.tags = r.stack.tags)
      (called_eq : h.called = some (cmd, (r.stack.tags.exec cmd).1))
  | waits (action : k.action r.app = .wait) (state_eq : h.state = r.app)
      (tags_eq : h.tags = r.stack.tags) (called_eq : h.called = none) (lines_eq : h.lines = [])
  | fails (action : k.action r.app = .fail) (state_eq : h.state = .error)
      (tags_eq : h.tags = r.stack.tags) (called_eq : h.called = none)

theorem app_cases (r : Runtime) : AppTurn k r (r.appRun k) := by
  unfold Runtime.appRun Kind.handleEvent
  cases hact : k.action r.app with
  | call cmd next =>
      by_cases hstatus : (r.stack.tags.exec cmd).1 = .ok
      · refine .accepted cmd next hact hstatus ?_ ?_ ?_ ?_ <;> simp [hstatus]
      · -- a refused command leaves the stack as it was
        have hsame : (r.stack.tags.exec cmd).2 = r.stack.tags := by
          cases exec_cases r.stack.tags cmd with
          | reset _ status_eq _ => exact absurd status_eq hstatus
          | discover _ _ status_eq _ => exact absurd status_eq hstatus
          | deactivate _ _ status_eq _ => exact absurd status_eq hstatus
          | dump _ _ _ _ status_eq _ => exact absurd status_eq hstatus
          | refused _ _ _ tags_eq => exact tags_eq
        refine .refused cmd next hact hstatus ?_ ?_ ?_ <;> simp [hstatus, hsame]
  | wait => exact .waits hact rfl rfl rfl rfl
  | fail => exact .fails hact rfl rfl rfl

/-! ## The stack below -/

/-- The loop drives the stack by steps that the stack may take. -/
theorem stack_reachable_next {r : Runtime} {e : LoopEvent} (h : r.stack.Reachable)
    (hen : (loopSystem k).enabled r e) : ((loopSystem k).next r e).stack.Reachable := by
  cases e with
  | app =>
      rw [loop_next_app]
      cases app_cases (k := k) r with
      | accepted cmd _ _ _ _ tags_eq _ _ =>
          rw [tags_eq]
          exact h.next (e := .app cmd) trivial
      | refused _ _ _ _ _ tags_eq _ => rw [tags_eq]; exact h
      | waits _ _ tags_eq _ _ => rw [tags_eq]; exact h
      | fails _ _ tags_eq _ => rw [tags_eq]; exact h
  | tags hw junk => exact h.next (e := .poll hw junk) trivial
  | nci pkt garbage => exact h.next (e := .receive pkt garbage) hen.2

theorem stack_reachable {es : List LoopEvent} (hlegal : (loopSystem k).Legal Runtime.init es) :
    ((loopSystem k).run Runtime.init es).stack.Reachable :=
  LabelledSystem.run_invariant (I := fun r : Runtime => r.stack.Reachable)
    (fun _ _ h hen => stack_reachable_next h hen) ⟨[], trivial, rfl⟩ hlegal

end Sketch
end ArduinoNfc
