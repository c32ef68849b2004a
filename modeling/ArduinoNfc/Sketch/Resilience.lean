import ArduinoNfc.Foundation.Progress
import ArduinoNfc.Sketch.Recovery

/-!
# `TagDetect`, whatever happens

`TagDetect` never dumps, and this is all that it takes to get over any failure.  Whatever
the controller sends and the transport does, `NfcTags` goes from one command to the next in
order (`tagDetect_commands`): the sketch may be in `ERROR` meanwhile, or call a deactivation
in vain, but the handlers go on, and `NfcTags` repeats the command that it waits for.  So two
answers are enough, and the sketch is where it would be without the failure
(`tagDetect_heals`).
-/

namespace ArduinoNfc
namespace Sketch

open Foundation Nci Tags Log

/-! ## What the sketch follows -/

/-- The state of the sketch that goes with a state of `NfcTags`.  The last three are not
reached: nothing is dumped, and the source assigns two of them nowhere. -/
def follows : TagsState → AppState
  | .none => .reset
  | .initReset => .resetResponse
  | .initInit => .resetResponse
  | .initDone => .discover
  | .discoverMap => .discoverResponse
  | .discover => .discoverResponse
  | .discoverNtf => .discovering
  | .discoverActivated => .deactivate
  | .deactivate => .deactivateResponse
  | .deactivateRsp => .deactivateResponse
  | .deactivateNtf => .error
  | .dump => .error
  | .dumpRsp => .error

/-- The command that `NfcTags` works on. -/
def command : TagsState → Option TagsId
  | .initReset => some .reset
  | .initInit => some .reset
  | .discoverMap => some .discover
  | .discover => some .discover
  | .discoverNtf => some .discover
  | .deactivate => some .deactivate
  | .deactivateRsp => some .deactivate
  | _ => none

/-- The messages that `NfcTags` waits for. -/
def asked : TagsState → List NciMsg
  | .initReset => [.rspCoreReset]
  | .initInit => [.rspCoreInit]
  | .discoverMap => [.rspRfDiscoverMap]
  | .discover => [.rspRfDiscover]
  | .discoverNtf => [.ntfRfIntfActivated, .ntfRfDeactivate]
  | .deactivate => [.rspRfDeactivate]
  | .deactivateRsp => [.ntfRfIntfActivated, .ntfRfDeactivate]
  | _ => []

/-- How many of them come before the one that is reported. -/
def unreported : TagsState → Nat
  | .initReset => 1
  | .discoverMap => 1
  | .deactivate => 1
  | _ => 0

/-- How far the use of `NfcTags` is, by its state. -/
def phaseOf : TagsState → Phase
  | .none => .fresh
  | .initReset => .ready
  | .initInit => .ready
  | .initDone => .ready
  | _ => .searching

/-- In these states it is up to the sketch to go on. -/
def Calls (state : TagsState) : Prop :=
  state = .none ∨ state = .initDone ∨ state = .discoverActivated

instance (state : TagsState) : Decidable (Calls state) := inferInstanceAs (Decidable (_ ∨ _ ∨ _))

/-- A dump is under way, or one of the states that are never entered. -/
def Strange (state : TagsState) : Prop := state = .dump ∨ state.Unused

instance (state : TagsState) : Decidable (Strange state) := inferInstanceAs (Decidable (_ ∨ _))

/-- The sketch is where it would be without a failure. -/
def InStep (r : Runtime) : Prop := r.app = follows r.stack.tags.state

instance (r : Runtime) : Decidable (InStep r) := inferInstanceAs (Decidable (_ = _))

/-- A command that is accepted, among what is observed. -/
def LoopOutput.granted : LoopOutput → Option AppCmd
  | .command cmd status => if status = .ok then some cmd else none
  | _ => none

/-! ## The invariant -/

/-- What holds of `NfcTags` while the sketch runs. -/
structure Detects (s : Stack) : Prop where
  tag2_id : s.tags.tag2.id = .none
  usual : ¬ Strange s.tags.state
  id_eq : ∀ id ∈ command s.tags.state, s.tags.id = id
  fresh : s.tags.state = .none ∨ s.tags.state = .initReset → s.nci.state = .none

/-- What holds whatever happens.  When the sketch is not in step, nothing is up to it. -/
structure Resilient (r : Runtime) : Prop where
  reachable : r.stack.Reachable
  detects : Detects r.stack
  app_eq : InStep r ∨ r.app = .error ∨ r.app = .deactivate
  turn : Calls r.stack.tags.state → InStep r ∧ r.turn = .app

theorem resilient_init : Resilient Runtime.init where
  reachable := ⟨[], trivial, rfl⟩
  detects := ⟨rfl, by decide, by decide, fun _ => rfl⟩
  app_eq := Or.inl rfl
  turn := fun _ => ⟨rfl, rfl⟩

/-- What a step comes to. -/
structure GoesOn (r : Runtime) (e : LoopEvent) : Prop where
  resilient : Resilient ((loopSystem .tagDetect).next r e)
  /-- A command is accepted, or it is a deactivation in vain. -/
  results : ∀ result ∈ ((loopSystem .tagDetect).emit r e).filterMap LoopOutput.result,
    result.2 = .ok ∨ result = (.cmdDeactivate, .rejected) ∧ ¬ InStep r
  usage : (usage .tagDetect).run (phaseOf r.stack.tags.state)
      (((loopSystem .tagDetect).emit r e).filterMap LoopOutput.granted) =
    some (phaseOf ((loopSystem .tagDetect).next r e).stack.tags.state)
  /-- A success puts the sketch in step. -/
  success : ∀ c ∈ callsOf (r.stackOut e), c.status = .ok →
    InStep ((loopSystem .tagDetect).next r e)
  /-- Only a failure puts it out of step. -/
  failure : InStep r → CallsOk r e → InStep ((loopSystem .tagDetect).next r e)

variable {r : Runtime}

/-- In step, the sketch is not in `ERROR`. -/
theorem Resilient.app_ne (h : Resilient r) (hstep : InStep r) : r.app ≠ .error := by
  have husual := h.detects.usual
  rw [hstep]
  revert husual
  cases r.stack.tags.state <;> decide

theorem detects_of {s : Stack} (state : TagsState) (id : TagsId) (hstate : s.tags.state = state)
    (hid : s.tags.id = id) (htag2 : s.tags.tag2.id = .none) (husual : ¬ Strange state)
    (hcommand : ∀ id' ∈ command state, id = id')
    (hfresh : state = .none ∨ state = .initReset → s.nci.state = .none) : Detects s := by
  subst hstate hid
  exact ⟨htag2, husual, hcommand, hfresh⟩

/-! ## The turn of the application -/

/-- What the sketch does when it is in step. -/
inductive InStepTurn (s : Stack) : Prop where
  | calls (cmd : AppCmd) (t : NfcTags)
      (action : Kind.action .tagDetect (follows s.tags.state) = .call cmd (follows t.state))
      (exec_eq : s.tags.exec cmd = (.ok, t)) (detects : Detects { s with tags := t })
      (waits : ¬ Calls t.state)
      (phase : (usage .tagDetect).step (phaseOf s.tags.state) cmd = some (phaseOf t.state))
  | waits (action : Kind.action .tagDetect (follows s.tags.state) = .wait)
      (waits : ¬ Calls s.tags.state)

theorem inStep_turn {s : Stack} (h : Detects s) : InStepTurn s := by
  cases hstate : s.tags.state with
  | none =>
      have hnci := h.fresh (Or.inl hstate)
      refine .calls .cmdReset _ (by rw [hstate]; rfl) rfl ?_ ?_ (by rw [hstate]; rfl)
      · exact detects_of .initReset .reset rfl rfl h.tag2_id (by decide) (by decide)
          (fun _ => hnci)
      · exact (by decide : ¬ Calls .initReset)
  | initDone =>
      refine .calls .cmdDiscover _ (by rw [hstate]; rfl) (exec_discover hstate) ?_ ?_
        (by rw [hstate]; rfl)
      · exact detects_of .discoverMap .discover rfl rfl h.tag2_id (by decide) (by decide)
          (fun hnot => absurd hnot (by decide))
      · exact (by decide : ¬ Calls .discoverMap)
  | discoverActivated =>
      refine .calls .cmdDeactivate _ (by rw [hstate]; rfl) (exec_deactivate (Or.inl hstate)) ?_ ?_
        (by rw [hstate]; rfl)
      · exact detects_of .deactivate .deactivate rfl rfl h.tag2_id (by decide) (by decide)
          (fun hnot => absurd hnot (by decide))
      · exact (by decide : ¬ Calls .deactivate)
  | deactivateNtf => exact absurd (by rw [hstate]; decide) h.usual
  | dump => exact absurd (by rw [hstate]; decide) h.usual
  | dumpRsp => exact absurd (by rw [hstate]; decide) h.usual
  | _ => exact .waits (by rw [hstate]; rfl) (by rw [hstate]; decide)

/-- Out of step, nothing that the sketch calls is accepted. -/
theorem action_out (h : Resilient r) (hout : ¬ InStep r) {cmd : AppCmd} {next : AppState}
    (haction : Kind.action .tagDetect r.app = .call cmd next) :
    cmd = .cmdDeactivate ∧ r.stack.tags.exec cmd = (.rejected, r.stack.tags) := by
  have happ : r.app = .deactivate := by
    rcases h.app_eq with hin | happ | happ
    · exact absurd hin hout
    · rw [happ] at haction
      cases haction
    · exact happ
  rw [happ] at haction
  cases haction
  refine ⟨rfl, if_neg fun hactive => ?_⟩
  rcases hactive with hstate | hstate
  · exact hout (h.turn (by rw [hstate]; decide)).1
  · exact h.detects.usual (by rw [hstate]; decide)

/-- Out of step, the turn of the sketch comes to `ERROR`. -/
theorem appRun_out (h : Resilient r) (hout : ¬ InStep r) :
    (r.appRun .tagDetect).state = .error ∧ (r.appRun .tagDetect).tags = r.stack.tags ∧
      ∀ result ∈ (r.appRun .tagDetect).called, result = (.cmdDeactivate, .rejected) := by
  cases app_cases (k := .tagDetect) r with
  | accepted cmd next action status_eq _ _ _ _ =>
      rw [(action_out h hout action).2] at status_eq
      cases status_eq
  | refused cmd next action _ state_eq tags_eq called_eq =>
      obtain ⟨rfl, hexec⟩ := action_out h hout action
      refine ⟨state_eq, tags_eq, ?_⟩
      rw [called_eq, hexec]
      rintro result ⟨⟩
      rfl
  | waits action _ _ _ _ =>
      rcases h.app_eq with hin | happ | happ
      · exact absurd hin hout
      · rw [happ] at action
        cases action
      · rw [happ] at action
        cases action
  | fails _ state_eq tags_eq called_eq =>
      refine ⟨state_eq, tags_eq, ?_⟩
      rw [called_eq]
      exact nofun

theorem goesOn_app (h : Resilient r) (hturn : r.turn = .app) : GoesOn r .app := by
  have hreachable := stack_reachable_next (k := .tagDetect) (e := .app) h.reachable hturn
  rw [loop_next_app] at hreachable
  by_cases hin : InStep r
  · cases inStep_turn h.detects with
    | calls cmd t action exec_eq detects waits phase =>
        have hrun : r.appRun .tagDetect = ⟨follows t.state, t, some (cmd, .ok), []⟩ := by
          rw [appRun_accepted (by rw [hin]; exact action) (by rw [exec_eq]), exec_eq]
        rw [hrun] at hreachable
        constructor
        · rw [loop_next_app, hrun]
          exact ⟨hreachable, detects, Or.inl rfl, fun hcalls => absurd hcalls waits⟩
        · rw [loop_emit_app, hrun]
          exact List.forall_mem_singleton.mpr (Or.inl rfl)
        · rw [loop_emit_app, loop_next_app, hrun]
          exact ((usage .tagDetect).run_singleton _ _).trans phase
        · exact List.forall_mem_nil _
        · intro _ _
          rw [loop_next_app, hrun]
          rfl
    | waits action waits =>
        have hrun : r.appRun .tagDetect = ⟨r.app, r.stack.tags, none, []⟩ :=
          appRun_waits (by rw [hin]; exact action)
        rw [hrun] at hreachable
        constructor
        · rw [loop_next_app, hrun]
          exact ⟨hreachable, h.detects, Or.inl hin, fun hcalls => absurd hcalls waits⟩
        · rw [loop_emit_app, hrun]
          exact List.forall_mem_nil _
        · rw [loop_emit_app, loop_next_app, hrun]
          rfl
        · exact List.forall_mem_nil _
        · intro _ _
          rw [loop_next_app, hrun]
          exact hin
  · obtain ⟨hstate, htags, hcalled⟩ := appRun_out h hin
    have hwaits : ¬ Calls r.stack.tags.state := fun hcalls => hin (h.turn hcalls).1
    have hgranted : ((loopSystem .tagDetect).emit r .app).filterMap LoopOutput.granted = [] := by
      rw [loop_emit_app, List.filterMap_append]
      cases hcall : (r.appRun .tagDetect).called with
      | none => exact lines_none (fun _ => rfl) _
      | some result =>
          rw [hcalled result hcall]
          exact lines_none (fun _ => rfl) _
    constructor
    · rw [loop_next_app, hstate, htags]
      rw [htags] at hreachable
      exact ⟨hreachable, h.detects, Or.inr (Or.inl rfl), fun hcalls => absurd hcalls hwaits⟩
    · rw [loop_emit_app, List.filterMap_append, lines_result, List.append_nil]
      cases hcall : (r.appRun .tagDetect).called with
      | none => exact List.forall_mem_nil _
      | some result =>
          rw [hcalled result hcall]
          exact List.forall_mem_singleton.mpr (Or.inr ⟨rfl, hin⟩)
    · rw [hgranted, loop_next_app, htags]
      rfl
    · exact List.forall_mem_nil _
    · exact fun hin' => absurd hin' hin

/-! ## The turns of the stack -/

/-- What the sketch makes of what a handler of the stack reports. -/
inductive Reacts (r : Runtime) (garbage : NciRfIntf) (run : Stack × List StackOutput) : Prop where
  /-- Nothing is reported, and the sketch stays where it is. -/
  | quiet (none : callsOf run.2 = [])
      (follows_eq : follows run.1.tags.state = follows r.stack.tags.state)
      (waits : ¬ Calls run.1.tags.state)
  /-- A failure puts the sketch out of step. -/
  | failed (some : ∃ c ∈ callsOf run.2, c.status ≠ .ok)
      (all : ∀ c ∈ callsOf run.2, c.status ≠ .ok)
      (app_eq : (Kind.called .tagDetect run.1 garbage r.app run.2).1 = .error ∨
        (Kind.called .tagDetect run.1 garbage r.app run.2).1 = .deactivate)
      (waits : ¬ Calls run.1.tags.state)
  /-- A success puts it in step. -/
  | reported (app_eq : (Kind.called .tagDetect run.1 garbage r.app run.2).1 =
      follows run.1.tags.state)

theorem goesOn_handled {e : LoopEvent} {turn : Turn} {garbage : NciRfIntf}
    {run : Stack × List StackOutput} (h : Resilient r)
    (hreachable : ((loopSystem .tagDetect).next r e).stack.Reachable)
    (hnext : (loopSystem .tagDetect).next r e = r.handled .tagDetect turn garbage run)
    (hemit : (loopSystem .tagDetect).emit r e = r.shown .tagDetect garbage run)
    (hout : r.stackOut e = run.2) (hdetects : Detects run.1)
    (hphase : phaseOf run.1.tags.state = phaseOf r.stack.tags.state)
    (hturn : Calls run.1.tags.state → turn = .app) (hreacts : Reacts r garbage run) :
    GoesOn r e := by
  have hstep : InStep (r.handled .tagDetect turn garbage run) ↔
      (Kind.called .tagDetect run.1 garbage r.app run.2).1 = follows run.1.tags.state := Iff.rfl
  have hquiet : callsOf run.2 = [] →
      (Kind.called .tagDetect run.1 garbage r.app run.2).1 = r.app := by
    intro hnone
    rw [called_of_callsOf_nil garbage hnone]
  rw [hnext] at hreachable
  constructor
  · rw [hnext]
    refine ⟨hreachable, hdetects, ?_, fun hcalls => ?_⟩
    · cases hreacts with
      | quiet none follows_eq _ =>
          rcases h.app_eq with hin | happ
          · exact Or.inl (hstep.mpr ((hquiet none).trans (hin.trans follows_eq.symm)))
          · exact Or.inr (happ.imp (hquiet none).trans (hquiet none).trans)
      | failed _ _ app_eq _ => exact Or.inr app_eq
      | reported app_eq => exact Or.inl app_eq
    · refine ⟨?_, hturn hcalls⟩
      cases hreacts with
      | quiet _ _ waits => exact absurd hcalls waits
      | failed _ _ _ waits => exact absurd hcalls waits
      | reported app_eq => exact app_eq
  · rw [hemit, shown_result]
    exact List.forall_mem_nil _
  · rw [hemit, shown_none (fun _ => rfl) (fun _ => rfl), hnext]
    exact congrArg some hphase.symm
  · rw [hout, hnext]
    intro c hc hok
    cases hreacts with
    | quiet none _ _ =>
        rw [none] at hc
        cases hc
    | failed _ all _ _ => exact absurd hok (all c hc)
    | reported app_eq => exact app_eq
  · rw [hnext]
    intro hin hok
    unfold CallsOk at hok
    rw [hout] at hok
    cases hreacts with
    | quiet none follows_eq _ => exact hstep.mpr ((hquiet none).trans (hin.trans follows_eq.symm))
    | failed some _ _ _ =>
        obtain ⟨c, hc, hfailed⟩ := some
        exact absurd (hok c hc) hfailed
    | reported app_eq => exact app_eq

/-- While nothing is up to the sketch, `NfcTags` works on one of three commands. -/
theorem command_cases : ∀ {state : TagsState}, ¬ Calls state → ¬ Strange state →
    command state = some .reset ∨ command state = some .discover ∨
      command state = some .deactivate := by
  intro state
  cases state <;> decide

/-- The failure of a command moves the sketch to `ERROR`. -/
theorem callback_failed_command {s : Stack} (h : Detects s) (hwaits : ¬ Calls s.tags.state)
    (t : Stack) (garbage : NciRfIntf) (state : AppState) {status : TagsStatus}
    (hfailed : status ≠ .ok) :
    Kind.callback .tagDetect t garbage state ⟨s.tags.id.answer, status, s.tags.id, none⟩ [] =
      (.error, []) := by
  have hall : ∀ id expected next lines,
      responded status id expected next lines = (.error, []) :=
    fun _ _ _ _ => if_pos (Or.inl hfailed)
  rcases command_cases hwaits h.usual with hid | hid | hid
  · rw [h.id_eq _ hid]
    exact hall _ _ _ _
  · rw [h.id_eq _ hid]
    exact hall _ _ _ _
  · rw [h.id_eq _ hid]
    exact hall _ _ _ _

/-- A poll leaves what it is about alone. -/
theorem detects_poll {s : Stack} (h : Detects s) (hwaits : ¬ Calls s.tags.state) (hw : HwWrite)
    (junk : UInt8) : (s.handleEvent hw junk).1.tags = s.tags := by
  cases poll_cases s hw junk with
  | issued cmd _ stack_eq _ =>
      have hid : s.tags.id ≠ .dump := by
        rcases command_cases hwaits h.usual with hid | hid | hid <;> rw [h.id_eq _ hid] <;> decide
      rw [stack_eq]
      exact if_neg hid
  | idle _ stack_eq _ => rw [stack_eq]
  | deactivated _ _ state_eq _ _ => exact absurd (Or.inr (Or.inl state_eq)) h.usual
  | failed _ stack_eq _ _ _ => rw [stack_eq]

theorem reacts_poll (h : Resilient r) (hwaits : ¬ Calls r.stack.tags.state) (hw : HwWrite)
    (junk : UInt8) : Reacts r NciRfIntf.zero (r.stack.handleEvent hw junk) := by
  have htags := detects_poll h.detects hwaits hw junk
  have hstill : ¬ Calls (r.stack.handleEvent hw junk).1.tags.state := by rwa [htags]
  have hfollows : follows (r.stack.handleEvent hw junk).1.tags.state =
      follows r.stack.tags.state := by rw [htags]
  have hfailed : ∀ before status, callsOf before = [] → status ≠ TagsStatus.ok →
      (r.stack.handleEvent hw junk).2 =
        before ++ [failureCall r.stack.tags.id.answer r.stack.tags.id status] →
      Reacts r NciRfIntf.zero (r.stack.handleEvent hw junk) := by
    intro before status hbefore hstatus hout
    have hcalls : callsOf (r.stack.handleEvent hw junk).2 =
        [⟨r.stack.tags.id.answer, status, r.stack.tags.id, none⟩] := by
      rw [hout, callsOf_append, hbefore]
      rfl
    refine .failed ?_ ?_ (Or.inl ?_) hstill
    · exact ⟨_, by rw [hcalls]; exact List.mem_singleton.mpr rfl, hstatus⟩
    · rw [hcalls]
      exact List.forall_mem_singleton.mpr hstatus
    · rw [hout, failureCall, called_last _ _ hbefore,
        callback_failed_command h.detects hwaits _ _ _ hstatus]
  cases poll_cases r.stack hw junk with
  | issued cmd _ _ out_eq =>
      obtain ⟨status, hstatus, hout⟩ := out_eq
      by_cases hsent : (r.stack.nci.exec hw cmd).status = nciStatusOk
      · rw [if_pos hsent] at hout
        exact .quiet (by rw [hout]; rfl) hfollows hstill
      · rw [if_neg hsent] at hout
        exact hfailed [_] status rfl hstatus hout
  | idle _ _ out_eq => exact .quiet (by rw [out_eq]; rfl) hfollows hstill
  | deactivated _ _ state_eq _ _ => exact absurd (Or.inr (Or.inl state_eq)) h.detects.usual
  | failed _ _ status status_ne out_eq => exact hfailed [] status rfl status_ne out_eq

theorem goesOn_tags (h : Resilient r) (hturn : r.turn = .tags) (hw : HwWrite) (junk : UInt8) :
    GoesOn r (.tags hw junk) := by
  have hwaits : ¬ Calls r.stack.tags.state := fun hcalls =>
    absurd ((h.turn hcalls).2.symm.trans hturn) nofun
  have htags := detects_poll h.detects hwaits hw junk
  have hdetects : Detects (r.stack.handleEvent hw junk).1 := by
    have hnci := poll_nci_state r.stack hw junk
    constructor
    · rw [htags]
      exact h.detects.tag2_id
    · rw [htags]
      exact h.detects.usual
    · rw [htags]
      exact h.detects.id_eq
    · rw [htags, hnci]
      exact h.detects.fresh
  refine goesOn_handled h (stack_reachable_next h.reachable hturn) (loop_next_tags _ _ _)
    (loop_emit_tags _ _ _) rfl hdetects (by rw [htags]) ?_ (reacts_poll h hwaits hw junk)
  rw [htags]
  exact fun hcalls => absurd hcalls hwaits

/-- The messages that `NfcNci` may accept. -/
def possible : TagsState → List NciMsg
  | .initReset => [.rspCoreReset]
  | .initInit => [.rspCoreInit]
  | .discoverMap => [.rspRfDiscoverMap, .rspRfDiscover]
  | .discover => [.rspRfDiscoverMap, .rspRfDiscover]
  | .discoverNtf => [.ntfRfIntfActivated, .ntfRfDeactivate]
  | .deactivate => [.rspRfDeactivate]
  | .deactivateRsp => [.ntfRfIntfActivated, .ntfRfDeactivate]
  | _ => []

theorem possible_of_accepts {s : Stack} (hagrees : s.Agrees) (h : Detects s)
    (hwaits : ¬ Calls s.tags.state) {m : NciMsg} {pkt : Packet}
    (haccepts : m.Accepts s.nci.state pkt) : m ∈ possible s.tags.state := by
  have hsource : m.source = s.nci.state := haccepts.1.symm
  have hagree := hagrees.agree
  have hfresh := h.fresh
  have husual := h.usual
  revert hsource hagree hfresh husual hwaits
  generalize s.nci.state = n
  cases s.tags.state with
  | initReset =>
      intro _ hsource _ hfresh _
      rw [hfresh (Or.inr rfl)] at hsource
      revert hsource
      cases m <;> decide
  | none => exact fun hwaits => absurd (by decide) hwaits
  | initDone => exact fun hwaits => absurd (by decide) hwaits
  | discoverActivated => exact fun hwaits => absurd (by decide) hwaits
  | deactivateNtf => exact fun _ _ _ _ husual => absurd (by decide) husual
  | dump => exact fun _ _ _ _ husual => absurd (by decide) husual
  | dumpRsp => exact fun _ _ _ _ husual => absurd (by decide) husual
  | _ =>
      intro _ hsource hagree _ _
      rw [hagree _ rfl] at hsource
      revert hsource
      cases m <;> decide

/-- Where a message takes `NfcTags`. -/
structure TagsMoves (state : TagsState) (m : NciMsg) : Prop where
  usual : ¬ Strange (targetState m)
  started : ¬ (targetState m = .none ∨ targetState m = .initReset)
  phase : phaseOf (targetState m) = phaseOf state
  command_eq : command (targetState m) = none ∨
    m = .ntfRfDeactivate ∧ command (targetState m) = some .discover ∨
    m ≠ .ntfRfDeactivate ∧ command (targetState m) = command state
  /-- What is not reported changes nothing for the sketch. -/
  follows_eq : ¬ Reported m → follows (targetState m) = follows state ∧ ¬ Calls (targetState m)

theorem moves_of_possible {state : TagsState} {m : NciMsg} (h : m ∈ possible state) :
    TagsMoves state m := by
  constructor <;> revert m <;> cases state <;> decide

theorem detects_receive {s : Stack} (hagrees : s.Agrees) (h : Detects s)
    (hwaits : ¬ Calls s.tags.state) (pkt : Packet) (garbage : NciRfIntf) :
    Detects (s.receive pkt garbage).1 ∧
      phaseOf (s.receive pkt garbage).1.tags.state = phaseOf s.tags.state := by
  have hstays : (s.receive pkt garbage).1.tags.tag2.id = s.tags.tag2.id →
      (s.receive pkt garbage).1.tags.state = s.tags.state →
      (s.receive pkt garbage).1.tags.id = s.tags.id →
      (s.receive pkt garbage).1.nci.state = s.nci.state →
      Detects (s.receive pkt garbage).1 ∧
        phaseOf (s.receive pkt garbage).1.tags.state = phaseOf s.tags.state := by
    intro htag2 hstate hid hnci
    refine ⟨⟨htag2.trans h.tag2_id, ?_, ?_, ?_⟩, congrArg phaseOf hstate⟩
    · rw [hstate]
      exact h.usual
    · rw [hstate, hid]
      exact h.id_eq
    · rw [hstate, hnci]
      exact h.fresh
  cases stack_receive_cases hagrees.registered pkt garbage with
  | accepted m carries accepts _ state_eq id_eq tag2_eq _ _ =>
      have hmoves := moves_of_possible (possible_of_accepts hagrees h hwaits accepts)
      refine ⟨detects_of (targetState m) (targetId m s.tags.id) state_eq id_eq
        (tag2_eq.id_eq.trans h.tag2_id) hmoves.usual ?_ fun hnot => absurd hnot hmoves.started,
        (congrArg phaseOf state_eq).trans hmoves.phase⟩
      intro id hid
      rcases hmoves.command_eq with hnone | ⟨rfl, hsome⟩ | ⟨hne, hsame⟩
      · rw [hnone] at hid
        cases hid
      · rw [hsome] at hid
        cases hid
        rfl
      · rw [targetId, if_neg hne]
        exact h.id_eq id (hsame ▸ hid)
  | refused m _ _ nci_eq state_eq id_eq tag2_eq _ _ _ _ =>
      exact hstays tag2_eq.id_eq state_eq id_eq (by rw [nci_eq, NciMsg.refused_state])
  | chunk _ _ nci_eq _ state_eq id_eq _ run_eq =>
      rw [NfcTagsIntfType2.handleData_none h.tag2_id] at run_eq
      exact hstays (congrArg NfcTagsIntfType2.id (Prod.mk.inj run_eq).1) state_eq id_eq
        (by rw [nci_eq]; rfl)
  | dropped _ _ nci_eq state_eq id_eq tag2_eq _ _ =>
      exact hstays (by rw [tag2_eq]) state_eq id_eq (by rw [nci_eq]; rfl)
  | other _ _ nci_eq tags_eq _ =>
      exact hstays (by rw [tags_eq]) (by rw [tags_eq]) (by rw [tags_eq]) (by rw [nci_eq]; rfl)

/-- The report of a message puts the sketch in step. -/
theorem callback_reported (s : Stack) (garbage : NciRfIntf) (state : AppState) {m : NciMsg}
    (h : Reported m) :
    (Kind.callback .tagDetect s garbage state ⟨reportMethod m, .ok, reportId m, none⟩ []).1 =
      follows (targetState m) := by
  revert h
  cases m with
  | rspCoreReset => exact fun h => absurd h (by decide)
  | rspRfDiscoverMap => exact fun h => absurd h (by decide)
  | rspRfDeactivate => exact fun h => absurd h (by decide)
  | _ => exact fun _ => rfl

theorem reacts_receive (h : Resilient r) (hwaits : ¬ Calls r.stack.tags.state) (pkt : Packet)
    (garbage : NciRfIntf) : Reacts r garbage (r.stack.receive pkt garbage) := by
  have hagrees := h.reachable.agrees
  have hquiet : (r.stack.receive pkt garbage).2 = [] →
      (r.stack.receive pkt garbage).1.tags.state = r.stack.tags.state →
      Reacts r garbage (r.stack.receive pkt garbage) := fun hout hstate =>
    .quiet (by rw [hout]; rfl) (by rw [hstate]) (by rwa [hstate])
  cases stack_receive_cases hagrees.registered pkt garbage with
  | accepted m _ accepts _ state_eq _ _ _ out_eq =>
      have hmoves := moves_of_possible (possible_of_accepts hagrees h.detects hwaits accepts)
      by_cases hreported : Reported m
      · rw [if_pos hreported] at out_eq
        refine .reported ?_
        rw [out_eq, called_call, callback_reported _ _ _ hreported, state_eq]
      · rw [if_neg hreported] at out_eq
        obtain ⟨hfollows, hstill⟩ := hmoves.follows_eq hreported
        exact .quiet (by rw [out_eq]; rfl) (by rw [state_eq, hfollows]) (by rwa [state_eq])
  | refused m _ _ _ state_eq _ _ _ status failed out_eq =>
      have hcalls : callsOf (r.stack.receive pkt garbage).2 =
          [⟨reportMethod m, status, reportId m, none⟩] := by
        rw [out_eq]
        rfl
      refine .failed ?_ ?_ ?_ (by rwa [state_eq])
      · exact ⟨_, by rw [hcalls]; exact List.mem_singleton.mpr rfl, failed⟩
      · rw [hcalls]
        exact List.forall_mem_singleton.mpr failed
      · rw [out_eq, failureCall, called_call]
        exact callback_failed _ _ _ m failed
  | chunk _ _ _ _ state_eq _ _ run_eq =>
      rw [NfcTagsIntfType2.handleData_none h.detects.tag2_id] at run_eq
      exact hquiet (Prod.mk.inj run_eq).2 state_eq
  | dropped _ _ _ state_eq _ _ _ out_eq => exact hquiet out_eq state_eq
  | other _ _ _ tags_eq out_eq => exact hquiet out_eq (congrArg NfcTags.state tags_eq)

theorem goesOn_nci (h : Resilient r) {pkt : Packet} {garbage : NciRfIntf}
    (hen : (loopSystem .tagDetect).enabled r (.nci pkt garbage)) : GoesOn r (.nci pkt garbage) := by
  have hwaits : ¬ Calls r.stack.tags.state := fun hcalls =>
    absurd ((h.turn hcalls).2.symm.trans hen.1) nofun
  obtain ⟨hdetects, hphase⟩ := detects_receive h.reachable.agrees h.detects hwaits pkt garbage
  exact goesOn_handled h (stack_reachable_next h.reachable hen) (loop_next_nci _ _ _)
    (loop_emit_nci _ _ _) rfl hdetects hphase (fun _ => rfl) (reacts_receive h hwaits pkt garbage)

theorem goesOn (h : Resilient r) {e : LoopEvent} (hen : (loopSystem .tagDetect).enabled r e) :
    GoesOn r e := by
  cases e with
  | app => exact goesOn_app h hen
  | tags hw junk => exact goesOn_tags h hen hw junk
  | nci pkt garbage => exact goesOn_nci h hen

/-! ## Whole runs -/

/-- Whatever happens, `TagDetect` uses `NfcTags` in order: each of its commands is accepted,
but for deactivations of which nothing comes, and those that are accepted make up a reset, a
discovery and the deactivations of the tags that are found. -/
theorem tagDetect_commands {es : List LoopEvent}
    (hlegal : (loopSystem .tagDetect).Legal Runtime.init es) :
    (∀ cmd status, .command cmd status ∈ (loopSystem .tagDetect).trace Runtime.init es →
        status = .ok ∨ cmd = .cmdDeactivate ∧ status = .rejected) ∧
      (usage .tagDetect).run .fresh
          (((loopSystem .tagDetect).trace Runtime.init es).filterMap LoopOutput.granted) =
        some (phaseOf ((loopSystem .tagDetect).run Runtime.init es).stack.tags.state) := by
  constructor
  · have halong : (loopSystem .tagDetect).Along GoesOn Runtime.init es :=
      LabelledSystem.along_of_invariant (fun _ _ h hen _ => (goesOn h hen).resilient)
        (fun _ _ h hen _ => goesOn h hen) resilient_init hlegal hlegal
    have hall : ∀ result ∈ ((loopSystem .tagDetect).trace Runtime.init es).filterMap
        LoopOutput.result, result.2 = .ok ∨ result = (.cmdDeactivate, .rejected) :=
      LabelledSystem.trace_forall (fun _ _ h result hr => (h.results result hr).imp_right And.left)
        halong
    intro cmd status hmem
    exact (hall (cmd, status) (result_mem.mpr hmem)).imp_right Prod.mk.inj
  · exact (usage .tagDetect).run_trace (fun _ _ h hen _ => (goesOn h hen).resilient)
      (fun _ _ h hen _ => (goesOn h hen).usage) resilient_init hlegal hlegal

/-- The reset is answered by an activation, then twice by nothing that is asked for. -/
def unluckyLoop : List LoopEvent :=
  [.app, .tags acceptAll 0, .nci shortActivation NciRfIntf.zero,
    .app, .tags acceptAll 0, .nci (.minimal .rspCoreInit) NciRfIntf.zero,
    .app, .tags acceptAll 0, .nci (.minimal .ntfRfDeactivate) NciRfIntf.zero]

theorem tagDetect_commands_unlucky :
    (∀ cmd status, .command cmd status ∈
        (loopSystem .tagDetect).trace Runtime.init unluckyLoop →
        status = .ok ∨ cmd = .cmdDeactivate ∧ status = .rejected) ∧
      (usage .tagDetect).run .fresh
          (((loopSystem .tagDetect).trace Runtime.init unluckyLoop).filterMap
            LoopOutput.granted) =
        some (phaseOf ((loopSystem .tagDetect).run Runtime.init unluckyLoop).stack.tags.state) :=
  tagDetect_commands (by decide +kernel)

/-! ## Recovery -/

/-- What comes is what `NfcTags` waits for. -/
def Answered (r : Runtime) : LoopEvent → Prop
  | .nci pkt _ => ∃ m ∈ asked r.stack.tags.state, pkt.Carries m ∧ m.WellFormed pkt
  | _ => True

instance (r : Runtime) : ∀ e, Decidable (Answered r e)
  | .app => inferInstanceAs (Decidable True)
  | .tags _ _ => inferInstanceAs (Decidable True)
  | .nci _ _ => inferInstanceAs (Decidable (∃ m ∈ _, _ ∧ _))

/-- The calls of the loop before the one that puts the sketch in step. -/
def toGo (r : Runtime) : Nat :=
  3 * unreported r.stack.tags.state +
    match r.turn with
    | .app => 2
    | .tags => 1
    | .nci => 0

theorem accepts_of_asked {s : Stack} (hagrees : s.Agrees) (h : Detects s) {m : NciMsg}
    {pkt : Packet} (hasked : m ∈ asked s.tags.state) (hform : m.WellFormed pkt) :
    m.Accepts s.nci.state pkt := by
  have hsource : ∀ state, ∀ m ∈ asked state,
      state = .initReset ∧ m.source = .none ∨ m.source ∈ state.nciState := by
    intro state
    cases state <;> decide
  refine ⟨?_, hform⟩
  rcases hsource _ _ hasked with ⟨hstate, hnone⟩ | hsome
  · rw [hnone]
    exact h.fresh (Or.inr hstate)
  · exact hagrees.agree _ hsome

/-- An answer is reported, or it is the first of two. -/
theorem unreported_lt {state : TagsState} {m : NciMsg} (h : m ∈ asked state)
    (hreported : ¬ Reported m) : unreported (targetState m) < unreported state := by
  revert m
  cases state <;> decide

/-- Out of step, every call brings the sketch closer. -/
theorem toGo_lt (h : Resilient r) {e : LoopEvent} (hen : (loopSystem .tagDetect).enabled r e)
    (hok : CallsOk r e) (hanswered : Answered r e)
    (hout : ¬ InStep ((loopSystem .tagDetect).next r e)) :
    toGo ((loopSystem .tagDetect).next r e) < toGo r := by
  have hgoesOn := goesOn h hen
  have hbefore : ¬ InStep r := fun hin => hout (hgoesOn.failure hin hok)
  have hwaits : ¬ Calls r.stack.tags.state := fun hcalls => hbefore (h.turn hcalls).1
  cases e with
  | app =>
      obtain ⟨-, htags, -⟩ := appRun_out h hbefore
      have hturn : r.turn = .app := hen
      rw [loop_next_app, htags, toGo, toGo, hturn]
      exact Nat.lt_succ_self _
  | tags hw junk =>
      have htags := detects_poll h.detects hwaits hw junk
      have hturn : r.turn = .tags := hen
      rw [loop_next_tags, Runtime.handled, toGo, toGo, hturn, htags]
      exact Nat.lt_succ_self _
  | nci pkt garbage =>
      obtain ⟨m, hasked, hcarries, hform⟩ := hanswered
      have haccepts := accepts_of_asked h.reachable.agrees h.detects hasked hform
      obtain ⟨-, hstate, -, hreceived⟩ :=
        receive_of_accepts h.reachable.agrees.registered hcarries haccepts garbage
      by_cases hreported : Reported m
      · rw [if_pos hreported] at hreceived
        have hcall : ⟨reportMethod m, .ok, reportId m, none⟩ ∈
            callsOf (r.stack.receive pkt garbage).2 := by
          rw [hreceived]
          exact List.mem_singleton.mpr rfl
        exact absurd (hgoesOn.success _ hcall rfl) hout
      · have hlt := unreported_lt hasked hreported
        rw [loop_next_nci, Runtime.handled, toGo, toGo, hstate]
        show 3 * unreported (targetState m) + 2 < _
        omega

theorem toGo_le (r : Runtime) : toGo r ≤ 5 := by
  have hle : ∀ state, unreported state ≤ 1 := by
    intro state
    cases state <;> decide
  have hstate := hle r.stack.tags.state
  unfold toGo
  cases r.turn with
  | app => exact Nat.add_le_add_right (Nat.mul_le_mul_left 3 hstate) 2
  | tags => exact (Nat.add_le_add_right (Nat.mul_le_mul_left 3 hstate) 1).trans (by decide)
  | nci => exact (Nat.mul_le_mul_left 3 hstate).trans (by decide)

/-- A sketch in step stays so while no failure is reported. -/
theorem inStep_run (h : Resilient r) (hin : InStep r) {es : List LoopEvent}
    (hlegal : (loopSystem .tagDetect).Legal r es)
    (hok : (loopSystem .tagDetect).Along CallsOk r es) :
    InStep ((loopSystem .tagDetect).run r es) ∧ ((loopSystem .tagDetect).run r es).app ≠ .error ∧
      ∀ cmd status, .command cmd status ∈ (loopSystem .tagDetect).trace r es → status = .ok := by
  have hnext : ∀ r e, Resilient r ∧ InStep r → (loopSystem .tagDetect).enabled r e → CallsOk r e →
      Resilient ((loopSystem .tagDetect).next r e) ∧
        InStep ((loopSystem .tagDetect).next r e) := fun _ _ h hen hok =>
    ⟨(goesOn h.1 hen).resilient, (goesOn h.1 hen).failure h.2 hok⟩
  obtain ⟨hresilient, hstill⟩ := LabelledSystem.run_invariant_along hnext ⟨h, hin⟩ hlegal hok
  refine ⟨hstill, hresilient.app_ne hstill, ?_⟩
  have halong : (loopSystem .tagDetect).Along (fun r e => GoesOn r e ∧ InStep r) r es :=
    LabelledSystem.along_of_invariant hnext (fun _ _ h hen _ => ⟨goesOn h.1 hen, h.2⟩) ⟨h, hin⟩
      hlegal hok
  have hall : ∀ result ∈ ((loopSystem .tagDetect).trace r es).filterMap LoopOutput.result,
      result.2 = .ok :=
    LabelledSystem.trace_forall
      (fun _ _ h result hr => (h.1.results result hr).resolve_right fun hvain => hvain.2 h.2) halong
  exact fun cmd status hmem => hall (cmd, status) (result_mem.mpr hmem)

/-- Two rounds of the loop in which `NfcTags` gets the messages that it waits for put
`TagDetect` in step, whatever has happened before, and it goes on as if nothing had. -/
theorem tagDetect_heals {es fs gs : List LoopEvent}
    (hlegal : (loopSystem .tagDetect).Legal Runtime.init (es ++ (fs ++ gs)))
    (hanswered : (loopSystem .tagDetect).Along (fun r e => CallsOk r e ∧ Answered r e)
      ((loopSystem .tagDetect).run Runtime.init es) fs)
    (hlen : 6 ≤ fs.length)
    (hok : (loopSystem .tagDetect).Along CallsOk
      ((loopSystem .tagDetect).run Runtime.init (es ++ fs)) gs) :
    let r := (loopSystem .tagDetect).run Runtime.init (es ++ fs)
    InStep r ∧
      InStep ((loopSystem .tagDetect).run r gs) ∧
      ((loopSystem .tagDetect).run r gs).app ≠ .error ∧
      ∀ cmd status, .command cmd status ∈ (loopSystem .tagDetect).trace r gs → status = .ok := by
  obtain ⟨hbefore, hrest⟩ := (LabelledSystem.along_append _ _ _ _ _).mp hlegal
  obtain ⟨hduring, hafter⟩ := (LabelledSystem.along_append _ _ _ _ _).mp hrest
  have hnext : ∀ r e, Resilient r → (loopSystem .tagDetect).enabled r e →
      Resilient ((loopSystem .tagDetect).next r e) := fun _ _ h hen => (goesOn h hen).resilient
  have hresilient := LabelledSystem.run_invariant hnext resilient_init hbefore
  have hgood : (loopSystem .tagDetect).Along
      (fun r e => Resilient r ∧ (loopSystem .tagDetect).enabled r e ∧ CallsOk r e ∧ Answered r e)
      ((loopSystem .tagDetect).run Runtime.init es) fs :=
    LabelledSystem.along_of_invariant (fun _ _ h hen _ => hnext _ _ h hen)
      (fun _ _ h hen h' => ⟨h, hen, h'⟩) hresilient hduring hanswered
  have hin : InStep ((loopSystem .tagDetect).run
      ((loopSystem .tagDetect).run Runtime.init es) fs) :=
    LabelledSystem.settles (fun ⟨h, hen, hok, _⟩ hin => (goesOn h hen).failure hin hok)
      (fun ⟨h, hen, hok, hans⟩ hout => toGo_lt h hen hok hans hout) hgood
      (Or.inl ((toGo_le _).trans_lt hlen))
  have hstill := LabelledSystem.run_invariant hnext hresilient hduring
  rw [LabelledSystem.run_append] at hok ⊢
  exact ⟨hin, inStep_run hstill hin hafter hok⟩

/-- The reset is answered at last. -/
theorem tagDetect_heals_reset :
    let fs : List LoopEvent :=
      [.app, .tags acceptAll 0, .nci (.minimal .rspCoreReset) NciRfIntf.zero,
        .app, .tags acceptAll 0, .nci (.minimal .rspCoreInit) NciRfIntf.zero]
    let gs : List LoopEvent :=
      [.app, .tags acceptAll 0, .nci (.minimal .rspRfDiscoverMap) NciRfIntf.zero]
    let r := (loopSystem .tagDetect).run Runtime.init (unluckyLoop ++ fs)
    InStep r ∧
      InStep ((loopSystem .tagDetect).run r gs) ∧
      ((loopSystem .tagDetect).run r gs).app ≠ .error ∧
      ∀ cmd status, .command cmd status ∈ (loopSystem .tagDetect).trace r gs → status = .ok :=
  tagDetect_heals (by decide +kernel) (by decide +kernel) (by decide) (by decide +kernel)

end Sketch
end ArduinoNfc
