import ArduinoNfc.Foundation.Progress
import ArduinoNfc.Sketch.Commands
import ArduinoNfc.Tags.DumpPolls

/-!
# Whole runs of a sketch

What the calls of the sketches come to over a run: while every callback reports a success,
the commands are accepted and in order (`sketch_conforms`), and no poll depends on the
variable that `NfcTagsIntfType2::handleDump` leaves uninitialised (`sketch_polls_assigned`).
The two sketches differ in what they make of a failure: `TagDump` goes to `ERROR` exactly
then (`tagDump_error_iff`), `TagDetect` calls a command that is refused first
(`tagDetect_failed_activation`).
-/

namespace ArduinoNfc
namespace Sketch

open Foundation Nci Tags Log

variable {k : Kind}

/-! ## One step -/

/-- A handler of the stack shows no command of the application. -/
theorem shown_cmd (r : Runtime) (garbage : NciRfIntf) (run : Stack × List StackOutput) :
    (r.shown k garbage run).filterMap LoopOutput.cmd = [] :=
  shown_none (fun _ => rfl) (fun _ => rfl) r garbage run

theorem cmd_of_mem {cmd : AppCmd} {status : TagsStatus} {out : List LoopOutput}
    (h : .command cmd status ∈ out) : cmd ∈ out.filterMap LoopOutput.cmd :=
  List.mem_filterMap.mpr ⟨_, h, rfl⟩

/-- A command among what is observed, with its status. -/
def LoopOutput.result : LoopOutput → Option (AppCmd × TagsStatus)
  | .command cmd status => some (cmd, status)
  | _ => none

theorem result_mem {result : AppCmd × TagsStatus} {out : List LoopOutput} :
    result ∈ out.filterMap LoopOutput.result ↔ .command result.1 result.2 ∈ out := by
  refine List.mem_filterMap.trans ⟨?_, fun h => ⟨_, h, rfl⟩⟩
  rintro ⟨o, ho, hresult⟩
  cases o with
  | command cmd status =>
      cases hresult
      exact ho
  | stack o => cases hresult
  | line l => cases hresult

/-- A line among what is observed. -/
def LoopOutput.printed : LoopOutput → Option Line
  | .line l => some l
  | _ => none

theorem printed_lines (lines : List Line) :
    (lines.map LoopOutput.line).filterMap LoopOutput.printed = lines := by
  rw [List.filterMap_map]
  exact List.filterMap_some

/-- The lines of a handler are those of the callback. -/
theorem shown_printed (r : Runtime) (garbage : NciRfIntf) (run : Stack × List StackOutput) :
    (r.shown k garbage run).filterMap LoopOutput.printed =
      (k.called run.1 garbage r.app run.2).2 := by
  have hstack : (run.2.map LoopOutput.stack).filterMap LoopOutput.printed = [] := by
    refine List.filterMap_eq_nil_iff.mpr fun o ho => ?_
    obtain ⟨_, -, rfl⟩ := List.mem_map.mp ho
    rfl
  rw [Runtime.shown, List.filterMap_append, hstack, printed_lines, List.nil_append]

/-- What a step of such a run keeps, and what it shows. -/
structure Conforms (k : Kind) (r : Runtime) (e : LoopEvent) : Prop where
  staged : Staged k ((loopSystem k).next r e)
  phase : (usage k).run r.phase (((loopSystem k).emit r e).filterMap LoopOutput.cmd) =
    some ((loopSystem k).next r e).phase
  accepted : ∀ cmd status, .command cmd status ∈ (loopSystem k).emit r e → status = .ok

/-- A handler of the stack that keeps the phase. -/
theorem conforms_handled {r : Runtime} {e : LoopEvent} {garbage : NciRfIntf}
    {run : Stack × List StackOutput} (hemit : (loopSystem k).emit r e = r.shown k garbage run)
    (hstaged : Staged k ((loopSystem k).next r e))
    (hphase : ((loopSystem k).next r e).phase = r.phase) : Conforms k r e where
  staged := hstaged
  phase := by rw [hemit, shown_cmd, hphase]; rfl
  accepted := by
    intro cmd status h
    rw [hemit] at h
    have hcmd := cmd_of_mem h
    rw [shown_cmd] at hcmd
    cases hcmd

theorem conforms_app {r : Runtime} (h : Staged k r) (hturn : r.turn = .app) :
    Conforms k r .app := by
  obtain ⟨app, s, turn⟩ := r
  obtain rfl : turn = .app := hturn
  have hwaits : k.action app = .wait → Waits k s app ∨ Lost k s app →
      Conforms k ⟨app, s, .app⟩ .app := by
    intro haction hstaged
    have hrun := appRun_waits (k := k) (r := ⟨app, s, .app⟩) haction
    constructor
    · rw [loop_next_app, hrun]
      exact hstaged
    · rw [loop_next_app, loop_emit_app, hrun]
      rfl
    · rw [loop_emit_app, hrun]
      exact fun _ _ => nofun
  rcases h with h | h | h
  · obtain ⟨cmd, next, haction, hstatus, hnext, hphase⟩ := h.called
    have hrun := appRun_accepted (k := k) (r := ⟨app, s, .app⟩) haction hstatus
    constructor
    · rw [loop_next_app, hrun]
      exact Or.inl hnext
    · rw [loop_next_app, loop_emit_app, hrun]
      exact ((usage k).run_singleton _ _).trans hphase
    · intro cmd' status' hmem
      rw [loop_emit_app, hrun] at hmem
      cases List.mem_singleton.mp hmem
      rfl
  · exact hwaits h.action (Or.inl h)
  · exact hwaits h.action (Or.inr h)

/-- While a callback is waited for, the phase does not depend on the stack. -/
theorem Waits.phase_eq {s t : Stack} {app : AppState} (h : Waits k s app) (turn turn' : Turn) :
    Runtime.phase ⟨app, t, turn⟩ = Runtime.phase ⟨app, s, turn'⟩ := by
  cases h <;> rfl

theorem conforms_tags {r : Runtime} (hagrees : r.stack.Agrees) (h : Staged k r)
    (hturn : r.turn = .tags) {hw : HwWrite} {junk : UInt8} (hok : CallsOk r (.tags hw junk)) :
    Conforms k r (.tags hw junk) := by
  obtain ⟨app, s, turn⟩ := r
  obtain rfl : turn = .tags := hturn
  obtain ⟨hcalls, hwaits⟩ := waits_poll hagrees h hok
  have hnext : (loopSystem k).next ⟨app, s, .tags⟩ (.tags hw junk) =
      ⟨app, (s.handleEvent hw junk).1, .nci⟩ := by
    rw [loop_next_tags, Runtime.handled, called_of_callsOf_nil _ hcalls]
  refine conforms_handled (loop_emit_tags _ _ _) ?_ ?_
  · rw [hnext]
    exact hwaits
  · rw [hnext]
    exact (hwaits.phase_eq .nci .tags (t := s)).symm

theorem conforms_nci {r : Runtime} (hagrees : r.stack.Agrees) (h : Staged k r)
    (hturn : r.turn = .nci) {pkt : Packet} {garbage : NciRfIntf}
    (hok : CallsOk r (.nci pkt garbage)) : Conforms k r (.nci pkt garbage) := by
  obtain ⟨app, s, turn⟩ := r
  obtain rfl : turn = .nci := hturn
  obtain ⟨hready, hphase⟩ := ready_receive hagrees h hok
  exact conforms_handled (loop_emit_nci _ _ _) hready hphase

theorem conforms {r : Runtime} (hagrees : r.stack.Agrees) (h : Staged k r) {e : LoopEvent}
    (hen : (loopSystem k).enabled r e) (hok : CallsOk r e) : Conforms k r e := by
  cases e with
  | app => exact conforms_app h hen
  | tags hw junk => exact conforms_tags hagrees h hen hok
  | nci pkt garbage => exact conforms_nci hagrees h hen.1 hok

theorem Finds.app_ne {s : Stack} {app : AppState} (h : Finds k s app) : app ≠ .error := by
  cases h <;> exact nofun

theorem Waits.app_ne {s : Stack} {app : AppState} (h : Waits k s app) : app ≠ .error := by
  cases h <;> exact nofun

theorem Lost.app_ne {s : Stack} {app : AppState} (h : Lost k s app) : app ≠ .error := by
  rw [h.app_eq]
  exact nofun

theorem Staged.app_ne {r : Runtime} (h : Staged k r) : r.app ≠ .error := by
  obtain ⟨app, s, turn⟩ := r
  cases turn with
  | app => exact h.elim Finds.app_ne fun h => h.elim Waits.app_ne Lost.app_ne
  | tags => exact h.elim Waits.app_ne Lost.app_ne
  | nci => exact Waits.app_ne h

/-! ## Runs without a failure -/

/-- The states of the runs without a failure. -/
def Steady (k : Kind) (r : Runtime) : Prop := r.stack.Reachable ∧ Staged k r

theorem steady_init : Steady k Runtime.init := ⟨⟨[], trivial, rfl⟩, staged_init⟩

theorem steady_next (r : Runtime) (e : LoopEvent) (h : Steady k r)
    (hen : (loopSystem k).enabled r e) (hok : CallsOk r e) :
    Steady k ((loopSystem k).next r e) :=
  ⟨stack_reachable_next h.1 hen, (conforms h.1.agrees h.2 hen hok).staged⟩

/-- While every callback reports a success, from any of these states. -/
theorem steady_run {r : Runtime} {es : List LoopEvent} (h : Steady k r)
    (hlegal : (loopSystem k).Legal r es) (hok : (loopSystem k).Along CallsOk r es) :
    ((loopSystem k).run r es).app ≠ .error ∧
      (∀ cmd status, .command cmd status ∈ (loopSystem k).trace r es → status = .ok) ∧
      (usage k).run r.phase (((loopSystem k).trace r es).filterMap LoopOutput.cmd) =
        some ((loopSystem k).run r es).phase := by
  refine ⟨?_, ?_, ?_⟩
  · exact (LabelledSystem.run_invariant_along steady_next h hlegal hok).2.app_ne
  · have halong : (loopSystem k).Along
        (fun r e => ∀ cmd status, .command cmd status ∈ (loopSystem k).emit r e → status = .ok)
        r es :=
      LabelledSystem.along_of_invariant steady_next
        (fun _ _ h hen hok => (conforms h.1.agrees h.2 hen hok).accepted) h hlegal hok
    have hall : ∀ result ∈ ((loopSystem k).trace r es).filterMap LoopOutput.result,
        result.2 = .ok :=
      LabelledSystem.trace_forall (fun _ _ h result hmem => h _ _ (result_mem.mp hmem)) halong
    exact fun cmd status hmem => hall (cmd, status) (result_mem.mpr hmem)
  · exact (usage k).run_trace steady_next
      (fun _ _ h hen hok => (conforms h.1.agrees h.2 hen hok).phase) h hlegal hok

/-- While every callback reports a success, a sketch does not see an error, every command
that it calls is accepted, and the commands are in order. -/
theorem sketch_conforms {es : List LoopEvent} (hlegal : (loopSystem k).Legal Runtime.init es)
    (hok : (loopSystem k).Along CallsOk Runtime.init es) :
    ((loopSystem k).run Runtime.init es).app ≠ .error ∧
      (∀ cmd status, .command cmd status ∈ (loopSystem k).trace Runtime.init es →
        status = .ok) ∧
      (usage k).run .fresh (((loopSystem k).trace Runtime.init es).filterMap LoopOutput.cmd) =
        some ((loopSystem k).run Runtime.init es).phase :=
  steady_run steady_init hlegal hok

/-- The run of a sketch up to the wait for a tag. -/
def discoveryLoop : List LoopEvent :=
  [.app, .tags acceptAll 0, .nci (.minimal .rspCoreReset) NciRfIntf.zero,
    .app, .tags acceptAll 0, .nci (.minimal .rspCoreInit) NciRfIntf.zero,
    .app, .tags acceptAll 0, .nci (.minimal .rspRfDiscoverMap) NciRfIntf.zero,
    .app, .tags acceptAll 0, .nci (.minimal .rspRfDiscover) NciRfIntf.zero,
    .app, .tags acceptAll 0]

/-- A type 2 tag is found, and `TagDump` reads its first chunk. -/
def dumpLoop : List LoopEvent :=
  discoveryLoop ++ [.nci type2Tag NciRfIntf.zero,
    .app, .tags acceptAll 0, .nci wholeChunk NciRfIntf.zero]

theorem sketch_conforms_dump :
    ((loopSystem .tagDump).run Runtime.init dumpLoop).app ≠ .error ∧
      (∀ cmd status, .command cmd status ∈ (loopSystem .tagDump).trace Runtime.init dumpLoop →
        status = .ok) ∧
      (usage .tagDump).run .fresh
          (((loopSystem .tagDump).trace Runtime.init dumpLoop).filterMap LoopOutput.cmd) =
        some ((loopSystem .tagDump).run Runtime.init dumpLoop).phase :=
  sketch_conforms (by decide +kernel) (by decide +kernel)

/-- The poll does the same whatever the variable of `handleDump` holds. -/
def PollsAssigned (r : Runtime) (e : LoopEvent) : Prop :=
  ∀ hw junk junk', e = .tags hw junk →
    r.stack.handleEvent hw junk' = r.stack.handleEvent hw junk

theorem Waits.assigned {s : Stack} {app : AppState} (h : Waits k s app)
    (henters : s.EntersHandleDump) : s.tags.tag2.state ≠ .none := by
  cases h with
  | dump _ _ _ _ _ busy => exact busy
  | reset _ id_eq _ => exact absurd (id_eq.symm.trans henters.1) nofun
  | discover _ id_eq _ => exact absurd (id_eq.symm.trans henters.1) nofun
  | discovering _ id_eq _ => exact absurd (id_eq.symm.trans henters.1) nofun
  | deactivate _ id_eq _ => exact absurd (id_eq.symm.trans henters.1) nofun

/-- While every callback reports a success, a sketch never polls a dump that is over. -/
theorem sketch_polls_assigned {es : List LoopEvent}
    (hlegal : (loopSystem k).Legal Runtime.init es)
    (hok : (loopSystem k).Along CallsOk Runtime.init es) :
    (loopSystem k).Along PollsAssigned Runtime.init es := by
  refine LabelledSystem.along_of_invariant steady_next ?_ steady_init hlegal hok
  rintro r e ⟨-, hstaged⟩ hen - hw junk junk' rfl
  obtain ⟨app, s, turn⟩ := r
  obtain rfl : turn = .tags := hen
  refine handleEvent_assigned (fun henters => ?_) hw junk junk'
  rcases hstaged with h | h
  · exact h.assigned henters
  · exact absurd (h.state.symm.trans henters.2.1) nofun

theorem sketch_polls_assigned_dump :
    (loopSystem .tagDump).Along PollsAssigned Runtime.init dumpLoop :=
  sketch_polls_assigned (by decide +kernel) (by decide +kernel)

/-! ## Failures -/

/-- `TagDump` goes to `ERROR` when a callback reports a failure. -/
theorem error_of_not_callsOk {r : Runtime} (hcb : r.stack.nci.cbRegistered = true)
    {e : LoopEvent} (h : ¬ CallsOk r e) :
    ((loopSystem .tagDump).next r e).app = .error := by
  have hlast : ∀ {run : Stack × List StackOutput} {turn garbage}, CallsLast run.2 →
      (¬ ∀ c ∈ callsOf run.2, c.status = .ok) →
      (r.handled .tagDump turn garbage run).app = .error := by
    rintro ⟨s, out⟩ turn garbage hlast hfailed
    show (Kind.called .tagDump s garbage r.app out).1 = .error
    cases hlast with
    | none hnone =>
        rw [hnone] at hfailed
        exact absurd (List.forall_mem_nil _) hfailed
    | last before hnone c bytes out_eq =>
        subst out_eq
        rw [callsOf_append, hnone] at hfailed
        have hstatus : c.status ≠ .ok := by
          intro hok
          exact hfailed (List.forall_mem_singleton.mpr hok)
        rw [called_last garbage r.app hnone, callback_failed_tagDump _ _ _ hstatus]
  cases e with
  | app => exact absurd (List.forall_mem_nil _) h
  | tags hw junk => exact hlast (callsLast_poll _ _ _) h
  | nci pkt garbage => exact hlast (callsLast_receive hcb _ _) h

/-- `TagDump` never sees an error exactly when every callback reports a success: none of its
own commands is ever the reason for one. -/
theorem tagDump_error_iff {es : List LoopEvent}
    (hlegal : (loopSystem .tagDump).Legal Runtime.init es) :
    (loopSystem .tagDump).Along (fun r e => ((loopSystem .tagDump).next r e).app ≠ .error)
        Runtime.init es ↔
      (loopSystem .tagDump).Along CallsOk Runtime.init es := by
  constructor
  · refine LabelledSystem.along_of_invariant (I := fun r : Runtime => r.stack.Reachable)
      (fun _ _ h hen _ => stack_reachable_next h hen) ?_
      ⟨[], trivial, rfl⟩ hlegal
    intro r e h _ hne
    by_contra hfailed
    exact hne (error_of_not_callsOk h.agrees.registered hfailed)
  · refine LabelledSystem.along_of_invariant steady_next ?_ steady_init hlegal
    intro r e h hen hok
    exact (conforms h.1.agrees h.2 hen hok).staged.app_ne

theorem tagDump_error_iff_dump :
    (loopSystem .tagDump).Along (fun r e => ((loopSystem .tagDump).next r e).app ≠ .error)
      Runtime.init dumpLoop :=
  (tagDump_error_iff (by decide +kernel)).mpr (by decide +kernel)

/-- While `TagDetect` waits, no tag is active. -/
theorem Waits.not_tagActive {s : Stack} {app : AppState} (h : Waits .tagDetect s app) :
    ¬ s.tags.TagActive := by
  unfold NfcTags.TagActive
  cases h with
  | reset _ _ state => rcases state with ⟨hs, -⟩ | hs <;> rw [hs] <;> decide
  | discover _ _ state => rcases state with hs | hs <;> rw [hs] <;> decide
  | discovering _ _ state => rw [state]; decide
  | dump sketch _ _ _ _ _ => cases sketch
  | deactivate _ _ state => rcases state with hs | hs <;> rw [hs] <;> decide

/-- While `TagDetect` waits, there is no interface. -/
theorem Waits.no_intf {s : Stack} {app : AppState} (h : Waits .tagDetect s app) :
    s.tags.pTagIntf = none := by
  cases h with
  | dump sketch _ _ _ _ _ => cases sketch
  | reset free _ _ => exact free.intf
  | discover free _ _ => exact free.intf
  | discovering free _ _ => exact free.intf
  | deactivate free _ _ => exact free.intf

/-- A reception that reports the failure of an activation leaves the state of `NfcTags` as it
is, and is observed through that call alone. -/
theorem receive_failed_activation {s : Stack} (hcb : s.nci.cbRegistered = true) {pkt : Packet}
    {garbage : NciRfIntf} {c : TagsCall} (hcall : c ∈ callsOf (s.receive pkt garbage).2)
    (hmethod : c.method = .cbDiscoverNtf) (hfailed : c.status ≠ .ok) :
    (s.receive pkt garbage).1.tags.state = s.tags.state ∧
      ∃ status ≠ TagsStatus.ok, (s.receive pkt garbage).2 =
        [failureCall .cbDiscoverNtf .discoverActivated status] := by
  cases stack_receive_cases hcb pkt garbage with
  | accepted m _ _ _ _ _ _ _ out_eq =>
      rw [out_eq] at hcall
      split_ifs at hcall
      · obtain rfl := List.mem_singleton.mp hcall
        exact absurd rfl hfailed
      · cases hcall
  | refused m _ _ _ state_eq _ _ _ status failed out_eq =>
      rw [out_eq] at hcall ⊢
      obtain rfl := List.mem_singleton.mp hcall
      obtain rfl : m = .ntfRfIntfActivated := by
        have hm : reportMethod m = .cbDiscoverNtf := hmethod
        revert hm
        cases m <;> decide
      exact ⟨state_eq, status, failed, rfl⟩
  | chunk _ _ nci_eq id _ _ _ run_eq =>
      rw [(Prod.mk.inj run_eq).2] at hcall
      cases hid : s.tags.tag2.id with
      | none =>
          simp only [hid] at hcall
          cases hcall
      | dump =>
          simp only [hid] at hcall
          obtain rfl := List.mem_singleton.mp hcall
          cases hmethod
  | dropped _ _ _ _ _ _ _ out_eq => rw [out_eq] at hcall; cases hcall
  | other _ _ _ _ out_eq => rw [out_eq] at hcall; cases hcall

theorem lines_result (lines : List Line) :
    (lines.map LoopOutput.line).filterMap LoopOutput.result = [] :=
  lines_none (fun _ => rfl) lines

/-- A command that is refused is what the turn of the application comes to. -/
theorem app_refused {r : Runtime} {cmd : AppCmd} {next : AppState}
    (haction : k.action r.app = .call cmd next)
    (hrefused : r.stack.tags.exec cmd = (.rejected, r.stack.tags)) :
    ((loopSystem k).emit r .app).filterMap LoopOutput.result = [(cmd, .rejected)] ∧
      ((loopSystem k).next r .app).app = .error := by
  have hrun : (r.appRun k).called = some (cmd, .rejected) ∧ (r.appRun k).state = .error := by
    simp [Runtime.appRun, Kind.handleEvent, haction, hrefused]
  rw [loop_emit_app, loop_next_app, List.filterMap_append, lines_result, hrun.1]
  exact ⟨rfl, hrun.2⟩

/-- After the failure of an activation, `TagDetect` wants to deactivate the tag. -/
theorem failed_activation_step {r : Runtime} (hcb : r.stack.nci.cbRegistered = true)
    {pkt : Packet} {garbage : NciRfIntf} {c : TagsCall}
    (hcall : c ∈ callsOf (r.stackOut (.nci pkt garbage))) (hmethod : c.method = .cbDiscoverNtf)
    (hfailed : c.status ≠ .ok) :
    ((loopSystem .tagDetect).next r (.nci pkt garbage)).app = .deactivate ∧
      ((loopSystem .tagDetect).next r (.nci pkt garbage)).stack.tags.state =
        r.stack.tags.state := by
  obtain ⟨hstate, status, -, hout⟩ := receive_failed_activation hcb hcall hmethod hfailed
  refine ⟨?_, hstate⟩
  -- the last assignment of `cbDiscoverNtf` is made whatever the status is
  rw [loop_next_nci, Runtime.handled, hout, failureCall, called_call]
  rfl

/-- `TagDetect` forgets the failure of an activation: its next turn calls `cmdDeactivate`,
which `NfcTags` refuses, and only this takes it to `ERROR`. -/
theorem tagDetect_failed_activation {es : List LoopEvent} {pkt : Packet} {garbage : NciRfIntf}
    (hlegal : (loopSystem .tagDetect).Legal Runtime.init (es ++ [.nci pkt garbage]))
    (hok : (loopSystem .tagDetect).Along CallsOk Runtime.init es) {c : TagsCall}
    (hcall : c ∈ callsOf (((loopSystem .tagDetect).run Runtime.init es).stackOut
      (.nci pkt garbage)))
    (hmethod : c.method = .cbDiscoverNtf) (hfailed : c.status ≠ .ok) :
    let r := (loopSystem .tagDetect).run Runtime.init (es ++ [.nci pkt garbage])
    r.app = .deactivate ∧
      ((loopSystem .tagDetect).emit r .app).filterMap LoopOutput.result =
        [(.cmdDeactivate, .rejected)] ∧
      ((loopSystem .tagDetect).next r .app).app = .error := by
  obtain ⟨hlegal, hen, -⟩ := (LabelledSystem.along_append _ _ _ _ _).mp hlegal
  have hsteady := LabelledSystem.run_invariant_along steady_next steady_init hlegal hok
  rw [LabelledSystem.run_append, LabelledSystem.run_cons, LabelledSystem.run_nil]
  revert hcall hen hsteady
  generalize (loopSystem .tagDetect).run Runtime.init es = r
  rintro hcall ⟨hturn, -⟩ ⟨hreach, hstaged⟩
  obtain ⟨happ, hstate⟩ :=
    failed_activation_step hreach.agrees.registered hcall hmethod hfailed
  have hwaits : Waits .tagDetect r.stack r.app := by
    unfold Staged at hstaged
    rwa [hturn] at hstaged
  refine ⟨happ, app_refused (by rw [happ]; rfl) (if_neg fun hactive => ?_)⟩
  rw [hstate] at hactive
  exact hwaits.not_tagActive hactive

/-- An activation notification without its parameters. -/
def shortActivation : Packet := .ofMsg .ntfRfIntfActivated [1] (by decide)

theorem tagDetect_failed_activation_short :
    let r := (loopSystem .tagDetect).run Runtime.init
      (discoveryLoop ++ [.nci shortActivation NciRfIntf.zero])
    r.app = .deactivate ∧
      ((loopSystem .tagDetect).emit r .app).filterMap LoopOutput.result =
        [(.cmdDeactivate, .rejected)] ∧
      ((loopSystem .tagDetect).next r .app).app = .error :=
  tagDetect_failed_activation (c := ⟨.cbDiscoverNtf, .failed, .discoverActivated, none⟩)
    (by decide +kernel) (by decide +kernel) (by decide +kernel) rfl (by decide)

end Sketch
end ArduinoNfc
