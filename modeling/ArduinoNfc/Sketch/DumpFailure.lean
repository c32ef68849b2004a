import ArduinoNfc.Sketch.Conformance

/-!
# A dump that fails

`NfcTags` leaves the state of a dump with a deactivation only, which `TagDump` calls after
the last chunk.  So whatever failure is reported in a dump, it is the end of `TagDump`
(`dump_failure_final`): until data or the response to a deactivation comes, it stays in
`ERROR`, calls no command and reports no tag.

One of these failures is the loss of the tag.  The controller then deactivates it on its own
and says so in a notification, which `NfcNci` accepts only once the host has asked for a
deactivation (`lost_tag_fails`).
-/

namespace ArduinoNfc
namespace Sketch

open Foundation Nci Tags Log

/-- Neither data nor the response to a deactivation comes. -/
def Unanswered : LoopEvent → Prop
  | .nci pkt _ => ¬ pkt.IsData ∧ ¬ pkt.Carries .rspRfDeactivate
  | _ => True

instance : ∀ e, Decidable (Unanswered e)
  | .app => inferInstanceAs (Decidable True)
  | .tags _ _ => inferInstanceAs (Decidable True)
  | .nci _ _ => inferInstanceAs (Decidable (_ ∧ _))

/-- The controller announces that it has deactivated the tag. -/
def LosesTag : LoopEvent → Prop
  | .nci pkt _ => pkt.Carries .ntfRfDeactivate
  | _ => False

instance : ∀ e, Decidable (LosesTag e)
  | .app => inferInstanceAs (Decidable False)
  | .tags _ _ => inferInstanceAs (Decidable False)
  | .nci _ _ => inferInstanceAs (Decidable (_ ∧ _))

/-- The sketch sees an error, and the stack is still in the dump. -/
structure Dead (r : Runtime) : Prop where
  reachable : r.stack.Reachable
  app_eq : r.app = .error
  state_eq : r.stack.tags.state = .dump

/-- What a step of the dead sketch comes to. -/
structure StaysDead (r : Runtime) (e : LoopEvent) : Prop where
  dead : Dead ((loopSystem .tagDump).next r e)
  noCommand : ((loopSystem .tagDump).emit r e).filterMap LoopOutput.cmd = []
  errors : ∀ l ∈ ((loopSystem .tagDump).emit r e).filterMap LoopOutput.printed, l.IsError

variable {r : Runtime}

/-- Calls that are all failures leave the sketch in `ERROR`, without a line. -/
theorem called_failures {s : Stack} (garbage : NciRfIntf) {out : List StackOutput}
    (hlast : CallsLast out) (hfailed : ∀ c ∈ callsOf out, c.status ≠ .ok) :
    Kind.called .tagDump s garbage .error out = (.error, []) := by
  cases hlast with
  | none hnone => exact called_of_callsOf_nil garbage hnone
  | last before hnone c bytes out_eq =>
      subst out_eq
      rw [callsOf_append, hnone] at hfailed
      rw [called_last garbage .error hnone,
        callback_failed_tagDump _ _ _ (hfailed c (List.mem_singleton.mpr rfl))]

/-- A handler of the stack that reports failures only. -/
theorem staysDead_handled {e : LoopEvent} {garbage : NciRfIntf} {turn : Turn}
    {run : Stack × List StackOutput} (happ : r.app = .error)
    (hreachable : ((loopSystem .tagDump).next r e).stack.Reachable)
    (hnext : (loopSystem .tagDump).next r e = r.handled .tagDump turn garbage run)
    (hemit : (loopSystem .tagDump).emit r e = r.shown .tagDump garbage run)
    (hlast : CallsLast run.2) (hfailed : ∀ c ∈ callsOf run.2, c.status ≠ .ok)
    (hstate : run.1.tags.state = .dump) : StaysDead r e := by
  have hcalled : Kind.called .tagDump run.1 garbage r.app run.2 = (.error, []) := by
    rw [happ]
    exact called_failures garbage hlast hfailed
  refine ⟨⟨hreachable, ?_, ?_⟩, ?_, ?_⟩
  · rw [hnext, Runtime.handled, hcalled]
  · rw [hnext]
    exact hstate
  · rw [hemit, shown_cmd]
  · rw [hemit, shown_printed, hcalled]
    exact List.forall_mem_nil _

theorem staysDead_app (h : Dead r) : StaysDead r .app := by
  have hrun : r.appRun .tagDump = ⟨.error, r.stack.tags, none,
      [.e "TagDetect error: %s status = %d state = %d\n"
        [.str "handleEvent".toList, dec TagsStatus.failed.code,
          dec (Kind.stateCode .tagDump .error)]]⟩ := by
    simp [Runtime.appRun, Kind.handleEvent, h.app_eq, Kind.action, commonAction]
  refine ⟨⟨?_, ?_, ?_⟩, ?_, ?_⟩
  · rw [loop_next_app, hrun]
    exact h.reachable
  · rw [loop_next_app, hrun]
  · rw [loop_next_app, hrun]
    exact h.state_eq
  · rw [loop_emit_app, hrun]
    rfl
  · rw [loop_emit_app, hrun]
    exact List.forall_mem_singleton.mpr ⟨_, _, rfl⟩

/-- A poll reports failures only. -/
theorem poll_failures (s : Stack) (hw : HwWrite) (junk : UInt8) :
    ∀ c ∈ callsOf (s.handleEvent hw junk).2, c.status ≠ .ok := by
  cases poll_cases s hw junk with
  | idle _ _ out_eq => rw [out_eq]; exact List.forall_mem_nil _
  | deactivated _ _ _ _ out_eq => rw [out_eq]; exact List.forall_mem_nil _
  | failed _ _ status status_ne out_eq =>
      rw [out_eq]
      exact List.forall_mem_singleton.mpr status_ne
  | issued cmd _ _ out_eq =>
      obtain ⟨status, hstatus, hout⟩ := out_eq
      rw [hout]
      split_ifs
      · exact List.forall_mem_nil _
      · exact List.forall_mem_singleton.mpr hstatus

theorem staysDead_tags (h : Dead r) (hw : HwWrite) (junk : UInt8) :
    StaysDead r (.tags hw junk) := by
  have hreachable := h.reachable.next (e := .poll hw junk) trivial
  refine staysDead_handled h.app_eq hreachable (loop_next_tags _ _ _) (loop_emit_tags _ _ _)
    (callsLast_poll _ _ _) (poll_failures _ _ _) ?_
  cases poll_cases r.stack hw junk with
  | issued _ _ stack_eq _ => rw [stack_eq, issued_state, h.state_eq]
  | idle _ stack_eq _ => rw [stack_eq, h.state_eq]
  | deactivated _ _ state_eq _ _ => exact absurd (state_eq.symm.trans h.state_eq) nofun
  | failed _ stack_eq _ _ _ => rw [stack_eq, h.state_eq]

/-- In a dump, what is neither data nor the response to a deactivation is refused, or it is
not a message. -/
theorem receive_in_dump {s : Stack} (hagrees : s.Agrees) (hstate : s.tags.state = .dump)
    {pkt : Packet} (hdata : ¬ pkt.IsData) (hrsp : ¬ pkt.Carries .rspRfDeactivate)
    (garbage : NciRfIntf) :
    (s.receive pkt garbage).1.tags.state = .dump ∧
      ∀ c ∈ callsOf (s.receive pkt garbage).2, c.status ≠ .ok := by
  cases stack_receive_cases hagrees.registered pkt garbage with
  | accepted m carries accepts _ _ _ _ _ _ =>
      obtain rfl : m = .rspRfDeactivate := accepts_active hagrees (Or.inr hstate) accepts
      exact absurd carries hrsp
  | refused m _ _ _ state_eq _ _ _ status failed out_eq =>
      refine ⟨state_eq.trans hstate, ?_⟩
      rw [out_eq]
      exact List.forall_mem_singleton.mpr failed
  | chunk isData _ _ _ _ _ _ _ => exact absurd isData hdata
  | dropped isData _ _ _ _ _ _ _ => exact absurd isData hdata
  | other _ _ _ tags_eq out_eq =>
      rw [tags_eq, out_eq]
      exact ⟨hstate, List.forall_mem_nil _⟩

theorem staysDead_nci (h : Dead r) {pkt : Packet} {garbage : NciRfIntf}
    (hen : (loopSystem .tagDump).enabled r (.nci pkt garbage))
    (hgone : Unanswered (.nci pkt garbage)) : StaysDead r (.nci pkt garbage) := by
  have hagrees := h.reachable.agrees
  obtain ⟨hstate, hfailed⟩ := receive_in_dump hagrees h.state_eq hgone.1 hgone.2 garbage
  exact staysDead_handled h.app_eq (stack_reachable_next h.reachable hen)
    (loop_next_nci _ _ _) (loop_emit_nci _ _ _) (callsLast_receive hagrees.registered _ _)
    hfailed hstate

theorem staysDead (h : Dead r) {e : LoopEvent} (hen : (loopSystem .tagDump).enabled r e)
    (hgone : Unanswered e) : StaysDead r e := by
  cases e with
  | app => exact staysDead_app h
  | tags hw junk => exact staysDead_tags h hw junk
  | nci pkt garbage => exact staysDead_nci h hen hgone

/-! ## Whole runs -/

/-- A dead sketch stays dead along a run. -/
theorem along_staysDead {es : List LoopEvent} (h : Dead r)
    (hlegal : (loopSystem .tagDump).Legal r es) (hgone : ∀ e ∈ es, Unanswered e) :
    (loopSystem .tagDump).Along StaysDead r es := by
  induction es generalizing r with
  | nil => trivial
  | cons e es ih =>
      obtain ⟨hen, hlegal⟩ := hlegal
      obtain ⟨he, hgone⟩ := List.forall_mem_cons.mp hgone
      have hstep := staysDead h hen he
      exact ⟨hstep, ih hstep.dead hlegal hgone⟩

/-- The loss of the tag is refused, and reported as the failure of a deactivation. -/
theorem lost_tag_fails (hagrees : r.stack.Agrees) (hstate : r.stack.tags.state = .dump)
    {e : LoopEvent} (hlost : LosesTag e) : ¬ CallsOk r e := by
  cases e with
  | app => exact hlost.elim
  | tags hw junk => exact hlost.elim
  | nci pkt garbage =>
      have hcarries : pkt.Carries .ntfRfDeactivate := hlost
      intro hok
      cases stack_receive_cases hagrees.registered pkt garbage with
      | accepted m carries accepts _ _ _ _ _ _ =>
          obtain rfl := hcarries.unique carries
          exact absurd (accepts_active hagrees (Or.inr hstate) accepts) nofun
      | refused m _ _ _ _ _ _ _ status failed out_eq =>
          exact failure_not_ok hok failed [] out_eq
      | chunk isData _ _ _ _ _ _ _ => exact hcarries.not_isData isData
      | dropped isData _ _ _ _ _ _ _ => exact hcarries.not_isData isData
      | other noMsg _ _ _ _ => exact noMsg _ hcarries

/-- What fails in a dump leaves the stack in it. -/
theorem state_of_failed (hagrees : r.stack.Agrees) (hstate : r.stack.tags.state = .dump)
    {e : LoopEvent} (hfailed : ¬ CallsOk r e) :
    ((loopSystem .tagDump).next r e).stack.tags.state = .dump := by
  cases e with
  | app => exact absurd (List.forall_mem_nil _) hfailed
  | tags hw junk =>
      show (r.stack.handleEvent hw junk).1.tags.state = .dump
      cases poll_cases r.stack hw junk with
      | issued _ _ stack_eq _ => rw [stack_eq, issued_state, hstate]
      | idle _ stack_eq _ => rw [stack_eq, hstate]
      | deactivated _ _ state_eq _ _ => exact absurd (state_eq.symm.trans hstate) nofun
      | failed _ stack_eq _ _ _ => rw [stack_eq, hstate]
  | nci pkt garbage =>
      show (r.stack.receive pkt garbage).1.tags.state = .dump
      cases stack_receive_cases hagrees.registered pkt garbage with
      | accepted m _ accepts _ _ _ _ _ out_eq =>
          -- the response to a deactivation is accepted, but that is not reported
          obtain rfl : m = .rspRfDeactivate := accepts_active hagrees (Or.inr hstate) accepts
          refine absurd (fun c hc => ?_) hfailed
          have hcalls : c ∈ callsOf (r.stack.receive pkt garbage).2 := hc
          rw [out_eq] at hcalls
          cases hcalls
      | refused _ _ _ _ state_eq _ _ _ _ _ _ => exact state_eq.trans hstate
      | chunk _ _ _ _ state_eq _ _ _ => exact state_eq.trans hstate
      | dropped _ _ _ state_eq _ _ _ _ => exact state_eq.trans hstate
      | other _ _ _ tags_eq _ => rw [tags_eq, hstate]

theorem dead_of_failed (hreachable : r.stack.Reachable) (hstate : r.stack.tags.state = .dump)
    {e : LoopEvent} (hen : (loopSystem .tagDump).enabled r e) (hfailed : ¬ CallsOk r e) :
    Dead ((loopSystem .tagDump).next r e) where
  reachable := stack_reachable_next hreachable hen
  app_eq := error_of_not_callsOk hreachable.agrees.registered hfailed
  state_eq := state_of_failed hreachable.agrees hstate hfailed

/-- A failure in a dump, of whatever kind, is the end of `TagDump`, and so is the loss of the
tag: it stays in `ERROR`, it calls no command and logs errors only, until data or the response
to a deactivation comes. -/
theorem dump_failure_final {es fs : List LoopEvent} {e : LoopEvent}
    (hlegal : (loopSystem .tagDump).Legal Runtime.init (es ++ e :: fs))
    (hstate : ((loopSystem .tagDump).run Runtime.init es).stack.tags.state = .dump)
    (hfails : ¬ CallsOk ((loopSystem .tagDump).run Runtime.init es) e ∨ LosesTag e)
    (hgone : ∀ e ∈ fs, Unanswered e) :
    let r := (loopSystem .tagDump).run Runtime.init (es ++ [e])
    r.app = .error ∧
      (loopSystem .tagDump).Along (fun r e => ((loopSystem .tagDump).next r e).app = .error)
        r fs ∧
      ((loopSystem .tagDump).trace r fs).filterMap LoopOutput.cmd = [] ∧
      ∀ l ∈ ((loopSystem .tagDump).trace r fs).filterMap LoopOutput.printed, l.IsError := by
  obtain ⟨hlegal, hen, hlegal'⟩ := (LabelledSystem.along_append _ _ _ _ _).mp hlegal
  have hreachable := stack_reachable hlegal
  have hfailed := hfails.elim id (lost_tag_fails hreachable.agrees hstate)
  have hdead := dead_of_failed hreachable hstate hen hfailed
  have halong := along_staysDead hdead hlegal' hgone
  rw [LabelledSystem.run_append, LabelledSystem.run_cons, LabelledSystem.run_nil]
  refine ⟨hdead.app_eq, ?_, ?_, ?_⟩
  · exact LabelledSystem.along_of_invariant (I := fun _ => True) (fun _ _ _ _ _ => trivial)
      (fun _ _ _ _ h => h.dead.app_eq) trivial hlegal' halong
  · have hnone := LabelledSystem.trace_forall (Q := fun _ => False)
      (fun _ _ h => by rw [h.noCommand]; exact List.forall_mem_nil _) halong
    exact List.eq_nil_iff_forall_not_mem.mpr hnone
  · exact LabelledSystem.trace_forall (fun _ _ h => h.errors) halong

/-- The tag is lost before its second chunk, and another one comes. -/
theorem dump_failure_final_lost :
    let fs : List LoopEvent := [.app, .tags acceptAll 0, .nci type2Tag NciRfIntf.zero, .app]
    let r := (loopSystem .tagDump).run Runtime.init
      ((dumpLoop ++ [.app, .tags acceptAll 0]) ++
        [.nci (.minimal .ntfRfDeactivate) NciRfIntf.zero])
    r.app = .error ∧
      (loopSystem .tagDump).Along (fun r e => ((loopSystem .tagDump).next r e).app = .error)
        r fs ∧
      ((loopSystem .tagDump).trace r fs).filterMap LoopOutput.cmd = [] ∧
      ∀ l ∈ ((loopSystem .tagDump).trace r fs).filterMap LoopOutput.printed, l.IsError :=
  dump_failure_final (by decide +kernel) (by decide +kernel) (Or.inr (by decide +kernel))
    (by decide +kernel)

end Sketch
end ArduinoNfc
