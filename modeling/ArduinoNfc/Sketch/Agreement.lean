import ArduinoNfc.Foundation.Simulation
import ArduinoNfc.Sketch.Conformance

/-!
# The two sketches agree

`TagDump` is `TagDetect` with two more states.  They make a difference only for what the
second sketch has and the first has not: as long as no type 2 tag is found and no failure is
reported, the two do the same, call by call and line by line (`sketches_agree`).
-/

namespace ArduinoNfc
namespace Sketch

open Foundation Nci Tags Log

variable {r : Runtime}

/-- Afterwards there is no type 2 tag. -/
def NoType2 (r : Runtime) (e : LoopEvent) : Prop :=
  ((loopSystem .tagDetect).next r e).stack.tags.pTagIntf ≠ some .tag2

instance (r : Runtime) (e : LoopEvent) : Decidable (NoType2 r e) :=
  inferInstanceAs (Decidable (_ ≠ _))

/-- `TagDetect`, as long as it does what `TagDump` does. -/
def detectsOnly : LabelledSystem Runtime LoopEvent LoopOutput :=
  (loopSystem .tagDetect).restrict fun r e => CallsOk r e ∧ NoType2 r e

/-- Where `TagDetect` is, the switches of the two sketches are the same. -/
theorem action_agrees {s : Stack} {app : AppState}
    (h : Finds .tagDetect s app ∨ Waits .tagDetect s app ∨ Lost .tagDetect s app) :
    Kind.action .tagDump app = Kind.action .tagDetect app := by
  rcases h with h | h | h
  · cases h with
    | dump sketch _ _ _ => cases sketch
    | _ => rfl
  · cases h with
    | dump sketch _ _ _ _ _ => cases sketch
    | _ => rfl
  · cases h.sketch

/-- A turn of the application in which it does not fail. -/
theorem appRun_agrees (h : Staged .tagDetect r) (hturn : r.turn = .app) :
    r.appRun .tagDump = r.appRun .tagDetect := by
  obtain ⟨app, s, turn⟩ := r
  obtain rfl : turn = .app := hturn
  have haction := action_agrees h
  have hwaits : Kind.action .tagDetect app = .wait →
      Runtime.appRun .tagDump ⟨app, s, .app⟩ = Runtime.appRun .tagDetect ⟨app, s, .app⟩ := by
    intro hwait
    have hdetect := appRun_waits (r := ⟨app, s, .app⟩) hwait
    have hdump := appRun_waits (r := ⟨app, s, .app⟩) (haction.trans hwait)
    exact hdump.trans hdetect.symm
  rcases h with h | h | h
  · obtain ⟨cmd, next, hcall, hstatus, -, -⟩ := h.called
    have hdetect := appRun_accepted (r := ⟨app, s, .app⟩) hcall hstatus
    have hdump := appRun_accepted (r := ⟨app, s, .app⟩) (haction.trans hcall) hstatus
    exact hdump.trans hdetect.symm
  · exact hwaits h.action
  · exact hwaits h.action

/-- The report of a message, when it is not about a type 2 tag. -/
theorem callback_agrees {s : Stack} (hintf : s.tags.pTagIntf ≠ some .tag2) (garbage : NciRfIntf)
    (state : AppState) (m : NciMsg) :
    Kind.callback .tagDump s garbage state ⟨reportMethod m, .ok, reportId m, none⟩ [] =
      Kind.callback .tagDetect s garbage state ⟨reportMethod m, .ok, reportId m, none⟩ [] := by
  cases m with
  | ntfRfIntfActivated =>
      have hfound : ∀ k : Kind, k.callback s garbage state
          ⟨reportMethod .ntfRfIntfActivated, .ok, reportId .ntfRfIntfActivated, none⟩ [] =
            (k.found s, detected s garbage) := fun k =>
        (called_call s garbage state _ []).symm.trans (called_activated garbage)
      rw [hfound, hfound]
      simp [Kind.found, hintf]
  | _ => rfl

/-- A packet that nothing fails about. -/
theorem receive_agrees (hagrees : r.stack.Agrees) (h : Waits .tagDetect r.stack r.app)
    {pkt : Packet} {garbage : NciRfIntf} (hok : CallsOk r (.nci pkt garbage))
    (hno : NoType2 r (.nci pkt garbage)) :
    Kind.called .tagDump (r.stack.receive pkt garbage).1 garbage r.app
        (r.stack.receive pkt garbage).2 =
      Kind.called .tagDetect (r.stack.receive pkt garbage).1 garbage r.app
        (r.stack.receive pkt garbage).2 := by
  cases stack_receive_cases hagrees.registered pkt garbage with
  | accepted m _ _ _ _ _ _ _ out_eq =>
      by_cases hreported : Reported m
      · rw [out_eq, if_pos hreported, called_call, called_call]
        exact callback_agrees hno garbage r.app m
      · rw [out_eq, if_neg hreported, called_nil, called_nil]
  | refused m _ _ _ _ _ _ _ status failed out_eq =>
      exact (failure_not_ok hok failed [] out_eq).elim
  | chunk _ intf _ _ _ _ _ _ => cases h.no_intf.symm.trans intf
  | dropped _ _ _ _ _ _ _ out_eq => rw [out_eq, called_nil, called_nil]
  | other _ _ _ _ out_eq => rw [out_eq, called_nil, called_nil]

/-- A call in the loop, by either sketch. -/
theorem step_agrees (h : Steady .tagDetect r) {e : LoopEvent}
    (hen : (loopSystem .tagDetect).enabled r e) (hok : CallsOk r e) (hno : NoType2 r e) :
    (loopSystem .tagDump).next r e = (loopSystem .tagDetect).next r e ∧
      (loopSystem .tagDump).emit r e = (loopSystem .tagDetect).emit r e := by
  obtain ⟨hreachable, hstaged⟩ := h
  -- a handler of the stack does the same for both, up to the callbacks
  have hcallbacks : ∀ (turn : Turn) (garbage : NciRfIntf) (run : Stack × List StackOutput),
      Kind.called .tagDump run.1 garbage r.app run.2 =
        Kind.called .tagDetect run.1 garbage r.app run.2 →
      r.handled .tagDump turn garbage run = r.handled .tagDetect turn garbage run ∧
        r.shown .tagDump garbage run = r.shown .tagDetect garbage run := by
    intro turn garbage run hcalled
    rw [Runtime.handled, Runtime.handled, Runtime.shown, Runtime.shown, hcalled]
    exact ⟨rfl, rfl⟩
  cases e with
  | app =>
      have hrun := appRun_agrees hstaged hen
      simp only [loop_next_app, loop_emit_app, hrun, and_self]
  | tags hw junk =>
      have hturn : r.turn = .tags := hen
      have hwaits : Waits .tagDetect r.stack r.app ∨ Lost .tagDetect r.stack r.app := by
        unfold Staged at hstaged
        rwa [hturn] at hstaged
      have hnone := (waits_poll hreachable.agrees hwaits hok).1
      refine hcallbacks .nci NciRfIntf.zero (r.stack.handleEvent hw junk) ?_
      rw [called_of_callsOf_nil _ hnone, called_of_callsOf_nil _ hnone]
  | nci pkt garbage =>
      have hturn : r.turn = .nci := hen.1
      have hwaits : Waits .tagDetect r.stack r.app := by
        unfold Staged at hstaged
        rwa [hturn] at hstaged
      exact hcallbacks .app garbage (r.stack.receive pkt garbage)
        (receive_agrees hreachable.agrees hwaits hok hno)

/-- `TagDump` does what `TagDetect` does. -/
theorem agreement : Simulation detectsOnly (loopSystem .tagDump)
    (fun r t => t = r ∧ Steady .tagDetect r) id id where
  enabled := by
    rintro r t e ⟨rfl, -⟩ ⟨hen, -⟩
    cases e <;> exact hen
  next := by
    rintro r t e ⟨rfl, hsteady⟩ ⟨hen, hok, hno⟩
    exact ⟨(step_agrees hsteady hen hok hno).1, steady_next t e hsteady hen hok⟩
  emit := by
    rintro r t e ⟨rfl, hsteady⟩ ⟨hen, hok, hno⟩
    exact (step_agrees hsteady hen hok hno).2.symm.trans (List.map_id _).symm

/-- As long as no type 2 tag is found and no failure is reported, a run of `TagDetect` is one
of `TagDump`, with the same states, commands and lines. -/
theorem sketches_agree {es : List LoopEvent}
    (hlegal : (loopSystem .tagDetect).Legal Runtime.init es)
    (hok : (loopSystem .tagDetect).Along (fun r e => CallsOk r e ∧ NoType2 r e)
      Runtime.init es) :
    (loopSystem .tagDump).Legal Runtime.init es ∧
      (loopSystem .tagDump).run Runtime.init es = (loopSystem .tagDetect).run Runtime.init es ∧
      (loopSystem .tagDump).trace Runtime.init es =
        (loopSystem .tagDetect).trace Runtime.init es := by
  have hinit : Runtime.init = Runtime.init ∧ Steady .tagDetect Runtime.init :=
    ⟨rfl, steady_init⟩
  have hlegal' : detectsOnly.Legal Runtime.init es := LabelledSystem.restrict_legal _ hlegal hok
  have hsimulated := agreement.legal hinit hlegal'
  have hrun := (agreement.run hinit hlegal').1
  have htrace := agreement.trace hinit hlegal'
  rw [List.map_id] at hsimulated hrun htrace
  rw [detectsOnly, LabelledSystem.restrict_run] at hrun
  rw [detectsOnly, LabelledSystem.restrict_trace, List.map_id] at htrace
  exact ⟨hsimulated, hrun, htrace.symm⟩

/-- A tag of another kind is found and deactivated. -/
def otherTagLoop : List LoopEvent :=
  discoveryLoop ++ [.nci (.minimal .ntfRfIntfActivated) NciRfIntf.zero,
    .app, .tags acceptAll 0, .nci (.minimal .rspRfDeactivate) NciRfIntf.zero,
    .app, .tags acceptAll 0, .nci (.minimal .ntfRfDeactivate) NciRfIntf.zero]

theorem sketches_agree_other :
    (loopSystem .tagDump).Legal Runtime.init otherTagLoop ∧
      (loopSystem .tagDump).run Runtime.init otherTagLoop =
        (loopSystem .tagDetect).run Runtime.init otherTagLoop ∧
      (loopSystem .tagDump).trace Runtime.init otherTagLoop =
        (loopSystem .tagDetect).trace Runtime.init otherTagLoop :=
  sketches_agree (by decide +kernel) (by decide +kernel)

end Sketch
end ArduinoNfc
