import ArduinoNfc.Sketch.Conformance

/-!
# The log of a sketch

At the level `INFO` the sketch, `NfcTags` and `NfcNci` log to the same port.  Two things
can be relied on, whatever the controller sends.  A line never asks for an argument that it
does not have (`log_defined`).  And when the sketch has had its turn, the log shows an error
exactly when something went wrong: a callback reported a failure, or a packet could not be
handled (`log_quiet_iff`).
-/

namespace ArduinoNfc
namespace Sketch

open Foundation Nci Tags Log

variable {k : Kind}

/-- The lines of a step.  A handler logs before it calls back. -/
def Runtime.lines (k : Kind) (r : Runtime) : LoopEvent → List Line
  | .app => (r.appRun k).lines
  | .tags hw junk =>
      let run := r.stack.handleEvent hw junk
      r.stack.handleEventLines hw junk ++ (k.called run.1 NciRfIntf.zero r.app run.2).2
  | .nci pkt garbage =>
      let run := r.stack.receive pkt garbage
      r.stack.receiveLines pkt ++ (k.called run.1 garbage r.app run.2).2

/-! ## The lines of the callbacks -/

/-- Lines of a lower level than `ERROR`, which have their arguments. -/
def Informs (lines : List Line) : Prop := ∀ l ∈ lines, ¬ l.IsError ∧ l.Fits

theorem informs_nil : Informs [] := List.forall_mem_nil _

theorem informs_i {str : String} (h : kinds str.toList = []) : Informs [.i str []] :=
  List.forall_mem_singleton.mpr ⟨not_isError_i, info_fits h⟩

theorem informs_bi (str : String) (buf : Option LogBuf) (bytes : List UInt8) :
    Informs [.bi str buf bytes] :=
  List.forall_mem_singleton.mpr ⟨not_isError_bi, trivial⟩

theorem informs_responded {status : TagsStatus} {id expected : TagsId} {next : AppState}
    {lines : List Line} (h : Informs lines) :
    Informs (responded status id expected next lines).2 := by
  unfold responded
  split_ifs
  · exact informs_nil
  · exact h

theorem informs_detected (s : Stack) (garbage : NciRfIntf) : Informs (detected s garbage) := by
  unfold detected
  cases s.tags.getInterface with
  | none => exact informs_i (by decide +kernel)
  | some intf =>
      refine List.forall_mem_cons.mpr ⟨⟨not_isError_i, ?_⟩, informs_bi _ _ _⟩
      show kinds "TagDetect: tag type %d detected\n".toList <+: [.int]
      decide +kernel

theorem informs_callback (s : Stack) (garbage : NciRfIntf) (state : AppState) (c : TagsCall)
    (bytes : List UInt8) : Informs (k.callback s garbage state c bytes).2 := by
  obtain ⟨method, status, id, data⟩ := c
  cases method with
  | cbReset => exact informs_responded (informs_i (by decide +kernel))
  | cbDiscover => exact informs_responded (informs_i (by decide +kernel))
  | cbDeactivate => exact informs_responded informs_nil
  | cbDiscoverNtf =>
      cases k with
      | tagDump => exact informs_responded (informs_detected s garbage)
      | tagDetect => exact informs_responded (informs_detected s garbage)
  | cbDump =>
      cases k with
      | tagDetect => exact informs_nil
      | tagDump =>
          cases data with
          | none => exact informs_nil
          | some dump => exact informs_responded (informs_bi _ _ _)

theorem informs_called (s : Stack) (garbage : NciRfIntf) (state : AppState)
    (out : List StackOutput) : Informs (k.called s garbage state out).2 := by
  induction out generalizing state with
  | nil => exact informs_nil
  | cons o out ih =>
      cases o with
      | nciCmd cmd status written => exact ih state
      | call c bytes =>
          exact List.forall_mem_append.mpr ⟨informs_callback s garbage state c bytes, ih _⟩

/-! ## The turn of the application -/

theorem appRun_lines (r : Runtime) : ErrorLines (r.appRun k).lines := by
  have hguard : ∀ (p : Prop) [Decidable p] (state state' : AppState) (tags : NfcTags)
      (called : Option (AppCmd × TagsStatus)) (status code : Nat),
      ErrorLines (if p then (⟨state, tags, called,
        [.e "TagDetect error: %s status = %d state = %d\n"
          [.str "handleEvent".toList, dec status, dec code]]⟩ : AppHandled)
        else ⟨state', tags, called, []⟩).lines := by
    intro p _ state state' tags called status code
    split_ifs
    · exact errorLines_e [.str, .int, .int] (by decide +kernel) (List.prefix_refl _)
    · exact errorLines_nil
  unfold Runtime.appRun Kind.handleEvent
  cases k.action r.app with
  | call cmd next => exact hguard _ _ _ _ _ _ _
  | wait => exact hguard _ _ _ _ _ _ _
  | fail => exact hguard _ _ _ _ _ _ _

/-- The turn of the application goes wrong: it is in `ERROR`, or its command is refused. -/
def GoesWrong (k : Kind) (r : Runtime) : Prop :=
  k.action r.app = .fail ∨
    ∃ cmd next, k.action r.app = .call cmd next ∧ (r.stack.tags.exec cmd).1 ≠ .ok

/-- A turn that goes wrong is logged. -/
theorem appRun_failed {r : Runtime} (h : GoesWrong k r) :
    ∃ str args, (r.appRun k).lines = [.e str args] := by
  refine ⟨"TagDetect error: %s status = %d state = %d\n", ?_⟩
  rcases h with haction | ⟨cmd, next, haction, hstatus⟩
  · simp [Runtime.appRun, Kind.handleEvent, haction]
  · simp [Runtime.appRun, Kind.handleEvent, haction, hstatus]

/-! ## Every line has its arguments -/

theorem lines_fit {r : Runtime} (hcb : r.stack.nci.cbRegistered = true) (e : LoopEvent) :
    ∀ l ∈ r.lines k e, l.Fits := by
  cases e with
  | app => exact fun l hl => (appRun_lines r l hl).2
  | tags hw junk =>
      exact List.forall_mem_append.mpr ⟨fun l hl => (errorLines_poll _ _ _ l hl).2,
        fun l hl => (informs_called _ _ _ _ l hl).2⟩
  | nci pkt garbage =>
      exact List.forall_mem_append.mpr ⟨receiveLines_fit hcb pkt,
        fun l hl => (informs_called _ _ _ _ l hl).2⟩

/-- In every run of a sketch, each line that is logged finds the arguments that its format
string asks for, at every level of the logger; the line of the callbacks of `NfcTags` that has
its arguments inside of the format string is never logged. -/
theorem log_defined {es : List LoopEvent} (hlegal : (loopSystem k).Legal Runtime.init es)
    (log : NfcLog) (address : LogBuf → Nat) :
    (loopSystem k).Along
      (fun r e => ∀ l ∈ r.lines k e, (l.text log address).isSome ∧ l ≠ Stack.incorrectId)
      Runtime.init es := by
  refine LabelledSystem.along_of_invariant (I := fun r : Runtime => r.stack.Reachable)
    (fun _ _ h hen _ => stack_reachable_next h hen) ?_ ⟨[], trivial, rfl⟩ hlegal hlegal
  intro r e h _ _ l hl
  have hfits : l.Fits := lines_fit h.agrees.registered e l hl
  refine ⟨hfits.text log address, ?_⟩
  rintro rfl
  exact incorrectId_unfit hfits

theorem log_defined_dump :
    (loopSystem .tagDump).Along (fun r e => ∀ l ∈ r.lines .tagDump e,
      (l.text ⟨nfcLogLevelInfo⟩ fun _ => 0).isSome ∧ l ≠ Stack.incorrectId) Runtime.init dumpLoop :=
  log_defined (by decide +kernel) ⟨nfcLogLevelInfo⟩ fun _ => 0

/-! ## The log is quiet -/

/-- No error is logged. -/
def Quiet (k : Kind) (r : Runtime) (e : LoopEvent) : Prop := ∀ l ∈ r.lines k e, ¬ l.IsError

/-- A packet that comes is not handed to `cbError`. -/
def Handled (r : Runtime) : LoopEvent → Prop
  | .nci pkt _ => r.stack.nci.Handles pkt
  | _ => True

instance (r : Runtime) : ∀ e, Decidable (Handled r e)
  | .app => inferInstanceAs (Decidable True)
  | .tags _ _ => inferInstanceAs (Decidable True)
  | .nci pkt _ => inferInstanceAs (Decidable (r.stack.nci.Handles pkt))

/-- Nothing goes wrong: every callback reports a success, and a packet is handled. -/
def Fine (r : Runtime) (e : LoopEvent) : Prop := CallsOk r e ∧ Handled r e

instance (r : Runtime) (e : LoopEvent) : Decidable (Fine r e) :=
  inferInstanceAs (Decidable (_ ∧ _))

theorem fine_app (r : Runtime) : Fine r .app := ⟨List.forall_mem_nil _, trivial⟩

theorem Waits.busy {s : Stack} {app : AppState} (h : Waits k s app) : s.tags.Busy := by
  unfold NfcTags.Busy
  cases h with
  | reset _ id_eq _ => rw [id_eq]; decide
  | discover _ id_eq _ => rw [id_eq]; decide
  | discovering _ id_eq _ => rw [id_eq]; decide
  | dump _ id_eq _ _ _ _ => rw [id_eq]; decide
  | deactivate _ id_eq _ => rw [id_eq]; decide

theorem Lost.busy {s : Stack} {app : AppState} (h : Lost k s app) : s.tags.Busy := by
  unfold NfcTags.Busy
  rw [h.id_eq]
  decide

theorem quiet_app {r : Runtime} (h : Staged k r) (hturn : r.turn = .app) : Quiet k r .app := by
  obtain ⟨app, s, turn⟩ := r
  obtain rfl : turn = .app := hturn
  have hnone : (Runtime.appRun k ⟨app, s, .app⟩).lines = [] := by
    rcases h with h | h | h
    · obtain ⟨cmd, next, haction, hstatus, -, -⟩ := h.called
      rw [appRun_accepted (k := k) (r := ⟨app, s, .app⟩) haction hstatus]
    · rw [appRun_waits (k := k) (r := ⟨app, s, .app⟩) h.action]
    · rw [appRun_waits (k := k) (r := ⟨app, s, .app⟩) h.action]
  show ∀ l ∈ (Runtime.appRun k ⟨app, s, .app⟩).lines, ¬ l.IsError
  rw [hnone]
  exact List.forall_mem_nil _

/-- The turn of `NfcTags` is quiet exactly when it reports no failure. -/
theorem quiet_tags_iff {r : Runtime} (h : Staged k r) (hturn : r.turn = .tags) (hw : HwWrite)
    (junk : UInt8) : Quiet k r (.tags hw junk) ↔ CallsOk r (.tags hw junk) := by
  have hbusy : r.stack.tags.Busy := by
    unfold Staged at h
    rw [hturn] at h
    exact h.elim Waits.busy Lost.busy
  refine Iff.trans ?_ (pollLines_eq_nil_iff (β := LogBuf) hbusy hw junk)
  constructor
  · intro hquiet
    refine List.eq_nil_iff_forall_not_mem.mpr fun l hl => ?_
    exact hquiet l (List.mem_append_left _ hl) (errorLines_poll _ _ _ l hl).1
  · intro hnone
    refine List.forall_mem_append.mpr ⟨?_, fun l hl => (informs_called _ _ _ _ l hl).1⟩
    rw [hnone]
    exact List.forall_mem_nil _

/-- The turn of `NfcNci` is quiet exactly when the packet is handled. -/
theorem quiet_nci_iff {r : Runtime} (hcb : r.stack.nci.cbRegistered = true) (pkt : Packet)
    (garbage : NciRfIntf) : Quiet k r (.nci pkt garbage) ↔ r.stack.nci.Handles pkt := by
  refine Iff.trans ?_ (receiveLines_quiet_iff (β := LogBuf) hcb pkt)
  constructor
  · exact fun hquiet l hl => hquiet l (List.mem_append_left _ hl)
  · exact fun hquiet => List.forall_mem_append.mpr
      ⟨hquiet, fun l hl => (informs_called _ _ _ _ l hl).1⟩

theorem quiet_of_fine {r : Runtime} (h : Steady k r) {e : LoopEvent}
    (hen : (loopSystem k).enabled r e) (hfine : Fine r e) : Quiet k r e := by
  cases e with
  | app => exact quiet_app h.2 hen
  | tags hw junk => exact (quiet_tags_iff h.2 hen hw junk).mpr hfine.1
  | nci pkt garbage =>
      exact (quiet_nci_iff h.1.agrees.registered pkt garbage).mpr hfine.2

/-! ## A failure is logged -/

/-- After a packet that leads to a failure, the next turn goes wrong. -/
theorem goesWrong_receive {r : Runtime} (h : Steady k r) {pkt : Packet} {garbage : NciRfIntf}
    (hen : (loopSystem k).enabled r (.nci pkt garbage))
    (hfailed : ¬ CallsOk r (.nci pkt garbage)) :
    GoesWrong k ((loopSystem k).next r (.nci pkt garbage)) := by
  have hcb := h.1.agrees.registered
  cases k with
  | tagDump =>
      refine Or.inl ?_
      rw [error_of_not_callsOk hcb hfailed]
      rfl
  | tagDetect =>
      have hwaits : Waits .tagDetect r.stack r.app := by
        have hstaged := h.2
        unfold Staged at hstaged
        rwa [hen.1] at hstaged
      have hquiet : callsOf (r.stack.receive pkt garbage).2 = [] →
          CallsOk r (.nci pkt garbage) := by
        intro hnone c hc
        have hc : c ∈ callsOf (r.stack.receive pkt garbage).2 := hc
        rw [hnone] at hc
        cases hc
      cases stack_receive_cases hcb pkt garbage with
      | accepted m _ _ _ _ _ _ _ out_eq =>
          refine absurd (fun c hc => ?_) hfailed
          have hc : c ∈ callsOf (r.stack.receive pkt garbage).2 := hc
          rw [out_eq] at hc
          split_ifs at hc
          · obtain rfl := List.mem_singleton.mp hc
            rfl
          · cases hc
      | refused m _ _ _ state_eq _ _ _ status failed out_eq =>
          by_cases hm : m = .ntfRfIntfActivated
          · subst hm
            have hcall : (⟨.cbDiscoverNtf, status, .discoverActivated, none⟩ : TagsCall) ∈
                callsOf (r.stackOut (.nci pkt garbage)) := by
              show _ ∈ callsOf (r.stack.receive pkt garbage).2
              rw [out_eq]
              exact List.mem_singleton.mpr rfl
            obtain ⟨happ, hstate⟩ := failed_activation_step hcb hcall rfl failed
            refine Or.inr ⟨.cmdDeactivate, .deactivateResponse, by rw [happ]; rfl, ?_⟩
            have hnot := hwaits.not_tagActive
            unfold NfcTags.TagActive at hnot
            rw [← hstate] at hnot
            rw [NfcTags.exec, NfcTags.cmdDeactivate, if_neg hnot]
            show TagsStatus.rejected ≠ .ok
            decide
          · refine Or.inl ?_
            rw [loop_next_nci, Runtime.handled, out_eq, failureCall, called_call,
              callback_failed_tagDetect _ _ _ hm failed]
            rfl
      | chunk _ intf _ _ _ _ _ _ => cases hwaits.no_intf.symm.trans intf
      | dropped _ _ _ _ _ _ _ out_eq => exact absurd (hquiet (by rw [out_eq]; rfl)) hfailed
      | other _ _ _ _ out_eq => exact absurd (hquiet (by rw [out_eq]; rfl)) hfailed

theorem not_quiet_of_goesWrong {r : Runtime} (h : GoesWrong k r) : ¬ Quiet k r .app := by
  obtain ⟨str, args, hline⟩ := appRun_failed h
  intro hquiet
  have hmem : LogCall.e str args ∈ r.lines k .app := by
    show _ ∈ (r.appRun k).lines
    rw [hline]
    exact List.mem_singleton.mpr rfl
  exact hquiet _ hmem ⟨str, args, rfl⟩

/-- When it is the application's turn, that is the next event. -/
theorem quiet_next_app {r : Runtime} (hturn : r.turn = .app) {es : List LoopEvent}
    (hlegal : (loopSystem k).Legal r (es ++ [.app]))
    (hquiet : (loopSystem k).Along (Quiet k) r (es ++ [.app])) : Quiet k r .app := by
  cases es with
  | nil => exact hquiet.1
  | cons e es =>
      cases e with
      | app => exact hquiet.1
      | tags hw junk => exact absurd (hturn.symm.trans hlegal.1) nofun
      | nci pkt garbage => exact absurd (hturn.symm.trans hlegal.1.1) nofun

/-- Nothing goes wrong in a quiet run, the last turn of which is the application's. -/
theorem fine_of_quiet {r : Runtime} (h : Steady k r) {es : List LoopEvent}
    (hlegal : (loopSystem k).Legal r (es ++ [.app]))
    (hquiet : (loopSystem k).Along (Quiet k) r (es ++ [.app])) :
    (loopSystem k).Along Fine r (es ++ [.app]) := by
  induction es generalizing r with
  | nil => exact ⟨fine_app r, trivial⟩
  | cons e es ih =>
      obtain ⟨hen, hlegal⟩ := hlegal
      obtain ⟨hq, hquiet⟩ := hquiet
      have hfine : Fine r e := by
        cases e with
        | app => exact fine_app r
        | tags hw junk =>
            exact ⟨(quiet_tags_iff h.2 hen hw junk).mp hq, trivial⟩
        | nci pkt garbage =>
            refine ⟨?_, (quiet_nci_iff h.1.agrees.registered pkt garbage).mp hq⟩
            -- the application's turn is next, and it would log the failure
            by_contra hfailed
            have hwrong := goesWrong_receive h hen hfailed
            exact not_quiet_of_goesWrong hwrong (quiet_next_app rfl hlegal hquiet)
      exact ⟨hfine, ih (steady_next r e h hen hfine.1) hlegal hquiet⟩

/-- In every run of a sketch up to a turn of the application, the log shows no error exactly
when every callback reported a success and every packet was handled. -/
theorem log_quiet_iff {es : List LoopEvent}
    (hlegal : (loopSystem k).Legal Runtime.init (es ++ [.app])) :
    (loopSystem k).Along (Quiet k) Runtime.init (es ++ [.app]) ↔
      (loopSystem k).Along Fine Runtime.init (es ++ [.app]) := by
  constructor
  · exact fine_of_quiet steady_init hlegal
  · exact LabelledSystem.along_of_invariant
      (fun r e h hen hfine => steady_next r e h hen hfine.1)
      (fun _ _ h hen hfine => quiet_of_fine h hen hfine) steady_init hlegal

/-- `TagDetect` shows the failure of an activation, although it moves on. -/
theorem log_quiet_iff_short :
    ¬ (loopSystem .tagDetect).Along (Quiet .tagDetect) Runtime.init
      ((discoveryLoop ++ [.nci shortActivation NciRfIntf.zero]) ++ [.app]) :=
  (log_quiet_iff (by decide +kernel)).not.mpr (by decide +kernel)

end Sketch
end ArduinoNfc
