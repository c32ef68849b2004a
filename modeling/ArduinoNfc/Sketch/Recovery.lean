import ArduinoNfc.Sketch.Conformance

/-!
# A search that goes wrong

While a sketch waits for a tag, much can happen that is none: a notification that is too
short, a response that nothing asked for, garbage.  The callbacks take the sketch to `ERROR`
then, but `NfcNci` and `NfcTags` go on waiting.  `search_recovers`: the next tag that is
found takes the sketch back, and from there it goes on as if nothing had happened.
-/

namespace ArduinoNfc
namespace Sketch

open Foundation Nci Tags Log

variable {k : Kind}

/-- Neither data nor the notification of a tag comes. -/
def Fruitless : LoopEvent → Prop
  | .nci pkt _ => ¬ pkt.IsData ∧
      ¬ (pkt.Carries .ntfRfIntfActivated ∧ NciMsg.ntfRfIntfActivated.WellFormed pkt)
  | _ => True

instance : ∀ e, Decidable (Fruitless e)
  | .app => inferInstanceAs (Decidable True)
  | .tags _ _ => inferInstanceAs (Decidable True)
  | .nci _ _ => inferInstanceAs (Decidable (_ ∧ ¬ (_ ∧ _)))

/-- The stack waits for a tag, and the sketch may have seen an error. -/
structure Searching (r : Runtime) : Prop where
  reachable : r.stack.Reachable
  id_eq : r.stack.tags.id = .discover
  state_eq : r.stack.tags.state = .discoverNtf
  idle : r.stack.tags.tag2.state = .none
  app_eq : r.app = .discovering ∨ r.app = .error ∨ r.app = .deactivate

theorem Searching.nci_eq {r : Runtime} (h : Searching r) : r.stack.nci.state = .rfstDiscovery :=
  h.reachable.agrees.agree _ (by rw [h.state_eq]; rfl)

/-- What a fruitless step comes to: all that is called is a deactivation, in vain. -/
structure Searches (k : Kind) (r : Runtime) (e : LoopEvent) : Prop where
  searching : Searching ((loopSystem k).next r e)
  rejected : ∀ result ∈ ((loopSystem k).emit r e).filterMap LoopOutput.result,
    result = (.cmdDeactivate, .rejected)

/-! ## One step -/

theorem shown_result (r : Runtime) (garbage : NciRfIntf) (run : Stack × List StackOutput) :
    (r.shown k garbage run).filterMap LoopOutput.result = [] :=
  shown_none (fun _ => rfl) (fun _ => rfl) r garbage run

theorem searches_app {r : Runtime} (h : Searching r) (hturn : r.turn = .app) :
    Searches k r .app := by
  have hreachable := stack_reachable_next (k := k) (e := .app) h.reachable hturn
  -- the command is called in none of the states that it is accepted in
  have hcall : ∀ cmd next, k.action r.app = .call cmd next →
      cmd = .cmdDeactivate ∧ r.stack.tags.exec cmd = (.rejected, r.stack.tags) := by
    intro cmd next haction
    rcases h.app_eq with happ | happ | happ
    · rw [happ] at haction
      cases k <;> cases haction
    · rw [happ] at haction
      cases k <;> cases haction
    · rw [happ] at haction
      obtain rfl : cmd = .cmdDeactivate := by cases k <;> cases haction <;> rfl
      refine ⟨rfl, if_neg ?_⟩
      rw [h.state_eq]
      decide
  rw [loop_next_app] at hreachable
  constructor
  · rw [loop_next_app]
    cases app_cases (k := k) r with
    | accepted cmd next action status_eq _ _ _ _ =>
        rw [(hcall cmd next action).2] at status_eq
        cases status_eq
    | refused _ _ _ _ state_eq tags_eq _ =>
        rw [tags_eq, state_eq]
        exact ⟨h.reachable, h.id_eq, h.state_eq, h.idle, Or.inr (Or.inl rfl)⟩
    | waits _ state_eq tags_eq _ _ =>
        rw [tags_eq, state_eq]
        exact ⟨h.reachable, h.id_eq, h.state_eq, h.idle, h.app_eq⟩
    | fails _ state_eq tags_eq _ =>
        rw [tags_eq, state_eq]
        exact ⟨h.reachable, h.id_eq, h.state_eq, h.idle, Or.inr (Or.inl rfl)⟩
  · rw [loop_emit_app, List.filterMap_append, lines_result, List.append_nil]
    cases app_cases (k := k) r with
    | accepted cmd next action status_eq _ _ _ _ =>
        rw [(hcall cmd next action).2] at status_eq
        cases status_eq
    | refused cmd next action _ _ _ called_eq =>
        obtain ⟨rfl, hexec⟩ := hcall cmd next action
        rw [called_eq, hexec]
        exact List.forall_mem_singleton.mpr rfl
    | waits _ _ _ called_eq _ => rw [called_eq]; exact List.forall_mem_nil _
    | fails _ _ _ called_eq => rw [called_eq]; exact List.forall_mem_nil _

/-- While the stack waits for a tag, a poll does nothing. -/
theorem poll_searching {s : Stack} (hid : s.tags.id = .discover)
    (hstate : s.tags.state = .discoverNtf) (hw : HwWrite) (junk : UInt8) :
    s.handleEvent hw junk = (s, []) := by
  simp [Stack.handleEvent, hid, Stack.handleDiscover, hstate, Stack.notify]

theorem searches_tags {r : Runtime} (h : Searching r) (hw : HwWrite) (junk : UInt8) :
    Searches k r (.tags hw junk) := by
  have hpoll := poll_searching h.id_eq h.state_eq hw junk
  constructor
  · rw [loop_next_tags, hpoll]
    exact ⟨h.reachable, h.id_eq, h.state_eq, h.idle, h.app_eq⟩
  · rw [loop_emit_tags, shown_result]
    exact List.forall_mem_nil _

/-- The failure of a message moves a sketch to `ERROR`, or `TagDetect` to `DEACTIVATE`. -/
theorem callback_failed (s : Stack) (garbage : NciRfIntf) (state : AppState) (m : NciMsg)
    {status : TagsStatus} (h : status ≠ .ok) :
    (k.callback s garbage state ⟨reportMethod m, status, reportId m, none⟩ []).1 = .error ∨
      (k.callback s garbage state ⟨reportMethod m, status, reportId m, none⟩ []).1 =
        .deactivate := by
  cases k with
  | tagDump => exact Or.inl (by rw [callback_failed_tagDump _ _ _ h])
  | tagDetect =>
      by_cases hm : m = .ntfRfIntfActivated
      · subst hm
        exact Or.inr rfl
      · exact Or.inl (by rw [callback_failed_tagDetect _ _ _ hm h])

theorem searches_nci {r : Runtime} (h : Searching r) {pkt : Packet} {garbage : NciRfIntf}
    (hen : (loopSystem k).enabled r (.nci pkt garbage))
    (hfruitless : Fruitless (.nci pkt garbage)) : Searches k r (.nci pkt garbage) := by
  have hreachable := stack_reachable_next h.reachable hen
  have hnone : ∀ result ∈ ((loopSystem k).emit r (.nci pkt garbage)).filterMap LoopOutput.result,
      result = (.cmdDeactivate, .rejected) := by
    rw [loop_emit_nci, shown_result]
    exact List.forall_mem_nil _
  refine ⟨?_, hnone⟩
  obtain ⟨hdata, hnotag⟩ := hfruitless
  rw [loop_next_nci] at hreachable ⊢
  cases stack_receive_cases h.reachable.agrees.registered pkt garbage with
  | accepted m carries accepts _ state_eq id_eq tag2_eq _ out_eq =>
      have hsource : m.source = .rfstDiscovery := accepts.1.symm.trans h.nci_eq
      cases m with
      | ntfRfIntfActivated => exact absurd ⟨carries, accepts.2⟩ hnotag
      | ntfRfDeactivate =>
          refine ⟨hreachable, id_eq, state_eq, tag2_eq.state_eq.trans h.idle, Or.inl ?_⟩
          rw [Runtime.handled, out_eq, if_pos (by decide), called_call]
          rfl
      | _ => cases hsource
  | refused m _ _ _ state_eq id_eq tag2_eq _ status failed out_eq =>
      refine ⟨hreachable, id_eq.trans h.id_eq, state_eq.trans h.state_eq,
        tag2_eq.state_eq.trans h.idle, Or.inr ?_⟩
      rw [Runtime.handled, out_eq, failureCall, called_call]
      exact callback_failed _ _ _ m failed
  | chunk isData _ _ _ _ _ _ _ => exact absurd isData hdata
  | dropped isData _ _ _ _ _ _ _ => exact absurd isData hdata
  | other _ _ _ tags_eq out_eq =>
      have hout : k.called (r.stack.receive pkt garbage).1 garbage r.app
          (r.stack.receive pkt garbage).2 = (r.app, []) := by
        rw [out_eq, called_nil]
      rw [Runtime.handled, hout] at hreachable ⊢
      exact ⟨hreachable, (congrArg NfcTags.id tags_eq).trans h.id_eq,
        (congrArg NfcTags.state tags_eq).trans h.state_eq,
        (congrArg (fun t : NfcTags => t.tag2.state) tags_eq).trans h.idle, h.app_eq⟩

theorem searches {r : Runtime} (h : Searching r) {e : LoopEvent}
    (hen : (loopSystem k).enabled r e) (hfruitless : Fruitless e) : Searches k r e := by
  cases e with
  | app => exact searches_app h hen
  | tags hw junk => exact searches_tags h hw junk
  | nci pkt garbage => exact searches_nci h hen hfruitless

/-! ## The tag that is found -/

/-- A sketch that waits for a tag, and that has seen no error. -/
theorem searching_of_steady {r : Runtime} (h : Steady k r) (happ : r.app = .discovering) :
    Searching r := by
  obtain ⟨app, s, turn⟩ := r
  obtain rfl : app = .discovering := happ
  obtain ⟨hreachable, hstaged⟩ := h
  have hwaits : Waits k s .discovering := by
    cases turn with
    | app =>
        rcases hstaged with hfinds | hwaits | hlost
        · cases hfinds
        · exact hwaits
        · cases hlost.app_eq
    | tags =>
        rcases hstaged with hwaits | hlost
        · exact hwaits
        · cases hlost.app_eq
    | nci => exact hstaged
  cases hwaits with
  | discovering free id_eq state => exact ⟨hreachable, id_eq, state, free.idle, Or.inl rfl⟩

/-- The tag takes the sketch back, whatever it has seen. -/
theorem steady_of_found {r : Runtime} (h : Searching r) {pkt : Packet} {garbage : NciRfIntf}
    (hen : (loopSystem k).enabled r (.nci pkt garbage)) (hcarries : pkt.Carries .ntfRfIntfActivated)
    (hform : NciMsg.ntfRfIntfActivated.WellFormed pkt) :
    let t := (loopSystem k).next r (.nci pkt garbage)
    Steady k t ∧ t.app = k.found t.stack ∧ t.phase = .searching := by
  have hreachable := stack_reachable_next h.reachable hen
  have haccepts : NciMsg.ntfRfIntfActivated.Accepts r.stack.nci.state pkt := ⟨h.nci_eq, hform⟩
  show Steady k ((loopSystem k).next r (.nci pkt garbage)) ∧ _
  rw [loop_next_nci] at hreachable ⊢
  cases stack_receive_cases h.reachable.agrees.registered pkt garbage with
  | accepted m carries _ _ state_eq _ tag2_eq _ out_eq =>
      obtain rfl := hcarries.unique carries
      have hcalled : k.called (r.stack.receive pkt garbage).1 garbage r.app
          (r.stack.receive pkt garbage).2 = (k.found (r.stack.receive pkt garbage).1,
            detected (r.stack.receive pkt garbage).1 garbage) := by
        rw [out_eq]
        exact called_activated garbage
      obtain ⟨hfinds, hphase⟩ := finds_activated (k := k) state_eq (tag2_eq.state_eq.trans h.idle)
      rw [Runtime.handled, hcalled] at hreachable ⊢
      exact ⟨⟨hreachable, Or.inl hfinds⟩, rfl, hphase⟩
  | refused m carries refuses _ _ _ _ _ _ _ _ =>
      obtain rfl := hcarries.unique carries
      exact absurd haccepts refuses
  | chunk isData _ _ _ _ _ _ _ => exact absurd isData hcarries.not_isData
  | dropped isData _ _ _ _ _ _ _ => exact absurd isData hcarries.not_isData
  | other noMsg _ _ _ _ => exact absurd hcarries (noMsg _)

/-- Whatever goes wrong while a sketch waits for a tag: it calls nothing that changes the
stack, and once a tag is found it goes on as if nothing had happened. -/
theorem search_recovers {es fs gs : List LoopEvent} {pkt : Packet} {garbage : NciRfIntf}
    (hlegal : (loopSystem k).Legal Runtime.init (es ++ (fs ++ .nci pkt garbage :: gs)))
    (hok : (loopSystem k).Along CallsOk Runtime.init es)
    (happ : ((loopSystem k).run Runtime.init es).app = .discovering)
    (hfruitless : ∀ e ∈ fs, Fruitless e) (hcarries : pkt.Carries .ntfRfIntfActivated)
    (hform : NciMsg.ntfRfIntfActivated.WellFormed pkt)
    (hok' : (loopSystem k).Along CallsOk
      ((loopSystem k).run Runtime.init (es ++ (fs ++ [.nci pkt garbage]))) gs) :
    let s := (loopSystem k).run Runtime.init es
    let r := (loopSystem k).run Runtime.init (es ++ (fs ++ [.nci pkt garbage]))
    (∀ cmd status, .command cmd status ∈ (loopSystem k).trace s fs →
        cmd = .cmdDeactivate ∧ status = .rejected) ∧
      r.app = k.found r.stack ∧
      ((loopSystem k).run r gs).app ≠ .error ∧
      (∀ cmd status, .command cmd status ∈ (loopSystem k).trace r gs → status = .ok) ∧
      (usage k).run .searching (((loopSystem k).trace r gs).filterMap LoopOutput.cmd) =
        some ((loopSystem k).run r gs).phase := by
  obtain ⟨hbefore, hrest⟩ := (LabelledSystem.along_append _ _ _ _ _).mp hlegal
  obtain ⟨hduring, hen, hafter⟩ := (LabelledSystem.along_append _ _ _ _ _).mp hrest
  have hsteady := LabelledSystem.run_invariant_along steady_next steady_init hbefore hok
  have hsearching := searching_of_steady hsteady happ
  have halong : (loopSystem k).Along (fun _ e => Fruitless e)
      ((loopSystem k).run Runtime.init es) fs := LabelledSystem.along_of_forall hfruitless _
  have hstill : Searching ((loopSystem k).run ((loopSystem k).run Runtime.init es) fs) :=
    LabelledSystem.run_invariant_along (fun _ _ h hen he => (searches h hen he).searching)
      hsearching hduring halong
  obtain ⟨hfound, happ_eq, hphase⟩ := steady_of_found hstill hen hcarries hform
  simp only [LabelledSystem.run_append, LabelledSystem.run_cons, LabelledSystem.run_nil]
    at hok' ⊢
  obtain ⟨hne, haccepted, husage⟩ := steady_run hfound hafter hok'
  refine ⟨?_, happ_eq, hne, haccepted, hphase ▸ husage⟩
  have hrejected : (loopSystem k).Along (Searches k) ((loopSystem k).run Runtime.init es) fs :=
    LabelledSystem.along_of_invariant (fun _ _ h hen he => (searches h hen he).searching)
      (fun _ _ h hen he => searches h hen he) hsearching hduring halong
  have hall := LabelledSystem.trace_forall (fun _ _ h => h.rejected) hrejected
  exact fun cmd status hmem => Prod.mk.inj (hall (cmd, status) (result_mem.mpr hmem))

/-- `TagDetect` is told of an activation that is too short, fails to deactivate it, then finds
a tag. -/
theorem search_recovers_short :
    let fs : List LoopEvent := [.nci shortActivation NciRfIntf.zero, .app, .tags acceptAll 0]
    let gs : List LoopEvent := [.app, .tags acceptAll 0,
      .nci (.minimal .rspRfDeactivate) NciRfIntf.zero]
    let s := (loopSystem .tagDetect).run Runtime.init discoveryLoop
    let r := (loopSystem .tagDetect).run Runtime.init
      (discoveryLoop ++ (fs ++ [.nci type2Tag NciRfIntf.zero]))
    (∀ cmd status, .command cmd status ∈ (loopSystem .tagDetect).trace s fs →
        cmd = .cmdDeactivate ∧ status = .rejected) ∧
      r.app = Kind.found .tagDetect r.stack ∧
      ((loopSystem .tagDetect).run r gs).app ≠ .error ∧
      (∀ cmd status, .command cmd status ∈ (loopSystem .tagDetect).trace r gs →
        status = .ok) ∧
      (usage .tagDetect).run .searching
          (((loopSystem .tagDetect).trace r gs).filterMap LoopOutput.cmd) =
        some ((loopSystem .tagDetect).run r gs).phase :=
  search_recovers (by decide +kernel) (by decide +kernel) (by decide +kernel) (by decide +kernel)
    (by decide +kernel) (by decide +kernel) (by decide +kernel)

end Sketch
end ArduinoNfc
