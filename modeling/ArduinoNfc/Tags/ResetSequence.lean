import ArduinoNfc.Tags.LayerAgreement

/-!
# The reset sequence

`cmdReset` may be called in any state of `NfcTags`, but `NfcNci::cmdCoreReset`
accepts only its own initial state.  `reset_works_iff` says what this leaves of
the promise that a reset works at any time: it works exactly as long as no reset
has got through to `NfcNci`.
-/

namespace ArduinoNfc
namespace Tags

open Foundation Nci

/-- The environment of a reset: what the uninitialised variable and a pointer of the
wrong type would hold, and the two responses of the controller. -/
structure ResetEnv where
  junk₁ : UInt8
  junk₂ : UInt8
  garbage₁ : NciRfIntf
  garbage₂ : NciRfIntf
  resetRsp : Packet
  initRsp : Packet
  reset_carries : resetRsp.Carries .rspCoreReset
  reset_ok : NciMsg.rspCoreReset.WellFormed resetRsp
  init_carries : initRsp.Carries .rspCoreInit
  init_ok : NciMsg.rspCoreInit.WellFormed initRsp

/-- `cmdReset`, then a poll and a response twice. -/
def ResetEnv.schedule (env : ResetEnv) : List StackEvent :=
  [.app .cmdReset, .poll acceptAll env.junk₁, .receive env.resetRsp env.garbage₁,
    .poll acceptAll env.junk₂, .receive env.initRsp env.garbage₂]

/-- The reset sequence reaches its end with one callback, and discovery can start. -/
structure ResetDone (s : Stack) (env : ResetEnv) : Prop where
  tags : (stackSystem.run s env.schedule).tags.state = .initDone
  nci : (stackSystem.run s env.schedule).nci.state = .rfstIdle
  calls : callsOf (stackSystem.trace s env.schedule) = [⟨.cbReset, .ok, .reset, none⟩]
  discover : (stackSystem.run s env.schedule).tags.cmdDiscover.1 = .ok

/-- The environment with the shortest responses. -/
def ResetEnv.minimal : ResetEnv where
  junk₁ := 0
  junk₂ := 0
  garbage₁ := NciRfIntf.zero
  garbage₂ := NciRfIntf.zero
  resetRsp := .minimal .rspCoreReset
  initRsp := .minimal .rspCoreInit
  reset_carries := Packet.carries_minimal _
  reset_ok := Packet.wellFormed_minimal _
  init_carries := Packet.carries_minimal _
  init_ok := Packet.wellFormed_minimal _

/-- One half of the sequence: a poll sends the pending command, and its response is
accepted. -/
theorem command_answered {s : Stack} (hcb : s.nci.cbRegistered = true) {cmd : NciCmd}
    (hpending : s.tags.pending = some cmd) (hguard : s.nci.state = cmd.guard)
    {m : NciMsg} (hsource : m.source = cmd.guard)
    {pkt : Packet} (hcarries : pkt.Carries m) (hform : m.WellFormed pkt) (junk : UInt8)
    (garbage : NciRfIntf) :
    let t := stackSystem.run s [.poll acceptAll junk, .receive pkt garbage]
    t.nci.cbRegistered = true ∧ t.nci.state = m.target ∧ t.tags.state = targetState m ∧
      t.tags.id = targetId m s.tags.id ∧
      callsOf (stackSystem.trace s [.poll acceptAll junk, .receive pkt garbage]) =
        if Reported m then [⟨reportMethod m, .ok, reportId m, none⟩] else [] := by
  have hpoll := poll_sent hpending hguard junk
  let t : Stack := ⟨s.tags.issued, (s.nci.exec acceptAll cmd).nci⟩
  have hregistered : t.nci.cbRegistered = true := (exec_cbRegistered _ _ _).trans hcb
  have hstate : t.nci.state = m.source := (exec_state _ _ _).trans (hguard.trans hsource.symm)
  obtain ⟨hnci, htags, hid, hout⟩ :=
    receive_of_accepts hregistered hcarries ⟨hstate, hform⟩ garbage
  simp only [LabelledSystem.run_cons, LabelledSystem.run_nil, LabelledSystem.trace_cons,
    LabelledSystem.trace_nil, next_poll, next_receive, emit_poll, emit_receive, hpoll]
  -- the poll reports nothing, so the calls are those of the reception
  refine ⟨?_, ?_, htags, ?_, ?_⟩
  · rw [hnci, NciMsg.accepted_cbRegistered]
    exact hregistered
  · rw [hnci]
    exact NciMsg.accepted_state ⟨hstate, hform⟩
  · rw [hid, issued_id]
  · rw [hout]
    split_ifs <;> rfl

/-- As long as `NfcNci` is in its initial state, the sequence reaches its end. -/
theorem reset_done {s : Stack} (hcb : s.nci.cbRegistered = true) (hnci : s.nci.state = .none)
    (env : ResetEnv) : ResetDone s env := by
  let s₀ : Stack := { s with tags := (s.tags.exec .cmdReset).2 }
  obtain ⟨hcb₁, hnci₁, htags₁, hid₁, hcalls₁⟩ := command_answered (s := s₀) hcb rfl hnci rfl
    env.reset_carries env.reset_ok env.junk₁ env.garbage₁
  let s₁ := stackSystem.run s₀ [.poll acceptAll env.junk₁, .receive env.resetRsp env.garbage₁]
  have hpending : s₁.tags.pending = some .cmdCoreInit := by
    have hid : s₁.tags.id = .reset := hid₁
    have hstate : s₁.tags.state = .initInit := htags₁
    simp only [NfcTags.pending, hid, hstate]
  obtain ⟨-, hnci₂, htags₂, -, hcalls₂⟩ := command_answered (s := s₁) hcb₁ hpending hnci₁ rfl
    env.init_carries env.init_ok env.junk₂ env.garbage₂
  have hrun : stackSystem.run s env.schedule =
      stackSystem.run s₁ [.poll acceptAll env.junk₂, .receive env.initRsp env.garbage₂] := rfl
  have htrace : callsOf (stackSystem.trace s env.schedule) =
      [⟨.cbReset, .ok, .reset, none⟩] := by
    have hsplit : stackSystem.trace s env.schedule =
        stackSystem.trace s₀ [.poll acceptAll env.junk₁, .receive env.resetRsp env.garbage₁] ++
          stackSystem.trace s₁ [.poll acceptAll env.junk₂, .receive env.initRsp env.garbage₂] :=
      stackSystem.trace_append s₀
        [.poll acceptAll env.junk₁, .receive env.resetRsp env.garbage₁] _
    have happend : ∀ xs ys, callsOf (xs ++ ys) = callsOf xs ++ callsOf ys :=
      fun xs ys => List.filterMap_append
    rw [hsplit, happend, hcalls₁, hcalls₂]
    rfl
  have hdone : (stackSystem.run s env.schedule).tags.state = .initDone := by
    rw [hrun]
    exact htags₂
  refine ⟨hdone, ?_, htrace, ?_⟩
  · rw [hrun]
    exact hnci₂
  · rw [NfcTags.cmdDiscover, if_neg (not_not.mpr hdone)]

/-- In any other state of `NfcNci`, the first poll reports a failure. -/
theorem reset_refused {s : Stack} (hnci : s.nci.state ≠ .none) (env : ResetEnv) :
    ¬ ResetDone s env := by
  intro hdone
  let s₀ : Stack := { s with tags := (s.tags.exec .cmdReset).2 }
  have hpending : s₀.tags.pending = some (.cmdCoreReset nciResetTypeKeepCfg) := rfl
  have hrejected : (s₀.nci.exec acceptAll (.cmdCoreReset nciResetTypeKeepCfg)).status =
      nciStatusRejected := by
    rw [exec_refused acceptAll hnci]
    rfl
  obtain ⟨-, status, hstatus, hout⟩ := poll_of_pending hpending acceptAll env.junk₁
  rw [hrejected, if_neg (by decide)] at hout
  have htrace : stackSystem.trace s env.schedule = (s₀.handleEvent acceptAll env.junk₁).2 ++
      stackSystem.trace (s₀.handleEvent acceptAll env.junk₁).1 (env.schedule.drop 2) := rfl
  have hcalls := hdone.calls
  -- the first observed call already has another status than the promised one
  rw [htrace, hout] at hcalls
  obtain ⟨hcall, -⟩ := List.cons.inj hcalls
  exact hstatus (TagsCall.mk.inj hcall).2.1

/-- In a reachable state, the reset sequence works for every well-formed pair of
responses exactly when `NfcNci` is still in its initial state. -/
theorem reset_works_iff {s : Stack} (h : s.Reachable) :
    (∀ env, ResetDone s env) ↔ s.nci.state = .none := by
  constructor
  · intro hworks
    by_contra hnci
    exact reset_refused hnci .minimal (hworks .minimal)
  · exact fun hnci env => reset_done h.agrees.registered hnci env

/-- The first reset of a stack works. -/
theorem reset_works_iff_init : ResetDone Stack.init .minimal :=
  (reset_works_iff ⟨[], trivial, rfl⟩).mpr rfl .minimal

/-- A second reset, once the first one is done, does not. -/
theorem reset_works_counterexample :
    ¬ ∀ s : Stack, s.Reachable → ∀ env, ResetDone s env := by
  intro h
  have hnci : (stackSystem.run Stack.init ResetEnv.minimal.schedule).nci.state ≠ .none := by
    decide +kernel
  exact reset_refused hnci .minimal
    (h _ ⟨ResetEnv.minimal.schedule, by decide +kernel, rfl⟩ .minimal)

end Tags
end ArduinoNfc
