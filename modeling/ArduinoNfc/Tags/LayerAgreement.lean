import ArduinoNfc.Nci.PacketBounds
import ArduinoNfc.Tags.Polls
import ArduinoNfc.Tags.Receptions

/-!
# The two layers agree

`NfcTags` and `NfcNci` keep a state each, written by different functions.  The
invariant `Stack.Agrees` relates the two in every reachable state of the stack,
so a command that `NfcTags` issues, `CORE_RESET` aside, always finds `NfcNci` in
the state that its guard asks for.
-/

namespace ArduinoNfc
namespace Tags

open Foundation Nci

/-- The state of `NfcNci` that goes with a state of `NfcTags`, where there is
one. -/
def TagsState.nciState : TagsState → Option NciState
  | .none => some .none
  | .initInit => some .rfstReset
  | .initDone => some .rfstIdle
  | .discoverMap => some .rfstIdle
  | .discover => some .rfstIdle
  | .discoverNtf => some .rfstDiscovery
  | .deactivateRsp => some .rfstDiscovery
  | .discoverActivated => some .rfstPollActive
  | .deactivate => some .rfstPollActive
  | .dump => some .rfstPollActive
  | .initReset => Option.none
  | .deactivateNtf => Option.none
  | .dumpRsp => Option.none

/-- The states that no assignment of the source produces. -/
def TagsState.Unused (state : TagsState) : Prop := state = .deactivateNtf ∨ state = .dumpRsp

/-- The callback object stays registered, the states agree, and two of the states
are never entered. -/
structure Stack.Agrees (s : Stack) : Prop where
  registered : s.nci.cbRegistered = true
  agree : ∀ n ∈ s.tags.state.nciState, s.nci.state = n
  used : ¬ s.tags.state.Unused

theorem agrees_init : Stack.init.Agrees where
  registered := rfl
  agree := by decide
  used := by rintro (h | h) <;> cases h

/-- The invariant, from the state of `NfcNci` that the new state goes with. -/
theorem Stack.Agrees.move {s t : Stack} (h : s.Agrees) (state : TagsState)
    (hcb : t.nci.cbRegistered = s.nci.cbRegistered) (hstate : t.tags.state = state)
    (hused : ¬ state.Unused) (hagree : ∀ n ∈ state.nciState, t.nci.state = n) : t.Agrees where
  registered := hcb.trans h.registered
  agree := by rw [hstate]; exact hagree
  used := by rw [hstate]; exact hused

/-- The invariant does not depend on anything else. -/
theorem Stack.Agrees.congr {s t : Stack} (h : s.Agrees)
    (hcb : t.nci.cbRegistered = s.nci.cbRegistered) (hnci : t.nci.state = s.nci.state)
    (hstate : t.tags.state = s.tags.state) : t.Agrees :=
  h.move _ hcb hstate h.used fun n hn => hnci.trans (h.agree n hn)

instance (state : TagsState) : Decidable state.Unused := inferInstanceAs (Decidable (_ ∨ _))

theorem agrees_app {s : Stack} (h : s.Agrees) (cmd : AppCmd) :
    Stack.Agrees { s with tags := (s.tags.exec cmd).2 } := by
  cases exec_cases s.tags cmd with
  | reset _ _ tags_eq =>
      rw [tags_eq]
      exact h.move .initReset rfl rfl (by decide) nofun
  | discover _ source _ tags_eq =>
      have hidle : s.nci.state = .rfstIdle := h.agree _ (by rw [source]; rfl)
      rw [tags_eq]
      exact h.move .discoverMap rfl rfl (by decide) fun _ hn => hidle.trans (Option.some.inj hn)
  | deactivate _ source _ tags_eq =>
      have hactive : s.nci.state = .rfstPollActive :=
        h.agree _ (by rcases source with h | h <;> rw [h] <;> rfl)
      rw [tags_eq]
      exact h.move .deactivate rfl rfl (by decide) fun _ hn => hactive.trans (Option.some.inj hn)
  | dump _ source _ _ _ tags_eq =>
      have hactive : s.nci.state = .rfstPollActive := h.agree _ (by rw [source]; rfl)
      rw [tags_eq]
      exact h.move .dump rfl rfl (by decide) fun _ hn => hactive.trans (Option.some.inj hn)
  | refused _ _ _ tags_eq =>
      rw [tags_eq]
      exact h

theorem agrees_poll {s : Stack} (h : s.Agrees) (hw : HwWrite) (junk : UInt8) :
    (s.handleEvent hw junk).1.Agrees := by
  cases poll_cases s hw junk with
  | issued cmd _ stack_eq _ =>
      rw [stack_eq]
      exact h.congr (exec_cbRegistered _ _ _) (exec_state _ _ _) (issued_state _)
  | idle _ stack_eq _ =>
      rw [stack_eq]
      exact h
  -- nothing ever sets `DEACTIVATE_NTF`, so this branch of `handleDeactivate` is dead
  | deactivated _ _ state_eq _ _ => exact absurd (Or.inl state_eq) h.used
  | failed _ stack_eq _ _ _ =>
      rw [stack_eq]
      exact h

theorem agrees_receive {s : Stack} (h : s.Agrees) (pkt : Packet) (garbage : NciRfIntf) :
    (s.receive pkt garbage).1.Agrees := by
  cases stack_receive_cases h.registered pkt garbage with
  | accepted m _ accepts nci_eq state_eq _ _ _ _ =>
      -- both layers move, each to the state that the message leads to
      have hnci : (s.receive pkt garbage).1.nci.state = m.target := by
        rw [nci_eq, NciMsg.accepted_state accepts]
      have htarget : (targetState m).nciState = some m.target := by cases m <;> rfl
      refine h.move _ (by rw [nci_eq, NciMsg.accepted_cbRegistered]) state_eq
        (by cases m <;> decide) ?_
      intro n hn
      rw [htarget] at hn
      exact hnci.trans (Option.some.inj hn)
  | refused m _ _ nci_eq state_eq _ _ _ _ _ _ =>
      exact h.congr (by rw [nci_eq, NciMsg.refused_cbRegistered])
        (by rw [nci_eq, NciMsg.refused_state]) state_eq
  | chunk _ _ nci_eq _ state_eq _ _ _ =>
      exact h.congr (by rw [nci_eq]; rfl) (by rw [nci_eq]; rfl) state_eq
  | dropped _ _ nci_eq state_eq _ _ _ _ =>
      exact h.congr (by rw [nci_eq]; rfl) (by rw [nci_eq]; rfl) state_eq
  | other _ _ nci_eq tags_eq _ =>
      exact h.congr (by rw [nci_eq]; rfl) (by rw [nci_eq]; rfl) (by rw [tags_eq])

/-- The invariant is inductive. -/
theorem agrees_next {s : Stack} (h : s.Agrees) (e : StackEvent) :
    (stackSystem.next s e).Agrees := by
  cases e with
  | app cmd => exact agrees_app h cmd
  | poll hw junk => exact agrees_poll h hw junk
  | receive pkt garbage => exact agrees_receive h pkt garbage

/-- Every reachable state agrees. -/
theorem Stack.Reachable.agrees {s : Stack} (h : s.Reachable) : s.Agrees :=
  LabelledSystem.Reachable.invariant (I := Stack.Agrees)
    (fun _ e hs _ => agrees_next hs e) h agrees_init

/-- A tag is activated. -/
def NfcTags.TagActive (t : NfcTags) : Prop := t.state = .discoverActivated ∨ t.state = .dump

instance (t : NfcTags) : Decidable t.TagActive := inferInstanceAs (Decidable (_ ∨ _))

/-- While a tag is active, the only message that is accepted ends the activation. -/
theorem accepts_active {s : Stack} (h : s.Agrees) (hactive : s.tags.TagActive) {m : NciMsg}
    {pkt : Packet} (haccepts : m.Accepts s.nci.state pkt) : m = .rspRfDeactivate := by
  have hnci : s.nci.state = .rfstPollActive :=
    h.agree _ (by rcases hactive with h | h <;> rw [h] <;> rfl)
  have hsource : m.source = .rfstPollActive := haccepts.1.symm.trans hnci
  cases m <;> first | rfl | cases hsource

/-! ## The commands that `NfcTags` issues -/

/-- The pending command, `CORE_RESET` aside, goes with the state of `NfcTags`. -/
theorem pending_guard {t : NfcTags} {cmd : NciCmd} (h : t.pending = some cmd)
    (hreset : ∀ type, cmd ≠ .cmdCoreReset type) : t.state.nciState = some cmd.guard := by
  cases pending_cases h with
  | coreReset => exact absurd rfl (hreset _)
  | coreInit _ state_eq => rw [state_eq]; rfl
  | discoverMap _ state_eq => rw [state_eq]; rfl
  | discover _ state_eq => rw [state_eq]; rfl
  | deactivate _ state_eq => rw [state_eq]; rfl
  | read _ state_eq _ _ _ => rw [state_eq]; rfl

/-- A command whose guard holds is not rejected. -/
theorem exec_status_ne_rejected {nci : NfcNci} {cmd : NciCmd} (hw : HwWrite)
    (h : nci.state = cmd.guard) : (nci.exec hw cmd).status ≠ nciStatusRejected := by
  by_cases hparams : cmd.ParamsOk
  · obtain ⟨bytes, len, hsent⟩ := exec_sent hw h hparams
    rw [hsent]
    exact send_status_ne_rejected nci hw bytes len
  · rw [exec_invalid hw h hparams]
    show nciStatusInvalidParam ≠ nciStatusRejected
    decide

/-- The only command that a poll observes is the pending one. -/
theorem pending_of_emit {s : Stack} {hw : HwWrite} {junk : UInt8} {cmd : NciCmd}
    {status : UInt8} {written : Option (List UInt8)}
    (h : StackOutput.nciCmd cmd status written ∈ (s.handleEvent hw junk).2) :
    s.tags.pending = some cmd ∧ status = (s.nci.exec hw cmd).status ∧
      written = (s.nci.exec hw cmd).written := by
  cases poll_cases s hw junk with
  | issued issuedCmd pending _ out_eq =>
      obtain ⟨_, -, hout⟩ := out_eq
      rw [hout] at h
      rcases List.mem_cons.mp h with heq | htail
      · cases heq
        exact ⟨pending, rfl, rfl⟩
      · split_ifs at htail
        · cases htail
        · cases List.mem_singleton.mp htail
  | idle _ _ out_eq => rw [out_eq] at h; cases h
  | deactivated _ _ _ _ out_eq => rw [out_eq] at h; cases h
  | failed _ _ _ _ out_eq =>
      rw [out_eq] at h
      cases List.mem_singleton.mp h

/-- The relation between the two states, as the two layers are meant to keep it. -/
structure StatesAgree (tags : TagsState) (nci : NciState) : Prop where
  none : tags = .none → nci = .none
  initInit : tags = .initInit → nci = .rfstReset
  idle : tags = .initDone ∨ tags = .discoverMap ∨ tags = .discover → nci = .rfstIdle
  discovery : tags = .discoverNtf ∨ tags = .deactivateRsp → nci = .rfstDiscovery
  pollActive : tags = .discoverActivated ∨ tags = .deactivate ∨ tags = .dump →
    nci = .rfstPollActive

/-- In every reachable state the two layers agree, and a command that a poll issues
passes the state guard of `NfcNci` unless it is `CORE_RESET`. -/
theorem two_layer_agreement {s : Stack} (h : s.Reachable) :
    StatesAgree s.tags.state s.nci.state ∧
      ∀ hw junk cmd status written,
        .nciCmd cmd status written ∈ stackSystem.emit s (.poll hw junk) →
          (∀ type, cmd ≠ .cmdCoreReset type) →
            s.nci.state = cmd.guard ∧ status ≠ nciStatusRejected := by
  have hagrees := h.agrees
  constructor
  · constructor
    · intro hstate
      exact hagrees.agree _ (by rw [hstate]; rfl)
    · intro hstate
      exact hagrees.agree _ (by rw [hstate]; rfl)
    · rintro (hstate | hstate | hstate) <;> exact hagrees.agree _ (by rw [hstate]; rfl)
    · rintro (hstate | hstate) <;> exact hagrees.agree _ (by rw [hstate]; rfl)
    · rintro (hstate | hstate | hstate) <;> exact hagrees.agree _ (by rw [hstate]; rfl)
  · intro hw junk cmd status written hemit hreset
    obtain ⟨hpending, hstatus, -⟩ := pending_of_emit hemit
    have hguard : s.nci.state = cmd.guard := hagrees.agree _ (pending_guard hpending hreset)
    refine ⟨hguard, ?_⟩
    rw [hstatus]
    exact exec_status_ne_rejected hw hguard

/-- After the response to `CORE_RESET`, a poll issues `CORE_INIT`. -/
theorem two_layer_agreement_coreInit :
    let s := stackSystem.run Stack.init
      [.app .cmdReset, .poll acceptAll 0, .receive (.minimal .rspCoreReset) NciRfIntf.zero]
    StatesAgree s.tags.state s.nci.state ∧ s.nci.state = .rfstReset :=
  let h := two_layer_agreement ⟨_, by decide, rfl⟩
  ⟨h.1, (h.2 acceptAll 0 .cmdCoreInit 0 (some [0x20, 0x01, 0x00])
    (List.mem_singleton.mpr rfl) (by simp)).1⟩

/-! ## A run up to an activated tag -/

/-- A command of the application is polled and answered with success. -/
def answered (m : NciMsg) : List StackEvent :=
  [.poll acceptAll 0, .receive (.minimal m) NciRfIntf.zero]

/-- The sketch resets the stack, starts the discovery and finds a tag. -/
def activationRun (tag : Packet) : List StackEvent :=
  .app .cmdReset :: answered .rspCoreReset ++ answered .rspCoreInit ++
    .app .cmdDiscover :: answered .rspRfDiscoverMap ++ answered .rspRfDiscover ++
      [.receive tag NciRfIntf.zero]

/-- The activation of a type 2 tag: an NFCID of seven bytes, the first one `0x04`. -/
def type2Tag : Packet :=
  .activation nciDiscoveryTypePollA
    [0x44, 0x00, 0x07, 0x04, 0x01, 0x02, 0x03, 0x04, 0x05, 0x06, 0x01, 0x00] (by decide)

end Tags
end ArduinoNfc
