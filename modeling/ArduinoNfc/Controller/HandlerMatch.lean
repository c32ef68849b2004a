import ArduinoNfc.Controller.Definitions

/-!
# Handler and state

`NfcTags::handleEvent` picks its handler by `_id` and the handler its branch by
`_state`.  Commands set both; the callbacks of `NfcNci` set `_state` alone.
`handler_match_iff` says in which runs of the stack against a controller the two
stay matched: those in which a message that `NfcNci` accepts belongs to the command
that `_id` names.
-/

namespace ArduinoNfc
namespace Controller

open Foundation Nci Tags

/-! ## The stack and its controller -/

/-- The stack, the RF state of the controller, the commands that the controller has not
answered and the packets that the host has not received, the oldest ones first. -/
structure Device where
  stack : Stack
  rf : RfState
  commands : List NciCmd
  packets : List Packet

def Device.init : Device := ⟨Stack.init, .idle, [], []⟩

/-- One step of the application, the host or the controller. -/
inductive DeviceEvent where
  | app (cmd : AppCmd)
  /-- `NfcTags::handleEvent`. -/
  | poll (hw : HwWrite) (junk : UInt8)
  /-- `NfcNci::handleEvent` on the oldest packet. -/
  | deliver (garbage : NciRfIntf)
  /-- The controller answers the oldest command; `ntf` follows the response to a
  successful `RF_DEACTIVATE`. -/
  | answer (rsp ntf : Packet)
  /-- The controller reports an activation, or the loss of the tag. -/
  | notify (m : NciMsg) (ntf : Packet)
  /-- The controller sends credits or data. -/
  | other (pkt : Packet)

/-- The response that the controller owes. -/
def Device.owed (d : Device) : Option NciMsg := d.commands.head?.bind response

/-- The controller performs the command, or refuses it, and answers. -/
def Device.answer (d : Device) (rsp ntf : Packet) (m : NciMsg) : Device :=
  if m.WellFormed rsp then
    { d with
      rf := (d.rf.after m).getD d.rf
      commands := d.commands.tail
      -- the deactivation notification follows its response at once
      packets := d.packets ++ if m = .rspRfDeactivate then [rsp, ntf] else [rsp] }
  else
    { d with commands := d.commands.tail, packets := d.packets ++ [rsp] }

/-- Commands are answered once and in order, with success only where the RF state
allows it; RF notifications are sent where the RF state allows them. -/
def deviceSystem : LabelledSystem Device DeviceEvent StackOutput where
  enabled d e :=
    match e with
    | .app _ => True
    | .poll _ _ => True
    | .deliver _ => ∃ pkt ∈ d.packets.head?, d.stack.nci.NfcidFits pkt
    | .answer rsp ntf => ntf.Carries .ntfRfDeactivate ∧
        ∃ m ∈ d.owed, rsp.Carries m ∧ (m.WellFormed rsp → d.rf.after m ≠ none)
    | .notify m ntf => m.mt = nciMtNtf ∧ ntf.Carries m ∧ d.rf.after m ≠ none
    | .other pkt => pkt.IsCredits ∨ pkt.IsData
  next d e :=
    match e with
    | .app cmd => { d with stack := stackSystem.next d.stack (.app cmd) }
    | .poll hw junk =>
        { d with
          stack := stackSystem.next d.stack (.poll hw junk)
          commands := d.commands ++
            (stackSystem.emit d.stack (.poll hw junk)).filterMap sentCmd }
    | .deliver garbage =>
        match d.packets with
        | [] => d
        | pkt :: packets =>
            { d with stack := stackSystem.next d.stack (.receive pkt garbage), packets }
    | .answer rsp ntf =>
        match d.owed with
        | none => d
        | some m => d.answer rsp ntf m
    | .notify m ntf =>
        { d with rf := (d.rf.after m).getD d.rf, packets := d.packets ++ [ntf] }
    | .other pkt => { d with packets := d.packets ++ [pkt] }
  emit d e :=
    match e with
    | .poll hw junk => stackSystem.emit d.stack (.poll hw junk)
    | .deliver garbage =>
        match d.packets with
        | [] => []
        | pkt :: _ => stackSystem.emit d.stack (.receive pkt garbage)
    | _ => []

instance (d : Device) : ∀ e, Decidable (deviceSystem.enabled d e)
  | .app _ => isTrue trivial
  | .poll _ _ => isTrue trivial
  | .deliver _ => inferInstanceAs (Decidable (∃ pkt ∈ _, d.stack.nci.NfcidFits pkt))
  | .answer _ _ => inferInstanceAs (Decidable (_ ∧ ∃ m ∈ _, _ ∧ (_ → _ ≠ _)))
  | .notify _ _ => inferInstanceAs (Decidable (_ ∧ _ ∧ _))
  | .other _ => inferInstanceAs (Decidable (_ ∨ _))

/-! ## Commands, handlers and states -/

/-- The states that belong to a command. -/
def commandStates : TagsId → List TagsState
  | .none => [.none]
  | .reset => [.initReset, .initInit, .initDone]
  | .discover => [.discoverMap, .discover, .discoverNtf, .discoverActivated]
  | .deactivate => [.deactivate, .deactivateRsp, .deactivateNtf]
  | .dump => [.dump]
  | .discoverActivated => []

/-- `_state` belongs to the command that `_id` names. -/
def Matched (t : NfcTags) : Prop := t.state ∈ commandStates t.id

/-- `handleEvent` picks a handler whose switch has no case for the state. -/
def Unhandled (t : NfcTags) : Prop :=
  match t.id with
  | .reset => t.state ≠ .initReset ∧ t.state ≠ .initInit ∧ t.state ≠ .initDone
  | .discover => t.state ≠ .discoverMap ∧ t.state ≠ .discover ∧ t.state ≠ .discoverNtf ∧
      t.state ≠ .discoverActivated
  | .deactivate => t.state ≠ .deactivate ∧ t.state ≠ .deactivateRsp ∧ t.state ≠ .deactivateNtf
  | .dump => t.state ≠ .dump
  | _ => False

theorem Matched.not_unhandled {t : NfcTags} (h : Matched t) : ¬ Unhandled t := by
  obtain ⟨state, id, rsp, tag2, mif, intf⟩ := t
  intro hun
  cases id <;> simp_all [Matched, Unhandled, commandStates]

/-- The commands that a message belongs to. -/
def commandsOf : NciMsg → List TagsId
  | .rspCoreReset => [.reset]
  | .rspCoreInit => [.reset]
  | .rspRfDiscoverMap => [.discover]
  | .rspRfDiscover => [.discover]
  | .rspRfDeactivate => [.deactivate]
  | .ntfRfIntfActivated => [.discover]
  | .ntfRfDeactivate => [.deactivate, .discover]

/-- Every state reached is matched, no packet moves `NfcTags` out of the current command
but at the end of a deactivation, and no poll meets an unhandled state. -/
structure StaysMatched (d : Device) (e : DeviceEvent) : Prop where
  matched : Matched (deviceSystem.next d e).stack.tags
  kept : ∀ garbage, e = .deliver garbage →
    (deviceSystem.next d e).stack.tags.id = d.stack.tags.id ∨ d.stack.tags.id = .deactivate
  handled : ∀ hw junk, e = .poll hw junk → ¬ Unhandled d.stack.tags

/-- A message that `NfcNci` accepts belongs to the command that `_id` names. -/
def InCommand (d : Device) : DeviceEvent → Prop
  | .deliver _ => ∀ pkt ∈ d.packets.head?, ∀ m, pkt.Carries m →
      NciMsg.Accepts m d.stack.nci.state pkt → d.stack.tags.id ∈ commandsOf m
  | _ => True

instance (d : Device) : ∀ e, Decidable (InCommand d e)
  | .deliver _ => inferInstanceAs (Decidable (∀ pkt ∈ _, ∀ _ : NciMsg, _ → _ → _ ∈ _))
  | .app _ => isTrue trivial
  | .poll _ _ => isTrue trivial
  | .answer _ _ => isTrue trivial
  | .notify _ _ => isTrue trivial
  | .other _ => isTrue trivial

/-! ## One step -/

theorem matched_app {t : NfcTags} (h : Matched t) (cmd : AppCmd) :
    Matched (t.exec cmd).2 := by
  cases exec_cases t cmd with
  | reset _ _ tags_eq => rw [tags_eq]; simp [Matched, commandStates]
  | discover _ _ _ tags_eq => rw [tags_eq]; simp [Matched, commandStates]
  | deactivate _ _ _ tags_eq => rw [tags_eq]; simp [Matched, commandStates]
  | dump _ _ _ _ _ tags_eq => rw [tags_eq]; simp [Matched, commandStates]
  | refused _ _ _ tags_eq => rw [tags_eq]; exact h

theorem matched_poll {s : Stack} (h : Matched s.tags) (hw : HwWrite) (junk : UInt8) :
    Matched (s.handleEvent hw junk).1.tags := by
  cases poll_cases s hw junk with
  | issued cmd _ stack_eq _ =>
      rw [stack_eq]
      simpa [Matched] using h
  | idle _ stack_eq _ => rw [stack_eq]; exact h
  | deactivated _ _ _ stack_eq _ => rw [stack_eq]; simp [Matched, commandStates, Stack.withTags]
  | failed _ stack_eq _ _ _ => rw [stack_eq]; exact h

/-- An accepted message keeps `NfcTags` matched and in its command just when it belongs
to that command. -/
theorem accepted_matched_iff (m : NciMsg) (id : TagsId) :
    (targetState m ∈ commandStates (targetId m id) ∧
      (targetId m id = id ∨ id = .deactivate)) ↔ id ∈ commandsOf m := by
  cases m <;> cases id <;> decide

theorem receive_matched_iff {s : Stack} (hcb : s.nci.cbRegistered = true)
    (h : Matched s.tags) (pkt : Packet) (garbage : NciRfIntf) :
    (Matched (s.receive pkt garbage).1.tags ∧
      ((s.receive pkt garbage).1.tags.id = s.tags.id ∨ s.tags.id = .deactivate)) ↔
    ∀ m, pkt.Carries m → NciMsg.Accepts m s.nci.state pkt → s.tags.id ∈ commandsOf m := by
  -- a packet that is not an accepted message leaves `_id` and `_state` alone
  have hsame : ∀ t : NfcTags, t.state = s.tags.state → t.id = s.tags.id →
      Matched t ∧ (t.id = s.tags.id ∨ s.tags.id = .deactivate) := by
    intro t hstate hid
    refine ⟨?_, Or.inl hid⟩
    rw [Matched, hstate, hid]
    exact h
  cases stack_receive_cases hcb pkt garbage with
  | accepted m carries accepts _ state_eq id_eq _ _ _ =>
      rw [Matched, state_eq, id_eq, accepted_matched_iff]
      constructor
      · intro hmem n hcarries _
        rw [hcarries.unique carries]
        exact hmem
      · exact fun hall => hall m carries accepts
  | refused m carries refuses _ state_eq id_eq _ _ _ _ _ =>
      refine iff_of_true (hsame _ state_eq id_eq) fun n hcarries haccepts => ?_
      rw [hcarries.unique carries] at haccepts
      exact absurd haccepts refuses
  | chunk isData _ _ _ state_eq id_eq _ _ =>
      exact iff_of_true (hsame _ state_eq id_eq)
        fun n hcarries _ => absurd isData hcarries.not_isData
  | dropped isData _ _ state_eq id_eq _ _ _ =>
      exact iff_of_true (hsame _ state_eq id_eq)
        fun n hcarries _ => absurd isData hcarries.not_isData
  | other noMsg _ _ tags_eq _ =>
      refine iff_of_true (hsame _ (by rw [tags_eq]) (by rw [tags_eq])) fun n hcarries _ => ?_
      exact absurd hcarries (noMsg n)

/-- A step of the controller does not touch the stack. -/
theorem answer_stack (d : Device) (rsp ntf : Packet) (m : NciMsg) :
    (d.answer rsp ntf m).stack = d.stack := by
  unfold Device.answer
  split_ifs <;> rfl

theorem next_answer_stack (d : Device) (rsp ntf : Packet) :
    (deviceSystem.next d (.answer rsp ntf)).stack = d.stack := by
  cases h : d.owed with
  | none => simp only [deviceSystem, h]
  | some m => simp only [deviceSystem, h, answer_stack]

/-- The stack is in a state that it can reach, and handler and state are matched. -/
structure Device.Coherent (d : Device) : Prop where
  reachable : d.stack.Reachable
  matched : Matched d.stack.tags

theorem coherent_init : Device.init.Coherent :=
  ⟨⟨[], trivial, rfl⟩, List.mem_singleton.mpr rfl⟩

/-- A step of the device is a step of the stack, or leaves it alone. -/
theorem reachable_device {d : Device} (h : d.stack.Reachable) {e : DeviceEvent}
    (hen : deviceSystem.enabled d e) : (deviceSystem.next d e).stack.Reachable := by
  cases e with
  | app cmd => exact h.next (e := .app cmd) trivial
  | poll hw junk => exact h.next (e := .poll hw junk) trivial
  | answer rsp ntf =>
      rw [next_answer_stack]
      exact h
  | notify m ntf => exact h
  | other pkt => exact h
  | deliver garbage =>
      obtain ⟨pkt, hpkt, hfits⟩ := hen
      obtain ⟨packets, hpackets⟩ := List.head?_eq_some_iff.mp hpkt
      simp only [deviceSystem, hpackets]
      exact h.next (e := .receive pkt garbage) hfits

/-- In a matched state, a step stays matched just when it meets the condition. -/
theorem staysMatched_iff {d : Device} (h : d.Coherent) (e : DeviceEvent) :
    StaysMatched d e ↔ InCommand d e := by
  cases e with
  | app cmd => exact iff_of_true ⟨matched_app h.matched cmd, nofun, nofun⟩ trivial
  | poll hw junk =>
      exact iff_of_true
        ⟨matched_poll h.matched hw junk, nofun, fun _ _ _ => h.matched.not_unhandled⟩ trivial
  | answer rsp ntf =>
      refine iff_of_true ⟨?_, nofun, nofun⟩ trivial
      rw [next_answer_stack]
      exact h.matched
  | notify m ntf => exact iff_of_true ⟨h.matched, nofun, nofun⟩ trivial
  | other pkt => exact iff_of_true ⟨h.matched, nofun, nofun⟩ trivial
  | deliver garbage =>
      cases hpackets : d.packets with
      | nil =>
          have hnext : deviceSystem.next d (.deliver garbage) = d := by
            simp only [deviceSystem, hpackets]
          refine iff_of_true ⟨?_, fun _ _ => Or.inl ?_, nofun⟩ ?_
          · rw [hnext]; exact h.matched
          · rw [hnext]
          · simp [InCommand, hpackets]
      | cons pkt packets =>
          have hnext : (deviceSystem.next d (.deliver garbage)).stack =
              (d.stack.receive pkt garbage).1 := by
            simp only [deviceSystem, hpackets, next_receive]
          have hiff := receive_matched_iff h.reachable.agrees.registered h.matched pkt garbage
          rw [← hnext] at hiff
          constructor
          · rintro hstays _ hpkt
            rw [hpackets] at hpkt
            cases hpkt
            exact hiff.mp ⟨hstays.matched, hstays.kept garbage rfl⟩
          · intro hin
            obtain ⟨hmatched, hkept⟩ := hiff.mpr (hin pkt (by rw [hpackets]; rfl))
            exact ⟨hmatched, fun _ _ => hkept, nofun⟩

/-! ## Whole runs -/

/-- In a run of the stack against a controller, handler and state stay matched just when
every message that `NfcNci` accepts belongs to the command that `_id` names. -/
theorem handler_match_iff {es : List DeviceEvent} (hlegal : deviceSystem.Legal Device.init es) :
    deviceSystem.Along StaysMatched Device.init es ↔
      deviceSystem.Along InCommand Device.init es := by
  constructor
  · exact LabelledSystem.along_of_invariant (I := Device.Coherent)
      (fun _ _ h hen hstays => ⟨reachable_device h.reachable hen, hstays.matched⟩)
      (fun _ e h _ => (staysMatched_iff h e).mp) coherent_init hlegal
  · exact LabelledSystem.along_of_invariant (I := Device.Coherent)
      (fun _ e h hen hin =>
        ⟨reachable_device h.reachable hen, ((staysMatched_iff h e).mpr hin).matched⟩)
      (fun _ e h _ => (staysMatched_iff h e).mpr) coherent_init hlegal

/-- A command is polled, answered with success, and the response is delivered. -/
def exchange (m : NciMsg) : List DeviceEvent :=
  [.poll acceptAll 0, .answer (.minimal m) (.minimal .ntfRfDeactivate),
    .deliver NciRfIntf.zero]

/-- Up to the `RF_DISCOVER` command, which the controller has answered. -/
def discoverRun : List DeviceEvent :=
  .app .cmdReset :: exchange .rspCoreReset ++ exchange .rspCoreInit ++
    .app .cmdDiscover :: exchange .rspRfDiscoverMap ++
      [.poll acceptAll 0, .answer (.minimal .rspRfDiscover) (.minimal .ntfRfDeactivate)]

/-- A tag is found and deactivated. -/
theorem handler_match_iff_tag :
    deviceSystem.Along StaysMatched Device.init
      (discoverRun ++ .deliver NciRfIntf.zero ::
        [.notify .ntfRfIntfActivated type2Tag, .deliver NciRfIntf.zero, .app .cmdDeactivate] ++
        exchange .rspRfDeactivate ++ [.deliver NciRfIntf.zero]) :=
  (handler_match_iff (by decide +kernel)).mpr (by decide +kernel)

/-- The response to `RF_DISCOVER` is on its way when the application resets the stack:
it takes `NfcTags` to a state that the reset handler does not know. -/
theorem handler_match_counterexample :
    ¬ ∀ es, deviceSystem.Legal Device.init es →
      Matched (deviceSystem.run Device.init es).stack.tags := by
  intro h
  have hmatched := h (discoverRun ++ [.app .cmdReset, .deliver NciRfIntf.zero])
    (by decide +kernel)
  have htags : (deviceSystem.run Device.init
      (discoverRun ++ [.app .cmdReset, .deliver NciRfIntf.zero])).stack.tags.id = .reset ∧
      (deviceSystem.run Device.init
        (discoverRun ++ [.app .cmdReset, .deliver NciRfIntf.zero])).stack.tags.state =
          .discoverNtf := by decide +kernel
  rw [Matched, htags.1, htags.2] at hmatched
  exact absurd hmatched (by decide)

end Controller
end ArduinoNfc
