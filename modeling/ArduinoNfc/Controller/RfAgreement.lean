import ArduinoNfc.Controller.Definitions
import ArduinoNfc.Nci.Transmission

/-!
# Agreement on the RF state

`NfcNci` follows the RF state of the controller by the messages that it receives.
What it will know once all of them are handled is the state that it is heading for;
`rf_agreement` says that this is the state of the controller as long as no tag is
lost and no deactivation leads to the idle state.  The response to a deactivation is
handled without its type, and the loss of a tag is reported in a state in which
`NfcNci` refuses the report.
-/

namespace ArduinoNfc
namespace Controller

open Foundation Nci

/-! ## The two parties -/

/-- `NfcNci`, the RF state of the controller, the commands that the controller has not
answered and the packets that the host has not handled, the oldest ones first. -/
structure Link where
  nci : NfcNci
  rf : RfState
  commands : List NciCmd
  packets : List Packet

def Link.init : Link := ⟨NfcNci.init, .idle, [], []⟩

/-- The RF state that a deactivation leads to; other types are not known. -/
def deactivated (type : UInt8) : Option RfState :=
  if type = nciDeactivateTypeIdle then
    some .idle
  else if type = nciDeactivateTypeDiscovery then
    some .discovery
  else
    none

/-- The RF state after a command that succeeds, where it can. -/
def RfState.perform (rf : RfState) : NciCmd → Option RfState
  | .cmdRfDeactivate type => if rf = .pollActive then deactivated type else none
  | cmd => (response cmd).bind rf.after

/-- A deactivation notification of the type. -/
def Announces (type : UInt8) (ntf : Packet) : Prop :=
  ntf.Carries .ntfRfDeactivate ∧ NciMsg.ntfRfDeactivate.WellFormed ntf ∧ ntf.byte 0 = type

instance (type : UInt8) (ntf : Packet) : Decidable (Announces type ntf) :=
  inferInstanceAs (Decidable (_ ∧ _ ∧ _))

/-- The notification that follows a successful deactivation. -/
def notification : NciCmd → Packet → List Packet
  | .cmdRfDeactivate _, ntf => [ntf]
  | _, _ => []

/-- It carries the type of the deactivation. -/
def Announced : NciCmd → Packet → Prop
  | .cmdRfDeactivate type, ntf => Announces type ntf
  | _, _ => True

instance : ∀ (cmd : NciCmd) (ntf : Packet), Decidable (Announced cmd ntf)
  | .cmdRfDeactivate type, ntf => inferInstanceAs (Decidable (Announces type ntf))
  | .cmdCoreReset _, _ => isTrue trivial
  | .cmdCoreInit, _ => isTrue trivial
  | .cmdRfDiscoverMap _ _, _ => isTrue trivial
  | .cmdRfDiscover _ _, _ => isTrue trivial
  | .dataSend _ _, _ => isTrue trivial

/-- One step of the host or of the controller. -/
inductive LinkEvent where
  /-- A command is called; what it hands to the transport arrives, or gets lost. -/
  | command (hw : HwWrite) (cmd : NciCmd) (arrives : Bool)
  /-- `NfcNci::handleEvent` on the oldest packet. -/
  | deliver
  /-- The controller answers the oldest command. -/
  | answer (rsp ntf : Packet)
  /-- The controller activates a tag. -/
  | activate (ntf : Packet)
  /-- The controller loses the tag. -/
  | lose (ntf : Packet)
  /-- The controller sends something else. -/
  | other (pkt : Packet)

/-- The oldest command and the message that answers it. -/
def Link.owed (l : Link) : Option (NciCmd × NciMsg) :=
  l.commands.head?.bind fun cmd => (response cmd).map fun m => (cmd, m)

/-- The controller performs the command, or refuses it, and answers. -/
def Link.answer (l : Link) (rsp ntf : Packet) (cmd : NciCmd) (m : NciMsg) : Link :=
  if m.WellFormed rsp then
    { l with
      rf := (l.rf.perform cmd).getD l.rf
      commands := l.commands.tail
      packets := l.packets ++ rsp :: notification cmd ntf }
  else
    { l with commands := l.commands.tail, packets := l.packets ++ [rsp] }

/-- The controller answers every command once and in order, with success only where the
RF state allows it.  A copy past `nfcid` has no successor. -/
def linkSystem : LabelledSystem Link LinkEvent NciCall where
  enabled l e :=
    match e with
    | .command _ _ _ => True
    | .deliver => ∃ pkt ∈ l.packets.head?, l.nci.NfcidFits pkt
    | .answer rsp ntf => ∃ o ∈ l.owed, rsp.Carries o.2 ∧
        (o.2.WellFormed rsp → l.rf.perform o.1 ≠ none ∧ Announced o.1 ntf)
    | .activate ntf => l.rf = .discovery ∧ ntf.Carries .ntfRfIntfActivated ∧
        NciMsg.ntfRfIntfActivated.WellFormed ntf
    | .lose ntf => l.rf = .pollActive ∧ Announces nciDeactivateTypeDiscovery ntf
    | .other pkt => ∀ m : NciMsg, ¬ pkt.Carries m
  next l e :=
    match e with
    | .command hw cmd arrives =>
        { l with
          nci := (l.nci.exec hw cmd).nci
          commands := l.commands ++
            if arrives ∧ l.nci.Issues cmd ∧ (response cmd).isSome then [cmd] else [] }
    | .deliver =>
        match l.packets with
        | [] => l
        | pkt :: packets => { l with nci := (l.nci.receive pkt).nci, packets }
    | .answer rsp ntf =>
        match l.owed with
        | none => l
        | some (cmd, m) => l.answer rsp ntf cmd m
    | .activate ntf => { l with rf := .pollActive, packets := l.packets ++ [ntf] }
    | .lose ntf => { l with rf := .discovery, packets := l.packets ++ [ntf] }
    | .other pkt => { l with packets := l.packets ++ [pkt] }
  emit l e :=
    match e with
    | .deliver =>
        match l.packets with
        | [] => []
        | pkt :: _ => (l.nci.receive pkt).call.toList
    | _ => []

instance (l : Link) : ∀ e, Decidable (linkSystem.enabled l e)
  | .command _ _ _ => isTrue trivial
  | .deliver => inferInstanceAs (Decidable (∃ pkt ∈ l.packets.head?, l.nci.NfcidFits pkt))
  | .answer _ _ => inferInstanceAs (Decidable (∃ o ∈ l.owed, _ ∧ (_ → _ ≠ _ ∧ _)))
  | .activate _ => inferInstanceAs (Decidable (_ ∧ _ ∧ _))
  | .lose _ => inferInstanceAs (Decidable (_ ∧ _))
  | .other pkt => inferInstanceAs (Decidable (∀ m : NciMsg, ¬ pkt.Carries m))

/-! ## Agreement -/

/-- The RF state that a state of `NfcNci` names; before `CORE_INIT` nothing else than
idle is possible. -/
def rfNamed : NciState → Option RfState
  | .none => some .idle
  | .rfstReset => some .idle
  | .rfstIdle => some .idle
  | .rfstDiscovery => some .discovery
  | .rfstPollActive => some .pollActive
  | _ => none

/-- The discovery is named by one state only. -/
theorem eq_of_rfNamed_discovery {state : NciState} (h : rfNamed state = some .discovery) :
    state = .rfstDiscovery := by
  cases state with
  | rfstDiscovery => rfl
  | _ => cases h

/-- The host names the RF state of the controller. -/
def Link.Agree (l : Link) : Prop := rfNamed l.nci.state = some l.rf

instance (l : Link) : Decidable l.Agree := inferInstanceAs (Decidable (_ = _))

/-- The command deactivates the RF interface to the idle state. -/
def IdlesRf : NciCmd → Prop
  | .cmdRfDeactivate type => type = nciDeactivateTypeIdle
  | _ => False

instance : DecidablePred IdlesRf
  | .cmdRfDeactivate type => inferInstanceAs (Decidable (type = nciDeactivateTypeIdle))
  | .cmdCoreReset _ => isFalse id
  | .cmdCoreInit => isFalse id
  | .cmdRfDiscoverMap _ _ => isFalse id
  | .cmdRfDiscover _ _ => isFalse id
  | .dataSend _ _ => isFalse id

/-- No tag is lost, no deactivation to the idle state succeeds, and the packets of the
commands fit in the transmit buffer, behind which `_state` is stored. -/
def Followed (l : Link) : LinkEvent → Prop
  | .command _ cmd _ => l.nci.Issues cmd → cmd.packet.length ≤ nciPacketSize
  | .answer rsp _ => ∀ o ∈ l.owed, o.2.WellFormed rsp → ¬ IdlesRf o.1
  | .lose _ => False
  | _ => True

instance (l : Link) : ∀ e, Decidable (Followed l e)
  | .command _ _ _ => inferInstanceAs (Decidable (_ → _))
  | .answer _ _ => inferInstanceAs (Decidable (∀ o ∈ l.owed, _ → ¬ _))
  | .lose _ => isFalse id
  | .deliver => isTrue trivial
  | .activate _ => isTrue trivial
  | .other _ => isTrue trivial

/-! ## The state that the host is heading for -/

/-- An accepted message leads to its target. -/
theorem receive_state_accepts {nci : NfcNci} (hcb : nci.cbRegistered = true) {pkt : Packet}
    {m : NciMsg} (hcarries : pkt.Carries m) (haccepts : m.Accepts nci.state pkt) :
    (nci.receive pkt).nci.state = m.target := by
  rw [receive_message hcb hcarries, ((parser_spec m nci pkt).ok haccepts).2,
    NciMsg.accepted_state haccepts]

/-- Any other packet leaves the state alone. -/
theorem receive_state_refuses {nci : NfcNci} (hcb : nci.cbRegistered = true) {pkt : Packet}
    (h : ∀ m, pkt.Carries m → ¬ m.Accepts nci.state pkt) :
    (nci.receive pkt).nci.state = nci.state := by
  cases receive_cases hcb pkt with
  | accepted m carries accepts _ _ => exact absurd accepts (h m carries)
  | refused m _ _ nci_eq _ _ _ => rw [nci_eq, NciMsg.refused_state]
  | data _ nci_eq _ _ => rw [nci_eq]; rfl
  | other _ _ nci_eq _ => rw [nci_eq]; rfl

/-- The state after a reception; nothing but the state before it matters. -/
def stateAfter (state : NciState) (pkt : Packet) : NciState :=
  (NfcNci.receive { NfcNci.init with state } pkt).nci.state

/-- A message that is well formed is accepted in its source. -/
theorem stateAfter_message (state : NciState) {pkt : Packet} {m : NciMsg}
    (hcarries : pkt.Carries m) (hform : m.WellFormed pkt) :
    stateAfter state pkt = if state = m.source then m.target else state := by
  split_ifs with hstate
  · exact receive_state_accepts rfl hcarries ⟨hstate, hform⟩
  · refine receive_state_refuses rfl fun n hn haccepts => hstate ?_
    rw [hcarries.unique hn]
    exact haccepts.1

theorem stateAfter_malformed (state : NciState) {pkt : Packet} {m : NciMsg}
    (hcarries : pkt.Carries m) (hform : ¬ m.WellFormed pkt) : stateAfter state pkt = state := by
  refine receive_state_refuses rfl fun n hn haccepts => hform ?_
  rw [hcarries.unique hn]
  exact haccepts.2

theorem stateAfter_other (state : NciState) {pkt : Packet} (h : ∀ m, ¬ pkt.Carries m) :
    stateAfter state pkt = state :=
  receive_state_refuses rfl fun m hm => absurd hm (h m)

theorem receive_state {nci : NfcNci} (hcb : nci.cbRegistered = true) (pkt : Packet) :
    (nci.receive pkt).nci.state = stateAfter nci.state pkt := by
  by_cases haccepted : ∃ m, pkt.Carries m ∧ m.Accepts nci.state pkt
  · obtain ⟨m, hcarries, haccepts⟩ := haccepted
    rw [receive_state_accepts hcb hcarries haccepts,
      stateAfter_message nci.state hcarries haccepts.2, if_pos haccepts.1]
  · have hrefuses : ∀ m, pkt.Carries m → ¬ m.Accepts nci.state pkt :=
      fun m hcarries haccepts => haccepted ⟨m, hcarries, haccepts⟩
    have hsame : stateAfter nci.state pkt = nci.state := receive_state_refuses rfl hrefuses
    rw [receive_state_refuses hcb hrefuses, hsame]

/-- The state once every packet in flight is handled. -/
def Link.ahead (l : Link) : NciState := l.packets.foldl stateAfter l.nci.state

/-- How far the reset of the controller has got. -/
def phase : NciState → Nat
  | .none => 0
  | .rfstReset => 1
  | _ => 2

/-- The reset never goes back. -/
theorem phase_stateAfter (state : NciState) (pkt : Packet) :
    phase state ≤ phase (stateAfter state pkt) := by
  by_cases hmsg : ∃ m, pkt.Carries m
  · obtain ⟨m, hcarries⟩ := hmsg
    by_cases hform : m.WellFormed pkt
    · rw [stateAfter_message state hcarries hform]
      split_ifs with hstate
      · rw [hstate]
        cases m <;> decide
      · exact Nat.le_refl _
    · rw [stateAfter_malformed state hcarries hform]
  · rw [stateAfter_other state fun m hm => hmsg ⟨m, hm⟩]

theorem phase_foldl (state : NciState) (packets : List Packet) :
    phase state ≤ phase (packets.foldl stateAfter state) := by
  induction packets generalizing state with
  | nil => exact Nat.le_refl _
  | cons pkt packets ih => exact (phase_stateAfter state pkt).trans (ih _)

/-- The host heads for the RF state of the controller.  The commands that are not
answered yet were sent in the order of the reset, and the reset is at most one step
ahead of the host and of each of them. -/
structure Link.Foreseen (l : Link) : Prop where
  registered : l.nci.cbRegistered = true
  named : rfNamed l.ahead = some l.rf
  host : phase l.ahead ≤ phase l.nci.state + 1
  sorted : l.commands.Pairwise fun a b => phase a.guard ≤ phase b.guard
  sent : ∀ cmd ∈ l.commands, phase cmd.guard ≤ phase l.nci.state
  near : ∀ cmd ∈ l.commands, phase l.ahead ≤ phase cmd.guard + 1

theorem foreseen_init : Link.init.Foreseen where
  registered := rfl
  named := rfl
  host := by decide
  sorted := List.Pairwise.nil
  sent := List.forall_mem_nil _
  near := List.forall_mem_nil _

/-! ## One step -/

/-- Packets that join the queue leave the host where it is heading for. -/
theorem foreseen_ahead_eq {l l' : Link} (h : l.Foreseen) (hnci : l'.nci = l.nci)
    (hrf : l'.rf = l.rf) (hcommands : l'.commands <:+ l.commands) (hahead : l'.ahead = l.ahead) :
    l'.Foreseen where
  registered := by rw [hnci]; exact h.registered
  named := by rw [hahead, hrf]; exact h.named
  host := by rw [hahead, hnci]; exact h.host
  sorted := h.sorted.sublist hcommands.sublist
  sent := by
    rw [hnci]
    exact fun cmd hcmd => h.sent cmd (hcommands.subset hcmd)
  near := by
    rw [hahead]
    exact fun cmd hcmd => h.near cmd (hcommands.subset hcmd)

theorem ahead_append (l : Link) (pkts : List Packet) :
    Link.ahead { l with packets := l.packets ++ pkts } = pkts.foldl stateAfter l.ahead :=
  List.foldl_append ..

theorem foreseen_command {l : Link} (h : l.Foreseen) (hw : HwWrite) (cmd : NciCmd)
    (arrives : Bool) : (linkSystem.next l (.command hw cmd arrives)).Foreseen := by
  have hstate : (l.nci.exec hw cmd).nci.state = l.nci.state := exec_state l.nci hw cmd
  have hahead : (linkSystem.next l (.command hw cmd arrives)).ahead = l.ahead :=
    congrArg (l.packets.foldl stateAfter) hstate
  have hnew : ∀ c ∈ (if arrives ∧ l.nci.Issues cmd ∧ (response cmd).isSome then [cmd] else []),
      c.guard = l.nci.state := by
    intro c hc
    split_ifs at hc with hissues
    · rw [List.mem_singleton.mp hc]
      exact hissues.2.1.1.symm
    · cases hc
  constructor
  · exact (exec_cbRegistered l.nci hw cmd).trans h.registered
  · rw [hahead]
    exact h.named
  · rw [hahead]
    show phase l.ahead ≤ phase (l.nci.exec hw cmd).nci.state + 1
    rw [hstate]
    exact h.host
  · refine List.pairwise_append.mpr ⟨h.sorted, ?_, fun a ha b hb => ?_⟩
    · split_ifs
      · exact List.pairwise_singleton _ _
      · exact List.Pairwise.nil
    · rw [hnew b hb]
      exact h.sent a ha
  · intro c hc
    show phase c.guard ≤ phase (l.nci.exec hw cmd).nci.state
    rw [hstate]
    rcases List.mem_append.mp hc with hc | hc
    · exact h.sent c hc
    · rw [hnew c hc]
  · intro c hc
    rw [hahead]
    rcases List.mem_append.mp hc with hc | hc
    · exact h.near c hc
    · rw [hnew c hc]
      exact h.host

theorem foreseen_deliver {l : Link} (h : l.Foreseen) :
    (linkSystem.next l .deliver).Foreseen := by
  cases hpackets : l.packets with
  | nil =>
      have hnext : linkSystem.next l .deliver = l := by simp only [linkSystem, hpackets]
      rw [hnext]
      exact h
  | cons pkt packets =>
      have hnext : linkSystem.next l .deliver =
          { l with nci := (l.nci.receive pkt).nci, packets } := by
        simp only [linkSystem, hpackets]
      have hstate := receive_state h.registered pkt
      have hahead : (linkSystem.next l .deliver).ahead = l.ahead := by
        rw [hnext, Link.ahead, Link.ahead, hpackets, List.foldl_cons, ← hstate]
      have hmono : phase l.nci.state ≤ phase (l.nci.receive pkt).nci.state := by
        rw [hstate]
        exact phase_stateAfter _ _
      constructor
      · rw [hnext]
        exact receive_cbRegistered h.registered pkt
      · rw [hahead, hnext]
        exact h.named
      · rw [hahead, hnext]
        exact h.host.trans (Nat.add_le_add_right hmono 1)
      · rw [hnext]
        exact h.sorted
      · rw [hnext]
        exact fun cmd hcmd => (h.sent cmd hcmd).trans hmono
      · rw [hahead, hnext]
        exact h.near

/-- But for a deactivation to the idle state, a command that is performed moves the
controller as its response says. -/
theorem perform_eq_after {cmd : NciCmd} {m : NciMsg} (hresponse : response cmd = some m)
    (hidles : ¬ IdlesRf cmd) {rf rf' : RfState} (hperform : rf.perform cmd = some rf') :
    rf.after m = some rf' := by
  cases cmd with
  | cmdRfDeactivate type =>
      cases hresponse
      have hidle : ¬ type = nciDeactivateTypeIdle := hidles
      simp only [RfState.perform, deactivated, if_neg hidle] at hperform
      split_ifs at hperform with hactive
      cases hperform
      rw [hactive]
      rfl
  | dataSend cid data => cases hresponse
  | _ =>
      cases hresponse
      exact hperform

/-- Where the controller sends a message, the host accepts it or has accepted one like it
before, so both move alike. -/
theorem after_ahead {m : NciMsg} (hm : m ≠ .ntfRfDeactivate) {state : NciState}
    {rf rf' : RfState} (hnamed : rfNamed state = some rf) (hlow : phase m.source ≤ phase state)
    (hhigh : phase state ≤ phase m.source + 1) (hafter : rf.after m = some rf') :
    rfNamed (if state = m.source then m.target else state) = some rf' ∧
      phase (if state = m.source then m.target else state) ≤ phase m.source + 1 := by
  revert hm hlow hhigh hafter
  cases state <;> cases hnamed <;> cases m <;> cases rf' <;> decide

/-- The deactivation notification never moves the host. -/
theorem stateAfter_ntfRfDeactivate (state : NciState) {ntf : Packet}
    (hcarries : ntf.Carries .ntfRfDeactivate) : stateAfter state ntf = state := by
  by_cases hform : NciMsg.ntfRfDeactivate.WellFormed ntf
  · rw [stateAfter_message state hcarries hform]
    split_ifs with hstate
    · exact hstate.symm
    · rfl
  · exact stateAfter_malformed state hcarries hform

/-- Neither does what follows the response to a command. -/
theorem foldl_notification {cmd : NciCmd} {ntf : Packet} (h : Announced cmd ntf)
    (state : NciState) : (notification cmd ntf).foldl stateAfter state = state := by
  cases cmd with
  | cmdRfDeactivate type => exact stateAfter_ntfRfDeactivate state h.1
  | _ => rfl

/-- A command that is performed, with its response and what follows it on their way. -/
theorem foreseen_performed {l : Link} (h : l.Foreseen) {cmd : NciCmd} {rest : List NciCmd}
    (hcommands : l.commands = cmd :: rest) {m : NciMsg} (hresponse : response cmd = some m)
    {rf : RfState} (hafter : l.rf.after m = some rf) {rsp ntf : Packet}
    (hcarries : rsp.Carries m) (hform : m.WellFormed rsp) (hannounced : Announced cmd ntf) :
    Link.Foreseen { l with
      rf, commands := rest, packets := l.packets ++ rsp :: notification cmd ntf } := by
  have hntf : m ≠ .ntfRfDeactivate := by
    rintro rfl
    cases cmd <;> cases hresponse
  have hmem : cmd ∈ l.commands := hcommands ▸ List.mem_cons_self
  have hsource : m.source = cmd.guard := response_source hresponse
  have hlow : phase m.source ≤ phase l.ahead := by
    rw [hsource]
    exact (h.sent cmd hmem).trans (phase_foldl _ _)
  have hhigh : phase l.ahead ≤ phase m.source + 1 := by
    rw [hsource]
    exact h.near cmd hmem
  obtain ⟨hnamed, hphase⟩ := after_ahead hntf h.named hlow hhigh hafter
  have hahead : (rsp :: notification cmd ntf).foldl stateAfter l.ahead =
      if l.ahead = m.source then m.target else l.ahead := by
    rw [List.foldl_cons, foldl_notification hannounced, stateAfter_message _ hcarries hform]
  rw [← hahead] at hnamed hphase
  rw [hsource] at hphase
  -- the other commands were sent no earlier in the reset than this one
  obtain ⟨hlater, hsorted⟩ := List.pairwise_cons.mp (hcommands ▸ h.sorted)
  have hrest : ∀ c ∈ rest, c ∈ l.commands := fun c hc => hcommands ▸ List.mem_cons_of_mem cmd hc
  constructor
  · exact h.registered
  · rw [Link.ahead, List.foldl_append]
    exact hnamed
  · rw [Link.ahead, List.foldl_append]
    exact hphase.trans (Nat.add_le_add_right (h.sent cmd hmem) 1)
  · exact hsorted
  · exact fun c hc => h.sent c (hrest c hc)
  · intro c hc
    rw [Link.ahead, List.foldl_append]
    exact hphase.trans (Nat.add_le_add_right (hlater c hc) 1)

theorem foreseen_answer {l : Link} (h : l.Foreseen) {rsp ntf : Packet}
    (hen : linkSystem.enabled l (.answer rsp ntf)) (hfollowed : Followed l (.answer rsp ntf)) :
    (linkSystem.next l (.answer rsp ntf)).Foreseen := by
  obtain ⟨⟨cmd, m⟩, howed, hcarries, hsuccess⟩ := hen
  have howed' : l.owed = some (cmd, m) := howed
  have hnext : linkSystem.next l (.answer rsp ntf) = l.answer rsp ntf cmd m := by
    simp only [linkSystem, howed']
  obtain ⟨hhead, hresponse⟩ : l.commands.head? = some cmd ∧ response cmd = some m := by
    simpa [Link.owed, Option.bind_eq_some_iff] using howed'
  obtain ⟨rest, hcommands⟩ := List.head?_eq_some_iff.mp hhead
  rw [hnext]
  unfold Link.answer
  split_ifs with hform
  · obtain ⟨hperforms, hannounced⟩ := hsuccess hform
    obtain ⟨rf, hperform⟩ := Option.ne_none_iff_exists'.mp hperforms
    have hafter := perform_eq_after hresponse (hfollowed _ howed hform) hperform
    rw [hperform, hcommands]
    exact foreseen_performed h hcommands hresponse hafter hcarries hform hannounced
  · refine foreseen_ahead_eq h rfl rfl (List.tail_suffix _) ?_
    rw [Link.ahead, List.foldl_append]
    exact stateAfter_malformed _ hcarries hform

theorem foreseen_activate {l : Link} (h : l.Foreseen) {ntf : Packet}
    (hen : linkSystem.enabled l (.activate ntf)) :
    (linkSystem.next l (.activate ntf)).Foreseen := by
  obtain ⟨hrf, hcarries, hform⟩ := hen
  have hnamed : rfNamed l.ahead = some .discovery := hrf ▸ h.named
  have hstate : l.ahead = .rfstDiscovery := eq_of_rfNamed_discovery hnamed
  have hahead : (linkSystem.next l (.activate ntf)).ahead = .rfstPollActive := by
    refine (ahead_append l [ntf]).trans ?_
    rw [List.foldl_cons, List.foldl_nil, stateAfter_message _ hcarries hform, hstate]
    rfl
  have hphase : phase (linkSystem.next l (.activate ntf)).ahead = phase l.ahead := by
    rw [hahead, hstate]
    rfl
  constructor
  · exact h.registered
  · rw [hahead]
    rfl
  · rw [hphase]
    exact h.host
  · exact h.sorted
  · exact h.sent
  · rw [hphase]
    exact h.near

theorem foreseen_next {l : Link} {e : LinkEvent} (h : l.Foreseen)
    (hen : linkSystem.enabled l e) (hfollowed : Followed l e) :
    (linkSystem.next l e).Foreseen := by
  cases e with
  | command hw cmd arrives => exact foreseen_command h hw cmd arrives
  | deliver => exact foreseen_deliver h
  | answer rsp ntf => exact foreseen_answer h hen hfollowed
  | activate ntf => exact foreseen_activate h hen
  | lose ntf => exact hfollowed.elim
  | other pkt =>
      refine foreseen_ahead_eq h rfl rfl (List.suffix_refl _) ?_
      exact (ahead_append l [pkt]).trans (stateAfter_other _ hen)

/-! ## Whole runs -/

/-- In every run in which no tag is lost and no deactivation leads to the idle state, the
host names the RF state of the controller whenever it has handled every packet. -/
theorem rf_agreement {es : List LinkEvent} (hlegal : linkSystem.Legal Link.init es)
    (hfollowed : linkSystem.Along Followed Link.init es)
    (hquiet : (linkSystem.run Link.init es).packets = []) :
    (linkSystem.run Link.init es).Agree := by
  have hforeseen : (linkSystem.run Link.init es).Foreseen :=
    LabelledSystem.run_invariant_along (fun _ _ h hen hP => foreseen_next h hen hP)
      foreseen_init hlegal hfollowed
  have hnamed := hforeseen.named
  rw [Link.ahead, hquiet] at hnamed
  exact hnamed

/-- A command that is answered with success, and the response. -/
def handshake (cmd : NciCmd) (m : NciMsg) (ntf : Packet) : List LinkEvent :=
  [.command acceptAll cmd true, .answer (.minimal m) ntf, .deliver]

/-- Up to the activation of a tag. -/
def activateRun : List LinkEvent :=
  handshake (.cmdCoreReset nciResetTypeKeepCfg) .rspCoreReset .credits ++
    handshake .cmdCoreInit .rspCoreInit .credits ++
    handshake
      (.cmdRfDiscover 1 (some fun _ => ⟨nciDiscoveryTypePollA, nciDiscoveryFrequencyAlways⟩))
      .rspRfDiscover .credits ++
    [.activate (.minimal .ntfRfIntfActivated), .deliver]

/-- A deactivation with a notification of its type. -/
def deactivateRun (type : UInt8) : List LinkEvent :=
  handshake (.cmdRfDeactivate type) .rspRfDeactivate
    (.ofMsg .ntfRfDeactivate [type, 0] (by simp)) ++ [.deliver]

theorem rf_agreement_discovery :
    (linkSystem.run Link.init
      (activateRun ++ deactivateRun nciDeactivateTypeDiscovery)).Agree :=
  rf_agreement (by decide +kernel) (by decide +kernel) (by decide +kernel)

/-- After a deactivation to the idle state, the host still believes in a discovery. -/
theorem rf_agreement_counterexample :
    ¬ ∀ es, linkSystem.Legal Link.init es → (linkSystem.run Link.init es).commands = [] →
      (linkSystem.run Link.init es).packets = [] → (linkSystem.run Link.init es).Agree := by
  intro h
  have hagree := h (activateRun ++ deactivateRun nciDeactivateTypeIdle) (by decide +kernel)
    (List.isEmpty_iff.mp (by decide +kernel)) (List.isEmpty_iff.mp (by decide +kernel))
  exact absurd hagree (by decide +kernel)

end Controller
end ArduinoNfc
