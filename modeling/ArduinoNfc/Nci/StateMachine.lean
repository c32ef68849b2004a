import ArduinoNfc.Nci.PacketBounds

/-!
# The state machine of `NfcNci`

Five messages move `_state`, each along one edge, and a message that is accepted
changes the members that belong to it and no others.  A packet that is not
accepted can clear `_data`, nothing else.

A command changes the transmit buffer only, as long as its packet fits in there.
`_state` is stored behind the buffer, so the first byte that does not fit becomes
the new state: the edges are those of runs in which every packet fits.
-/

namespace ArduinoNfc
namespace Nci

open Foundation

/-! ## Edges and frames -/

/-- The edges of the state machine, with the message that takes them. -/
inductive Edge : NciState → NciMsg → NciState → Prop
  | reset : Edge .none .rspCoreReset .rfstReset
  | init : Edge .rfstReset .rspCoreInit .rfstIdle
  | discover : Edge .rfstIdle .rspRfDiscover .rfstDiscovery
  | activate : Edge .rfstDiscovery .ntfRfIntfActivated .rfstPollActive
  | deactivate : Edge .rfstPollActive .rspRfDeactivate .rfstDiscovery

/-- The members of the object, without the receive buffer. -/
inductive Field where
  | txBuf
  | state
  | cb
  | data
  | reset
  | rfIntf
  | deactivate
  deriving DecidableEq, Repr

/-- The member has the same value in both objects. -/
def Field.Kept : Field → NfcNci → NfcNci → Prop
  | .txBuf, a, b => b.txBuf = a.txBuf
  | .state, a, b => b.state = a.state
  | .cb, a, b => b.cbRegistered = a.cbRegistered
  | .data, a, b => b.data = a.data
  | .reset, a, b => b.reset = a.reset
  | .rfIntf, a, b => b.rfIntf = a.rfIntf
  | .deactivate, a, b => b.deactivate = a.deactivate

/-- No other members than these change. -/
def ChangesOnly (fields : List Field) (a b : NfcNci) : Prop := ∀ f, f ∉ fields → f.Kept a b

theorem ChangesOnly.refl (fields : List Field) (a : NfcNci) : ChangesOnly fields a a := by
  intro f _
  cases f <;> rfl

/-- What a message changes when it is accepted. -/
def NciMsg.mayChange : NciMsg → List Field
  | .rspCoreReset => [.state, .data, .reset]
  | .rspCoreInit => [.state, .data]
  | .rspRfDiscoverMap => [.data]
  | .rspRfDiscover => [.state, .data]
  | .rspRfDeactivate => [.state, .data]
  | .ntfRfIntfActivated => [.state, .data, .rfIntf]
  | .ntfRfDeactivate => [.data, .deactivate]

/-- A reception that fills the receive buffer and nothing else. -/
theorem fill_changesOnly (fields : List Field) (nci : NfcNci) (pkt : Packet) :
    ChangesOnly fields nci (nci.fill pkt) := by
  intro f _
  cases f <;> rfl

theorem accepted_changesOnly (m : NciMsg) (nci : NfcNci) (pkt : Packet) :
    ChangesOnly m.mayChange nci (m.accepted nci pkt) := by
  intro f hf
  cases m <;> cases f <;> first | rfl | exact absurd (by decide) hf

theorem refused_changesOnly (m : NciMsg) (nci : NfcNci) (pkt : Packet) :
    ChangesOnly [.data] nci (m.refused nci pkt) := by
  unfold NciMsg.refused
  split_ifs
  · intro f hf
    cases f <;> first | rfl | exact absurd (by decide) hf
  · exact fill_changesOnly _ nci pkt

theorem handOn_changesOnly (nci : NfcNci) (pkt : Packet) :
    ChangesOnly [.data] nci (nci.handOn pkt) := by
  intro f hf
  cases f <;> first | rfl | exact absurd (by decide) hf

/-- An accepted message stays in its state or takes its edge. -/
theorem accepts_edge {m : NciMsg} {nci : NfcNci} {pkt : Packet} (h : m.Accepts nci.state pkt)
    (hne : (m.accepted nci pkt).state ≠ nci.state) :
    Edge nci.state m (m.accepted nci pkt).state := by
  have hsource : nci.state = m.source := h.1
  rw [NciMsg.accepted_state h, hsource] at hne ⊢
  cases m with
  | rspCoreReset => exact .reset
  | rspCoreInit => exact .init
  | rspRfDiscoverMap => exact absurd rfl hne
  | rspRfDiscover => exact .discover
  | rspRfDeactivate => exact .deactivate
  | ntfRfIntfActivated => exact .activate
  | ntfRfDeactivate => exact absurd rfl hne

/-! ## One step -/

/-- What a reception may do. -/
structure PacketStep (nci : NfcNci) (pkt : Packet) : Prop where
  /-- The state moves along an edge, on a message that is accepted. -/
  edge : (nci.receive pkt).nci.state ≠ nci.state → ∃ m, pkt.Carries m ∧
    m.Accepts nci.state pkt ∧ Edge nci.state m (nci.receive pkt).nci.state
  accepted : ∀ m, pkt.Carries m → m.Accepts nci.state pkt →
    ChangesOnly m.mayChange nci (nci.receive pkt).nci
  other : (∀ m, pkt.Carries m → ¬ m.Accepts nci.state pkt) →
    ChangesOnly [.data] nci (nci.receive pkt).nci

/-- What a command may do. -/
structure CommandStep (nci : NfcNci) (hw : HwWrite) (cmd : NciCmd) : Prop where
  /-- The byte of `_state` is what it was. -/
  stateByte : nci.stateByte cmd = nci.state.toByte
  /-- The step is what the function computes. -/
  next_eq : nciSystem.next nci (.command hw cmd) = (nci.exec hw cmd).nci
  frame : ChangesOnly [.txBuf] nci (nci.exec hw cmd).nci
  /-- A command that fails its checks leaves no trace. -/
  refused : ¬ nci.Issues cmd →
    (nci.exec hw cmd).nci = nci ∧ (nci.exec hw cmd).written = none

/-- The step obeys the state machine. -/
def StateMachineStep (nci : NfcNci) : NciEvent → Prop
  | .command hw cmd => CommandStep nci hw cmd
  | .receive pkt => PacketStep nci pkt

/-- What a command sends fits in the transmit buffer. -/
def FitsTxBuffer (nci : NfcNci) : NciEvent → Prop
  | .command _ cmd => nci.Issues cmd → cmd.packet.length ≤ nciPacketSize
  | .receive _ => True

instance (nci : NfcNci) : ∀ e, Decidable (FitsTxBuffer nci e)
  | .command _ _ => inferInstanceAs (Decidable (_ → _))
  | .receive _ => isTrue trivial

/-- Every reception obeys the state machine. -/
theorem packetStep {nci : NfcNci} (hcb : nci.cbRegistered = true) (pkt : Packet) :
    PacketStep nci pkt := by
  cases receive_cases hcb pkt with
  | accepted m carries accepts nci_eq _ =>
      constructor
      · intro hne
        rw [nci_eq] at hne ⊢
        exact ⟨m, carries, accepts, accepts_edge accepts hne⟩
      · intro n hn _
        obtain rfl := carries.unique hn
        rw [nci_eq]
        exact accepted_changesOnly m nci pkt
      · intro hnone
        exact absurd accepts (hnone m carries)
  | refused m carries refuses nci_eq _ _ _ =>
      constructor
      · intro hne
        exact absurd (by rw [nci_eq, NciMsg.refused_state]) hne
      · intro n hn haccepts
        obtain rfl := carries.unique hn
        exact absurd haccepts refuses
      · intro _
        rw [nci_eq]
        exact refused_changesOnly m nci pkt
  | data isData nci_eq _ _ =>
      constructor
      · intro hne
        exact absurd (by rw [nci_eq]; rfl) hne
      · intro n hn _
        exact absurd isData hn.not_isData
      · intro _
        rw [nci_eq]
        exact handOn_changesOnly nci pkt
  | other noMsg _ nci_eq _ =>
      constructor
      · intro hne
        exact absurd (by rw [nci_eq]; rfl) hne
      · intro n hn _
        exact absurd hn (noMsg n)
      · intro _
        rw [nci_eq]
        exact fill_changesOnly _ nci pkt

/-- A command whose packet fits in the transmit buffer obeys it too. -/
theorem commandStep {nci : NfcNci} (hw : HwWrite) {cmd : NciCmd}
    (hfits : nci.Issues cmd → cmd.packet.length ≤ nciPacketSize) :
    CommandStep nci hw cmd where
  stateByte := stateByte_of_overrun_nil ((overrun_eq_nil_iff nci cmd).mpr hfits)
  next_eq := next_command ((overrun_eq_nil_iff nci cmd).mpr hfits) hw
  frame := by
    obtain ⟨txBuf, hnci⟩ := exec_nci nci hw cmd
    rw [hnci]
    intro f hf
    cases f <;> first | rfl | exact absurd (by decide) hf
  refused := by
    intro hnot
    obtain ⟨status, -, hrefused⟩ := exec_not_issues hw hnot
    rw [hrefused]
    exact ⟨rfl, rfl⟩

/-! ## Whole runs -/

/-- Along every run in which the packets of the commands fit in the transmit buffer,
every step obeys the state machine. -/
theorem state_machine_along {es : List NciEvent} (hlegal : nciSystem.Legal NfcNci.init es)
    (hfits : nciSystem.Along FitsTxBuffer NfcNci.init es) :
    nciSystem.Along StateMachineStep NfcNci.init es := by
  refine LabelledSystem.along_of_invariant (I := fun nci => nci.cbRegistered = true)
    (fun _ e hs _ _ => registered_next hs e) (fun nci e hs _ hP => ?_) rfl hlegal hfits
  cases e with
  | command hw cmd => exact commandStep hw hP
  | receive pkt => exact packetStep hs pkt

/-- The run that activates a tag. -/
def pollActiveRun : List NciEvent := discoveryRun ++ [.receive (.minimal .ntfRfIntfActivated)]

/-- An exchange of 255 bytes with the tag is within the bounds. -/
theorem state_machine_along_data :
    nciSystem.Along StateMachineStep NfcNci.init
      (pollActiveRun ++ [.command acceptAll (.dataSend 0 (List.replicate 255 0))]) :=
  state_machine_along (by decide +kernel) (by decide +kernel)

/-- One byte more resets the state to `NONE` although no message arrived. -/
theorem state_machine_counterexample :
    ¬ ∀ es, nciSystem.Legal NfcNci.init es → nciSystem.Along StateMachineStep NfcNci.init es := by
  intro h
  have hrun := h
    (pollActiveRun ++ [.command acceptAll (.dataSend 0 (List.replicate 256 0))])
    (by decide +kernel)
  obtain ⟨-, hstep, -⟩ := (LabelledSystem.along_append _ _ _ _ _).mp hrun
  have hbyte : NfcNci.stateByte (nciSystem.run NfcNci.init pollActiveRun)
      (.dataSend 0 (List.replicate 256 0)) = NciState.none.toByte := by decide +kernel
  have hstate : (nciSystem.run NfcNci.init pollActiveRun).state = .rfstPollActive := by
    decide +kernel
  have hkept := hstep.stateByte
  rw [hbyte, hstate] at hkept
  exact absurd hkept (by decide)

end Nci
end ArduinoNfc
