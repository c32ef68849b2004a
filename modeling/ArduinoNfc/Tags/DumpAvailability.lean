import ArduinoNfc.Tags.Chunks
import ArduinoNfc.Tags.LayerAgreement

/-!
# A newly activated type 2 tag can be dumped

The type 2 interface outlives the tags, and nothing but the end of a dump brings
it back to its initial state: neither an interruption of the dump nor a new
activation does.  `dump_available` shows that a type 2 tag can be dumped in every
run that never leaves a dump halfway and hands the interface no chunk outside of
one.
-/

namespace ArduinoNfc
namespace Tags

open Foundation Nci

/-- The step neither interrupts a dump nor revives a finished one: while the type 2
interface is in a dump, the application does not call `cmdReset` or `cmdDeactivate`
and no successful `RF_DEACTIVATE` response is accepted; and outside of a dump the
interface is handed no valid chunk that it would take for a middle one. -/
def KeepsDump (s : Stack) : StackEvent → Prop
  | .app cmd => cmd = .cmdReset ∨ cmd = .cmdDeactivate → s.tags.tag2.state = .none
  | .poll _ _ => True
  | .receive pkt _ =>
      (pkt.Carries .rspRfDeactivate → NciMsg.rspRfDeactivate.Accepts s.nci.state pkt →
        s.tags.tag2.state = .none) ∧
      (pkt.IsData → s.tags.pTagIntf = some .tag2 → s.tags.state ≠ .dump →
        s.tags.tag2.id = .dump → ValidChunk pkt →
          ¬ s.tags.tag2.block < memoryLastBlock + 1 - memoryReadBlock)

instance (s : Stack) : ∀ e, Decidable (KeepsDump s e)
  | .app _ => inferInstanceAs (Decidable (_ ∨ _ → _))
  | .poll _ _ => isTrue trivial
  | .receive _ _ => inferInstanceAs (Decidable ((_ → _ → _) ∧ (_ → _ → _ → _ → _ → ¬ _)))

/-- The layers agree, and the type 2 interface is busy during a dump only. -/
structure Stack.DumpCoherent (s : Stack) : Prop where
  agrees : s.Agrees
  busy : s.tags.tag2.state ≠ .none → s.tags.state = .dump

theorem dumpCoherent_init : Stack.init.DumpCoherent where
  agrees := agrees_init
  busy := fun h => absurd rfl h

theorem busy_app {s : Stack} (h : s.DumpCoherent) {cmd : AppCmd} (hkeeps : KeepsDump s (.app cmd))
    (hbusy : (s.tags.exec cmd).2.tag2.state ≠ .none) : (s.tags.exec cmd).2.state = .dump := by
  cases exec_cases s.tags cmd with
  | reset cmd_eq _ tags_eq =>
      rw [tags_eq] at hbusy
      exact absurd (hkeeps (Or.inl cmd_eq)) hbusy
  | discover _ source _ tags_eq =>
      rw [tags_eq] at hbusy
      exact absurd (source.symm.trans (h.busy hbusy)) nofun
  | deactivate cmd_eq _ _ tags_eq =>
      rw [tags_eq] at hbusy
      exact absurd (hkeeps (Or.inr cmd_eq)) hbusy
  | dump _ _ _ _ _ tags_eq => rw [tags_eq]
  | refused _ _ _ tags_eq =>
      rw [tags_eq] at hbusy ⊢
      exact h.busy hbusy

theorem busy_poll {s : Stack} (h : s.DumpCoherent) (hw : HwWrite) (junk : UInt8)
    (hbusy : (s.handleEvent hw junk).1.tags.tag2.state ≠ .none) :
    (s.handleEvent hw junk).1.tags.state = .dump := by
  cases poll_cases s hw junk with
  | issued cmd pending stack_eq _ =>
      rw [stack_eq] at hbusy ⊢
      rw [issued_state]
      by_cases hid : s.tags.id = .dump
      · cases pending_cases pending with
        | read _ state_eq _ _ _ => exact state_eq
        | _ id_eq _ => exact absurd (id_eq.symm.trans hid) nofun
      · rw [NfcTags.issued, if_neg hid] at hbusy
        exact h.busy hbusy
  | idle _ stack_eq _ =>
      rw [stack_eq] at hbusy ⊢
      exact h.busy hbusy
  | deactivated _ _ state_eq _ _ => exact absurd (Or.inl state_eq) h.agrees.used
  | failed _ stack_eq _ _ _ =>
      rw [stack_eq] at hbusy ⊢
      exact h.busy hbusy

/-- An idle interface that is handed a chunk stays idle, unless the chunk revives it. -/
theorem handleData_idle {t : NfcTagsIntfType2} (hidle : t.state = .none) (nci : NfcNci)
    (pkt : Packet) (id : UInt16)
    (hlast : t.id = .dump → ValidChunk pkt →
      ¬ t.block < memoryLastBlock + 1 - memoryReadBlock) :
    (t.handleData (nci.handOn pkt) nciStatusOk id (.rxBuf 2)).1.state = .none := by
  cases hid : t.id with
  | none => rw [NfcTagsIntfType2.handleData_none hid, hidle]
  | dump =>
      rw [NfcTagsIntfType2.handleData_dump hid, NfcTagsIntfType2.chunked]
      split_ifs with hvalid hblock
      · exact absurd hblock (hlast hid hvalid)
      · rfl
      · rfl

theorem busy_receive {s : Stack} (h : s.DumpCoherent) {pkt : Packet} {garbage : NciRfIntf}
    (hkeeps : KeepsDump s (.receive pkt garbage))
    (hbusy : (s.receive pkt garbage).1.tags.tag2.state ≠ .none) :
    (s.receive pkt garbage).1.tags.state = .dump := by
  cases stack_receive_cases h.agrees.registered pkt garbage with
  | accepted m carries accepts _ _ _ tag2_eq _ _ =>
      rw [tag2_eq.state_eq] at hbusy
      -- during a dump only an `RF_DEACTIVATE` response is accepted, which the condition excludes
      obtain rfl := accepts_active h.agrees (Or.inr (h.busy hbusy)) accepts
      exact absurd (hkeeps.1 carries accepts) hbusy
  | refused m _ _ _ state_eq _ tag2_eq _ _ _ _ =>
      rw [tag2_eq.state_eq] at hbusy
      rw [state_eq]
      exact h.busy hbusy
  | chunk isData intf nci_eq id state_eq _ _ run_eq =>
      rw [state_eq]
      -- outside of state `DUMP` the interface is idle, and the chunk leaves it so
      by_contra hstate
      have hidle : s.tags.tag2.state = .none := not_not.mp fun hne => hstate (h.busy hne)
      rw [nci_eq] at run_eq
      rw [(Prod.mk.inj run_eq).1] at hbusy
      exact hbusy (handleData_idle hidle s.nci pkt id (hkeeps.2 isData intf hstate))
  | dropped _ _ _ state_eq _ tag2_eq _ _ =>
      rw [tag2_eq] at hbusy
      rw [state_eq]
      exact h.busy hbusy
  | other _ _ _ tags_eq _ =>
      rw [tags_eq] at hbusy ⊢
      exact h.busy hbusy

theorem dumpCoherent_next {s : Stack} (h : s.DumpCoherent) {e : StackEvent}
    (hkeeps : KeepsDump s e) : (stackSystem.next s e).DumpCoherent where
  agrees := agrees_next h.agrees e
  busy := by
    cases e with
    | app cmd => exact busy_app h hkeeps
    | poll hw junk => exact busy_poll h hw junk
    | receive pkt garbage => exact busy_receive h hkeeps

/-- After a run that keeps every dump whole, an activated type 2 tag can be dumped. -/
theorem dump_available {es : List StackEvent} (hlegal : stackSystem.Legal Stack.init es)
    (hkeeps : stackSystem.Along KeepsDump Stack.init es) :
    let s := stackSystem.run Stack.init es
    s.tags.state = .discoverActivated → s.tags.tag2.state = .none ∧
      (s.tags.getInterface = some .tag2 → s.tags.cmdDump.1 = .ok) := by
  intro s hactivated
  have hcoherent : s.DumpCoherent := LabelledSystem.run_invariant_along (I := Stack.DumpCoherent)
    (fun _ _ hs _ => dumpCoherent_next hs) dumpCoherent_init hlegal hkeeps
  have hidle : s.tags.tag2.state = .none :=
    not_not.mp fun hne => absurd (hactivated.symm.trans (hcoherent.busy hne)) nofun
  refine ⟨hidle, fun hintf => ?_⟩
  have hintf' : s.tags.pTagIntf = some .tag2 := hintf
  simp [NfcTags.cmdDump, hactivated, hintf', NfcTags.intfCmdDump, NfcTagsIntfType2.cmdDump, hidle]

/-- The first tag that is activated, a type 2 tag. -/
theorem dump_available_first :
    (stackSystem.run Stack.init (activationRun type2Tag)).tags.cmdDump.1 = .ok :=
  have hlegal : stackSystem.Legal Stack.init (activationRun type2Tag) := by decide +kernel
  (dump_available hlegal (by decide +kernel) (by decide +kernel)).2 (by decide +kernel)

/-- The dump is interrupted before its first `READ`, and the tag is activated again. -/
def interruptedRun : List StackEvent :=
  activationRun type2Tag ++ .app .cmdDump :: .app .cmdDeactivate ::
    answered .rspRfDeactivate ++
    [.receive (.minimal .ntfRfDeactivate) NciRfIntf.zero, .receive type2Tag NciRfIntf.zero]

/-- After an interrupted dump, the next type 2 tag cannot be dumped. -/
theorem dump_available_counterexample :
    ¬ ∀ es, stackSystem.Legal Stack.init es →
      let s := stackSystem.run Stack.init es
      s.tags.state = .discoverActivated → s.tags.getInterface = some .tag2 →
        s.tags.cmdDump.1 = .ok := by
  intro h
  have hok := h interruptedRun (by decide +kernel) (by decide +kernel) (by decide +kernel)
  have hfailed : (stackSystem.run Stack.init interruptedRun).tags.cmdDump.1 = .failed := by
    decide +kernel
  exact absurd (hfailed.symm.trans hok) nofun

end Tags
end ArduinoNfc
