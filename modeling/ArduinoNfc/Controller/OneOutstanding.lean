import ArduinoNfc.Controller.Definitions

/-!
# One command outstanding

The loop of the sketches polls `NfcTags` and then lets `NfcNci` handle one
packet, over and over.  Nothing in `NfcTags` remembers that a command is already
on its way: a poll sends it again unless its response has been handled in between.
`one_outstanding` says that this cannot be seen as long as the packet that is
handled while a command is unanswered is its response.
-/

namespace ArduinoNfc
namespace Controller

open Foundation Nci Tags

/-- Which of the two `handleEvent` calls of the loop comes next. -/
inductive Turn where
  | tags
  | nci
  deriving DecidableEq, Repr

/-- The stack inside the loop, with the commands that wait for a response, the oldest
one first. -/
structure Loop where
  stack : Stack
  turn : Turn
  unanswered : List NciCmd

/-- The loop before its first turn. -/
def Loop.init : Loop := ⟨Stack.init, .tags, []⟩

/-- One step of the loop or of its environment. -/
inductive LoopEvent where
  /-- The application calls a command, in its own turn or from a callback. -/
  | app (cmd : AppCmd)
  /-- `NfcTags::handleEvent`. -/
  | poll (hw : HwWrite) (junk : UInt8)
  /-- `NfcNci::handleEvent` on the response to the oldest unanswered command. -/
  | answer (pkt : Packet) (garbage : NciRfIntf)
  /-- `NfcNci::handleEvent` on a notification or a data packet. -/
  | deliver (pkt : Packet) (garbage : NciRfIntf)

/-- The packet is a successful response to the oldest unanswered command. -/
def Loop.AnsweredBy (l : Loop) (pkt : Packet) : Prop :=
  ∃ m ∈ l.unanswered.head?.bind response, pkt.Carries m ∧ m.WellFormed pkt

instance (l : Loop) (pkt : Packet) : Decidable (l.AnsweredBy pkt) :=
  inferInstanceAs (Decidable (∃ m ∈ _, _))

/-- A controller that answers every command once, in order and with success, and that
may deliver anything but responses in between. -/
def loopSystem : LabelledSystem Loop LoopEvent StackOutput where
  enabled l e :=
    match e with
    | .app _ => True
    | .poll _ _ => l.turn = .tags
    | .answer pkt _ => l.turn = .nci ∧ l.AnsweredBy pkt
    | .deliver pkt _ => l.turn = .nci ∧ l.stack.nci.NfcidFits pkt ∧
        (prsMt pkt.hdr0 = nciMtNtf ∨ prsMt pkt.hdr0 = nciMtData)
  next l e :=
    match e with
    | .app cmd => { l with stack := stackSystem.next l.stack (.app cmd) }
    | .poll hw junk =>
        { stack := stackSystem.next l.stack (.poll hw junk)
          turn := .nci
          unanswered := l.unanswered ++
            (stackSystem.emit l.stack (.poll hw junk)).filterMap sentCmd }
    | .answer pkt garbage =>
        { stack := stackSystem.next l.stack (.receive pkt garbage)
          turn := .tags
          unanswered := l.unanswered.tail }
    | .deliver pkt garbage =>
        { l with stack := stackSystem.next l.stack (.receive pkt garbage), turn := .tags }
  emit l e :=
    match e with
    | .app cmd => stackSystem.emit l.stack (.app cmd)
    | .poll hw junk => stackSystem.emit l.stack (.poll hw junk)
    | .answer pkt garbage => stackSystem.emit l.stack (.receive pkt garbage)
    | .deliver pkt garbage => stackSystem.emit l.stack (.receive pkt garbage)

instance (l : Loop) : ∀ e, Decidable (loopSystem.enabled l e)
  | .app _ => isTrue trivial
  | .poll _ _ => inferInstanceAs (Decidable (_ = _))
  | .answer pkt _ => inferInstanceAs (Decidable (_ = _ ∧ l.AnsweredBy pkt))
  | .deliver _ _ => inferInstanceAs (Decidable (_ ∧ _ ∧ _))

/-- No command is written over an unanswered one, and no response is reported as
rejected. -/
structure OneOutstanding (l : Loop) (e : LoopEvent) : Prop where
  writes : ∀ cmd status bytes, .nciCmd cmd status (some bytes) ∈ loopSystem.emit l e →
    (response cmd).isSome → l.unanswered = []
  answers : ∀ pkt garbage, e = .answer pkt garbage →
    ∀ c bytes, .call c bytes ∈ loopSystem.emit l e → c.status ≠ .rejected

/-- What is handled while a command is unanswered is its response. -/
def AnswersFirst (l : Loop) : LoopEvent → Prop
  | .deliver _ _ => l.unanswered = []
  | _ => True

/-- Between two turns nothing is unanswered; in the turn of `NfcNci` at most one command
is, and `NfcNci` is in the state that accepts its response. -/
structure Loop.Paced (l : Loop) : Prop where
  reachable : l.stack.Reachable
  between : l.turn = .tags → l.unanswered = []
  waiting : ∀ cmd ∈ l.unanswered, l.unanswered = [cmd] ∧
    (response cmd).isSome ∧ l.stack.nci.state = cmd.guard

/-- A loop in which nothing is unanswered is paced. -/
theorem paced_of_answered {l : Loop} (h : l.stack.Reachable) (hnothing : l.unanswered = []) :
    l.Paced where
  reachable := h
  between := fun _ => hnothing
  waiting := by
    rw [hnothing]
    nofun

theorem paced_init : Loop.init.Paced := paced_of_answered ⟨[], trivial, rfl⟩ rfl

/-! ## One step -/

theorem paced_app {l : Loop} (h : l.Paced) (cmd : AppCmd) :
    (loopSystem.next l (.app cmd)).Paced where
  reachable := h.reachable.next (e := .app cmd) trivial
  between := h.between
  waiting := h.waiting

theorem paced_poll {l : Loop} (h : l.Paced) (hturn : l.turn = .tags) (hw : HwWrite)
    (junk : UInt8) : (loopSystem.next l (.poll hw junk)).Paced where
  reachable := h.reachable.next (e := .poll hw junk) trivial
  between := nofun
  waiting := by
    intro cmd hcmd
    -- what this poll sends is all that is unanswered afterwards
    have hnothing : l.unanswered = [] := h.between hturn
    simp only [loopSystem, hnothing, List.nil_append] at hcmd ⊢
    obtain ⟨hsent, hresponse, hguard⟩ := sentCmd_poll hcmd
    have hstate : (stackSystem.next l.stack (.poll hw junk)).nci.state = l.stack.nci.state :=
      poll_nci_state l.stack hw junk
    exact ⟨hsent, hresponse, hstate.trans hguard⟩

/-- The response to the unanswered command is accepted. -/
theorem answered_accepts {l : Loop} (h : l.Paced) {pkt : Packet} (hanswer : l.AnsweredBy pkt) :
    l.unanswered.tail = [] ∧ ∃ m : NciMsg, pkt.Carries m ∧ m.Accepts l.stack.nci.state pkt := by
  obtain ⟨m, hm, hcarries, hform⟩ := hanswer
  obtain ⟨cmd, hhead, hresponse⟩ := Option.bind_eq_some_iff.mp hm
  obtain ⟨hsingle, -, hguard⟩ := h.waiting cmd (List.mem_of_mem_head? hhead)
  refine ⟨by rw [hsingle]; rfl, m, hcarries, ?_, hform⟩
  rw [hguard, response_source hresponse]

/-- It is not an activation, so the stack can receive it. -/
theorem Loop.AnsweredBy.enabled {l : Loop} {pkt : Packet} (h : l.AnsweredBy pkt)
    (hcb : l.stack.nci.cbRegistered = true) (garbage : NciRfIntf) :
    stackSystem.enabled l.stack (.receive pkt garbage) := by
  obtain ⟨m, hm, hcarries, -⟩ := h
  obtain ⟨cmd, -, hresponse⟩ := Option.bind_eq_some_iff.mp hm
  refine nfcidFits_of_not_carries hcb fun hactivated => ?_
  -- no command is answered by an activation
  obtain rfl := hcarries.unique hactivated
  cases cmd <;> cases hresponse

theorem paced_answer {l : Loop} (h : l.Paced) {pkt : Packet} (hanswer : l.AnsweredBy pkt)
    (garbage : NciRfIntf) : (loopSystem.next l (.answer pkt garbage)).Paced :=
  paced_of_answered
    (h.reachable.next (hanswer.enabled h.reachable.agrees.registered garbage))
    (answered_accepts h hanswer).1

theorem paced_deliver {l : Loop} (h : l.Paced) {pkt : Packet} (hfits : l.stack.nci.NfcidFits pkt)
    (hnothing : l.unanswered = []) (garbage : NciRfIntf) :
    (loopSystem.next l (.deliver pkt garbage)).Paced :=
  paced_of_answered (h.reachable.next (e := .receive pkt garbage) hfits) hnothing

theorem paced_next {l : Loop} {e : LoopEvent} (h : l.Paced) (hen : loopSystem.enabled l e)
    (hfirst : AnswersFirst l e) : (loopSystem.next l e).Paced := by
  cases e with
  | app cmd => exact paced_app h cmd
  | poll hw junk => exact paced_poll h hen hw junk
  | answer pkt garbage => exact paced_answer h hen.2 garbage
  | deliver pkt garbage => exact paced_deliver h hen.2.1 hfirst garbage

/-- In a paced loop, one step keeps to the property. -/
theorem oneOutstanding_of_paced {l : Loop} {e : LoopEvent} (h : l.Paced)
    (hen : loopSystem.enabled l e) : OneOutstanding l e := by
  have hcb := h.reachable.agrees.registered
  constructor
  · intro cmd status bytes hemit _
    cases e with
    | app _ => cases hemit
    | poll _ _ => exact h.between hen
    | answer pkt garbage =>
        obtain ⟨_, _, hcall⟩ := receive_calls hcb pkt garbage hemit
        cases hcall
    | deliver pkt garbage =>
        obtain ⟨_, _, hcall⟩ := receive_calls hcb pkt garbage hemit
        cases hcall
  · rintro pkt garbage rfl c bytes hemit
    -- the response is accepted, so the call that reports it, if any, reports success
    obtain ⟨-, m, hcarries, haccepts⟩ := answered_accepts h hen.2
    obtain ⟨-, -, -, hout⟩ := receive_of_accepts hcb hcarries haccepts garbage
    have hmem : StackOutput.call c bytes ∈ (l.stack.receive pkt garbage).2 := hemit
    rw [hout] at hmem
    split_ifs at hmem
    · cases List.mem_singleton.mp hmem
      nofun
    · cases hmem

/-! ## Whole runs -/

/-- In every run of the loop in which what is handled while a command is unanswered is its
response, at most one command is outstanding and no response is rejected. -/
theorem one_outstanding {es : List LoopEvent} (hlegal : loopSystem.Legal Loop.init es)
    (hfirst : loopSystem.Along AnswersFirst Loop.init es) :
    loopSystem.Along OneOutstanding Loop.init es :=
  LabelledSystem.along_of_invariant (I := Loop.Paced)
    (fun _ _ h hen hfirst => paced_next h hen hfirst)
    (fun _ _ h hen _ => oneOutstanding_of_paced h hen) paced_init hlegal hfirst

/-- One turn each: a poll, and the response to what it sends. -/
def turns (m : NciMsg) : List LoopEvent :=
  [.poll acceptAll 0, .answer (.minimal m) NciRfIntf.zero]

/-- Credits arrive between two commands, as the condition allows. -/
theorem one_outstanding_reset :
    loopSystem.Along OneOutstanding Loop.init
      (.app .cmdReset :: turns .rspCoreReset ++ turns .rspCoreInit ++
        [.poll acceptAll 0, .deliver .credits NciRfIntf.zero]) :=
  one_outstanding (by decide +kernel) (by simp [turns, AnswersFirst]; rfl)

/-- Credits that arrive before the response to `CORE_RESET` make the loop write it
again. -/
theorem one_outstanding_counterexample :
    ¬ ∀ es, loopSystem.Legal Loop.init es → loopSystem.Along OneOutstanding Loop.init es := by
  intro h
  obtain ⟨-, -, -, hstep, -⟩ := h
    [.app .cmdReset, .poll acceptAll 0, .deliver .credits NciRfIntf.zero, .poll acceptAll 0]
    (by decide +kernel)
  have hnothing := hstep.writes (.cmdCoreReset nciResetTypeKeepCfg) nciStatusOk
    [0x20, 0x00, 0x01, 0x00] (List.mem_singleton.mpr rfl) rfl
  cases hnothing

end Controller
end ArduinoNfc
