import ArduinoNfc.Nci.ErrorLines
import ArduinoNfc.Tags.Polls
import ArduinoNfc.Tags.Receptions

/-!
# What `NfcTags` logs

A handler that cannot go on logs an error with the state and the status, before it calls
the application back.  A callback logs the progress of the command; a failure that it is
told of is only passed on.  The lines of the level `DEBUG` are left out, and so are the
tag interfaces, which have no others.

The line about another identifier than the expected one has its arguments inside of the
format string by mistake: it asks for two and has none.  `NfcNci` never gives it a reason.
-/

namespace ArduinoNfc
namespace Tags

open Foundation Nci Log

variable {β : Type}

/-- `nfcTagsStateToStr`. -/
def TagsState.toStr : TagsState → String
  | .none => "TAGS_STATE_NONE"
  | .initReset => "TAGS_STATE_INIT_RESET"
  | .initInit => "TAGS_STATE_INIT_INIT"
  | .initDone => "TAGS_STATE_INIT_DONE"
  | .discoverMap => "TAGS_STATE_DISCOVER_MAP"
  | .discover => "TAGS_STATE_DISCOVER"
  | .discoverNtf => "TAGS_STATE_DISCOVER_NTF"
  | .discoverActivated => "TAGS_STATE_DISCOVER_ACTIVATED"
  | .deactivate => "TAGS_STATE_DEACTIVATE"
  | .deactivateRsp => "TAGS_STATE_DEACTIVATE_RSP"
  | .deactivateNtf => "TAGS_STATE_DEACTIVATE_NTF"
  | .dump => "TAGS_STATE_DUMP"
  | .dumpRsp => "TAGS_STATE_DUMP_RSP"

/-- The number of a status. -/
def TagsStatus.code : TagsStatus → Nat
  | .ok => 0
  | .rejected => 1
  | .failed => 2
  | .messageCorrupted => 3

/-- The number of an identifier. -/
def TagsId.code : TagsId → Nat
  | .none => 0
  | .reset => 1
  | .discover => 2
  | .discoverActivated => 3
  | .deactivate => 4
  | .dump => 5

namespace Stack

/-! ## The handlers of the commands -/

/-- The switch of `handleReset`. -/
def resetSwitch (s : Stack) (hw : HwWrite) : UInt8 × Stack × List StackOutput :=
  match s.tags.state with
  | .initReset => s.issue hw (.cmdCoreReset nciResetTypeKeepCfg)
  | .initInit => s.issue hw .cmdCoreInit
  | .initDone => (nciStatusOk, s, [])
  | _ => (nciStatusRejected, s, [])

/-- The switch of `handleDiscover`. -/
def discoverSwitch (s : Stack) (hw : HwWrite) : UInt8 × Stack × List StackOutput :=
  match s.tags.state with
  | .discoverMap => s.issue hw cmdDiscoverMaps
  | .discover => s.issue hw cmdDiscoverConfs
  | .discoverNtf => (nciStatusOk, s, [])
  | .discoverActivated => (nciStatusOk, s, [])
  | _ => (nciStatusRejected, s, [])

/-- The switch of `handleDeactivate`. -/
def deactivateSwitch (s : Stack) (hw : HwWrite) : UInt8 × Stack × List StackOutput :=
  match s.tags.state with
  | .deactivate => s.issue hw (.cmdRfDeactivate nciDeactivateTypeDiscovery)
  | .deactivateRsp => (nciStatusOk, s, [])
  | .deactivateNtf =>
      (nciStatusOk, { s with tags := { s.tags with id := .discover, state := .discoverNtf } }, [])
  | _ => (nciStatusRejected, s, [])

/-- The checks of `handleDump`, and the handler of the interface. -/
def dumpSwitch (s : Stack) (hw : HwWrite) (junk : UInt8) :
    TagsStatus × Stack × List StackOutput :=
  if s.tags.state ≠ .dump then
    (.rejected, s, [])
  else
    match s.tags.pTagIntf with
    | none => (.failed, s, [])
    | some intf => s.intfHandleDump hw junk intf

theorem handleReset_eq (s : Stack) (hw : HwWrite) :
    s.handleReset hw = notify .cbReset .reset (s.resetSwitch hw) := rfl

theorem handleDiscover_eq (s : Stack) (hw : HwWrite) :
    s.handleDiscover hw = notify .cbDiscover .discover (s.discoverSwitch hw) := rfl

theorem handleDeactivate_eq (s : Stack) (hw : HwWrite) :
    s.handleDeactivate hw = notify .cbDeactivate .deactivate (s.deactivateSwitch hw) := rfl

theorem handleDump_eq (s : Stack) (hw : HwWrite) (junk : UInt8) :
    s.handleDump hw junk =
      ((s.dumpSwitch hw junk).2.1, (s.dumpSwitch hw junk).2.2 ++
        if (s.dumpSwitch hw junk).1 ≠ .ok then
          [failureCall .cbDump .dump (s.dumpSwitch hw junk).1]
        else
          []) := by
  have hrun : s.handleDump hw junk =
      if (s.dumpSwitch hw junk).1 ≠ .ok then
        ((s.dumpSwitch hw junk).2.1, (s.dumpSwitch hw junk).2.2 ++
          [failureCall .cbDump .dump (s.dumpSwitch hw junk).1])
      else
        (s.dumpSwitch hw junk).2 := rfl
  rw [hrun]
  split_ifs
  · rfl
  · rw [List.append_nil]

/-- The line of a handler that fails; `func` is its name. -/
def failureLine (func : String) (state : TagsState) (status : Nat) : LogCall β :=
  .e "NfcTags: %s state = %s error status = %d\n"
    [.str func.toList, .str state.toStr.toList, dec status]

/-- It logs the status that it reports. -/
def handleResetLines (s : Stack) (hw : HwWrite) : List (LogCall β) :=
  let (status, s, _) := s.resetSwitch hw
  if status ≠ nciStatusOk then
    [failureLine "handleReset" s.tags.state (NfcTags.translateNciStatus status).code]
  else
    []

/-- It logs the status of `NfcNci`. -/
def handleDiscoverLines (s : Stack) (hw : HwWrite) : List (LogCall β) :=
  let (status, s, _) := s.discoverSwitch hw
  if status ≠ nciStatusOk then
    [failureLine "handleDiscover" s.tags.state status.toNat]
  else
    []

/-- It logs the status of `NfcNci`. -/
def handleDeactivateLines (s : Stack) (hw : HwWrite) : List (LogCall β) :=
  let (status, s, _) := s.deactivateSwitch hw
  if status ≠ nciStatusOk then
    [failureLine "handleDeactivate" s.tags.state status.toNat]
  else
    []

def handleDumpLines (s : Stack) (hw : HwWrite) (junk : UInt8) : List (LogCall β) :=
  let (status, s, _) := s.dumpSwitch hw junk
  if status ≠ .ok then
    [failureLine "handleDump" s.tags.state status.code]
  else
    []

/-- The lines of `NfcTags::handleEvent`. -/
def handleEventLines (s : Stack) (hw : HwWrite) (junk : UInt8) : List (LogCall β) :=
  match s.tags.id with
  | .reset => s.handleResetLines hw
  | .discover => s.handleDiscoverLines hw
  | .deactivate => s.handleDeactivateLines hw
  | .dump => s.handleDumpLines hw junk
  | id => [.e "NfcTags: %s ignore unknown event %d\n" [.str "handleEvent".toList, dec id.code]]

/-! ## The callbacks of `NfcNci` -/

/-- The line about another identifier, with no arguments. -/
def incorrectId : LogCall β := .e "NfcTags: %s incorrect id = %d\n, __func__, id" []

/-- The lines of a callback that checks the status and the identifier. -/
def answerLines (status : UInt8) (id expected : UInt16) (lines : List (LogCall β)) :
    List (LogCall β) :=
  if status = nciStatusOk then
    if id = expected then lines else [incorrectId]
  else
    []

def cbCoreResetLines (status : UInt8) (id : UInt16) : List (LogCall β) :=
  answerLines status id nciIdRspCoreReset [.i "NfcTags: NFC controller reseted\n" []]

def cbCoreInitLines (status : UInt8) (id : UInt16) : List (LogCall β) :=
  answerLines status id nciIdRspCoreInit [.i "NfcTags: NFC controller initialized\n" []]

def cbRfDiscoverMapLines (status : UInt8) (id : UInt16) : List (LogCall β) :=
  answerLines status id nciIdRspRfDiscoverMap [.i "NfcTags: RF discovering mode configured\n" []]

def cbRfDiscoverLines (status : UInt8) (id : UInt16) : List (LogCall β) :=
  answerLines status id nciIdRspRfDiscover [.i "NfcTags: tag detection started\n" []]

def cbRfDiscoverNtfLines (status : UInt8) (id : UInt16) : List (LogCall β) :=
  answerLines status id nciIdNtfRfIntfActivated [.i "NfcTags: tag activated\n" []]

/-- Its success is not logged. -/
def cbRfDeactivateLines (status : UInt8) (id : UInt16) : List (LogCall β) :=
  answerLines status id nciIdRspRfDeactivate []

def cbRfDeactivateNtfLines (status : UInt8) (id : UInt16) : List (LogCall β) :=
  answerLines status id nciIdNtfRfDeactivate [.i "NfcTags: tag deactivated\n" []]

/-- `%u` is no conversion of the logger: the arguments are there, but they are not printed. -/
def cbErrorLines (s : Stack) (status : UInt8) : List (LogCall β) :=
  [.e "NfcTags: %s %u %u" [.str "cbError".toList, dec status.toNat, dec s.tags.id.code]]

/-- The lines of a call that `NfcNci` makes on its callback object. -/
def callbackLines (s : Stack) (c : NciCall) : List (LogCall β) :=
  match c.method with
  | .cbCoreReset => cbCoreResetLines c.status c.id
  | .cbCoreInit => cbCoreInitLines c.status c.id
  | .cbRfDiscoverMap => cbRfDiscoverMapLines c.status c.id
  | .cbRfDiscover => cbRfDiscoverLines c.status c.id
  | .cbRfDiscoverNtf => cbRfDiscoverNtfLines c.status c.id
  | .cbRfDeactivate => cbRfDeactivateLines c.status c.id
  | .cbRfDeactivateNtf => cbRfDeactivateNtfLines c.status c.id
  | .cbData => []
  | .cbError => s.cbErrorLines c.status

/-- The lines of `NfcNci::handleEvent` on a whole packet. -/
def receiveLines (s : Stack) (pkt : Packet) : List (LogCall β) :=
  s.nci.lines pkt.reception ++
    match (s.nci.receive pkt).call with
    | none => []
    | some c => callbackLines { s with nci := (s.nci.receive pkt).nci } c

end Stack

/-! ## A poll -/

open Stack

theorem errorLines_failure (func : String) (state : TagsState) (status : Nat) :
    ErrorLines (β := β) [failureLine func state status] :=
  errorLines_e [.str, .str, .int] (by decide +kernel) (List.prefix_refl _)

/-- Every line of a poll is an error, and has its arguments. -/
theorem errorLines_poll (s : Stack) (hw : HwWrite) (junk : UInt8) :
    ErrorLines (β := β) (s.handleEventLines hw junk) := by
  have hguard : ∀ (p : Prop) [Decidable p] func state status,
      ErrorLines (β := β) (if p then [failureLine func state status] else []) := by
    intro p _ func state status
    split_ifs
    · exact errorLines_failure _ _ _
    · exact errorLines_nil
  have hunknown : ∀ n, ErrorLines (β := β)
      [.e "NfcTags: %s ignore unknown event %d\n" [.str "handleEvent".toList, dec n]] :=
    fun n => errorLines_e [.str, .int] (by decide +kernel) (List.prefix_refl _)
  cases hid : s.tags.id with
  | none => simp only [handleEventLines, hid]; exact hunknown _
  | reset => simp only [handleEventLines, hid]; exact hguard _ _ _ _
  | discover => simp only [handleEventLines, hid]; exact hguard _ _ _ _
  | discoverActivated => simp only [handleEventLines, hid]; exact hunknown _
  | deactivate => simp only [handleEventLines, hid]; exact hguard _ _ _ _
  | dump => simp only [handleEventLines, hid]; exact hguard _ _ _ _

/-- No call is made before the end of a handler. -/
theorem callsOf_resetSwitch (s : Stack) (hw : HwWrite) : callsOf (s.resetSwitch hw).2.2 = [] := by
  cases hstate : s.tags.state <;> simp only [resetSwitch, hstate] <;> rfl

theorem callsOf_discoverSwitch (s : Stack) (hw : HwWrite) :
    callsOf (s.discoverSwitch hw).2.2 = [] := by
  cases hstate : s.tags.state <;> simp only [discoverSwitch, hstate] <;> rfl

theorem callsOf_deactivateSwitch (s : Stack) (hw : HwWrite) :
    callsOf (s.deactivateSwitch hw).2.2 = [] := by
  cases hstate : s.tags.state <;> simp only [deactivateSwitch, hstate] <;> rfl

theorem callsOf_intfHandleDump (s : Stack) (hw : HwWrite) (junk : UInt8) (intf : TagIntf) :
    callsOf (s.intfHandleDump hw junk intf).2.2 = [] := by
  cases intf with
  | tagMifare => rfl
  | tag2 =>
      show callsOf (s.tags.tag2.handleDump s.nci hw junk).2.2.2 = []
      unfold NfcTagsIntfType2.handleDump
      cases s.tags.tag2.state with
      | none => dsimp only; split_ifs <;> rfl
      | dump => dsimp only; split_ifs <;> rfl
      | dumpRsp => rfl

theorem callsOf_dumpSwitch (s : Stack) (hw : HwWrite) (junk : UInt8) :
    callsOf (s.dumpSwitch hw junk).2.2 = [] := by
  unfold dumpSwitch
  split_ifs
  · rfl
  · cases s.tags.pTagIntf with
    | none => rfl
    | some intf => exact callsOf_intfHandleDump s hw junk intf

theorem callsOk_notify {run : UInt8 × Stack × List StackOutput} (h : callsOf run.2.2 = [])
    (method : TagsCb) (id : TagsId) :
    (∀ c ∈ callsOf (notify method id run).2, c.status = .ok) ↔ run.1 = nciStatusOk := by
  obtain ⟨status, s, out⟩ := run
  replace h : callsOf out = [] := h
  by_cases hstatus : status = nciStatusOk
  · simp [notify, hstatus, h]
  · refine iff_of_false (fun hok => ?_) hstatus
    have hcall : (⟨method, NfcTags.translateNciStatus status, id, none⟩ : TagsCall) ∈
        callsOf (notify method id (status, s, out)).2 := by
      simp only [notify, ne_eq, hstatus, not_false_eq_true, if_true, callsOf_append, h]
      exact List.mem_singleton.mpr rfl
    exact tags_translate_ne_ok hstatus (hok _ hcall)

theorem callsOk_handleDump (s : Stack) (hw : HwWrite) (junk : UInt8) :
    (∀ c ∈ callsOf (s.handleDump hw junk).2, c.status = .ok) ↔ (s.dumpSwitch hw junk).1 = .ok := by
  have hnone := callsOf_dumpSwitch s hw junk
  rw [handleDump_eq, callsOf_append, hnone, List.nil_append]
  by_cases hstatus : (s.dumpSwitch hw junk).1 = .ok
  · simp [hstatus, callsOf]
  · rw [if_pos hstatus]
    refine iff_of_false (fun hok => hstatus ?_) hstatus
    exact hok ⟨.cbDump, _, .dump, none⟩ (List.mem_singleton.mpr rfl)

/-- A guarded line. -/
theorem guarded_eq_nil_iff {p : Prop} [Decidable p] {l : LogCall β} :
    (if ¬ p then [l] else []) = [] ↔ p := by
  by_cases h : p <;> simp [h]

/-- `NfcTags` works on a command. -/
def NfcTags.Busy (t : NfcTags) : Prop := t.id ≠ .none ∧ t.id ≠ .discoverActivated

/-- A poll that works on a command logs a line exactly when it reports a failure. -/
theorem pollLines_eq_nil_iff {s : Stack} (hbusy : s.tags.Busy) (hw : HwWrite) (junk : UInt8) :
    s.handleEventLines (β := β) hw junk = [] ↔
      ∀ c ∈ callsOf (s.handleEvent hw junk).2, c.status = .ok := by
  cases hid : s.tags.id with
  | none => exact absurd hid hbusy.1
  | reset =>
      simp only [handleEventLines, Stack.handleEvent, hid]
      rw [handleReset_eq]
      exact guarded_eq_nil_iff.trans (callsOk_notify (callsOf_resetSwitch s hw) _ _).symm
  | discover =>
      simp only [handleEventLines, Stack.handleEvent, hid]
      rw [handleDiscover_eq]
      exact guarded_eq_nil_iff.trans (callsOk_notify (callsOf_discoverSwitch s hw) _ _).symm
  | discoverActivated => exact absurd hid hbusy.2
  | deactivate =>
      simp only [handleEventLines, Stack.handleEvent, hid]
      rw [handleDeactivate_eq]
      exact guarded_eq_nil_iff.trans (callsOk_notify (callsOf_deactivateSwitch s hw) _ _).symm
  | dump =>
      simp only [handleEventLines, Stack.handleEvent, hid]
      exact guarded_eq_nil_iff.trans (callsOk_handleDump s hw junk).symm

/-! ## A reception -/

theorem not_isError_i {str : String} {args : List VaArg} :
    ¬ (LogCall.i str args : LogCall β).IsError := by
  rintro ⟨str', args', h⟩
  obtain ⟨hlevel, -, -⟩ := LogCall.print.inj h
  exact absurd hlevel (by decide)

theorem not_isError_bi {str : String} {buf : Option β} {bytes : List UInt8} :
    ¬ (LogCall.bi str buf bytes).IsError := by
  rintro ⟨str', args', h⟩
  cases h

/-- A line of the level `INFO` without arguments. -/
theorem info_fits {str : String} (h : kinds str.toList = []) :
    (LogCall.i str [] : LogCall β).Fits := by
  show kinds str.toList <+: []
  rw [h]

/-- What an accepted message is logged as. -/
def progress : NciMsg → List (LogCall β)
  | .rspCoreReset => [.i "NfcTags: NFC controller reseted\n" []]
  | .rspCoreInit => [.i "NfcTags: NFC controller initialized\n" []]
  | .rspRfDiscoverMap => [.i "NfcTags: RF discovering mode configured\n" []]
  | .rspRfDiscover => [.i "NfcTags: tag detection started\n" []]
  | .rspRfDeactivate => []
  | .ntfRfIntfActivated => [.i "NfcTags: tag activated\n" []]
  | .ntfRfDeactivate => [.i "NfcTags: tag deactivated\n" []]

theorem progress_cases (m : NciMsg) : progress (β := β) m = [] ∨
    ∃ str, progress (β := β) m = [.i str []] ∧ kinds str.toList = [] := by
  cases m with
  | rspRfDeactivate => exact Or.inl rfl
  | _ => exact Or.inr ⟨_, rfl, by decide +kernel⟩

/-- What is logged about a packet. -/
inductive ReceiveLogged (s : Stack) (pkt : Packet) (lines : List (LogCall β)) : Prop where
  /-- The progress, when the packet is a message that is accepted. -/
  | accepted (m : NciMsg) (handles : s.nci.Handles pkt) (lines_eq : lines = progress m)
  /-- Nothing, although the failure of a message is reported. -/
  | silent (handles : s.nci.Handles pkt) (lines_eq : lines = [])
  /-- The error of `NfcNci`, if there is one, and that of `cbError`. -/
  | unhandled (handles : ¬ s.nci.Handles pkt) (status : UInt8)
      (lines_eq : lines = s.nci.lines pkt.reception ++ s.cbErrorLines status)

theorem receiveLines_cases {s : Stack} (hcb : s.nci.cbRegistered = true) (pkt : Packet) :
    ReceiveLogged (β := β) s pkt (s.receiveLines pkt) := by
  have hnone : s.nci.Handles pkt → s.nci.lines (β := β) pkt.reception = [] :=
    lines_of_handles hcb
  cases receive_cases hcb pkt with
  | accepted m _ _ _ call_eq =>
      have hhandles : s.nci.Handles pkt := by
        rintro c hc
        obtain rfl : _ = c := Option.some.inj (call_eq.symm.trans hc)
        cases m <;> exact nofun
      refine .accepted m hhandles ?_
      rw [receiveLines, hnone hhandles, call_eq]
      cases m <;> rfl
  | refused m _ _ _ status failed call_eq =>
      have hhandles : s.nci.Handles pkt := by
        rintro c hc
        obtain rfl : _ = c := Option.some.inj (call_eq.symm.trans hc)
        cases m <;> exact nofun
      refine .silent hhandles ?_
      rw [receiveLines, hnone hhandles, call_eq]
      cases m <;> exact if_neg failed
  | data _ _ id call_eq =>
      have hhandles : s.nci.Handles pkt := by
        rintro c hc
        obtain rfl : _ = c := Option.some.inj (call_eq.symm.trans hc)
        exact nofun
      refine .silent hhandles ?_
      rw [receiveLines, hnone hhandles, call_eq]
      rfl
  | other _ _ _ error =>
      cases hcall : (s.nci.receive pkt).call with
      | none =>
          have hhandles : s.nci.Handles pkt := by
            rintro c hc
            cases hcall.symm.trans hc
          refine .silent hhandles ?_
          rw [receiveLines, hnone hhandles, hcall]
          rfl
      | some c =>
          have hmethod : c.method = .cbError := (error c hcall).1
          refine .unhandled (fun h => h c hcall hmethod) c.status ?_
          rw [receiveLines, hcall]
          simp only [callbackLines, hmethod]
          rfl

theorem errorLines_cbError (s : Stack) (status : UInt8) :
    ErrorLines (β := β) (s.cbErrorLines status) :=
  errorLines_e [.str] (by decide +kernel) ⟨[.int, .int], rfl⟩

/-- Every line about a packet has its arguments: the identifier is never another one. -/
theorem receiveLines_fit {s : Stack} (hcb : s.nci.cbRegistered = true) (pkt : Packet) :
    ∀ l ∈ s.receiveLines (β := β) pkt, l.Fits := by
  cases receiveLines_cases hcb pkt with
  | accepted m _ lines_eq =>
      rw [lines_eq]
      rcases progress_cases (β := β) m with hline | ⟨str, hline, hkinds⟩
      · rw [hline]
        exact List.forall_mem_nil _
      · rw [hline]
        exact List.forall_mem_singleton.mpr (info_fits hkinds)
  | silent _ lines_eq =>
      rw [lines_eq]
      exact List.forall_mem_nil _
  | unhandled _ status lines_eq =>
      rw [lines_eq]
      exact List.forall_mem_append.mpr
        ⟨fun l hl => (errorLines_nci _ _ l hl).2, fun l hl => (errorLines_cbError _ _ l hl).2⟩

/-- The line about another identifier asks for two arguments that it does not have. -/
theorem incorrectId_unfit : ¬ (incorrectId : LogCall β).Fits := by
  show ¬ kinds "NfcTags: %s incorrect id = %d\n, __func__, id".toList <+: []
  decide +kernel

/-- The lines about a packet include an error exactly when it is not handled. -/
theorem receiveLines_quiet_iff {s : Stack} (hcb : s.nci.cbRegistered = true) (pkt : Packet) :
    (∀ l ∈ s.receiveLines (β := β) pkt, ¬ l.IsError) ↔ s.nci.Handles pkt := by
  cases receiveLines_cases (β := β) hcb pkt with
  | accepted m handles lines_eq =>
      refine iff_of_true ?_ handles
      rw [lines_eq]
      rcases progress_cases (β := β) m with hline | ⟨str, hline, -⟩
      · rw [hline]
        exact List.forall_mem_nil _
      · rw [hline]
        exact List.forall_mem_singleton.mpr not_isError_i
  | silent handles lines_eq =>
      refine iff_of_true ?_ handles
      rw [lines_eq]
      exact List.forall_mem_nil _
  | unhandled handles status lines_eq =>
      refine iff_of_false (fun hquiet => ?_) handles
      have hmem : LogCall.e "NfcTags: %s %u %u"
          [.str "cbError".toList, dec status.toNat, dec s.tags.id.code] ∈
            s.receiveLines (β := β) pkt := by
        rw [lines_eq]
        exact List.mem_append_right _ (List.mem_singleton.mpr rfl)
      exact hquiet _ hmem ⟨_, _, rfl⟩

end Tags
end ArduinoNfc
