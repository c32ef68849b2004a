import ArduinoNfc.Foundation.LabelledSystem
import ArduinoNfc.Tags.Stack

/-!
# The stack as a labelled system

`stackSystem` performs application commands, polls (`NfcTags::handleEvent`) and
receptions (`NfcNci::handleEvent` on a whole packet) in any order.  A reception
that copies more than ten bytes into `nfcid` is undefined behaviour: it has no
successor, so such an event is not enabled.

`exec_cases` says everything that an application command can do; for polls and
receptions, this is said by `poll_cases` and `stack_receive_cases`.  The developments
above these three use nothing else of a step of the stack.
-/

namespace ArduinoNfc
namespace Tags

open Foundation Nci

/-! ## The system -/

/-- One step of the environment. -/
inductive StackEvent where
  /-- The application calls a command. -/
  | app (cmd : AppCmd)
  /-- `NfcTags::handleEvent`, with what the transport and an uninitialised variable
  answer. -/
  | poll (hw : HwWrite) (junk : UInt8)
  /-- `NfcNci::handleEvent` receives a packet; `garbage` is what lies behind a
  pointer of the wrong type. -/
  | receive (pkt : Packet) (garbage : NciRfIntf)

/-- The effect of one event. -/
def Stack.perform (s : Stack) : StackEvent → Stack × List StackOutput
  | .app cmd => ({ s with tags := (s.tags.exec cmd).2 }, [])
  | .poll hw junk => s.handleEvent hw junk
  | .receive pkt garbage => s.receive pkt garbage

/-- The stack, driven by its application, its loop and its controller. -/
def stackSystem : LabelledSystem Stack StackEvent StackOutput where
  enabled s e :=
    match e with
    | .receive pkt _ => s.nci.NfcidFits pkt
    | _ => True
  next s e := (s.perform e).1
  emit s e := (s.perform e).2

instance (s : Stack) : ∀ e, Decidable (stackSystem.enabled s e)
  | .app _ => isTrue trivial
  | .poll _ _ => isTrue trivial
  | .receive pkt _ => inferInstanceAs (Decidable (s.nci.NfcidFits pkt))

/-- A state that some legal run leads to. -/
abbrev Stack.Reachable (s : Stack) : Prop := stackSystem.Reachable Stack.init s

@[simp] theorem next_app (s : Stack) (cmd : AppCmd) :
    stackSystem.next s (.app cmd) = { s with tags := (s.tags.exec cmd).2 } := rfl

@[simp] theorem next_poll (s : Stack) (hw : HwWrite) (junk : UInt8) :
    stackSystem.next s (.poll hw junk) = (s.handleEvent hw junk).1 := rfl

@[simp] theorem next_receive (s : Stack) (pkt : Packet) (garbage : NciRfIntf) :
    stackSystem.next s (.receive pkt garbage) = (s.receive pkt garbage).1 := rfl

@[simp] theorem emit_app (s : Stack) (cmd : AppCmd) :
    stackSystem.emit s (.app cmd) = [] := rfl

@[simp] theorem emit_poll (s : Stack) (hw : HwWrite) (junk : UInt8) :
    stackSystem.emit s (.poll hw junk) = (s.handleEvent hw junk).2 := rfl

@[simp] theorem emit_receive (s : Stack) (pkt : Packet) (garbage : NciRfIntf) :
    stackSystem.emit s (.receive pkt garbage) = (s.receive pkt garbage).2 := rfl

/-! ## Observations -/

/-- A call that tells the application about a failure. -/
def failureCall (method : TagsCb) (id : TagsId) (status : TagsStatus) : StackOutput :=
  .call ⟨method, status, id, none⟩ []

/-- A status of `NfcNci` other than success is reported as one. -/
theorem tags_translate_ne_ok {status : UInt8} (h : status ≠ nciStatusOk) :
    NfcTags.translateNciStatus status ≠ .ok := by
  rw [NfcTags.translateNciStatus, if_neg h]
  split_ifs <;> decide

/-- The calls on the application's callback object among the observations. -/
def callsOf (out : List StackOutput) : List TagsCall :=
  out.filterMap fun
    | .call c _ => some c
    | .nciCmd _ _ _ => none

theorem callsOf_append (out out' : List StackOutput) :
    callsOf (out ++ out') = callsOf out ++ callsOf out' := List.filterMap_append

/-- What the dump buffer held at these calls. -/
def buffersOf (out : List StackOutput) : List (List UInt8) :=
  out.filterMap fun
    | .call _ bytes => some bytes
    | .nciCmd _ _ _ => none

/-- The bytes handed to the transport among the observations. -/
def writesOf (out : List StackOutput) : List (List UInt8) :=
  out.filterMap fun
    | .nciCmd _ _ written => written
    | .call _ _ => none

/-! ## Application commands -/

/-- What one command of the application does. -/
inductive Commanded (t : NfcTags) (cmd : AppCmd) (r : TagsStatus × NfcTags) : Prop where
  /-- A reset is always accepted. -/
  | reset (cmd_eq : cmd = .cmdReset) (status_eq : r.1 = .ok)
      (tags_eq : r.2 = { t with state := .initReset, id := .reset, pTagIntf := none })
  | discover (cmd_eq : cmd = .cmdDiscover) (source : t.state = .initDone)
      (status_eq : r.1 = .ok)
      (tags_eq : r.2 = { t with state := .discoverMap, id := .discover })
  | deactivate (cmd_eq : cmd = .cmdDeactivate)
      (source : t.state = .discoverActivated ∨ t.state = .dump) (status_eq : r.1 = .ok)
      (tags_eq : r.2 = { t with state := .deactivate, id := .deactivate, pTagIntf := none })
  | dump (cmd_eq : cmd = .cmdDump) (source : t.state = .discoverActivated)
      (intf : t.pTagIntf = some .tag2) (ready : t.tag2.state = .none) (status_eq : r.1 = .ok)
      (tags_eq : r.2 = { t with
        state := .dump, id := .dump
        tag2 := { t.tag2 with id := .dump, state := .dump, block := memoryFirstBlock } })
  /-- A command that is not accepted changes nothing. -/
  | refused (status : TagsStatus) (failed : status ≠ .ok) (status_eq : r.1 = status)
      (tags_eq : r.2 = t)

/-- Every command is one of the five. -/
theorem exec_cases (t : NfcTags) (cmd : AppCmd) : Commanded t cmd (t.exec cmd) := by
  cases cmd with
  | cmdReset => exact .reset rfl rfl rfl
  | cmdDiscover =>
      by_cases h : t.state = .initDone
      · have hrun : t.exec .cmdDiscover =
            (.ok, { t with state := .discoverMap, id := .discover }) := if_neg (not_not.mpr h)
        rw [hrun]
        exact .discover rfl h rfl rfl
      · have hrun : t.exec .cmdDiscover = (.rejected, t) := if_pos h
        rw [hrun]
        exact .refused .rejected (by decide) rfl rfl
  | cmdDeactivate =>
      by_cases h : t.state = .discoverActivated ∨ t.state = .dump
      · have hrun : t.exec .cmdDeactivate =
            (.ok, { t with state := .deactivate, id := .deactivate, pTagIntf := none }) :=
          if_pos h
        rw [hrun]
        exact .deactivate rfl h rfl rfl
      · have hrun : t.exec .cmdDeactivate = (.rejected, t) := if_neg h
        rw [hrun]
        exact .refused .rejected (by decide) rfl rfl
  | cmdDump =>
      obtain ⟨state, id, rsp, tag2, mif, intf⟩ := t
      by_cases h : state = .discoverActivated
      · subst h
        cases intf with
        | none => exact .refused .failed (by decide) rfl rfl
        | some intf =>
            cases intf with
            | tagMifare => exact .refused .failed (by decide) rfl rfl
            | tag2 =>
                obtain ⟨t2State, t2Id, pRf, dump, block⟩ := tag2
                cases t2State with
                | none => exact .dump rfl rfl rfl rfl rfl rfl
                | dump => exact .refused .failed (by decide) rfl rfl
                | dumpRsp => exact .refused .failed (by decide) rfl rfl
      · have hrun : NfcTags.exec ⟨state, id, rsp, tag2, mif, intf⟩ .cmdDump =
            (.rejected, ⟨state, id, rsp, tag2, mif, intf⟩) := if_pos h
        rw [hrun]
        exact .refused .rejected (by decide) rfl rfl

/-- A dump is accepted of a type 2 tag only, and starts at its first block. -/
theorem exec_cmdDump_accepted {t : NfcTags} (h : (t.exec .cmdDump).1 = .ok) :
    t.pTagIntf = some .tag2 ∧ (t.exec .cmdDump).2 = { t with
      state := .dump, id := .dump
      tag2 := { t.tag2 with id := .dump, state := .dump, block := memoryFirstBlock } } := by
  cases exec_cases t .cmdDump with
  | reset cmd_eq _ _ => cases cmd_eq
  | discover cmd_eq _ _ _ => cases cmd_eq
  | deactivate cmd_eq _ _ _ => cases cmd_eq
  | dump _ _ intf _ _ tags_eq => exact ⟨intf, tags_eq⟩
  | refused _ failed status_eq _ => exact absurd (status_eq.symm.trans h) failed

/-- A command that begins no dump leaves the interface alone, and does not select a dump. -/
theorem exec_sameDump {t : NfcTags} {cmd : AppCmd}
    (h : cmd = .cmdDump → (t.exec cmd).1 ≠ .ok) :
    (t.exec cmd).2.tag2 = t.tag2 ∧ ((t.exec cmd).2.id = .dump → t.id = .dump) := by
  cases exec_cases t cmd with
  | reset _ _ tags_eq => rw [tags_eq]; exact ⟨rfl, nofun⟩
  | discover _ _ _ tags_eq => rw [tags_eq]; exact ⟨rfl, nofun⟩
  | deactivate _ _ _ tags_eq => rw [tags_eq]; exact ⟨rfl, nofun⟩
  | dump cmd_eq _ _ _ status_eq _ => exact absurd status_eq (h cmd_eq)
  | refused _ _ _ tags_eq => rw [tags_eq]; exact ⟨rfl, id⟩

end Tags
end ArduinoNfc
