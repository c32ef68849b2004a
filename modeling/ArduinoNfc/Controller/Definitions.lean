import Mathlib.Data.Fintype.Defs
import ArduinoNfc.Tags.LayerAgreement

/-!
# The NFC controller

What the developments about a controller that answers share: the commands that
reach it, the response to each of them, and the RF state that decides which
messages it may send.
-/

namespace ArduinoNfc
namespace Controller

open Foundation Nci Tags

instance : Fintype NciMsg where
  elems := {.rspCoreReset, .rspCoreInit, .rspRfDiscoverMap, .rspRfDiscover, .rspRfDeactivate,
    .ntfRfIntfActivated, .ntfRfDeactivate}
  complete := by intro m; cases m <;> decide

/-- The response to a command; a data packet has none. -/
def response : NciCmd → Option NciMsg
  | .cmdCoreReset _ => some .rspCoreReset
  | .cmdCoreInit => some .rspCoreInit
  | .cmdRfDiscoverMap _ _ => some .rspRfDiscoverMap
  | .cmdRfDiscover _ _ => some .rspRfDiscover
  | .cmdRfDeactivate _ => some .rspRfDeactivate
  | .dataSend _ _ => none

/-- A command that reached the controller whole, and that it answers. -/
def sentCmd : StackOutput → Option NciCmd
  | .nciCmd cmd status (some _) =>
      if status = nciStatusOk ∧ (response cmd).isSome then some cmd else none
  | _ => none

/-- A response is accepted in the state that its command was sent in. -/
theorem response_source {cmd : NciCmd} {m : NciMsg} (h : response cmd = some m) :
    m.source = cmd.guard := by
  cases cmd <;> cases h <;> rfl

/-- Of what one poll observes, the command counts when it was written as a whole. -/
theorem sentCmd_issued (cmd : NciCmd) (status : UInt8) (written : Option (List UInt8))
    (id : TagsId) (reported : TagsStatus) :
    (StackOutput.nciCmd cmd status written :: if status = nciStatusOk then []
      else [failureCall id.answer id reported]).filterMap sentCmd =
        if status = nciStatusOk ∧ (response cmd).isSome ∧ written ≠ none then [cmd] else [] := by
  by_cases hstatus : status = nciStatusOk
  · by_cases hresponse : (response cmd).isSome
    · cases written <;> simp [sentCmd, hstatus, hresponse]
    · cases written <;> simp [sentCmd, hresponse, hstatus]
  · cases written <;> simp [sentCmd, hstatus, failureCall]

/-- What a poll sends is one command, which `NfcNci` lets through in its state. -/
theorem sentCmd_poll {s : Stack} {hw : HwWrite} {junk : UInt8} {cmd : NciCmd}
    (h : cmd ∈ (stackSystem.emit s (.poll hw junk)).filterMap sentCmd) :
    (stackSystem.emit s (.poll hw junk)).filterMap sentCmd = [cmd] ∧
      (response cmd).isSome ∧ s.nci.state = cmd.guard := by
  rw [emit_poll] at h ⊢
  cases poll_cases s hw junk with
  | idle _ _ out_eq => rw [out_eq] at h; cases h
  | deactivated _ _ _ _ out_eq => rw [out_eq] at h; cases h
  | failed _ _ _ _ out_eq => rw [out_eq] at h; cases h
  | issued issuedCmd _ _ out_eq =>
      obtain ⟨status, -, hout⟩ := out_eq
      rw [hout, sentCmd_issued] at h ⊢
      split_ifs at h ⊢ with hsent
      · obtain rfl := List.mem_singleton.mp h
        exact ⟨rfl, hsent.2.1, guard_of_written hsent.2.2⟩
      · cases h

/-- The RF state of the controller. -/
inductive RfState where
  | idle
  | discovery
  | pollActive
  deriving DecidableEq, Repr

/-- The RF state after a message that reports a success, where it may be sent. -/
def RfState.after : RfState → NciMsg → Option RfState
  | _, .rspCoreReset => some .idle
  | .idle, .rspCoreInit => some .idle
  | .idle, .rspRfDiscoverMap => some .idle
  | .idle, .rspRfDiscover => some .discovery
  | .discovery, .ntfRfIntfActivated => some .pollActive
  | .pollActive, .rspRfDeactivate => some .discovery
  | .pollActive, .ntfRfDeactivate => some .discovery
  | _, _ => none

end Controller
end ArduinoNfc
