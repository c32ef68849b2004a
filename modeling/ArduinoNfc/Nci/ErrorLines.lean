import ArduinoNfc.Log.Format
import ArduinoNfc.Nci.Calls

/-!
# What `NfcNci` logs

Its handlers log the packets that they cannot handle, before they call `cbError`.  A
packet of a group that `NfcNci` does not know gets the call without a line.  The lines of
the level `DEBUG`, which name the commands and the messages, are left out.
-/

namespace ArduinoNfc
namespace Nci

open Foundation Log

variable {β : Type}

/-- The lines of `handleCoreEvent`. -/
def coreLines (mt oid : UInt8) : List (LogCall β) :=
  if mt = nciMtRsp then
    if oid = nciMsgCoreReset then
      []
    else if oid = nciMsgCoreInit then
      []
    else
      [.e "NCI error: unhandled core event oid = %d\n" [dec oid.toNat]]
  else if mt = nciMtNtf then
    if oid = nciMsgCoreConnCredits then
      []
    else
      [.e "NCI error: unhandled core notification event oid = %d\n" [dec oid.toNat]]
  else
    []

/-- The lines of `handleRfEvent`. -/
def rfLines (mt oid : UInt8) : List (LogCall β) :=
  if mt = nciMtRsp then
    if oid = nciMsgRfDiscoverMap then
      []
    else if oid = nciMsgRfDiscover then
      []
    else if oid = nciMsgRfDeactivate then
      []
    else
      [.e "NCI error: unhandled rf event oid = %d\n" [dec oid.toNat]]
  else if mt = nciMtNtf then
    if oid = nciMsgRfIntfActivated then
      []
    else if oid = nciMsgRfDeactivate then
      []
    else
      [.e "NCI error: unhandled rf event oid = %d\n" [dec oid.toNat]]
  else
    [.e "NCI error: unhandled rf event mt = %d\n" [dec mt.toNat]]

/-- The lines of `handleEvent` and of the handler that it calls, by the header. -/
def dispatchLines (hdr0 hdr1 : UInt8) : List (LogCall β) :=
  if prsPbf hdr0 ≠ nciPbfNoOrLast then
    [.e "NCI error: segmentation and reassembly messages not handled yet\n" []]
  else if prsMt hdr0 = nciMtData then
    []
  else if prsGid hdr0 = nciGidCore then
    coreLines (prsMt hdr0) (prsOid hdr1)
  else if prsGid hdr0 = nciGidRfManage then
    rfLines (prsMt hdr0) (prsOid hdr1)
  else
    -- an unknown group is not logged
    []

/-- The lines of one `handleEvent` call on an object. -/
def NfcNci.lines (nci : NfcNci) (hw : Reception) : List (LogCall β) :=
  if !nci.cbRegistered then
    [.e "NCI error: no callback object registered\n" []]
  else
    let (len, f) := waitForEvent hw ⟨nci, 0, [], 0⟩
    if len ≤ 0 then
      [.e "NCI error: null event received\n" []]
    else
      dispatchLines (f.nci.rxByte 0) (f.nci.rxByte 1)

/-- The lines about a packet that is received whole. -/
theorem lines_run {nci : NfcNci} (hcb : nci.cbRegistered = true) (pkt : Packet) :
    nci.lines (β := β) pkt.reception =
      if pkt.payload = [] then [.e "NCI error: null event received\n" []]
      else dispatchLines pkt.hdr0 pkt.hdr1 := by
  by_cases h : pkt.payload = []
  · simp [NfcNci.lines, hcb, waitForEvent_run, h]
  · simp [NfcNci.lines, hcb, waitForEvent_run, h, nciMsgHdrSize]

/-! ## Which packets are logged -/

/-- The packet is not handed to `cbError`. -/
def NfcNci.Handles (nci : NfcNci) (pkt : Packet) : Prop :=
  ∀ c ∈ (nci.receive pkt).call, c.method ≠ .cbError

instance (nci : NfcNci) (pkt : Packet) : Decidable (nci.Handles pkt) :=
  inferInstanceAs (Decidable (∀ c ∈ _, _))

theorem dispatchLines_message {pkt : Packet} {m : NciMsg} (h : pkt.Carries m) :
    dispatchLines (β := β) pkt.hdr0 pkt.hdr1 = [] := by
  obtain ⟨⟨-, hpbf⟩, hmt, hgid, hoid⟩ := h
  unfold dispatchLines coreLines rfLines
  rw [hpbf, hmt, hgid, hoid]
  cases m <;> rfl

theorem dispatchLines_silent {pkt : Packet} (h : pkt.Silent) :
    dispatchLines (β := β) pkt.hdr0 pkt.hdr1 = [] := by
  obtain ⟨⟨-, hpbf⟩, hdata, hgid, hrsp, hntf⟩ := h
  by_cases hmt : prsMt pkt.hdr0 = nciMtNtf
  · simp [dispatchLines, coreLines, hpbf, hgid, hmt, hntf hmt, nciMtNtf, nciMtData, nciMtRsp]
  · simp [dispatchLines, coreLines, hpbf, hdata, hgid, hrsp, hmt]

/-- A packet that is handled leaves no line. -/
theorem lines_of_handles {nci : NfcNci} (hcb : nci.cbRegistered = true) {pkt : Packet}
    (h : nci.Handles pkt) : nci.lines (β := β) pkt.reception = [] := by
  rw [lines_run hcb]
  by_cases hmsg : ∃ m, pkt.Carries m
  · obtain ⟨m, hm⟩ := hmsg
    rw [if_neg hm.1.1, dispatchLines_message hm]
  have hnone : ∀ m, ¬ pkt.Carries m := fun m hm => hmsg ⟨m, hm⟩
  by_cases hdata : pkt.IsData
  · obtain ⟨⟨hne, hpbf⟩, hmt⟩ := hdata
    simp [dispatchLines, hne, hpbf, hmt]
  · have herror : pkt.errorCall = none := by
      by_contra hsome
      obtain ⟨c, hc⟩ := Option.ne_none_iff_exists'.mp hsome
      obtain ⟨honly, -, -⟩ := receive_other hcb hnone hdata
      have hcall : c ∈ (nci.receive pkt).call := by
        rw [receive_errorCall hcb hnone hdata, hc]
        rfl
      exact h c hcall (honly c hcall).1
    have hsilent := (errorCall_eq_none_iff hdata).mp herror
    rw [if_neg hsilent.1.1, dispatchLines_silent hsilent]

/-! ## The arguments -/

theorem errorLines_core (mt oid : UInt8) : ErrorLines (β := β) (coreLines mt oid) := by
  unfold coreLines
  split_ifs
  · exact errorLines_nil
  · exact errorLines_nil
  · exact errorLines_e [.int] (by decide +kernel) (List.prefix_refl _)
  · exact errorLines_nil
  · exact errorLines_e [.int] (by decide +kernel) (List.prefix_refl _)
  · exact errorLines_nil

theorem errorLines_rf (mt oid : UInt8) : ErrorLines (β := β) (rfLines mt oid) := by
  unfold rfLines
  split_ifs
  · exact errorLines_nil
  · exact errorLines_nil
  · exact errorLines_nil
  · exact errorLines_e [.int] (by decide +kernel) (List.prefix_refl _)
  · exact errorLines_nil
  · exact errorLines_nil
  · exact errorLines_e [.int] (by decide +kernel) (List.prefix_refl _)
  · exact errorLines_e [.int] (by decide +kernel) (List.prefix_refl _)

theorem errorLines_dispatch (hdr0 hdr1 : UInt8) :
    ErrorLines (β := β) (dispatchLines hdr0 hdr1) := by
  unfold dispatchLines
  split_ifs
  · exact errorLines_e [] (by decide +kernel) (List.prefix_refl _)
  · exact errorLines_nil
  · exact errorLines_core _ _
  · exact errorLines_rf _ _
  · exact errorLines_nil

/-- Every line of `NfcNci` is an error, and has its arguments. -/
theorem errorLines_nci (nci : NfcNci) (hw : Reception) : ErrorLines (β := β) (nci.lines hw) := by
  have hevent : ∀ r : Nat × Frame, ErrorLines (β := β)
      (if r.1 ≤ 0 then [.e "NCI error: null event received\n" []]
        else dispatchLines (r.2.nci.rxByte 0) (r.2.nci.rxByte 1)) := by
    intro r
    split_ifs
    · exact errorLines_e [] (by decide +kernel) (List.prefix_refl _)
    · exact errorLines_dispatch _ _
  unfold NfcNci.lines
  split_ifs
  · exact errorLines_e [] (by decide +kernel) (List.prefix_refl _)
  · exact hevent (waitForEvent hw ⟨nci, 0, [], 0⟩)

end Nci
end ArduinoNfc
