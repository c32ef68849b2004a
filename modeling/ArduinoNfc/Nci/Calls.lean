import ArduinoNfc.Nci.PacketBounds

/-!
# The calls that packets lead to

Which call a reception makes, and with which status, is a function of the packet
and of the state: `parser_status` for the messages and `receive_errorCall` for the
packets that reach no parser.  What an earlier packet left in the receive buffer
has no part in it, and if the nested lengths fit, no part in the RF interface
record either.
-/

namespace ArduinoNfc
namespace Nci

open Foundation

/-! ## Messages -/

/-- The length check of the parser. -/
def NciMsg.badLen : NciMsg → UInt8 → Bool
  | .rspCoreReset => fun len => len ≠ nciCoreParamSizeResetRsp
  | .rspCoreInit => fun len => len < nciCoreParamSizeInitRsp
  | .rspRfDiscoverMap => fun len => len ≠ nciRfParamSizeDiscoverMapRsp
  | .rspRfDiscover => fun len => len ≠ nciRfParamSizeDiscoverRsp
  | .rspRfDeactivate => fun len => len ≠ nciRfParamSizeDeactivateRsp
  | .ntfRfIntfActivated => fun len => len < nciRfParamSizeIntfActivatedNtf
  | .ntfRfDeactivate => fun len => len ≠ nciRfParamSizeDeactivateNtf

/-- The status that is reported: past the checks, a response passes its own on. -/
def NciMsg.status (m : NciMsg) (state : NciState) (pkt : Packet) : UInt8 :=
  if state ≠ m.source then
    nciStatusRejected
  else if m.badLen pkt.len then
    nciStatusSyntaxError
  else if m.mt = nciMtNtf then
    nciStatusOk
  else
    pkt.byte 0

/-- The status behind the two checks that every parser starts with. -/
theorem checked_status (nci : NfcNci) (pkt : Packet) (state : NciState)
    (badLen : UInt8 → Bool) (body : NciM UInt8) :
    (checked state badLen body (nci.received pkt)).1 =
      if nci.state ≠ state then nciStatusRejected
      else if badLen pkt.len then nciStatusSyntaxError
      else (body ⟨nci.fill pkt, 3, [2, 0, 1, 0, 1, 2], 0⟩).1 := by
  by_cases hstate : nci.state = state
  · by_cases hlen : badLen pkt.len
    · simp [checked, NfcNci.received, hstate, hlen]
    · simp [checked, NfcNci.received, hstate, hlen]
  · simp [checked, NfcNci.received, hstate]

/-- A response whose length is right has a status byte. -/
theorem payload_ne_nil_of_badLen {m : NciMsg} {pkt : Packet} (h : m.badLen pkt.len = false) :
    pkt.payload ≠ [] := by
  intro hnil
  have hzero : pkt.len = 0 := by
    rw [Packet.len_eq_iff, hnil]
    rfl
  rw [hzero] at h
  cases m <;> exact absurd h (by decide)

theorem onStatusOk_status {nci : NfcNci} {pkt : Packet} (accept : NciM Unit)
    (hne : pkt.payload ≠ []) :
    (onStatusOk accept ⟨nci.fill pkt, 3, [2, 0, 1, 0, 1, 2], 0⟩).1 = pkt.byte 0 := by
  by_cases hstatus : pkt.byte 0 = nciStatusOk
  · rw [onStatusOk_passed hne hstatus, hstatus]
  · have h0 : (nci.fill pkt).rxByte 3 = pkt.byte 0 :=
      rxByte_payload nci pkt 0 (List.length_pos_of_ne_nil hne)
    simp [onStatusOk, h0, hstatus]

/-- A notification has no status byte; its length is all that is checked. -/
theorem wellFormed_of_notification {m : NciMsg} {pkt : Packet} (hntf : m.mt = nciMtNtf)
    (hlen : m.badLen pkt.len = false) : m.WellFormed pkt := by
  cases m with
  | ntfRfIntfActivated => exact (decide_len_lt pkt _).mp hlen
  | ntfRfDeactivate => exact (decide_len_ne pkt _).mp hlen
  | _ => exact absurd hntf (by decide)

/-- The status of a message. -/
theorem parser_status (m : NciMsg) (nci : NfcNci) (pkt : Packet) :
    (m.parser (nci.received pkt)).1 = m.status nci.state pkt := by
  by_cases hstate : nci.state = m.source
  swap
  · have hrejected : m.status nci.state pkt = nciStatusRejected := if_pos hstate
    rw [hrejected]
    cases m <;> exact (checked_status nci pkt _ _ _).trans (if_pos hstate)
  have hguard : ¬ nci.state ≠ m.source := not_not.mpr hstate
  by_cases hlen : m.badLen pkt.len = true
  · have hbad : m.status nci.state pkt = nciStatusSyntaxError :=
      (if_neg hguard).trans (if_pos hlen)
    rw [hbad]
    cases m <;>
      exact (checked_status nci pkt _ _ _).trans ((if_neg hguard).trans (if_pos hlen))
  have hpassed : m.status nci.state pkt = if m.mt = nciMtNtf then nciStatusOk else pkt.byte 0 :=
    (if_neg hguard).trans (if_neg hlen)
  have hlen' : m.badLen pkt.len = false := Bool.eq_false_of_not_eq_true hlen
  rw [hpassed]
  split_ifs with hntf
  · exact ((parser_spec m nci pkt).ok ⟨hstate, wellFormed_of_notification hntf hlen'⟩).1
  · have hne : pkt.payload ≠ [] := payload_ne_nil_of_badLen hlen'
    have hbody : ∀ body, (checked m.source m.badLen body (nci.received pkt)).1 =
        (body ⟨nci.fill pkt, 3, [2, 0, 1, 0, 1, 2], 0⟩).1 := fun body =>
      (checked_status nci pkt _ _ body).trans ((if_neg hguard).trans (if_neg hlen))
    cases m with
    | rspCoreReset => exact (hbody _).trans (onStatusOk_status _ hne)
    | rspCoreInit => exact (hbody _).trans (onStatusOk_status _ hne)
    | rspRfDiscoverMap =>
        exact (hbody _).trans (rxByte_payload nci pkt 0 (List.length_pos_of_ne_nil hne))
    | rspRfDiscover => exact (hbody _).trans (onStatusOk_status _ hne)
    | rspRfDeactivate => exact (hbody _).trans (onStatusOk_status _ hne)
    | ntfRfIntfActivated => exact absurd rfl hntf
    | ntfRfDeactivate => exact absurd rfl hntf

/-! ## Packets that reach no parser -/

/-- The call for a packet that is neither data nor one of the seven messages.  The
core group has no default for its message types, so it lets some packets pass
without a call. -/
def Packet.errorCall (pkt : Packet) : Option NciCall :=
  let id := uint16Id (prsMt pkt.hdr0) (prsOid pkt.hdr1)
  if pkt.payload = [] then
    some ⟨.cbError, nciStatusFailed, uint16Id 0 0, .null⟩
  else if prsPbf pkt.hdr0 ≠ nciPbfNoOrLast then
    some ⟨.cbError, nciStatusSyntaxError, id, .null⟩
  else if prsGid pkt.hdr0 = nciGidCore then
    if prsMt pkt.hdr0 = nciMtRsp ∨
        prsMt pkt.hdr0 = nciMtNtf ∧ prsOid pkt.hdr1 ≠ nciMsgCoreConnCredits then
      some ⟨.cbError, nciStatusUnknownOid, id, .null⟩
    else
      none
  else if prsGid pkt.hdr0 = nciGidRfManage then
    if prsMt pkt.hdr0 = nciMtRsp ∨ prsMt pkt.hdr0 = nciMtNtf then
      some ⟨.cbError, nciStatusUnknownOid, id, .null⟩
    else
      some ⟨.cbError, nciStatusSyntaxError, id, .null⟩
  else
    some ⟨.cbError, nciStatusUnknownGid, id, .null⟩

/-- The call of a core packet without a parser. -/
theorem handleCoreEvent_errorCall (nci : NfcNci) {pkt : Packet} (hne : pkt.payload ≠ [])
    (hpbf : prsPbf pkt.hdr0 = nciPbfNoOrLast) (hcore : prsGid pkt.hdr0 = nciGidCore)
    (hmsg : ∀ m, ¬ pkt.Carries m) (reads : List Nat) :
    (handleCoreEvent ⟨nci.fill pkt, 0, reads, 0⟩).1 = pkt.errorCall := by
  have hnot : ∀ m : NciMsg, m.gid = nciGidCore → prsMt pkt.hdr0 = m.mt →
      prsOid pkt.hdr1 ≠ m.oid := fun m h₁ h₂ h₃ => hmsg m ⟨⟨hne, hpbf⟩, h₂, hcore.trans h₁.symm, h₃⟩
  by_cases hrsp : prsMt pkt.hdr0 = nciMtRsp
  · have hreset := hnot .rspCoreReset rfl hrsp
    have hinit := hnot .rspCoreInit rfl hrsp
    simp only [NciMsg.oid] at hreset hinit
    simp [handleCoreEvent, Packet.errorCall, hne, hpbf, hcore, hrsp, hreset, hinit, cbError]
  · by_cases hntf : prsMt pkt.hdr0 = nciMtNtf
    · rw [hntf] at hrsp
      by_cases hcredits : prsOid pkt.hdr1 = nciMsgCoreConnCredits
      · simp [handleCoreEvent, Packet.errorCall, hne, hpbf, hcore, hrsp, hntf, hcredits]
      · simp [handleCoreEvent, Packet.errorCall, hne, hpbf, hcore, hrsp, hntf, hcredits, cbError]
    · simp [handleCoreEvent, Packet.errorCall, hne, hpbf, hcore, hrsp, hntf]

/-- The call of an RF packet without a parser. -/
theorem handleRfEvent_errorCall (nci : NfcNci) {pkt : Packet} (hne : pkt.payload ≠ [])
    (hpbf : prsPbf pkt.hdr0 = nciPbfNoOrLast) (hrf : prsGid pkt.hdr0 = nciGidRfManage)
    (hmsg : ∀ m, ¬ pkt.Carries m) (reads : List Nat) :
    (handleRfEvent ⟨nci.fill pkt, 0, reads, 0⟩).1 = pkt.errorCall := by
  have hnot : ∀ m : NciMsg, m.gid = nciGidRfManage → prsMt pkt.hdr0 = m.mt →
      prsOid pkt.hdr1 ≠ m.oid := fun m h₁ h₂ h₃ => hmsg m ⟨⟨hne, hpbf⟩, h₂, hrf.trans h₁.symm, h₃⟩
  have hcore : nciGidRfManage ≠ nciGidCore := by decide
  by_cases hrsp : prsMt pkt.hdr0 = nciMtRsp
  · have hmap := hnot .rspRfDiscoverMap rfl hrsp
    have hdiscover := hnot .rspRfDiscover rfl hrsp
    have hdeactivate := hnot .rspRfDeactivate rfl hrsp
    simp only [NciMsg.oid] at hmap hdiscover hdeactivate
    simp [handleRfEvent, Packet.errorCall, hne, hpbf, hrf, hcore, hrsp, hmap, hdiscover,
      hdeactivate, cbError]
  · by_cases hntf : prsMt pkt.hdr0 = nciMtNtf
    · have hactivated := hnot .ntfRfIntfActivated rfl hntf
      have hdeactivate := hnot .ntfRfDeactivate rfl hntf
      simp only [NciMsg.oid] at hactivated hdeactivate
      rw [hntf] at hrsp
      simp [handleRfEvent, Packet.errorCall, hne, hpbf, hrf, hcore, hrsp, hntf, hactivated,
        hdeactivate, cbError]
    · simp [handleRfEvent, Packet.errorCall, hne, hpbf, hrf, hcore, hrsp, hntf, cbError]

/-- The call of a packet that reaches no parser. -/
theorem receive_errorCall {nci : NfcNci} (hcb : nci.cbRegistered = true) {pkt : Packet}
    (hmsg : ∀ m, ¬ pkt.Carries m) (hdata : ¬ pkt.IsData) :
    (nci.receive pkt).call = pkt.errorCall := by
  simp only [NfcNci.receive, NfcNci.handleEvent, handleEvent_run hcb]
  by_cases hne : pkt.payload = []
  · simp [hne, Packet.errorCall]
  by_cases hpbf : prsPbf pkt.hdr0 = nciPbfNoOrLast
  swap
  · simp [hne, hpbf, dispatch, cbError, Packet.errorCall]
  have hmt : prsMt pkt.hdr0 ≠ nciMtData := fun h => hdata ⟨⟨hne, hpbf⟩, h⟩
  by_cases hcore : prsGid pkt.hdr0 = nciGidCore
  · have hcall := handleCoreEvent_errorCall nci hne hpbf hcore hmsg [2, 0, 1]
    simpa [hne, dispatch, hpbf, hmt, hcore] using hcall
  · by_cases hrf : prsGid pkt.hdr0 = nciGidRfManage
    · have hcall := handleRfEvent_errorCall nci hne hpbf hrf hmsg [2, 0, 1]
      rw [hrf] at hcore
      simpa [hne, dispatch, hpbf, hmt, hcore, hrf] using hcall
    · simp [hne, dispatch, hpbf, hmt, hcore, hrf, cbError, Packet.errorCall]

/-- The packet passes without a call: it is neither data nor a message, and belongs to
a part of the core group that `handleCoreEvent` has no case for, or a silent one. -/
def Packet.Silent (pkt : Packet) : Prop :=
  pkt.Whole ∧ prsMt pkt.hdr0 ≠ nciMtData ∧ prsGid pkt.hdr0 = nciGidCore ∧
    prsMt pkt.hdr0 ≠ nciMtRsp ∧
    (prsMt pkt.hdr0 = nciMtNtf → prsOid pkt.hdr1 = nciMsgCoreConnCredits)

instance (pkt : Packet) : Decidable pkt.Silent :=
  inferInstanceAs (Decidable (_ ∧ _ ∧ _ ∧ _ ∧ _))

theorem Packet.IsCredits.silent {pkt : Packet} (h : pkt.IsCredits) : pkt.Silent := by
  obtain ⟨hwhole, hmt, hgid, hoid⟩ := h
  refine ⟨hwhole, ?_, hgid, ?_, fun _ => hoid⟩
  · rw [hmt]
    decide
  · rw [hmt]
    decide

/-- A message is not silent. -/
theorem Packet.Carries.not_silent {pkt : Packet} {m : NciMsg} (h : pkt.Carries m) :
    ¬ pkt.Silent := by
  rintro ⟨-, -, hgid, hrsp, hntf⟩
  obtain ⟨-, hmt, hgid', hoid⟩ := h
  have hcore : m.gid = nciGidCore := hgid'.symm.trans hgid
  have hnot : m.mt ≠ nciMtRsp := fun h => hrsp (hmt.trans h)
  revert hcore hnot
  cases m <;> decide

/-- Every other packet that reaches no parser is reported. -/
theorem errorCall_eq_none_iff {pkt : Packet} (hdata : ¬ pkt.IsData) :
    pkt.errorCall = none ↔ pkt.Silent := by
  by_cases hwhole : pkt.Whole
  swap
  · have hsome : pkt.errorCall ≠ none := by
      by_cases hne : pkt.payload = []
      · simp [Packet.errorCall, hne]
      · have hpbf : prsPbf pkt.hdr0 ≠ nciPbfNoOrLast := fun h => hwhole ⟨hne, h⟩
        simp [Packet.errorCall, hne, hpbf]
    exact iff_of_false hsome fun h => hwhole h.1
  obtain ⟨hne, hpbf⟩ := hwhole
  have hmt : prsMt pkt.hdr0 ≠ nciMtData := fun h => hdata ⟨⟨hne, hpbf⟩, h⟩
  by_cases hcore : prsGid pkt.hdr0 = nciGidCore
  · by_cases hrsp : prsMt pkt.hdr0 = nciMtRsp
    · simp [Packet.errorCall, Packet.Silent, hne, hpbf, hcore, hrsp]
    · simp [Packet.errorCall, Packet.Silent, Packet.Whole, hne, hpbf, hcore, hrsp, hmt]
  · have hsome : pkt.errorCall ≠ none := by
      by_cases hrf : prsGid pkt.hdr0 = nciGidRfManage
      · by_cases hrsp : prsMt pkt.hdr0 = nciMtRsp ∨ prsMt pkt.hdr0 = nciMtNtf
        · simp [Packet.errorCall, hne, hpbf, hrf, hrsp, nciGidRfManage, nciGidCore]
        · simp [Packet.errorCall, hne, hpbf, hrf, hrsp, nciGidRfManage, nciGidCore]
      · simp [Packet.errorCall, hne, hpbf, hcore, hrf]
    exact iff_of_false hsome fun h => hcore h.2.2.1

/-! ## What an earlier packet leaves behind -/

/-- Inside a fitting length, the technology parameters are made of bytes below it. -/
theorem decoded_congr (old : NciRfParams) {byte byte' : Nat → UInt8} {len : Nat}
    (hagree : ∀ i, i < len → byte' i = byte i) (mode : UInt8) (off : Nat)
    (hlen : mode = nciDiscoveryTypePollA →
      off + (byte (off + 2)).toNat + 4 +
        (byte (off + 3 + (byte (off + 2)).toNat)).toNat ≤ len) :
    old.decoded byte' mode off = old.decoded byte mode off := by
  unfold NciRfParams.decoded
  split_ifs with hmode
  swap
  · rfl
  specialize hlen hmode
  have h0 : byte' off = byte off := hagree _ (by omega)
  have h1 : byte' (off + 1) = byte (off + 1) := hagree _ (by omega)
  have h2 : byte' (off + 2) = byte (off + 2) := hagree _ (by omega)
  have hsel : byte' (off + 3 + (byte (off + 2)).toNat) =
      byte (off + 3 + (byte (off + 2)).toNat) := hagree _ (by omega)
  have hnfcid : (fun i : Fin nciRfPaNfcidLength =>
      if i.val < (byte (off + 2)).toNat then byte' (off + 3 + i.val) else old.pollA.nfcid i) =
      fun i => if i.val < (byte (off + 2)).toNat then byte (off + 3 + i.val)
        else old.pollA.nfcid i := by
    funext i
    split_ifs with hi
    · exact hagree _ (by omega)
    · rfl
  -- `sel_res` is there only when its length byte is not zero
  have hselRes : (if byte (off + 3 + (byte (off + 2)).toNat) ≠ 0 then
        byte' (off + 4 + (byte (off + 2)).toNat) else old.pollA.selRes) =
      if byte (off + 3 + (byte (off + 2)).toNat) ≠ 0 then
        byte (off + 4 + (byte (off + 2)).toNat) else old.pollA.selRes := by
    split_ifs with hne
    · have hpos : (byte (off + 3 + (byte (off + 2)).toNat)).toNat ≠ 0 :=
        fun hzero => hne (UInt8.toNat_inj.mp hzero)
      exact hagree _ (by omega)
    · rfl
  simp only [h0, h1, h2, hsel, hnfcid, hselRes]

/-- Inside fitting lengths, the record is made of bytes of the payload only. -/
theorem activated_congr (old : NciRfIntf) {byte byte' : Nat → UInt8} {len : Nat}
    (hagree : ∀ i, i < len → byte' i = byte i) (houter : (byte 6).toNat + 11 ≤ len)
    (hinner : byte 6 ≠ 0 → byte 3 = nciDiscoveryTypePollA →
      (byte 9).toNat + 11 + (byte (10 + (byte 9).toNat)).toNat ≤ len) :
    old.activated byte' = old.activated byte := by
  have hfixed : ∀ i, i < 11 → byte' i = byte i := fun i hi => hagree i (by omega)
  have htech : (if byte 6 ≠ 0 then old.specific.decoded byte' (byte 3) 7 else old.specific) =
      if byte 6 ≠ 0 then old.specific.decoded byte (byte 3) 7 else old.specific := by
    split_ifs with hparams
    · refine decoded_congr _ hagree _ _ fun hmode => ?_
      have hlen := hinner hparams hmode
      show 7 + (byte 9).toNat + 4 + (byte (10 + (byte 9).toNat)).toNat ≤ len
      omega
    · rfl
  have h7 : byte' (7 + (byte 6).toNat) = byte (7 + (byte 6).toNat) := hagree _ (by omega)
  have h8 : byte' (8 + (byte 6).toNat) = byte (8 + (byte 6).toNat) := hagree _ (by omega)
  have h9 : byte' (9 + (byte 6).toNat) = byte (9 + (byte 6).toNat) := hagree _ (by omega)
  simp only [NciRfIntf.activated, hfixed 0 (by decide), hfixed 1 (by decide),
    hfixed 2 (by decide), hfixed 3 (by decide), hfixed 4 (by decide), hfixed 5 (by decide),
    hfixed 6 (by decide), htech, h7, h8, h9]

/-- The record that a packet with fitting lengths leaves behind. -/
theorem activated_payloadByte (old : NciRfIntf) (nci : NfcNci) {pkt : Packet}
    (hfits : pkt.NestedFits) :
    old.activated (nci.fill pkt).payloadByte = old.activated pkt.byte :=
  activated_congr old (fun i hi => payloadByte_fill nci pkt i hi) hfits.1
    fun hparams hmode => (hfits.2 hparams hmode).2

end Nci
end ArduinoNfc
