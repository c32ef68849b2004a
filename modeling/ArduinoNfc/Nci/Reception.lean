import ArduinoNfc.Nci.Activation

/-!
# What one received packet can do

A packet carries one of the seven messages, or data, or it reaches no parser:
`receive_message`, `receive_data` and `receive_other`.  `parser_spec` says what the
parser of a message does, so that no later proof unfolds one again, and
`receive_cases` puts the four together.
-/

namespace ArduinoNfc
namespace Nci

open Foundation

/-! ## The dispatchers -/

/-- Delivered whole, a packet ends up in the receive buffer; an empty one is
reported like no packet at all. -/
theorem waitForEvent_run (nci : NfcNci) (pkt : Packet) :
    waitForEvent pkt.reception ⟨nci, 0, [], 0⟩ =
      (if pkt.payload = [] then 0 else pkt.len.toNat + nciMsgHdrSize,
        ⟨nci.fill pkt, 3, [2], 0⟩) := by
  have hlen : NfcNci.rxByte { nci with rxBuf := nci.rxBuf.store 0 pkt.header } 2 = pkt.len := by
    simp [NfcNci.rxByte, nciPacketSize, ByteBuffer.store, Packet.header]
  have hempty : pkt.len = 0 ↔ pkt.payload = [] := by
    rw [Packet.len_eq_iff]
    simp
  by_cases h : pkt.payload = []
  · simp [waitForEvent, Packet.reception, nciOffsetLen, NfcNci.fill, hlen, hempty, h]
  · simp [waitForEvent, Packet.reception, nciOffsetLen, NfcNci.fill, hlen, hempty, h]

theorem handleEvent_run {nci : NfcNci} (hcb : nci.cbRegistered = true) (pkt : Packet) :
    handleEvent pkt.reception ⟨nci, 0, [], 0⟩ =
      if pkt.payload = [] then
        (some ⟨.cbError, nciStatusFailed, uint16Id 0 0, .null⟩, ⟨nci.fill pkt, 3, [2], 0⟩)
      else
        dispatch ⟨nci.fill pkt, 3, [2], 0⟩ := by
  by_cases h : pkt.payload = []
  · simp [handleEvent, hcb, waitForEvent_run, h, cbError]
  · simp [handleEvent, hcb, waitForEvent_run, h, nciMsgHdrSize]

/-- The frame in which the parser of a message starts. -/
def NfcNci.received (nci : NfcNci) (pkt : Packet) : Frame :=
  ⟨nci.fill pkt, 2, [2, 0, 1, 0, 1], 0⟩

@[simp] theorem rxByte_fill_zero (nci : NfcNci) (pkt : Packet) :
    (nci.fill pkt).rxByte 0 = pkt.hdr0 := rxByte_header nci pkt (by decide)

@[simp] theorem rxByte_fill_one (nci : NfcNci) (pkt : Packet) :
    (nci.fill pkt).rxByte 1 = pkt.hdr1 := rxByte_header nci pkt (by decide)

@[simp] theorem rxByte_fill_two (nci : NfcNci) (pkt : Packet) :
    (nci.fill pkt).rxByte 2 = pkt.len := rxByte_header nci pkt (by decide)

/-- The header of a message leads to its parser. -/
theorem dispatch_message (nci : NfcNci) {pkt : Packet} {m : NciMsg} (h : pkt.Carries m) :
    dispatch ⟨nci.fill pkt, 3, [2], 0⟩ = report m.method m.id m.parser (nci.received pkt) := by
  obtain ⟨⟨-, hpbf⟩, hmt, hgid, hoid⟩ := h
  cases m <;>
    simp [dispatch, handleCoreEvent, handleRfEvent, hpbf, hmt, hgid, hoid, NciMsg.mt,
      NciMsg.gid, NciMsg.oid, NciMsg.id, NciMsg.method, NciMsg.parser, NfcNci.received,
      nciMtRsp, nciMtNtf, nciMtData, nciGidCore, nciGidRfManage, nciMsgCoreReset,
      nciMsgCoreInit, nciMsgRfDiscoverMap, nciMsgRfDiscover, nciMsgRfDeactivate,
      nciMsgRfIntfActivated]

/-- The call that a message makes, given what its parser does. -/
theorem receive_message {nci : NfcNci} (hcb : nci.cbRegistered = true) {pkt : Packet}
    {m : NciMsg} (h : pkt.Carries m) :
    let r := m.parser (nci.received pkt)
    nci.receive pkt =
      ⟨r.2.nci, some ⟨m.method, r.1, m.id, r.2.nci.data⟩, r.2.reads, r.2.nfcidStored⟩ := by
  simp [NfcNci.receive, NfcNci.handleEvent, handleEvent_run hcb, h.1.1, dispatch_message nci h,
    report]

/-- The object once it has handed a data packet on: `_data` points to the length
byte. -/
def NfcNci.handOn (nci : NfcNci) (pkt : Packet) : NfcNci :=
  { nci.fill pkt with data := .rxBuf nciOffsetLen }

/-- A data packet is handed on without a parser. -/
theorem receive_data {nci : NfcNci} (hcb : nci.cbRegistered = true) {pkt : Packet}
    (h : pkt.IsData) :
    nci.receive pkt =
      ⟨nci.handOn pkt,
        some ⟨.cbData, nciStatusOk, uint16Id nciMtData (prsGid pkt.hdr0), .rxBuf 2⟩,
        [2, 0, 1, 0], 0⟩ := by
  obtain ⟨⟨hne, hpbf⟩, hmt⟩ := h
  simp [NfcNci.receive, NfcNci.handleEvent, handleEvent_run hcb, hne, dispatch, hpbf, hmt,
    handleDataEvent, nciMtData, NfcNci.handOn, nciOffsetLen]

/-- A call that reports an error, or none at all. -/
def ErrorOnly (call : Option NciCall) : Prop :=
  ∀ c ∈ call, c.method = .cbError ∧ c.status ≠ nciStatusOk ∧ c.data = .null

theorem errorOnly_none : ErrorOnly none := by
  intro c hc
  cases hc

theorem errorOnly_some {status : UInt8} (h : status ≠ nciStatusOk) (id : UInt16) :
    ErrorOnly (some ⟨.cbError, status, id, .null⟩) := by
  rintro c ⟨⟩
  exact ⟨rfl, h, rfl⟩

/-- What an event leaves behind when no parser runs. -/
def NoParser (nci : NfcNci) (r : Option NciCall × Frame) : Prop :=
  ErrorOnly r.1 ∧ r.2.nci = nci ∧ r.2.nfcidStored = 0 ∧ ∀ i ∈ r.2.reads, i < nciMsgHdrSize

theorem noParser_cbError {nci : NfcNci} {status : UInt8} (hstatus : status ≠ nciStatusOk)
    (id : UInt16) (pos : Nat) {reads : List Nat} (hreads : ∀ i ∈ reads, i < nciMsgHdrSize) :
    NoParser nci (some ⟨.cbError, status, id, .null⟩, ⟨nci, pos, reads, 0⟩) :=
  ⟨errorOnly_some hstatus id, rfl, rfl, hreads⟩

theorem noParser_none {nci : NfcNci} (pos : Nat) {reads : List Nat}
    (hreads : ∀ i ∈ reads, i < nciMsgHdrSize) :
    NoParser nci (none, ⟨nci, pos, reads, 0⟩) :=
  ⟨errorOnly_none, rfl, rfl, hreads⟩

/-- The core messages aside, `handleCoreEvent` reports an error or nothing. -/
theorem handleCoreEvent_other (nci : NfcNci) {pkt : Packet} {reads : List Nat}
    (hreads : ∀ i ∈ reads, i < nciMsgHdrSize)
    (hreset : prsMt pkt.hdr0 = nciMtRsp → prsOid pkt.hdr1 ≠ nciMsgCoreReset)
    (hinit : prsMt pkt.hdr0 = nciMtRsp → prsOid pkt.hdr1 ≠ nciMsgCoreInit) :
    NoParser (nci.fill pkt) (handleCoreEvent ⟨nci.fill pkt, 0, reads, 0⟩) := by
  have hreads' : ∀ i ∈ reads ++ [0, 1], i < nciMsgHdrSize :=
    List.forall_mem_append.mpr ⟨hreads, by decide⟩
  by_cases hrsp : prsMt pkt.hdr0 = nciMtRsp
  · simpa [handleCoreEvent, hrsp, hreset hrsp, hinit hrsp, cbError]
      using noParser_cbError (by decide) _ _ hreads'
  · by_cases hntf : prsMt pkt.hdr0 = nciMtNtf
    · rw [hntf] at hrsp
      by_cases hcredits : prsOid pkt.hdr1 = nciMsgCoreConnCredits
      · simpa [handleCoreEvent, hrsp, hntf, hcredits] using noParser_none _ hreads'
      · simpa [handleCoreEvent, hrsp, hntf, hcredits, cbError]
          using noParser_cbError (by decide) _ _ hreads'
    · simpa [handleCoreEvent, hrsp, hntf] using noParser_none _ hreads'

/-- The RF messages aside, `handleRfEvent` reports an error. -/
theorem handleRfEvent_other (nci : NfcNci) {pkt : Packet} {reads : List Nat}
    (hreads : ∀ i ∈ reads, i < nciMsgHdrSize)
    (hrspOid : prsMt pkt.hdr0 = nciMtRsp → prsOid pkt.hdr1 ≠ nciMsgRfDiscoverMap ∧
      prsOid pkt.hdr1 ≠ nciMsgRfDiscover ∧ prsOid pkt.hdr1 ≠ nciMsgRfDeactivate)
    (hntfOid : prsMt pkt.hdr0 = nciMtNtf → prsOid pkt.hdr1 ≠ nciMsgRfIntfActivated ∧
      prsOid pkt.hdr1 ≠ nciMsgRfDeactivate) :
    NoParser (nci.fill pkt) (handleRfEvent ⟨nci.fill pkt, 0, reads, 0⟩) := by
  have hreads' : ∀ i ∈ reads ++ [0, 1], i < nciMsgHdrSize :=
    List.forall_mem_append.mpr ⟨hreads, by decide⟩
  by_cases hrsp : prsMt pkt.hdr0 = nciMtRsp
  · obtain ⟨hmap, hdiscover, hdeactivate⟩ := hrspOid hrsp
    simpa [handleRfEvent, hrsp, hmap, hdiscover, hdeactivate, cbError]
      using noParser_cbError (by decide) _ _ hreads'
  · by_cases hntf : prsMt pkt.hdr0 = nciMtNtf
    · obtain ⟨hactivated, hdeactivate⟩ := hntfOid hntf
      rw [hntf] at hrsp
      simpa [handleRfEvent, hrsp, hntf, hactivated, hdeactivate, cbError]
        using noParser_cbError (by decide) _ _ hreads'
    · simpa [handleRfEvent, hrsp, hntf, cbError]
        using noParser_cbError (by decide) _ _ hreads'

/-- A packet that is neither data nor one of the seven messages reaches no parser. -/
theorem dispatch_other (nci : NfcNci) {pkt : Packet} (hne : pkt.payload ≠ [])
    (hmsg : ∀ m, ¬ pkt.Carries m) (hdata : ¬ pkt.IsData) :
    NoParser (nci.fill pkt) (dispatch ⟨nci.fill pkt, 3, [2], 0⟩) := by
  have hreads : ∀ i ∈ [2, 0, 1], i < nciMsgHdrSize := by decide
  by_cases hpbf : prsPbf pkt.hdr0 = nciPbfNoOrLast
  swap
  · simpa [dispatch, hpbf, cbError] using noParser_cbError (by decide) _ _ hreads
  have hmt : prsMt pkt.hdr0 ≠ nciMtData := fun h => hdata ⟨⟨hne, hpbf⟩, h⟩
  have hnot : ∀ m : NciMsg, prsMt pkt.hdr0 = m.mt → prsGid pkt.hdr0 = m.gid →
      prsOid pkt.hdr1 ≠ m.oid := fun m h₁ h₂ h₃ => hmsg m ⟨⟨hne, hpbf⟩, h₁, h₂, h₃⟩
  by_cases hcore : prsGid pkt.hdr0 = nciGidCore
  · simpa [dispatch, hpbf, hmt, hcore] using handleCoreEvent_other nci hreads
      (fun h => hnot .rspCoreReset h hcore) (fun h => hnot .rspCoreInit h hcore)
  · by_cases hrf : prsGid pkt.hdr0 = nciGidRfManage
    · rw [hrf] at hcore
      simpa [dispatch, hpbf, hmt, hcore, hrf] using handleRfEvent_other nci hreads
        (fun h => ⟨hnot .rspRfDiscoverMap h hrf, hnot .rspRfDiscover h hrf,
          hnot .rspRfDeactivate h hrf⟩)
        (fun h => ⟨hnot .ntfRfIntfActivated h hrf, hnot .ntfRfDeactivate h hrf⟩)
    · simpa [dispatch, hpbf, hmt, hcore, hrf, cbError]
        using noParser_cbError (by decide) _ _ hreads

/-- Any other packet, an empty one among them, ends in the receive buffer and in an
error at most. -/
theorem receive_other {nci : NfcNci} (hcb : nci.cbRegistered = true) {pkt : Packet}
    (hmsg : ∀ m, ¬ pkt.Carries m) (hdata : ¬ pkt.IsData) :
    ErrorOnly (nci.receive pkt).call ∧ (nci.receive pkt).nci = nci.fill pkt ∧
      (nci.receive pkt).nfcidStored = 0 ∧
      (∀ i ∈ (nci.receive pkt).reads, i < nciMsgHdrSize) := by
  have h : NoParser (nci.fill pkt) (handleEvent pkt.reception ⟨nci, 0, [], 0⟩) := by
    rw [handleEvent_run hcb]
    split_ifs with hne
    · exact noParser_cbError (by decide) _ _ (by decide)
    · exact dispatch_other nci hne hmsg hdata
  exact h

/-! ## The parsers -/

/-- A payload byte, as the parsers see it in the receive buffer. -/
def NfcNci.payloadByte (nci : NfcNci) (i : Nat) : UInt8 := nci.rxByte (nciMsgHdrSize + i)

theorem payloadByte_fill (nci : NfcNci) (pkt : Packet) (i : Nat)
    (hi : i < pkt.payload.length) : (nci.fill pkt).payloadByte i = pkt.byte i :=
  rxByte_payload nci pkt i hi

namespace NciMsg

/-- The object after an accepted message. -/
def accepted (m : NciMsg) (nci : NfcNci) (pkt : Packet) : NfcNci :=
  match m with
  | .rspCoreReset =>
      { nci.fill pkt with reset := ⟨pkt.byte 1, pkt.byte 2⟩, data := .reset, state := .rfstReset }
  | .rspCoreInit => { nci.fill pkt with data := .null, state := .rfstIdle }
  | .rspRfDiscoverMap => { nci.fill pkt with data := .null }
  | .rspRfDiscover => { nci.fill pkt with data := .null, state := .rfstDiscovery }
  | .rspRfDeactivate => { nci.fill pkt with data := .null, state := .rfstDiscovery }
  | .ntfRfIntfActivated =>
      { nci.fill pkt with
        rfIntf := nci.rfIntf.activated (nci.fill pkt).payloadByte
        data := .rfIntf
        state := .rfstPollActive }
  | .ntfRfDeactivate =>
      { nci.fill pkt with deactivate := ⟨pkt.byte 0, pkt.byte 1⟩, data := .deactivate }

/-- An `RF_DISCOVER_MAP` response of the right length clears `_data` whatever its
status is. -/
def Clears (m : NciMsg) (state : NciState) (pkt : Packet) : Prop :=
  m = .rspRfDiscoverMap ∧ state = .rfstIdle ∧ pkt.payload.length = 1

instance (m : NciMsg) (state : NciState) (pkt : Packet) : Decidable (m.Clears state pkt) :=
  inferInstanceAs (Decidable (_ ∧ _ ∧ _))

/-- The object after a message that is not accepted. -/
def refused (m : NciMsg) (nci : NfcNci) (pkt : Packet) : NfcNci :=
  if m.Clears nci.state pkt then
    { nci.fill pkt with data := .null }
  else
    nci.fill pkt

end NciMsg

/-- Every index a parser dereferenced is inside the packet, and nothing was copied
into `nfcid`. -/
def Frame.Bounded (f : Frame) (pkt : Packet) : Prop :=
  (∀ i ∈ f.reads, i < nciMsgHdrSize + pkt.payload.length) ∧ f.nfcidStored = 0

theorem bounded_received (nci : NfcNci) (pkt : Packet) : (nci.received pkt).Bounded pkt := by
  refine ⟨?_, rfl⟩
  intro i hi
  have hlt : ∀ i ∈ [2, 0, 1, 0, 1], i < nciMsgHdrSize := by decide
  exact Nat.lt_add_right _ (hlt i hi)

/-- A parser that gave up: another status than OK, and an untouched object. -/
def GaveUp (nci : NfcNci) (pkt : Packet) (r : UInt8 × Frame) : Prop :=
  r.1 ≠ nciStatusOk ∧ r.2.nci = nci.fill pkt ∧ r.2.Bounded pkt

theorem gaveUp_mk {nci : NfcNci} {pkt : Packet} {status : UInt8} (pos : Nat)
    {reads : List Nat} (hstatus : status ≠ nciStatusOk)
    (hreads : ∀ i ∈ reads, i < nciMsgHdrSize + pkt.payload.length) :
    GaveUp nci pkt (status, ⟨nci.fill pkt, pos, reads, 0⟩) :=
  ⟨hstatus, rfl, hreads, rfl⟩

/-- A wrong state or a wrong length stops a parser. -/
theorem checked_gaveUp {nci : NfcNci} {pkt : Packet} {state : NciState}
    {badLen : UInt8 → Bool} {body : NciM UInt8}
    (h : nci.state = state → badLen pkt.len = true) :
    GaveUp nci pkt (checked state badLen body (nci.received pkt)) := by
  by_cases hstate : nci.state = state
  · have hlen : badLen pkt.len = true := h hstate
    have hrun : checked state badLen body (nci.received pkt) =
        (nciStatusSyntaxError, ⟨nci.fill pkt, 3, [2, 0, 1, 0, 1, 2], 0⟩) := by
      simp [checked, NfcNci.received, hstate, hlen]
    have hreads : ∀ i ∈ [2, 0, 1, 0, 1, 2], i < nciMsgHdrSize := by decide
    rw [hrun]
    exact gaveUp_mk 3 (by decide) fun i hi => Nat.lt_add_right _ (hreads i hi)
  · have hrun : checked state badLen body (nci.received pkt) =
        (nciStatusRejected, nci.received pkt) := by
      simp [checked, NfcNci.received, hstate]
    rw [hrun]
    exact gaveUp_mk 2 (by decide) (bounded_received nci pkt).1

/-- Past the two checks, the body runs on the payload. -/
theorem checked_passed {nci : NfcNci} {pkt : Packet} {state : NciState}
    {badLen : UInt8 → Bool} {body : NciM UInt8} (hstate : nci.state = state)
    (hlen : badLen pkt.len = false) :
    checked state badLen body (nci.received pkt) =
      body ⟨nci.fill pkt, 3, [2, 0, 1, 0, 1, 2], 0⟩ := by
  simp [checked, NfcNci.received, hstate, hlen]

/-- The frame behind the length byte, or behind the status byte, is bounded. -/
theorem bounded_leading {pkt : Packet} (nci : NfcNci) (pos : Nat) (reads : List Nat)
    {n : Nat} (hn : n ≤ pkt.payload.length)
    (hreads : ∀ i ∈ reads, i < nciMsgHdrSize + n) :
    Frame.Bounded ⟨nci, pos, reads, 0⟩ pkt :=
  ⟨fun i hi => (hreads i hi).trans_le (Nat.add_le_add_left hn _), rfl⟩

/-- A status byte other than OK stops a parser. -/
theorem onStatusOk_gaveUp {nci : NfcNci} {pkt : Packet} {accept : NciM Unit}
    (hne : pkt.payload ≠ []) (hstatus : pkt.byte 0 ≠ nciStatusOk) :
    GaveUp nci pkt (onStatusOk accept ⟨nci.fill pkt, 3, [2, 0, 1, 0, 1, 2], 0⟩) := by
  have hpos : 1 ≤ pkt.payload.length := List.length_pos_of_ne_nil hne
  have h0 : (nci.fill pkt).rxByte 3 = pkt.byte 0 := rxByte_payload nci pkt 0 hpos
  have hrun : onStatusOk accept ⟨nci.fill pkt, 3, [2, 0, 1, 0, 1, 2], 0⟩ =
      (pkt.byte 0, ⟨nci.fill pkt, 4, [2, 0, 1, 0, 1, 2, 3], 0⟩) := by
    simp [onStatusOk, h0, hstatus]
  rw [hrun]
  exact gaveUp_mk 4 hstatus (bounded_leading nci 4 [2, 0, 1, 0, 1, 2, 3] hpos (by decide)).1

/-- A status byte of success lets a parser act. -/
theorem onStatusOk_passed {nci : NfcNci} {pkt : Packet} {accept : NciM Unit}
    (hne : pkt.payload ≠ []) (hstatus : pkt.byte 0 = nciStatusOk) :
    onStatusOk accept ⟨nci.fill pkt, 3, [2, 0, 1, 0, 1, 2], 0⟩ =
      (nciStatusOk, (accept ⟨nci.fill pkt, 4, [2, 0, 1, 0, 1, 2, 3], 0⟩).2) := by
  have h0 : (nci.fill pkt).rxByte 3 = pkt.byte 0 :=
    rxByte_payload nci pkt 0 (List.length_pos_of_ne_nil hne)
  simp [onStatusOk, h0, hstatus]

/-- What a parser does with the message it is for. -/
structure ParserSpec (m : NciMsg) (nci : NfcNci) (pkt : Packet) (r : UInt8 × Frame) :
    Prop where
  /-- A message that is accepted. -/
  ok : m.Accepts nci.state pkt → r.1 = nciStatusOk ∧ r.2.nci = m.accepted nci pkt
  /-- A message that is not. -/
  failed : ¬ m.Accepts nci.state pkt → r.1 ≠ nciStatusOk ∧ r.2.nci = m.refused nci pkt
  /-- Only an accepted activation follows lengths inside its payload. -/
  bounded : m = .ntfRfIntfActivated ∧ m.Accepts nci.state pkt ∨ r.2.Bounded pkt

theorem GaveUp.spec {m : NciMsg} {nci : NfcNci} {pkt : Packet} {r : UInt8 × Frame}
    (h : GaveUp nci pkt r) (hacc : ¬ m.Accepts nci.state pkt)
    (hrefused : m.refused nci pkt = nci.fill pkt) : ParserSpec m nci pkt r where
  ok := fun hok => absurd hok hacc
  failed := fun _ => ⟨h.1, h.2.1.trans hrefused.symm⟩
  bounded := Or.inr h.2.2

theorem parserSpec_accepted {m : NciMsg} {nci : NfcNci} {pkt : Packet} {r : UInt8 × Frame}
    (h : m.Accepts nci.state pkt) (hstatus : r.1 = nciStatusOk)
    (hnci : r.2.nci = m.accepted nci pkt) (hbounded : r.2.Bounded pkt) :
    ParserSpec m nci pkt r :=
  ⟨fun _ => ⟨hstatus, hnci⟩, fun hnot => absurd h hnot, Or.inr hbounded⟩

theorem refused_eq_fill {m : NciMsg} (hm : m ≠ .rspRfDiscoverMap) (nci : NfcNci)
    (pkt : Packet) : m.refused nci pkt = nci.fill pkt :=
  if_neg fun h => hm h.1

theorem decide_len_ne (pkt : Packet) (n : UInt8) :
    decide (pkt.len ≠ n) = false ↔ pkt.payload.length = n.toNat := by
  simp [Packet.len_eq_iff]

theorem decide_len_lt (pkt : Packet) (n : UInt8) :
    decide (pkt.len < n) = false ↔ n.toNat ≤ pkt.payload.length := by
  simp [UInt8.le_iff_toNat_le]

/-- The four responses of the common shape: they act on a status of success only. -/
theorem response_spec {m : NciMsg} {nci : NfcNci} {pkt : Packet} {badLen : UInt8 → Bool}
    {accept : NciM Unit} (hm : m ≠ .rspRfDiscoverMap)
    (hform : m.WellFormed pkt ↔ badLen pkt.len = false ∧ pkt.byte 0 = nciStatusOk)
    (hne : badLen pkt.len = false → pkt.payload ≠ [])
    (hnci : m.WellFormed pkt →
      (accept ⟨nci.fill pkt, 4, [2, 0, 1, 0, 1, 2, 3], 0⟩).2.nci = m.accepted nci pkt)
    (hbounded : m.WellFormed pkt →
      (accept ⟨nci.fill pkt, 4, [2, 0, 1, 0, 1, 2, 3], 0⟩).2.Bounded pkt) :
    ParserSpec m nci pkt
      (checked m.source badLen (onStatusOk accept) (nci.received pkt)) := by
  have hrefused := refused_eq_fill hm nci pkt
  by_cases hchecks : nci.state = m.source ∧ badLen pkt.len = false
  · obtain ⟨hstate, hlen⟩ := hchecks
    rw [checked_passed hstate hlen]
    by_cases hstatus : pkt.byte 0 = nciStatusOk
    · have hwf : m.WellFormed pkt := hform.mpr ⟨hlen, hstatus⟩
      rw [onStatusOk_passed (hne hlen) hstatus]
      exact parserSpec_accepted ⟨hstate, hwf⟩ rfl (hnci hwf) (hbounded hwf)
    · exact (onStatusOk_gaveUp (hne hlen) hstatus).spec
        (fun hacc => hstatus (hform.mp hacc.2).2) hrefused
  · refine (checked_gaveUp fun hstate => ?_).spec
      (fun hacc => hchecks ⟨hacc.1, (hform.mp hacc.2).1⟩) hrefused
    by_contra hlen
    exact hchecks ⟨hstate, Bool.eq_false_of_not_eq_true hlen⟩

/-- The three of them that ask for a length. -/
theorem response_exact_spec {m : NciMsg} {nci : NfcNci} {pkt : Packet} {n : UInt8}
    {accept : NciM Unit} (hm : m ≠ .rspRfDiscoverMap) (hn : 0 < n.toNat)
    (hform : m.WellFormed pkt ↔ pkt.payload.length = n.toNat ∧ pkt.byte 0 = nciStatusOk)
    (hnci : pkt.payload.length = n.toNat →
      (accept ⟨nci.fill pkt, 4, [2, 0, 1, 0, 1, 2, 3], 0⟩).2.nci = m.accepted nci pkt)
    (hbounded : pkt.payload.length = n.toNat →
      (accept ⟨nci.fill pkt, 4, [2, 0, 1, 0, 1, 2, 3], 0⟩).2.Bounded pkt) :
    ParserSpec m nci pkt (checked m.source (fun len => decide (len ≠ n)) (onStatusOk accept)
      (nci.received pkt)) := by
  have hlen := decide_len_ne pkt n
  refine response_spec hm ?_ ?_ (fun hwf => hnci (hform.mp hwf).1)
    (fun hwf => hbounded (hform.mp hwf).1)
  · rw [hlen]
    exact hform
  · intro h
    exact List.ne_nil_of_length_pos (by rw [hlen.mp h]; exact hn)

/-- The frame behind an accepted activation notification. -/
theorem activated_run {nci : NfcNci} {pkt : Packet}
    (h : NciMsg.ntfRfIntfActivated.Accepts nci.state pkt) :
    ∃ pos, NciMsg.ntfRfIntfActivated.parser (nci.received pkt) =
      (nciStatusOk,
        { nci := NciMsg.ntfRfIntfActivated.accepted nci pkt
          pos
          reads := [2, 0, 1, 0, 1, 2] ++
            (activatedOffsets (nci.fill pkt).payloadByte).map (nciMsgHdrSize + ·)
          nfcidStored := activatedNfcidStored (nci.fill pkt).payloadByte }) := by
  obtain ⟨hstate, hlen⟩ := h
  have hnot : ¬ (nci.fill pkt).rxByte 2 < nciRfParamSizeIntfActivatedNtf := by
    rw [rxByte_fill_two, Packet.len_lt_iff]
    exact Nat.not_lt.mpr hlen
  exact ntfRfIntfActivated_run (fun _ => rfl) [2, 0, 1, 0, 1] hstate hnot

/-- Every parser meets its specification. -/
theorem parser_spec (m : NciMsg) (nci : NfcNci) (pkt : Packet) :
    ParserSpec m nci pkt (m.parser (nci.received pkt)) := by
  cases m with
  | rspCoreReset =>
      refine response_exact_spec (by decide) (by decide) Iff.rfl ?_ ?_
      · intro hthree
        have h4 : (nci.fill pkt).rxByte 4 = pkt.byte 1 :=
          rxByte_payload nci pkt 1 (by rw [hthree]; decide)
        have h5 : (nci.fill pkt).rxByte 5 = pkt.byte 2 :=
          rxByte_payload nci pkt 2 (by rw [hthree]; decide)
        simp [NciMsg.accepted, h4, h5]
      · exact fun hthree => bounded_leading _ 6 [2, 0, 1, 0, 1, 2, 3, 4, 5] hthree.ge (by decide)
  | rspCoreInit =>
      have hlen := decide_len_lt pkt nciCoreParamSizeInitRsp
      refine response_spec (by decide) (and_congr_left' hlen.symm) ?_ ?_ ?_
      · intro h
        exact List.ne_nil_of_length_pos (lt_of_lt_of_le (by decide) (hlen.mp h))
      · intro _
        rfl
      · rintro ⟨hwf, -⟩
        have hone : 1 ≤ pkt.payload.length := Nat.le_trans (by decide) hwf
        exact bounded_leading _ 4 [2, 0, 1, 0, 1, 2, 3] hone (by decide)
  | rspRfDiscoverMap =>
      have hlen := decide_len_ne pkt nciRfParamSizeDiscoverMapRsp
      -- a status other than OK leaves `_data` cleared, unlike in the other responses
      by_cases hchecks : nci.state = .rfstIdle ∧ pkt.payload.length = 1
      · obtain ⟨hstate, hone⟩ := hchecks
        have hrun : NciMsg.rspRfDiscoverMap.parser (nci.received pkt) =
            (pkt.byte 0,
              ⟨{ nci.fill pkt with data := .null }, 4, [2, 0, 1, 0, 1, 2, 3], 0⟩) := by
          have h3 : (nci.fill pkt).rxByte 3 = pkt.byte 0 :=
            rxByte_payload nci pkt 0 (by rw [hone]; decide)
          refine (checked_passed hstate (hlen.mpr hone)).trans ?_
          simp [h3]
        rw [hrun]
        refine ⟨?_, ?_, Or.inr (bounded_leading _ 4 [2, 0, 1, 0, 1, 2, 3] hone.ge (by decide))⟩
        · exact fun hacc => ⟨hacc.2.2, rfl⟩
        · intro hnot
          have hrefused : NciMsg.rspRfDiscoverMap.refused nci pkt =
              { nci.fill pkt with data := .null } := if_pos ⟨rfl, hstate, hone⟩
          exact ⟨fun hstatus => hnot ⟨hstate, hone, hstatus⟩, hrefused.symm⟩
      · refine (checked_gaveUp fun hstate => ?_).spec (fun hacc => hchecks ⟨hacc.1, hacc.2.1⟩)
          (if_neg fun h => hchecks h.2)
        by_contra hne
        exact hchecks ⟨hstate, hlen.mp (Bool.eq_false_of_not_eq_true hne)⟩
  | rspRfDiscover =>
      exact response_exact_spec (by decide) (by decide) Iff.rfl (fun _ => rfl)
        fun hone => bounded_leading _ 4 [2, 0, 1, 0, 1, 2, 3] hone.ge (by decide)
  | rspRfDeactivate =>
      exact response_exact_spec (by decide) (by decide) Iff.rfl (fun _ => rfl)
        fun hone => bounded_leading _ 4 [2, 0, 1, 0, 1, 2, 3] hone.ge (by decide)
  | ntfRfIntfActivated =>
      have hlen := decide_len_lt pkt nciRfParamSizeIntfActivatedNtf
      by_cases hacc : NciMsg.ntfRfIntfActivated.Accepts nci.state pkt
      · obtain ⟨pos, hrun⟩ := activated_run hacc
        refine ⟨fun _ => ?_, fun hnot => absurd hacc hnot, Or.inl ⟨rfl, hacc⟩⟩
        rw [hrun]
        exact ⟨rfl, rfl⟩
      · refine (checked_gaveUp fun hstate => ?_).spec hacc (refused_eq_fill (by decide) nci pkt)
        by_contra hne
        exact hacc ⟨hstate, hlen.mp (Bool.eq_false_of_not_eq_true hne)⟩
  | ntfRfDeactivate =>
      have hlen := decide_len_ne pkt nciRfParamSizeDeactivateNtf
      by_cases hacc : NciMsg.ntfRfDeactivate.Accepts nci.state pkt
      · obtain ⟨hstate, hform⟩ := hacc
        have htwo : pkt.payload.length = 2 := hform
        have h3 : (nci.fill pkt).rxByte 3 = pkt.byte 0 :=
          rxByte_payload nci pkt 0 (by rw [htwo]; decide)
        have h4 : (nci.fill pkt).rxByte 4 = pkt.byte 1 :=
          rxByte_payload nci pkt 1 (by rw [htwo]; decide)
        have hrun : NciMsg.ntfRfDeactivate.parser (nci.received pkt) =
            (nciStatusOk, ⟨NciMsg.ntfRfDeactivate.accepted nci pkt, 5,
              [2, 0, 1, 0, 1, 2, 3, 4], 0⟩) := by
          refine (checked_passed hstate (hlen.mpr htwo)).trans ?_
          simp [h3, h4, NciMsg.accepted]
        rw [hrun]
        exact parserSpec_accepted ⟨hstate, hform⟩ rfl rfl
          (bounded_leading _ 5 [2, 0, 1, 0, 1, 2, 3, 4] htwo.ge (by decide))
      · refine (checked_gaveUp fun hstate => ?_).spec hacc (refused_eq_fill (by decide) nci pkt)
        by_contra hne
        exact hacc ⟨hstate, hlen.mp (Bool.eq_false_of_not_eq_true hne)⟩

/-! ## One reception -/

namespace NciMsg

variable (m : NciMsg) (nci : NfcNci) (pkt : Packet)

@[simp] theorem accepted_data : (m.accepted nci pkt).data = m.object := by
  cases m <;> rfl

@[simp] theorem accepted_cbRegistered :
    (m.accepted nci pkt).cbRegistered = nci.cbRegistered := by
  cases m <;> rfl

/-- An accepted message moves the state to its target. -/
theorem accepted_state {m : NciMsg} {nci : NfcNci} {pkt : Packet}
    (h : m.Accepts nci.state pkt) : (m.accepted nci pkt).state = m.target := by
  have hstate : nci.state = m.source := h.1
  cases m <;> first | rfl | exact hstate

@[simp] theorem refused_state : (m.refused nci pkt).state = nci.state := by
  unfold refused
  split_ifs <;> rfl

@[simp] theorem refused_rfIntf : (m.refused nci pkt).rfIntf = nci.rfIntf := by
  unfold refused
  split_ifs <;> rfl

@[simp] theorem refused_cbRegistered :
    (m.refused nci pkt).cbRegistered = nci.cbRegistered := by
  unfold refused
  split_ifs <;> rfl

/-- A refused message hands on what `_data` was, unless it clears it. -/
theorem refused_data :
    (m.refused nci pkt).data = if m.Clears nci.state pkt then .null else nci.data := by
  unfold refused
  split_ifs <;> rfl

end NciMsg

/-- The copy into `nfcid` stays inside the array. -/
def NfcNci.NfcidFits (nci : NfcNci) (pkt : Packet) : Prop :=
  (nci.receive pkt).nfcidStored ≤ nciRfPaNfcidLength

instance (nci : NfcNci) (pkt : Packet) : Decidable (nci.NfcidFits pkt) :=
  inferInstanceAs (Decidable (_ ≤ _))

/-- Only an accepted activation notification copies anything into `nfcid`, and only
it can read outside of the packet. -/
theorem receive_bounded {nci : NfcNci} (hcb : nci.cbRegistered = true) {pkt : Packet}
    (h : ¬ (pkt.Carries .ntfRfIntfActivated ∧
      NciMsg.ntfRfIntfActivated.Accepts nci.state pkt)) :
    (∀ i ∈ (nci.receive pkt).reads, i < nciMsgHdrSize + pkt.payload.length) ∧
      (nci.receive pkt).nfcidStored = 0 := by
  by_cases hmsg : ∃ m, pkt.Carries m
  -- past its two checks, only the activation follows lengths found in the payload
  · obtain ⟨m, hm⟩ := hmsg
    rw [receive_message hcb hm]
    rcases (parser_spec m nci pkt).bounded with ⟨rfl, hacc⟩ | hbounded
    · exact absurd ⟨hm, hacc⟩ h
    · exact hbounded
  · have hnone : ∀ m, ¬ pkt.Carries m := fun m hm => hmsg ⟨m, hm⟩
    by_cases hdata : pkt.IsData
    · rw [receive_data hcb hdata]
      have hreads : ∀ i ∈ [2, 0, 1, 0], i < nciMsgHdrSize := by decide
      exact ⟨fun i hi => Nat.lt_add_right _ (hreads i hi), rfl⟩
    · obtain ⟨-, -, hstored, hreads⟩ := receive_other hcb hnone hdata
      exact ⟨fun i hi => Nat.lt_add_right _ (hreads i hi), hstored⟩

/-- No other packet can overrun `nfcid`. -/
theorem nfcidFits_of_not_carries {nci : NfcNci} (hcb : nci.cbRegistered = true)
    {pkt : Packet} (h : ¬ pkt.Carries .ntfRfIntfActivated) : nci.NfcidFits pkt :=
  (receive_bounded hcb fun hact => h hact.1).2.trans_le (Nat.zero_le _)

/-- What one reception does, by what the packet is. -/
inductive Received (nci : NfcNci) (pkt : Packet) (r : Handled) : Prop where
  /-- A message that its parser accepts. -/
  | accepted (m : NciMsg) (carries : pkt.Carries m) (accepts : m.Accepts nci.state pkt)
      (nci_eq : r.nci = m.accepted nci pkt)
      (call_eq : r.call = some ⟨m.method, nciStatusOk, m.id, m.object⟩)
  /-- A message that its parser refuses. -/
  | refused (m : NciMsg) (carries : pkt.Carries m) (refuses : ¬ m.Accepts nci.state pkt)
      (nci_eq : r.nci = m.refused nci pkt) (status : UInt8) (failed : status ≠ nciStatusOk)
      (call_eq : r.call = some ⟨m.method, status, m.id, (m.refused nci pkt).data⟩)
  /-- A data packet. -/
  | data (isData : pkt.IsData) (nci_eq : r.nci = nci.handOn pkt)
      (id : UInt16) (call_eq : r.call = some ⟨.cbData, nciStatusOk, id, .rxBuf 2⟩)
  /-- A packet that reaches no parser. -/
  | other (noMsg : ∀ m, ¬ pkt.Carries m) (noData : ¬ pkt.IsData)
      (nci_eq : r.nci = nci.fill pkt) (error : ErrorOnly r.call)

theorem receive_cases {nci : NfcNci} (hcb : nci.cbRegistered = true) (pkt : Packet) :
    Received nci pkt (nci.receive pkt) := by
  by_cases hmsg : ∃ m, pkt.Carries m
  · obtain ⟨m, hm⟩ := hmsg
    have hspec := parser_spec m nci pkt
    have hrun := receive_message hcb hm
    by_cases hacc : m.Accepts nci.state pkt
    · obtain ⟨hstatus, hnci⟩ := hspec.ok hacc
      refine .accepted m hm hacc (by rw [hrun]; exact hnci) ?_
      rw [hrun, hstatus, hnci, NciMsg.accepted_data]
    · obtain ⟨hstatus, hnci⟩ := hspec.failed hacc
      refine .refused m hm hacc (by rw [hrun]; exact hnci) _ hstatus ?_
      rw [hrun, hnci]
  · by_cases hdata : pkt.IsData
    · have hrun := receive_data hcb hdata
      exact .data hdata (by rw [hrun]) _ (by rw [hrun])
    · have hnone : ∀ m, ¬ pkt.Carries m := fun m hm => hmsg ⟨m, hm⟩
      obtain ⟨herror, hnci, -⟩ := receive_other hcb hnone hdata
      exact .other hnone hdata hnci herror

@[simp] theorem receive_cbRegistered {nci : NfcNci} (hcb : nci.cbRegistered = true)
    (pkt : Packet) : (nci.receive pkt).nci.cbRegistered = true := by
  cases receive_cases hcb pkt with
  | accepted m _ _ hnci _ => rw [hnci, NciMsg.accepted_cbRegistered, hcb]
  | refused m _ _ hnci _ _ _ => rw [hnci, NciMsg.refused_cbRegistered, hcb]
  | data _ hnci _ _ => rw [hnci]; exact hcb
  | other _ _ hnci _ => rw [hnci]; exact hcb

end Nci
end ArduinoNfc
