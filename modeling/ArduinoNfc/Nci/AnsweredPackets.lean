import ArduinoNfc.Nci.Calls

/-!
# Every packet is answered

A message is reported by its callback, a data packet by `cbData` and everything else
by `cbError`; only a `CORE_CONN_CREDITS` notification may pass without a call.  The
three nested switches of the dispatchers keep to that except in one place:
`handleCoreEvent` has no default for the message type, where `handleRfEvent` has one.

Segments and empty packets are turned away before the dispatch, so that they are
neither messages nor data here.
-/

namespace ArduinoNfc
namespace Nci

open Foundation

/-! ## The answer to a packet -/

/-- What a client is told about a packet. -/
structure Answered (nci : NfcNci) (pkt : Packet) (call : Option NciCall) : Prop where
  /-- A message is reported by its own callback. -/
  message : ∀ m, pkt.Carries m →
    ∃ data, call = some ⟨m.method, m.status nci.state pkt, m.id, data⟩
  /-- A data packet is handed on. -/
  data : pkt.IsData →
    call = some ⟨.cbData, nciStatusOk, uint16Id nciMtData (prsGid pkt.hdr0), .rxBuf nciOffsetLen⟩
  /-- Credits are the only thing that a client is not told about. -/
  credits : pkt.IsCredits → call = none
  /-- Everything else is an error. -/
  other : (∀ m, ¬ pkt.Carries m) → ¬ pkt.IsData → ¬ pkt.IsCredits →
    ∃ c, call = some c ∧ c.method = .cbError ∧ c.status ≠ nciStatusOk

/-- The packet belongs to the core group and is of a type that `handleCoreEvent` has no
case for: a command, or one of the types that are reserved. -/
def Packet.Uncased (pkt : Packet) : Prop :=
  pkt.Whole ∧ prsGid pkt.hdr0 = nciGidCore ∧ prsMt pkt.hdr0 ≠ nciMtData ∧
    prsMt pkt.hdr0 ≠ nciMtRsp ∧ prsMt pkt.hdr0 ≠ nciMtNtf

instance (pkt : Packet) : Decidable pkt.Uncased :=
  inferInstanceAs (Decidable (_ ∧ _ ∧ _ ∧ _ ∧ _))

/-! ## Packets without a call -/

/-- A packet passes in silence when it is a credit, or falls through the switch. -/
theorem Packet.silent_iff (pkt : Packet) : pkt.Silent ↔ pkt.IsCredits ∨ pkt.Uncased := by
  constructor
  · rintro ⟨hwhole, hdata, hgid, hrsp, hntf⟩
    by_cases hmt : prsMt pkt.hdr0 = nciMtNtf
    · exact Or.inl ⟨hwhole, hmt, hgid, hntf hmt⟩
    · exact Or.inr ⟨hwhole, hgid, hdata, hrsp, hmt⟩
  · rintro (hcredits | ⟨hwhole, hgid, hdata, hrsp, hntf⟩)
    · exact hcredits.silent
    · exact ⟨hwhole, hdata, hgid, hrsp, fun h => absurd h hntf⟩

theorem Packet.Uncased.not_isCredits {pkt : Packet} (h : pkt.Uncased) : ¬ pkt.IsCredits :=
  fun hcredits => h.2.2.2.2 hcredits.2.1

theorem Packet.Uncased.not_isData {pkt : Packet} (h : pkt.Uncased) : ¬ pkt.IsData :=
  fun hdata => h.2.2.1 hdata.2

theorem Packet.Uncased.not_carries {pkt : Packet} (h : pkt.Uncased) (m : NciMsg) :
    ¬ pkt.Carries m :=
  fun hm => hm.not_silent (pkt.silent_iff.mpr (Or.inr h))

/-- The only packets that make no call are the silent ones. -/
theorem receive_call_eq_none_iff {nci : NfcNci} (hcb : nci.cbRegistered = true)
    (pkt : Packet) : (nci.receive pkt).call = none ↔ pkt.IsCredits ∨ pkt.Uncased := by
  by_cases hmsg : ∃ m, pkt.Carries m
  · obtain ⟨m, hm⟩ := hmsg
    rw [← pkt.silent_iff, receive_message hcb hm]
    exact iff_of_false nofun hm.not_silent
  · have hnone : ∀ m, ¬ pkt.Carries m := fun m hm => hmsg ⟨m, hm⟩
    by_cases hdata : pkt.IsData
    · rw [← pkt.silent_iff, receive_data hcb hdata]
      exact iff_of_false nofun fun hsilent => hsilent.2.1 hdata.2
    · rw [receive_errorCall hcb hnone hdata, errorCall_eq_none_iff hdata, pkt.silent_iff]

/-! ## The answers -/

/-- Outside of the missing case, a packet gets its answer. -/
theorem answered_of_not_uncased {nci : NfcNci} (hcb : nci.cbRegistered = true) {pkt : Packet}
    (h : ¬ pkt.Uncased) : Answered nci pkt (nci.receive pkt).call where
  message := by
    intro m hm
    refine ⟨((m.parser (nci.received pkt)).2.nci).data, ?_⟩
    rw [receive_message hcb hm, ← parser_status]
  data := by
    intro hdata
    rw [receive_data hcb hdata]
    rfl
  credits := fun hcredits => (receive_call_eq_none_iff hcb pkt).mpr (Or.inl hcredits)
  other := by
    intro hmsg hdata hcredits
    obtain ⟨herror, -⟩ := receive_other hcb hmsg hdata
    have hsome : (nci.receive pkt).call ≠ none := fun hnone =>
      ((receive_call_eq_none_iff hcb pkt).mp hnone).elim hcredits h
    obtain ⟨c, hc⟩ := Option.ne_none_iff_exists'.mp hsome
    exact ⟨c, hc, (herror c hc).1, (herror c hc).2.1⟩

/-- A client is told about the packets of a run once each, the credits left out, as long
as none of them falls through the switch. -/
theorem calls_length {nci : NfcNci} (hcb : nci.cbRegistered = true) {pkts : List Packet}
    (h : ∀ pkt ∈ pkts, ¬ pkt.Uncased) :
    (nciSystem.trace nci (pkts.map .receive)).length =
      pkts.countP fun pkt => ¬ pkt.IsCredits := by
  induction pkts generalizing nci with
  | nil => rfl
  | cons pkt pkts ih =>
      obtain ⟨hpkt, hpkts⟩ := List.forall_mem_cons.mp h
      have hnext : (nciSystem.next nci (.receive pkt)).cbRegistered = true :=
        registered_next hcb _
      have hcall := receive_call_eq_none_iff hcb pkt
      have hemit : (nciSystem.emit nci (.receive pkt)).length =
          if pkt.IsCredits then 0 else 1 := by
        show (nci.receive pkt).call.toList.length = _
        split_ifs with hcredits
        · rw [hcall.mpr (Or.inl hcredits)]
          rfl
        · obtain ⟨c, hc⟩ := Option.ne_none_iff_exists'.mp
            fun hnone => (hcall.mp hnone).elim hcredits hpkt
          rw [hc]
          rfl
      rw [List.map_cons, LabelledSystem.trace_cons, List.length_append, hemit, ih hnext hpkts,
        List.countP_cons]
      by_cases hcredits : pkt.IsCredits
      · simp [hcredits]
      · simp [hcredits, Nat.add_comm]

/-- Credits in front of a response. -/
theorem calls_length_reset :
    (nciSystem.trace NfcNci.init ([.credits, .minimal .rspCoreReset].map .receive)).length =
      [Packet.credits, .minimal .rspCoreReset].countP fun pkt => ¬ pkt.IsCredits :=
  calls_length rfl (by decide)

/-- Every packet is answered by one call, the credits by none, exactly when the packet
does not fall through the switch of `handleCoreEvent`. -/
theorem packet_answered_iff {nci : NfcNci} (hcb : nci.cbRegistered = true) (pkt : Packet) :
    Answered nci pkt (nci.receive pkt).call ↔ ¬ pkt.Uncased := by
  constructor
  · intro hanswered huncased
    obtain ⟨c, hcall, -⟩ := hanswered.other huncased.not_carries huncased.not_isData
      huncased.not_isCredits
    have hnone := (receive_call_eq_none_iff hcb pkt).mpr (Or.inr huncased)
    exact Option.some_ne_none c (hcall.symm.trans hnone)
  · exact answered_of_not_uncased hcb

/-- A reserved message type of the RF group, which has a default. -/
theorem packet_answered_iff_reserved :
    Answered NfcNci.init ⟨bldHdr0 0x07 nciGidRfManage, 0x00, [0x00], by decide⟩
      (NfcNci.init.receive ⟨bldHdr0 0x07 nciGidRfManage, 0x00, [0x00], by decide⟩).call :=
  (packet_answered_iff rfl _).mpr (by decide)

/-- The same message type in the core group makes no call. -/
theorem packet_answered_counterexample :
    ¬ ∀ nci : NfcNci, nci.Reachable → ∀ pkt, Answered nci pkt (nci.receive pkt).call := by
  intro h
  have hanswered := h NfcNci.init ⟨[], trivial, rfl⟩
    ⟨bldHdr0 0x07 nciGidCore, 0x00, [0x00], by decide⟩
  obtain ⟨c, hcall, -⟩ := hanswered.other (fun m => by cases m <;> decide) (by decide) (by decide)
  exact absurd hcall nofun

end Nci
end ArduinoNfc
