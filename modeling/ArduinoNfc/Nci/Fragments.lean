import ArduinoNfc.Nci.Calls
import ArduinoNfc.Nci.StateMachine

/-!
# Segmented messages

A message that is split into segments comes as packets with one header: the flag
`PBF` is set in all of them but the last.  `NfcNci` cannot put them together and
reports those with the flag.  The last one has no flag, so it is taken for a
message of its own: `fragments_iff` says in which runs this does not matter.

What has been split is a ghost: the channels on which a last segment is still to
come are recorded beside the object, which does not remember them.
-/

namespace ArduinoNfc
namespace Nci

open Foundation

/-! ## Segments -/

/-- What the segments of one message have in common. -/
structure Channel where
  mt : UInt8
  gid : UInt8
  oid : UInt8
  deriving DecidableEq, Repr

/-- The channel of a packet; the second header byte of a data packet is reserved. -/
def Packet.channel (pkt : Packet) : Channel where
  mt := prsMt pkt.hdr0
  gid := prsGid pkt.hdr0
  oid := if prsMt pkt.hdr0 = nciMtData then 0 else prsOid pkt.hdr1

/-- More segments follow. -/
def Packet.Continues (pkt : Packet) : Prop := prsPbf pkt.hdr0 ≠ nciPbfNoOrLast

instance (pkt : Packet) : Decidable pkt.Continues := inferInstanceAs (Decidable (_ ≠ _))

/-- The channels on which a message is not complete, after an event. -/
def recordOpen (_ : NfcNci) (e : NciEvent) (incomplete : List Channel) : List Channel :=
  match e with
  | .command _ _ => incomplete
  | .receive pkt =>
      if pkt.Continues then
        pkt.channel :: incomplete
      else
        incomplete.filter (· ≠ pkt.channel)

/-- The object beside the record of incomplete messages. -/
def fragmentSystem : LabelledSystem (NfcNci × List Channel) NciEvent NciCall :=
  nciSystem.withRecord recordOpen

/-- The packet is a segment of a message that was split. -/
def Packet.Segment (pkt : Packet) (incomplete : List Channel) : Prop :=
  pkt.Continues ∨ pkt.channel ∈ incomplete

instance (pkt : Packet) (incomplete : List Channel) : Decidable (pkt.Segment incomplete) :=
  inferInstanceAs (Decidable (_ ∨ _))

/-! ## What becomes of a packet -/

/-- The packet is reported as an error, and only the receive buffer has changed. -/
def Reported (nci : NfcNci) (pkt : Packet) : Prop :=
  (∃ c, (nci.receive pkt).call = some c ∧ c.method = .cbError ∧ c.status ≠ nciStatusOk) ∧
    ChangesOnly [] nci (nci.receive pkt).nci

/-- The packet is handled as by any object that differs in the receive buffer only, and
so as if the packets before it had been others; but for an activation notification,
which may read outside of its packet, it leaves the same object behind. -/
def HandledNormally (nci : NfcNci) (pkt : Packet) : Prop :=
  ∀ fresh, ChangesOnly [] nci fresh →
    (fresh.receive pkt).call = (nci.receive pkt).call ∧
      ((nci.Activates pkt → pkt.NestedFits) →
        ChangesOnly [] (nci.receive pkt).nci (fresh.receive pkt).nci)

/-- No segment is taken for a message, and what is no segment is handled normally. -/
def FragmentSafe (s : NfcNci × List Channel) : NciEvent → Prop
  | .command _ _ => True
  | .receive pkt =>
      (pkt.Segment s.2 → Reported s.1 pkt) ∧ (¬ pkt.Segment s.2 → HandledNormally s.1 pkt)

/-- A last segment that is not empty is not a data packet, carries none of the seven
messages, and is not passed over in silence. -/
def LastSegmentUnknown (s : NfcNci × List Channel) : NciEvent → Prop
  | .command _ _ => True
  | .receive pkt =>
      ¬ pkt.Continues → pkt.channel ∈ s.2 →
        ¬ pkt.IsData ∧ (∀ m, ¬ pkt.Carries m) ∧ ¬ pkt.Silent

/-- A packet that reaches no parser and is not silent is reported. -/
theorem reported_of_unknown {nci : NfcNci} (hcb : nci.cbRegistered = true) {pkt : Packet}
    (hdata : ¬ pkt.IsData) (hmsg : ∀ m, ¬ pkt.Carries m) (hsilent : ¬ pkt.Silent) :
    Reported nci pkt := by
  obtain ⟨herror, hnci, -⟩ := receive_other hcb hmsg hdata
  have hsome : (nci.receive pkt).call ≠ none := by
    rw [receive_errorCall hcb hmsg hdata]
    exact fun hnone => hsilent ((errorCall_eq_none_iff hdata).mp hnone)
  obtain ⟨c, hcall⟩ := Option.ne_none_iff_exists'.mp hsome
  obtain ⟨hmethod, hstatus, -⟩ := herror c hcall
  exact ⟨⟨c, hcall, hmethod, hstatus⟩, by rw [hnci]; exact fill_changesOnly _ nci pkt⟩

/-- Exactly such packets are. -/
theorem reported_iff {nci : NfcNci} (hcb : nci.cbRegistered = true) (pkt : Packet) :
    Reported nci pkt ↔ ¬ pkt.IsData ∧ (∀ m, ¬ pkt.Carries m) ∧ ¬ pkt.Silent := by
  constructor
  · rintro ⟨⟨c, hcall, hmethod, -⟩, -⟩
    have hdata : ¬ pkt.IsData := by
      intro hdata
      rw [receive_data hcb hdata] at hcall
      cases hcall
      exact NciCb.noConfusion hmethod
    have hmsg : ∀ m, ¬ pkt.Carries m := by
      intro m hm
      rw [receive_message hcb hm] at hcall
      cases hcall
      have hnot : m.method ≠ .cbError := by cases m <;> decide
      exact hnot hmethod
    refine ⟨hdata, hmsg, fun hsilent => ?_⟩
    rw [receive_errorCall hcb hmsg hdata, (errorCall_eq_none_iff hdata).mpr hsilent] at hcall
    cases hcall
  · rintro ⟨hdata, hmsg, hsilent⟩
    exact reported_of_unknown hcb hdata hmsg hsilent

/-- A segment with the flag is unknown to every handler. -/
theorem Packet.Continues.unknown {pkt : Packet} (h : pkt.Continues) :
    ¬ pkt.IsData ∧ (∀ m, ¬ pkt.Carries m) ∧ ¬ pkt.Silent :=
  ⟨fun hdata => h hdata.1.2, fun _ hm => h hm.1.2, fun hsilent => h hsilent.1.2⟩

/-! ## The receive buffer does not matter -/

/-- The call depends on the members of the object, not on the receive buffer. -/
theorem receive_call_congr {a b : NfcNci} (hcb : a.cbRegistered = true)
    (hsame : ChangesOnly [] a b) (pkt : Packet) :
    (b.receive pkt).call = (a.receive pkt).call := by
  have hstate : b.state = a.state := hsame .state (List.not_mem_nil)
  have hdata : b.data = a.data := hsame .data (List.not_mem_nil)
  have hcb' : b.cbRegistered = true := (hsame .cb (List.not_mem_nil)).trans hcb
  by_cases hmsg : ∃ m, pkt.Carries m
  · obtain ⟨m, hm⟩ := hmsg
    have hobject : (m.parser (b.received pkt)).2.nci.data =
        (m.parser (a.received pkt)).2.nci.data := by
      by_cases hacc : m.Accepts a.state pkt
      · have hacc' : m.Accepts b.state pkt := hstate ▸ hacc
        rw [((parser_spec m a pkt).ok hacc).2, ((parser_spec m b pkt).ok hacc').2,
          NciMsg.accepted_data, NciMsg.accepted_data]
      · have hacc' : ¬ m.Accepts b.state pkt := hstate ▸ hacc
        rw [((parser_spec m a pkt).failed hacc).2, ((parser_spec m b pkt).failed hacc').2,
          NciMsg.refused_data, NciMsg.refused_data, hstate, hdata]
    rw [receive_message hcb hm, receive_message hcb' hm]
    simp only [parser_status, hobject, hstate]
  · have hnone : ∀ m, ¬ pkt.Carries m := fun m hm => hmsg ⟨m, hm⟩
    by_cases hisData : pkt.IsData
    · rw [receive_data hcb hisData, receive_data hcb' hisData]
    · rw [receive_errorCall hcb hnone hisData, receive_errorCall hcb' hnone hisData]

/-- Neither do the members depend on it, if nothing outside of the packet is read. -/
theorem accepted_congr {a b : NfcNci} (hsame : ChangesOnly [] a b) {m : NciMsg} {pkt : Packet}
    (hfits : m = .ntfRfIntfActivated → pkt.NestedFits) :
    ChangesOnly [] (m.accepted a pkt) (m.accepted b pkt) := by
  intro f hf
  by_cases hrecord : m = .ntfRfIntfActivated ∧ f = .rfIntf
  · obtain ⟨rfl, rfl⟩ := hrecord
    have hold : b.rfIntf = a.rfIntf := hsame .rfIntf hf
    show b.rfIntf.activated (b.fill pkt).payloadByte = a.rfIntf.activated (a.fill pkt).payloadByte
    rw [activated_payloadByte _ _ (hfits rfl), activated_payloadByte _ _ (hfits rfl), hold]
  · have hkept : f.Kept a b := hsame f hf
    cases m <;> cases f <;> first | rfl | exact hkept | exact absurd ⟨rfl, rfl⟩ hrecord

theorem refused_congr {a b : NfcNci} (hsame : ChangesOnly [] a b) (m : NciMsg) (pkt : Packet) :
    ChangesOnly [] (m.refused a pkt) (m.refused b pkt) := by
  have hstate : b.state = a.state := hsame .state (List.not_mem_nil)
  intro f hf
  have hkept : f.Kept a b := hsame f hf
  unfold NciMsg.refused
  rw [hstate]
  split_ifs
  · cases f <;> first | rfl | exact hkept
  · cases f <;> exact hkept

theorem receive_congr {a b : NfcNci} (hcb : a.cbRegistered = true) (hsame : ChangesOnly [] a b)
    {pkt : Packet} (hfits : a.Activates pkt → pkt.NestedFits) :
    ChangesOnly [] (a.receive pkt).nci (b.receive pkt).nci := by
  have hstate : b.state = a.state := hsame .state (List.not_mem_nil)
  have hcb' : b.cbRegistered = true := (hsame .cb (List.not_mem_nil)).trans hcb
  by_cases hmsg : ∃ m, pkt.Carries m
  · obtain ⟨m, hm⟩ := hmsg
    rw [receive_message hcb hm, receive_message hcb' hm]
    by_cases hacc : m.Accepts a.state pkt
    · have hacc' : m.Accepts b.state pkt := hstate ▸ hacc
      rw [((parser_spec m a pkt).ok hacc).2, ((parser_spec m b pkt).ok hacc').2]
      refine accepted_congr hsame ?_
      rintro rfl
      exact hfits ⟨hm, hacc⟩
    · have hacc' : ¬ m.Accepts b.state pkt := hstate ▸ hacc
      rw [((parser_spec m a pkt).failed hacc).2, ((parser_spec m b pkt).failed hacc').2]
      exact refused_congr hsame m pkt
  · have hnone : ∀ m, ¬ pkt.Carries m := fun m hm => hmsg ⟨m, hm⟩
    by_cases hdata : pkt.IsData
    · rw [receive_data hcb hdata, receive_data hcb' hdata]
      intro f hf
      have hkept : f.Kept a b := hsame f hf
      cases f <;> first | rfl | exact hkept
    · obtain ⟨-, hnci, -⟩ := receive_other hcb hnone hdata
      obtain ⟨-, hnci', -⟩ := receive_other hcb' hnone hdata
      rw [hnci, hnci']
      intro f hf
      have hkept : f.Kept a b := hsame f hf
      cases f <;> exact hkept

/-- Every packet is handled normally, whatever came before it. -/
theorem handledNormally {nci : NfcNci} (hcb : nci.cbRegistered = true) (pkt : Packet) :
    HandledNormally nci pkt :=
  fun _ hsame => ⟨receive_call_congr hcb hsame pkt, receive_congr hcb hsame⟩

/-! ## Whole runs -/

/-- One step is safe exactly when the last segments in it are unknown. -/
theorem fragmentSafe_iff {s : NfcNci × List Channel} (hcb : s.1.cbRegistered = true)
    (e : NciEvent) : FragmentSafe s e ↔ LastSegmentUnknown s e := by
  cases e with
  | command hw cmd => exact Iff.rfl
  | receive pkt =>
      constructor
      · rintro ⟨hsegment, -⟩ _ hopen
        exact (reported_iff hcb pkt).mp (hsegment (Or.inr hopen))
      · intro hlast
        refine ⟨fun hsegment => (reported_iff hcb pkt).mpr ?_, fun _ => handledNormally hcb pkt⟩
        by_cases hcontinues : pkt.Continues
        · exact hcontinues.unknown
        · exact hlast hcontinues (hsegment.resolve_left hcontinues)

/-- Along a run no segment is taken for a message, and all else is handled normally,
exactly when every last segment is one that no handler knows. -/
theorem fragments_iff {es : List NciEvent} (hlegal : nciSystem.Legal NfcNci.init es) :
    fragmentSystem.Along FragmentSafe (NfcNci.init, []) es ↔
      fragmentSystem.Along LastSegmentUnknown (NfcNci.init, []) es :=
  LabelledSystem.along_congr (I := fun s => s.1.cbRegistered = true)
    (fun _ e hs _ => registered_next hs e) (fun _ e hs _ => fragmentSafe_iff hs e) rfl
    ((nciSystem.withRecord_along recordOpen []).mpr hlegal)

/-- A packet of the message `m` with the flag set. -/
def Packet.segmentOf (m : NciMsg) (payload : List UInt8) (hle : payload.length ≤ 255) : Packet :=
  ⟨bldHdr0 m.mt m.gid ||| 0x10, m.oid, payload, hle⟩

/-- An unknown notification in two segments, and a response behind it. -/
theorem fragments_iff_unknown :
    fragmentSystem.Along FragmentSafe (NfcNci.init, [])
      [.receive ⟨0x7F, 0x01, [0x00], by decide⟩, .receive ⟨0x6F, 0x01, [0x00], by decide⟩,
        .receive (.minimal .rspCoreReset)] := by
  refine (fragments_iff (by decide)).mpr ?_
  refine ⟨fun hlast => absurd (by decide) hlast, ?_, fun _ hopen => ?_, trivial⟩
  · intro _ _
    refine ⟨by decide, fun m => ?_, by decide⟩
    cases m <;> decide
  · exact absurd hopen (by decide)

/-- The second half of a `CORE_RESET` response is accepted as a response. -/
theorem fragments_counterexample :
    ¬ ∀ es, nciSystem.Legal NfcNci.init es →
      fragmentSystem.Along FragmentSafe (NfcNci.init, []) es := by
  intro h
  obtain ⟨-, hlast, -⟩ := h
    [.receive (.segmentOf .rspCoreReset [nciStatusOk] (by decide)),
      .receive (.minimal .rspCoreReset)] (by decide)
  have hreported := hlast.1 (by decide)
  have hreset : (nciSystem.run NfcNci.init
      [.receive (.segmentOf .rspCoreReset [nciStatusOk] (by decide)),
        .receive (.minimal .rspCoreReset)]).state = .rfstReset := by decide
  have hkept := hreported.2 .state (List.not_mem_nil)
  exact absurd (hreset.symm.trans hkept) (by decide)

end Nci
end ArduinoNfc
