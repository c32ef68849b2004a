import ArduinoNfc.Tags.LayerAgreement
import ArduinoNfc.Tags.Chunks

/-!
# The status that comes with a chunk

`handleDataDump` translates the status that `NfcNci` hands on before it looks at
the payload, and does not change it when the payload turns out to be corrupted.
Since `handleDataEvent` hands on `NCI_STATUS_OK` with every data packet, no answer
of a tag is ever reported as an error: `chunk_status_iff` says that the report is
right exactly when a valid chunk gets to `handleDataDump`.  A segment, an empty packet
and an answer that comes when the interface is not selected any more do not get there.
-/

namespace ArduinoNfc
namespace Tags

open Foundation Nci

/-- A data packet arrives while the type 2 interface waits for the answer to a `READ`. -/
def Stack.ReadAnsweredBy (s : Stack) (pkt : Packet) : Prop :=
  s.tags.tag2.state = .dumpRsp ∧ prsMt pkt.hdr0 = nciMtData

instance (s : Stack) (pkt : Packet) : Decidable (s.ReadAnsweredBy pkt) :=
  inferInstanceAs (Decidable (_ ∧ _))

/-- The application is told by `cbDump` what it got: a valid chunk, or an error. -/
structure ReportsChunk (pkt : Packet) (out : List StackOutput) : Prop where
  /-- Success comes with the sixteen bytes of a valid chunk; so a corrupted answer never
  passes for a chunk of the dump, nor for its last one. -/
  ok : ∀ id data bytes, .call ⟨.cbDump, .ok, id, data⟩ bytes ∈ out →
    ValidChunk pkt ∧ bytes = pkt.payload.take 16 ∧ ∃ dump, data = some dump ∧ dump.len = 16
  /-- A valid chunk is handed over, with its sixteen bytes. -/
  chunk : ValidChunk pkt → ∃ id dump,
    .call ⟨.cbDump, .ok, id, some dump⟩ (pkt.payload.take 16) ∈ out ∧ dump.len = 16
  /-- Every other payload is reported as an error. -/
  error : ¬ ValidChunk pkt →
    ∃ status id data bytes, status ≠ .ok ∧ .call ⟨.cbDump, status, id, data⟩ bytes ∈ out

/-- The record of a valid chunk, a middle one or the last one, has sixteen bytes. -/
theorem chunked_dump_len {t : NfcTagsIntfType2} {pkt : Packet} (h : ValidChunk pkt) :
    (t.chunked pkt).dump.len = 16 := by
  rw [NfcTagsIntfType2.chunked, if_pos h]
  split_ifs <;> rfl

/-- Whatever a data packet holds, it leads to no call or to one that reports success. -/
theorem receive_data_ok {s : Stack} (hcb : s.nci.cbRegistered = true) {pkt : Packet}
    (hdata : prsMt pkt.hdr0 = nciMtData) (garbage : NciRfIntf) {c : TagsCall}
    {bytes : List UInt8} (h : .call c bytes ∈ (s.receive pkt garbage).2) :
    s.Consumes pkt ∧ c = ⟨.cbDump, .ok, .dump, some (s.tags.tag2.chunked pkt).dump⟩ ∧
      bytes = if ValidChunk pkt then pkt.payload.take 16 else [] := by
  by_cases hconsumes : s.Consumes pkt
  · rw [(receive_consumed hcb hconsumes garbage).out_eq] at h
    cases List.mem_singleton.mp h
    exact ⟨hconsumes, rfl, rfl⟩
  · rw [(receive_ignored hcb hdata hconsumes garbage).2] at h
    cases h

/-- In every reachable state, the answer to a `READ` is reported for what it is exactly
when it is a valid chunk that gets to `handleDataDump`. -/
theorem chunk_status_iff {s : Stack} (hs : s.Reachable) {pkt : Packet}
    (hanswer : s.ReadAnsweredBy pkt) (garbage : NciRfIntf) :
    ReportsChunk pkt (stackSystem.emit s (.receive pkt garbage)) ↔
      s.Consumes pkt ∧ ValidChunk pkt := by
  have hcb := hs.agrees.registered
  obtain ⟨-, hdata⟩ := hanswer
  constructor
  · intro hreports
    have hvalid : ValidChunk pkt := by
      by_contra hinvalid
      obtain ⟨status, id, data, bytes, hstatus, hcall⟩ := hreports.error hinvalid
      obtain ⟨-, hc, -⟩ := receive_data_ok hcb hdata garbage hcall
      exact hstatus (congrArg TagsCall.status hc)
    -- what is handed over has come through `handleDataDump`
    obtain ⟨id, dump, hcall, -⟩ := hreports.chunk hvalid
    exact ⟨(receive_data_ok hcb hdata garbage hcall).1, hvalid⟩
  · rintro ⟨hconsumes, hvalid⟩
    refine ⟨fun id data bytes hcall => ?_, fun _ => ?_, fun hinvalid => absurd hvalid hinvalid⟩
    · obtain ⟨-, hc, hbytes⟩ := receive_data_ok hcb hdata garbage hcall
      rw [if_pos hvalid] at hbytes
      exact ⟨hvalid, hbytes, _, congrArg TagsCall.data hc, chunked_dump_len hvalid⟩
    · refine ⟨.dump, (s.tags.tag2.chunked pkt).dump, ?_, chunked_dump_len hvalid⟩
      rw [emit_receive, (receive_consumed hcb hconsumes garbage).out_eq, if_pos hvalid]
      exact List.mem_singleton.mpr rfl

/-- The first tag is activated, and the first `READ` of its dump is on its way. -/
def firstReadRun : List StackEvent :=
  activationRun type2Tag ++ [.app .cmdDump, .poll acceptAll 0]

/-- The first `READ` is answered with a valid chunk. -/
theorem chunk_status_iff_first :
    ReportsChunk wholeChunk (stackSystem.emit (stackSystem.run Stack.init firstReadRun)
      (.receive wholeChunk NciRfIntf.zero)) := by
  have hreachable : (stackSystem.run Stack.init firstReadRun).Reachable :=
    ⟨firstReadRun, by decide +kernel, rfl⟩
  exact (chunk_status_iff hreachable (by decide +kernel) NciRfIntf.zero).mpr
    ⟨by decide +kernel, by decide⟩

/-- A `NACK` is reported with status `OK`. -/
theorem chunk_status_counterexample :
    ¬ ∀ (s : Stack) (pkt : Packet) (garbage : NciRfIntf), s.Reachable → s.ReadAnsweredBy pkt →
      ReportsChunk pkt (stackSystem.emit s (.receive pkt garbage)) := by
  intro h
  have hreachable : (stackSystem.run Stack.init firstReadRun).Reachable :=
    ⟨firstReadRun, by decide +kernel, rfl⟩
  have hreports := h _ nackPacket NciRfIntf.zero hreachable (by decide +kernel)
  have hconsumes : (stackSystem.run Stack.init firstReadRun).Consumes nackPacket := by
    decide +kernel
  rw [emit_receive,
    (receive_consumed hreachable.agrees.registered hconsumes NciRfIntf.zero).out_eq] at hreports
  exact absurd (hreports.ok _ _ _ (List.mem_singleton.mpr rfl)).1 (by decide)

end Tags
end ArduinoNfc
