import ArduinoNfc.Tags.DumpTransfer

/-!
# Only an outstanding `READ` consumes data

`NfcTagsIntfType2::handleData` selects by `_id`, which nothing clears after a dump,
and not by `_state`.  So a data packet that no `READ` has asked for is a chunk like
any other: it skips a block, ends a dump or revives a finished one.

`dumpHistory` lets a record of the dump run along with the stack, and
`outstanding_read_iff` says in which runs data is consumed by outstanding `READ`
commands only.
-/

namespace ArduinoNfc
namespace Tags

open Foundation Nci

/-! ## The history of a dump -/

/-- What has been observed of the dump since `cmdDump` was last accepted. -/
structure DumpRecord where
  /-- The number of chunks that came with status `OK`. -/
  chunks : Nat
  /-- The block of the `READ` that was sent and is not answered yet. -/
  asked : Option UInt8
  /-- `cbDump` has reported an error, or the last chunk. -/
  ended : Bool
  deriving DecidableEq, Repr

/-- The record of a dump that begins. -/
def DumpRecord.start : DumpRecord := ⟨0, none, false⟩

/-- The calls of `cbDump` among the observations. -/
def dumpCalls (out : List StackOutput) : List TagsCall :=
  (callsOf out).filter fun c => c.method = .cbDump

/-- The block that a command asks a type 2 tag for. -/
def readBlockOf : NciCmd → Option UInt8
  | .dataSend _ [cmd, block] => if cmd = cmdRead then some block else none
  | _ => none

/-- The call tells the application that the dump is over. -/
def TagsCall.Terminal (c : TagsCall) : Prop :=
  c.status ≠ .ok ∨ ∃ dump ∈ c.data, dump.more = 0

instance (c : TagsCall) : Decidable c.Terminal := inferInstanceAs (Decidable (_ ∨ _))

/-- A `READ` counts once `dataSend` has succeeded, and any call of `cbDump` settles it. -/
def DumpRecord.observe (g : DumpRecord) : StackOutput → DumpRecord
  | .nciCmd cmd status _ =>
      if status = nciStatusOk then { g with asked := (readBlockOf cmd).or g.asked } else g
  | .call c _ =>
      if c.method = .cbDump then
        { chunks := if c.status = .ok then g.chunks + 1 else g.chunks
          asked := none
          ended := g.ended || decide c.Terminal }
      else
        g

/-- The observation is neither a `READ` nor a call of `cbDump`. -/
def StackOutput.OffDump : StackOutput → Prop
  | .nciCmd cmd _ _ => readBlockOf cmd = none
  | .call c _ => c.method ≠ .cbDump

theorem DumpRecord.observe_offDump (g : DumpRecord) (o : StackOutput) (h : o.OffDump) :
    g.observe o = g := by
  cases o with
  | nciCmd cmd status written =>
      have hread : readBlockOf cmd = none := h
      simp [DumpRecord.observe, hread]
  | call c bytes => exact if_neg h

/-- Such observations leave a record alone that each of them leaves alone. -/
theorem foldl_offDump {γ : Type*} {observe : γ → StackOutput → γ}
    (hobserve : ∀ g o, StackOutput.OffDump o → observe g o = g) {out : List StackOutput}
    (h : ∀ o ∈ out, o.OffDump) (g : γ) : out.foldl observe g = g := by
  induction out with
  | nil => rfl
  | cons o out ih =>
      obtain ⟨ho, hout⟩ := List.forall_mem_cons.mp h
      rw [List.foldl_cons, hobserve g o ho, ih hout]

theorem dumpCalls_offDump {out : List StackOutput} (h : ∀ o ∈ out, o.OffDump) :
    dumpCalls out = [] := by
  induction out with
  | nil => rfl
  | cons o out ih =>
      obtain ⟨ho, hout⟩ := List.forall_mem_cons.mp h
      rw [← ih hout]
      cases o with
      | nciCmd _ _ _ => rfl
      | call c bytes =>
          have hmethod : c.method ≠ .cbDump := ho
          simp [dumpCalls, callsOf, hmethod]

theorem DumpRecord.observe_failure {status : TagsStatus} (h : status ≠ .ok) (g : DumpRecord) :
    (g.observe (failureCall .cbDump .dump status)).ended = true := by
  have hterminal : TagsCall.Terminal ⟨.cbDump, status, .dump, none⟩ := Or.inl h
  simp [DumpRecord.observe, failureCall, hterminal]

/-- The record after one step of the stack. -/
def DumpRecord.after (s : Stack) (e : StackEvent) (g : DumpRecord) : DumpRecord :=
  match e with
  | .app .cmdDump => if (s.tags.exec .cmdDump).1 = .ok then .start else g
  | _ => (stackSystem.emit s e).foldl DumpRecord.observe g

/-- The stack and the record of its dump. -/
def dumpHistory : LabelledSystem (Stack × DumpRecord) StackEvent StackOutput :=
  stackSystem.withRecord DumpRecord.after

/-- One step of a run in which data is consumed by outstanding `READ` commands only. -/
structure AnswersReads (p : Stack × DumpRecord) (e : StackEvent) : Prop where
  /-- A data packet that comes while no `READ` is outstanding does nothing. -/
  idle : ∀ pkt garbage, e = .receive pkt garbage → prsMt pkt.hdr0 = nciMtData →
    p.1.tags.tag2.state ≠ .dumpRsp →
      dumpCalls (dumpHistory.emit p e) = [] ∧
      (dumpHistory.next p e).1.tags.tag2.state = p.1.tags.tag2.state ∧
      (dumpHistory.next p e).1.tags.tag2.block = p.1.tags.tag2.block
  /-- Chunk `k` answers the `READ` of block `4k`. -/
  inOrder : ∀ c ∈ dumpCalls (dumpHistory.emit p e), c.status = .ok →
    ∃ block, p.2.asked = some block ∧ block.toNat = 4 * p.2.chunks
  /-- After the end of a dump, `cbDump` is not called. -/
  quiet : p.2.ended = true → dumpCalls (dumpHistory.emit p e) = []

/-- A poll does not fail in the handler of a dump: the interface is selected, a `READ`
that is due is written as a whole, and the variable that is never assigned while there
is nothing to do holds `NCI_STATUS_OK`. -/
def DumpGoesOn (s : Stack) : StackEvent → Prop
  | .poll hw junk => s.tags.id = .dump →
      s.tags.state = .dump ∧ s.tags.pTagIntf = some .tag2 ∧
        match s.tags.tag2.state with
        | .dump => hw (readPacket s.tags.tag2.block) = 5
        | .dumpRsp => True
        | .none => junk = nciStatusOk
  | _ => True

instance (s : Stack) : ∀ e, Decidable (DumpGoesOn s e)
  | .poll hw junk =>
      haveI : Decidable (match s.tags.tag2.state with
          | .dump => hw (readPacket s.tags.tag2.block) = 5
          | .dumpRsp => True
          | .none => junk = nciStatusOk) := by
        split <;> infer_instance
      inferInstanceAs (Decidable (_ → _ ∧ _ ∧ _))
  | .app _ => isTrue trivial
  | .receive _ _ => isTrue trivial

/-- The step hands the type 2 interface no data but the answer to a `READ` of a dump
that goes on, and it does not fail in the handler of a dump that has ended. -/
def Orderly (p : Stack × DumpRecord) (e : StackEvent) : Prop :=
  (p.2.ended = true → DumpGoesOn p.1 e) ∧
    match e with
    | .receive pkt _ => p.1.Consumes pkt → p.1.tags.tag2.state = .dumpRsp ∧ p.2.ended = false
    | _ => True

instance (p : Stack × DumpRecord) : ∀ e, Decidable (Orderly p e)
  | .receive _ _ => inferInstanceAs (Decidable ((_ → _) ∧ (_ → _ ∧ _)))
  | .app _ => inferInstanceAs (Decidable ((_ → _) ∧ True))
  | .poll _ _ => inferInstanceAs (Decidable ((_ → _) ∧ True))

/-! ## What one step shows of a dump -/

/-- A poll, in a step that concerns the dump. -/
inductive DumpPolled (s : Stack) (hw : HwWrite) (junk : UInt8) (r : Stack × List StackOutput) :
    Prop where
  /-- The next `READ` is sent. -/
  | asked (goesOn : DumpGoesOn s (.poll hw junk)) (id_eq : s.tags.id = .dump)
      (tag2_eq : r.1.tags.tag2 = { s.tags.tag2 with state := .dumpRsp })
      (out_eq : r.2 = [.nciCmd (NfcTagsIntfType2.readBlock s.tags.tag2.block) nciStatusOk
        (some (readPacket s.tags.tag2.block))])
  /-- The handler of the dump fails. -/
  | failed (stops : ¬ DumpGoesOn s (.poll hw junk)) (status : TagsStatus) (failed : status ≠ .ok)
      (block_eq : r.1.tags.tag2.block = s.tags.tag2.block)
      (calls_eq : dumpCalls r.2 = [⟨.cbDump, status, .dump, none⟩])
      (ended : ∀ g : DumpRecord, (r.2.foldl .observe g).ended = true)
  /-- There is nothing to do, or another command is polled. -/
  | silent (goesOn : DumpGoesOn s (.poll hw junk)) (tag2_eq : r.1.tags.tag2 = s.tags.tag2)
      (offDump : ∀ o ∈ r.2, o.OffDump)

/-- A `READ` is written as a whole, or it fails. -/
theorem read_status {nci : NfcNci} (h : nci.state = .rfstPollActive) (hw : HwWrite)
    (block : UInt8) :
    (nci.exec hw (NfcTagsIntfType2.readBlock block)).status = nciStatusOk ↔
      hw (readPacket block) = 5 := by
  have hwritten := read_written h hw block
  rw [read_sent h] at hwritten ⊢
  rw [← Option.some.inj hwritten]
  show (if _ then nciStatusOk else nciStatusFailed) = nciStatusOk ↔ _
  split_ifs with hcount
  · exact iff_of_true rfl hcount
  · exact iff_of_false (by decide) hcount

/-- The command that is pending is a `READ` in a dump, and only there. -/
theorem readBlockOf_pending {t : NfcTags} {cmd : NciCmd} (h : t.pending = some cmd) :
    (t.id = .dump ∧ t.tag2.state = .dump ∧ readBlockOf cmd = some t.tag2.block) ∨
      (t.id ≠ .dump ∧ readBlockOf cmd = none) := by
  cases pending_cases h with
  | read id_eq _ _ due _ => exact Or.inl ⟨id_eq, due, rfl⟩
  | _ =>
      rename_i id_eq _
      exact Or.inr ⟨by rw [id_eq]; decide, rfl⟩

/-- The other handlers report their failures through other callbacks. -/
theorem answer_ne_cbDump {id : TagsId} (h : id ≠ .dump) : id.answer ≠ .cbDump := by
  cases id with
  | dump => exact absurd rfl h
  | _ => decide

/-- Outside of the handler of a dump, a poll does nothing to it. -/
theorem dumpPolled_other {s : Stack} (hid : s.tags.id ≠ .dump) (hw : HwWrite) (junk : UInt8) :
    DumpPolled s hw junk (s.handleEvent hw junk) := by
  have hgoesOn : DumpGoesOn s (.poll hw junk) := fun h => absurd h hid
  have hfailure : ∀ status, (failureCall s.tags.id.answer s.tags.id status).OffDump :=
    fun _ => answer_ne_cbDump hid
  cases poll_cases s hw junk with
  | issued cmd pending stack_eq out_eq =>
      obtain ⟨status, -, hout⟩ := out_eq
      obtain ⟨-, hread⟩ := (readBlockOf_pending pending).resolve_left fun hread => hid hread.1
      refine .silent hgoesOn ?_ ?_
      · rw [stack_eq, NfcTags.issued, if_neg hid]
      · rw [hout]
        refine List.forall_mem_cons.mpr ⟨hread, ?_⟩
        split_ifs
        · exact List.forall_mem_nil _
        · exact List.forall_mem_singleton.mpr (hfailure status)
  | idle _ stack_eq out_eq =>
      exact .silent hgoesOn (by rw [stack_eq]) (by rw [out_eq]; exact List.forall_mem_nil _)
  | deactivated _ _ _ stack_eq out_eq =>
      exact .silent hgoesOn (by rw [stack_eq]; rfl) (by rw [out_eq]; exact List.forall_mem_nil _)
  | failed _ stack_eq status _ out_eq =>
      refine .silent hgoesOn (by rw [stack_eq]) ?_
      rw [out_eq]
      exact List.forall_mem_singleton.mpr (hfailure status)

/-- The handler of a dump, polled while the type 2 interface is selected. -/
theorem dumpPolled_tag2 {s : Stack} (h : s.Agrees) (hid : s.tags.id = .dump)
    (hstate : s.tags.state = .dump) (hintf : s.tags.pTagIntf = some .tag2)
    (hblock : s.tags.tag2.block ≤ memoryLastBlock + 1 - memoryReadBlock) (hw : HwWrite)
    (junk : UInt8) : DumpPolled s hw junk (s.handleEvent hw junk) := by
  have hguard : s.nci.state = .rfstPollActive := h.agree _ (by rw [hstate]; rfl)
  cases htag2 : s.tags.tag2.state with
  | dump =>
      have hpending := pending_read hid hstate hintf htag2 hblock
      have hgoesOn : DumpGoesOn s (.poll hw junk) ↔ hw (readPacket s.tags.tag2.block) = 5 := by
        simp [DumpGoesOn, hid, hstate, hintf, htag2]
      obtain ⟨hstack, status, hstatus, hout⟩ := poll_of_pending hpending hw junk
      have htag2' : (s.handleEvent hw junk).1.tags.tag2 =
          { s.tags.tag2 with state := .dumpRsp } := by
        rw [hstack, NfcTags.issued, if_pos hid]
      rw [read_written hguard, hid] at hout
      by_cases hsent :
          (s.nci.exec hw (NfcTagsIntfType2.readBlock s.tags.tag2.block)).status = nciStatusOk
      · rw [hsent, if_pos rfl] at hout
        exact .asked (hgoesOn.mpr ((read_status hguard hw _).mp hsent)) hid htag2' hout
      · rw [if_neg hsent] at hout
        refine .failed (fun hon => hsent ((read_status hguard hw _).mpr (hgoesOn.mp hon))) status
          hstatus (by rw [htag2']) (by rw [hout]; rfl) fun g => ?_
        rw [hout]
        exact DumpRecord.observe_failure hstatus _
  | dumpRsp =>
      rw [poll_not_due hid hstate hintf (by rw [htag2]; decide) hw junk, if_pos (Or.inl htag2)]
      exact .silent (fun _ => ⟨hstate, hintf, by rw [htag2]; trivial⟩) rfl (List.forall_mem_nil _)
  | none =>
      have hgoesOn : DumpGoesOn s (.poll hw junk) ↔ junk = nciStatusOk := by
        simp [DumpGoesOn, hid, hstate, hintf, htag2]
      rw [poll_not_due hid hstate hintf (by rw [htag2]; decide) hw junk]
      by_cases hjunk : junk = nciStatusOk
      · rw [if_pos (Or.inr hjunk)]
        exact .silent (hgoesOn.mpr hjunk) rfl (List.forall_mem_nil _)
      · rw [if_neg (not_or.mpr ⟨by rw [htag2]; decide, hjunk⟩)]
        have hfail := intf_translate_ne_ok hjunk
        exact .failed (fun hon => hjunk (hgoesOn.mp hon)) _ hfail rfl rfl
          (DumpRecord.observe_failure hfail)

/-- The handler of a dump, polled while it cannot get at the type 2 interface. -/
theorem dumpPolled_refused {s : Stack} (hid : s.tags.id = .dump)
    (h : ¬ (s.tags.state = .dump ∧ s.tags.pTagIntf = some .tag2)) (hw : HwWrite)
    (junk : UInt8) : DumpPolled s hw junk (s.handleEvent hw junk) := by
  have hstops : ¬ DumpGoesOn s (.poll hw junk) := fun hon => h ⟨(hon hid).1, (hon hid).2.1⟩
  have hpoll : ∃ status, status ≠ .ok ∧
      s.handleEvent hw junk = (s, [failureCall .cbDump .dump status]) := by
    obtain ⟨⟨state, id, rsp, tag2, mif, intf⟩, nci⟩ := s
    obtain rfl : id = .dump := hid
    cases state with
    | dump =>
        cases intf with
        | none => exact ⟨.failed, by decide, rfl⟩
        | some intf =>
            cases intf with
            | tag2 => exact absurd ⟨rfl, rfl⟩ h
            | tagMifare => exact ⟨.rejected, by decide, rfl⟩
    | _ => exact ⟨.rejected, by decide, rfl⟩
  obtain ⟨status, hstatus, hpoll⟩ := hpoll
  rw [hpoll]
  exact .failed hstops status hstatus rfl rfl (DumpRecord.observe_failure hstatus)

/-- Every poll is one of the three. -/
theorem dumpPolled_cases {s : Stack} (h : s.Agrees)
    (hblock : s.tags.tag2.block ≤ memoryLastBlock + 1 - memoryReadBlock) (hw : HwWrite)
    (junk : UInt8) : DumpPolled s hw junk (s.handleEvent hw junk) := by
  by_cases hid : s.tags.id = .dump
  · by_cases hready : s.tags.state = .dump ∧ s.tags.pTagIntf = some .tag2
    · exact dumpPolled_tag2 h hid hready.1 hready.2 hblock hw junk
    · exact dumpPolled_refused hid hready hw junk
  · exact dumpPolled_other hid hw junk

/-- A poll reports an error of the dump exactly when it fails in its handler. -/
theorem DumpPolled.calls_cases {s : Stack} {hw : HwWrite} {junk : UInt8}
    {r : Stack × List StackOutput} (h : DumpPolled s hw junk r) :
    (DumpGoesOn s (.poll hw junk) ∧ dumpCalls r.2 = []) ∨
      (¬ DumpGoesOn s (.poll hw junk) ∧ ∃ status, status ≠ .ok ∧
        dumpCalls r.2 = [⟨.cbDump, status, .dump, none⟩]) := by
  cases h with
  | asked goesOn _ _ out_eq => exact Or.inl ⟨goesOn, by rw [out_eq]; rfl⟩
  | silent goesOn _ offDump => exact Or.inl ⟨goesOn, dumpCalls_offDump offDump⟩
  | failed stops status failed _ calls_eq _ => exact Or.inr ⟨stops, status, failed, calls_eq⟩

/-- A reception that hands the type 2 interface no chunk does not concern the dump. -/
theorem receive_offDump {s : Stack} (hcb : s.nci.cbRegistered = true) {pkt : Packet}
    (h : ¬ s.Consumes pkt) (garbage : NciRfIntf) :
    s.tags.tag2.UpToRf (s.receive pkt garbage).1.tags.tag2 ∧
      ∀ o ∈ (s.receive pkt garbage).2, o.OffDump := by
  have hreport : ∀ m, reportMethod m ≠ .cbDump := fun m => by cases m <;> decide
  have hrefl := NfcTagsIntfType2.UpToRf.refl s.tags.tag2
  cases stack_receive_cases hcb pkt garbage with
  | accepted m _ _ _ _ _ tag2_eq _ out_eq =>
      rw [out_eq]
      split_ifs
      · exact ⟨tag2_eq, List.forall_mem_singleton.mpr (hreport m)⟩
      · exact ⟨tag2_eq, List.forall_mem_nil _⟩
  | refused m _ _ _ _ _ tag2_eq _ status _ out_eq =>
      rw [out_eq]
      exact ⟨tag2_eq, List.forall_mem_singleton.mpr (hreport m)⟩
  | chunk isData _ _ _ _ _ _ _ =>
      obtain ⟨htag2, hout⟩ := receive_ignored hcb isData.2 h garbage
      rw [htag2, hout]
      exact ⟨hrefl, List.forall_mem_nil _⟩
  | dropped _ _ _ _ _ tag2_eq _ out_eq =>
      rw [tag2_eq, out_eq]
      exact ⟨hrefl, List.forall_mem_nil _⟩
  | other _ _ _ tags_eq out_eq =>
      rw [tags_eq, out_eq]
      exact ⟨hrefl, List.forall_mem_nil _⟩

/-- The comparison of the receiving side. -/
theorem block_lt_iff (block : UInt8) :
    block < memoryLastBlock + 1 - memoryReadBlock ↔ block.toNat < 12 :=
  UInt8.lt_iff_toNat_lt

/-- The comparison of the sending side. -/
theorem block_le_iff (block : UInt8) :
    block ≤ memoryLastBlock + 1 - memoryReadBlock ↔ block.toNat ≤ 12 :=
  UInt8.le_iff_toNat_le

/-- Up to the last block, the addition does not wrap. -/
theorem block_add {block : UInt8} (h : block.toNat ≤ 12) :
    (block + memoryReadBlock).toNat = block.toNat + 4 := by
  rw [UInt8.toNat_add, show memoryReadBlock.toNat = 4 from rfl]
  omega

/-- A chunk announces the next block, or the interface is done with the dump. -/
theorem chunked_cases (t : NfcTagsIntfType2) (pkt : Packet) :
    (t.block.toNat < 12 ∧ (t.chunked pkt).state = .dump ∧
        (t.chunked pkt).block.toNat = t.block.toNat + 4 ∧ (t.chunked pkt).dump.more = 1) ∨
      ((t.chunked pkt).state = .none ∧ (t.chunked pkt).block = t.block ∧
        (t.chunked pkt).dump.more = 0) := by
  rw [NfcTagsIntfType2.chunked]
  split_ifs with hvalid hblock
  · have hlt := (block_lt_iff _).mp hblock
    exact Or.inl ⟨hlt, rfl, block_add hlt.le, rfl⟩
  · exact Or.inr ⟨rfl, rfl, rfl⟩
  · exact Or.inr ⟨rfl, rfl, rfl⟩

/-! ## The record tells where the dump is -/

/-- In a dump that has not ended, the interface is at the block of the next chunk, and
the `READ` of it is the one that is outstanding. -/
structure Tracks (s : Stack) (g : DumpRecord) : Prop where
  agrees : s.Agrees
  aligned : 4 ∣ s.tags.tag2.block.toNat
  block_le : s.tags.tag2.block.toNat ≤ 12
  live : g.ended = false → s.tags.tag2.id = .dump →
    s.tags.tag2.state ≠ .none ∧ s.tags.tag2.block.toNat = 4 * g.chunks ∧
      (s.tags.tag2.state = .dumpRsp → g.asked = some s.tags.tag2.block)

theorem tracks_init : Tracks Stack.init .start where
  agrees := agrees_init
  aligned := by decide
  block_le := by decide
  live := fun _ h => absurd h nofun

/-- A step that does not concern the dump. -/
theorem Tracks.congr {s t : Stack} {g : DumpRecord} (h : Tracks s g) (hagrees : t.Agrees)
    (htag2 : s.tags.tag2.UpToRf t.tags.tag2) : Tracks t g where
  agrees := hagrees
  aligned := by rw [htag2.block_eq]; exact h.aligned
  block_le := by rw [htag2.block_eq]; exact h.block_le
  live := by rw [htag2.id_eq, htag2.state_eq, htag2.block_eq]; exact h.live

/-- A command that is not an accepted `cmdDump` leaves the record alone. -/
theorem after_app {s : Stack} {cmd : AppCmd} (h : cmd = .cmdDump → (s.tags.exec cmd).1 ≠ .ok)
    (g : DumpRecord) : g.after s (.app cmd) = g := by
  cases cmd with
  | cmdDump => exact if_neg (h rfl)
  | _ => rfl

theorem tracks_app {s : Stack} {g : DumpRecord} (h : Tracks s g) (cmd : AppCmd) :
    Tracks (stackSystem.next s (.app cmd)) (g.after s (.app cmd)) := by
  have hagrees := agrees_app h.agrees cmd
  by_cases hsame : cmd = .cmdDump → (s.tags.exec cmd).1 ≠ .ok
  · rw [after_app hsame]
    refine h.congr hagrees ?_
    rw [next_app, (exec_sameDump hsame).1]
    exact NfcTagsIntfType2.UpToRf.refl _
  · obtain ⟨rfl, hnot⟩ := Classical.not_imp.mp hsame
    have haccepted : (s.tags.exec .cmdDump).1 = .ok := not_not.mp hnot
    have hstart : g.after s (.app .cmdDump) = .start := if_pos haccepted
    rw [hstart]
    refine ⟨hagrees, ?_, ?_, ?_⟩ <;> rw [next_app, (exec_cmdDump_accepted haccepted).2]
    · exact dvd_zero 4
    · exact Nat.zero_le 12
    · exact fun _ _ => ⟨nofun, rfl, nofun⟩

/-- The block of a dump stays within the bound that its handler checks. -/
theorem Tracks.handler_le {s : Stack} {g : DumpRecord} (h : Tracks s g) :
    s.tags.tag2.block ≤ memoryLastBlock + 1 - memoryReadBlock :=
  (block_le_iff _).mpr h.block_le

theorem tracks_poll {s : Stack} {g : DumpRecord} (h : Tracks s g) (hw : HwWrite) (junk : UInt8) :
    Tracks (stackSystem.next s (.poll hw junk)) (g.after s (.poll hw junk)) := by
  have hagrees := agrees_poll h.agrees hw junk
  have hafter : g.after s (.poll hw junk) = (s.handleEvent hw junk).2.foldl .observe g := rfl
  rw [hafter, next_poll]
  cases dumpPolled_cases h.agrees h.handler_le hw junk with
  | asked _ _ tag2_eq out_eq =>
      rw [out_eq]
      refine ⟨hagrees, ?_, ?_, ?_⟩ <;> rw [tag2_eq]
      · exact h.aligned
      · exact h.block_le
      · intro hended hid
        obtain ⟨-, hblock, -⟩ := h.live hended hid
        exact ⟨nofun, hblock, fun _ => rfl⟩
  | failed _ _ _ block_eq _ ended =>
      refine ⟨hagrees, ?_, ?_, ?_⟩
      · rw [block_eq]; exact h.aligned
      · rw [block_eq]; exact h.block_le
      · exact fun hended => absurd (hended.symm.trans (ended g)) nofun
  | silent _ tag2_eq offDump =>
      rw [foldl_offDump DumpRecord.observe_offDump offDump]
      exact h.congr hagrees (by rw [tag2_eq]; exact NfcTagsIntfType2.UpToRf.refl _)

/-- The record after a chunk. -/
theorem after_consumed {s : Stack} (hcb : s.nci.cbRegistered = true) {pkt : Packet}
    (h : s.Consumes pkt) (garbage : NciRfIntf) (g : DumpRecord) :
    g.after s (.receive pkt garbage) =
      ⟨g.chunks + 1, none, g.ended || decide ((s.tags.tag2.chunked pkt).dump.more = 0)⟩ := by
  have hafter : g.after s (.receive pkt garbage) =
      (s.receive pkt garbage).2.foldl .observe g := rfl
  rw [hafter, (receive_consumed hcb h garbage).out_eq]
  simp [DumpRecord.observe, TagsCall.Terminal]

theorem tracks_receive {s : Stack} {g : DumpRecord} (h : Tracks s g) (pkt : Packet)
    (garbage : NciRfIntf) :
    Tracks (stackSystem.next s (.receive pkt garbage)) (g.after s (.receive pkt garbage)) := by
  have hcb := h.agrees.registered
  have hagrees := agrees_receive h.agrees pkt garbage
  by_cases hconsumes : s.Consumes pkt
  · have htag2 := (receive_consumed hcb hconsumes garbage).tag2_eq
    have haligned := h.aligned
    have hle := h.block_le
    rw [after_consumed hcb hconsumes, next_receive]
    rcases chunked_cases s.tags.tag2 pkt with ⟨hlt, hstate, hblock, hmore⟩ | ⟨-, hblock, hmore⟩
    · refine ⟨hagrees, ?_, ?_, ?_⟩ <;> rw [htag2]
      · omega
      · omega
      · intro hended _
        rw [hmore, Bool.or_eq_false_iff] at hended
        obtain ⟨-, hcount, -⟩ := h.live hended.1 hconsumes.2.2
        rw [hstate]
        exact ⟨nofun, by rw [hblock, hcount, Nat.mul_succ], nofun⟩
    · refine ⟨hagrees, ?_, ?_, ?_⟩
      · rw [htag2, hblock]; exact haligned
      · rw [htag2, hblock]; exact hle
      · intro hended
        rw [hmore, Bool.or_eq_false_iff] at hended
        exact absurd hended.2 (by decide)
  · obtain ⟨htag2, hoff⟩ := receive_offDump hcb hconsumes garbage
    have hafter : g.after s (.receive pkt garbage) = g :=
      foldl_offDump DumpRecord.observe_offDump hoff g
    rw [hafter]
    exact h.congr hagrees htag2

/-- The invariant is inductive. -/
theorem tracks_next {s : Stack} {g : DumpRecord} (h : Tracks s g) (e : StackEvent) :
    Tracks (stackSystem.next s e) (g.after s e) := by
  cases e with
  | app cmd => exact tracks_app h cmd
  | poll hw junk => exact tracks_poll h hw junk
  | receive pkt garbage => exact tracks_receive h pkt garbage

/-! ## Whole runs -/

/-- A poll answers no `READ`: all there is to ask is that it keeps quiet after the end. -/
theorem answersReads_poll {s : Stack} {g : DumpRecord} (h : Tracks s g) (hw : HwWrite)
    (junk : UInt8) :
    AnswersReads (s, g) (.poll hw junk) ↔ Orderly (s, g) (.poll hw junk) := by
  rcases (dumpPolled_cases h.agrees h.handler_le hw junk).calls_cases with
    ⟨hgoesOn, hcalls⟩ | ⟨hstops, status, hfailed, hcalls⟩
  · refine iff_of_true ⟨nofun, fun c hc => ?_, fun _ => hcalls⟩ ⟨fun _ => hgoesOn, trivial⟩
    exact absurd (hcalls ▸ hc) List.not_mem_nil
  · constructor
    · intro hanswers
      refine ⟨fun hended => ?_, trivial⟩
      exact absurd (hcalls.symm.trans (hanswers.quiet hended)) (List.cons_ne_nil _ _)
    · rintro ⟨hgoesOn, -⟩
      refine ⟨nofun, fun c hc hok => ?_, fun hended => absurd (hgoesOn hended) hstops⟩
      obtain rfl := List.mem_singleton.mp (hcalls ▸ hc)
      exact absurd hok hfailed

theorem answersReads_receive {s : Stack} {g : DumpRecord} (h : Tracks s g) (pkt : Packet)
    (garbage : NciRfIntf) :
    AnswersReads (s, g) (.receive pkt garbage) ↔ Orderly (s, g) (.receive pkt garbage) := by
  have hcb := h.agrees.registered
  by_cases hconsumes : s.Consumes pkt
  · have hcalls : dumpCalls (s.receive pkt garbage).2 =
        [⟨.cbDump, .ok, .dump, some (s.tags.tag2.chunked pkt).dump⟩] := by
      rw [(receive_consumed hcb hconsumes garbage).out_eq]
      rfl
    constructor
    · intro hanswers
      refine ⟨fun _ => trivial, fun _ => ⟨?_, ?_⟩⟩
      · by_contra hstate
        have hidle := (hanswers.idle pkt garbage rfl hconsumes.1.2 hstate).1
        exact List.cons_ne_nil _ _ (hcalls.symm.trans hidle)
      · by_contra hended
        have hquiet := hanswers.quiet (Bool.eq_true_of_not_eq_false hended)
        exact List.cons_ne_nil _ _ (hcalls.symm.trans hquiet)
    · rintro ⟨-, horderly⟩
      obtain ⟨hstate, hended⟩ := horderly hconsumes
      obtain ⟨-, hcount, hasked⟩ := h.live hended hconsumes.2.2
      refine ⟨?_, fun _ _ _ => ⟨_, hasked hstate, hcount⟩, ?_⟩
      · rintro _ _ ⟨⟩ _ hne
        exact absurd hstate hne
      · exact fun hquiet => absurd (hended.symm.trans hquiet) nofun
  · obtain ⟨htag2, hoff⟩ := receive_offDump hcb hconsumes garbage
    have hcalls := dumpCalls_offDump hoff
    refine iff_of_true ⟨?_, fun c hc => ?_, fun _ => hcalls⟩
      ⟨fun _ => trivial, fun hchunk => absurd hchunk hconsumes⟩
    · exact fun _ _ _ _ _ => ⟨hcalls, htag2.state_eq, htag2.block_eq⟩
    · exact absurd (hcalls ▸ hc) List.not_mem_nil

/-- One step answers outstanding `READ` commands only exactly when it is orderly. -/
theorem answersReads_iff {s : Stack} {g : DumpRecord} (h : Tracks s g) (e : StackEvent) :
    AnswersReads (s, g) e ↔ Orderly (s, g) e := by
  cases e with
  | app cmd =>
      exact iff_of_true ⟨nofun, fun _ hc => absurd hc List.not_mem_nil, fun _ => rfl⟩
        ⟨fun _ => trivial, trivial⟩
  | poll hw junk => exact answersReads_poll h hw junk
  | receive pkt garbage => exact answersReads_receive h pkt garbage

/-- In a run, data is consumed by outstanding `READ` commands only, the chunks of every
dump come in order and nothing follows its end, exactly when every step is orderly. -/
theorem outstanding_read_iff {es : List StackEvent} (hlegal : stackSystem.Legal Stack.init es) :
    dumpHistory.Along AnswersReads (Stack.init, .start) es ↔
      dumpHistory.Along Orderly (Stack.init, .start) es := by
  have hrecorded : dumpHistory.Legal (Stack.init, .start) es :=
    (stackSystem.withRecord_along DumpRecord.after .start).mpr hlegal
  refine LabelledSystem.along_congr (I := fun p => Tracks p.1 p.2) ?_ ?_ tracks_init hrecorded
  · exact fun p e hp _ => tracks_next hp e
  · exact fun p e hp _ => answersReads_iff hp e

/-- The first chunk of a dump, and a second `READ` whose answer is cut short. -/
theorem outstanding_read_iff_error :
    dumpHistory.Along AnswersReads (Stack.init, .start)
      (activationRun type2Tag ++
        [.app .cmdDump, .poll acceptAll 0, .poll acceptAll 0,
          .receive (Type2Memory.addresses.answer 0) NciRfIntf.zero, .poll acceptAll 0,
          .receive nackPacket NciRfIntf.zero, .poll acceptAll 0]) :=
  (outstanding_read_iff (by decide +kernel)).mpr (by decide +kernel)

/-- A data packet that arrives before the first `READ` is sent. -/
def earlyRun : List StackEvent :=
  activationRun type2Tag ++ [.app .cmdDump, .receive wholeChunk NciRfIntf.zero]

/-- It is taken for the first chunk, and the first block is never read. -/
theorem outstanding_read_counterexample :
    ¬ ∀ es, stackSystem.Legal Stack.init es →
      dumpHistory.Along AnswersReads (Stack.init, .start) es := by
  intro h
  have hrun := h earlyRun (by decide +kernel)
  rw [earlyRun, LabelledSystem.along_append] at hrun
  obtain ⟨-, -, hreceive, -⟩ := hrun
  have hidle := (hreceive.idle wholeChunk NciRfIntf.zero rfl (by decide) (by decide +kernel)).1
  exact absurd hidle (by decide +kernel)

end Tags
end ArduinoNfc
