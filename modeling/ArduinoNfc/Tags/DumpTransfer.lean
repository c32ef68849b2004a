import ArduinoNfc.Foundation.ChunkedTransfer
import ArduinoNfc.Tags.Chunks
import ArduinoNfc.Tags.LayerAgreement

/-!
# A dump returns the memory of the tag

The stack in the middle of a dump, together with the tag that answers its `READ`
commands, simulates a transfer of four chunks.  So the order in which the loop
polls, credits arrive and the tag answers does not show: `dump_returns_memory`
reads what the host sends and what the application is told off the transfer.
-/

namespace ArduinoNfc
namespace Tags

open Foundation Nci

/-! ## The tag -/

/-- The content of the static memory of a type 2 tag. -/
structure Type2Memory where
  bytes : List UInt8
  length_eq : bytes.length = 64

/-- The sixteen bytes that a `READ` of a block returns. -/
def Type2Memory.read (memory : Type2Memory) (block : UInt8) : List UInt8 :=
  (memory.bytes.drop (memoryBlockSizeBytes.toNat * block.toNat)).take 16

/-- A `READ` command, as it stands on the wire. -/
def readPacket (block : UInt8) : List UInt8 := [nciMtData, 0, 2, cmdRead, block]

/-- The block that the tag is asked for. -/
def readOf (bytes : List UInt8) : Option UInt8 :=
  if bytes = readPacket (bytes.getD 4 0) then some (bytes.getD 4 0) else none

/-- The data packet that answers a `READ`. -/
def Type2Memory.answer (memory : Type2Memory) (block : UInt8) : Packet :=
  ⟨nciMtData, 0, memory.read block ++ [0], by simp [Type2Memory.read]⟩

theorem Type2Memory.answer_isData (memory : Type2Memory) (block : UInt8) :
    (memory.answer block).IsData := by
  have hheader : prsPbf nciMtData = nciPbfNoOrLast ∧ prsMt nciMtData = nciMtData := by decide
  exact ⟨⟨List.append_ne_nil_of_right_ne_nil _ nofun, hheader.1⟩, hheader.2⟩

/-! ## The session -/

/-- The stack in a dump, and the tag: the `READ` commands that it has not answered yet,
the oldest one first, and the number of those it has. -/
structure Session where
  stack : Stack
  reads : List UInt8
  answered : Nat

/-- The session that `cmdDump` opens. -/
def Session.start (s : Stack) : Session := ⟨stackSystem.next s (.app .cmdDump), [], 0⟩

/-- One step of a session. -/
inductive SessionEvent where
  /-- `NfcTags::handleEvent`, with a transport that accepts every write. -/
  | poll (junk : UInt8)
  /-- A `CORE_CONN_CREDITS` notification. -/
  | credits (pkt : Packet) (garbage : NciRfIntf)
  /-- The data packet that answers the oldest `READ`. -/
  | answer (pkt : Packet) (garbage : NciRfIntf)

/-- The packet answers the oldest `READ`: the bytes of the memory and a status of zero. -/
def Session.AnsweredBy (l : Session) (memory : Type2Memory) (pkt : Packet) : Prop :=
  pkt.IsData ∧ ∃ block ∈ l.reads.head?, pkt.payload = memory.read block ++ [0]

instance (l : Session) (memory : Type2Memory) (pkt : Packet) :
    Decidable (l.AnsweredBy memory pkt) :=
  inferInstanceAs (Decidable (_ ∧ ∃ block ∈ _, _))

/-- Polls, credits and answers in any order, up to the fourth answer. -/
def sessionSystem (memory : Type2Memory) : LabelledSystem Session SessionEvent StackOutput where
  enabled l e :=
    l.answered < 4 ∧
      match e with
      | .poll _ => True
      | .credits pkt _ => pkt.IsCredits
      | .answer pkt _ => l.AnsweredBy memory pkt
  next l e :=
    match e with
    | .poll junk =>
        { l with
          stack := stackSystem.next l.stack (.poll acceptAll junk)
          reads := l.reads ++
            (writesOf (stackSystem.emit l.stack (.poll acceptAll junk))).filterMap readOf }
    | .credits pkt garbage =>
        { l with stack := stackSystem.next l.stack (.receive pkt garbage) }
    | .answer pkt garbage =>
        { stack := stackSystem.next l.stack (.receive pkt garbage)
          reads := l.reads.tail
          answered := l.answered + 1 }
  emit l e :=
    match e with
    | .poll junk => stackSystem.emit l.stack (.poll acceptAll junk)
    | .credits pkt garbage => stackSystem.emit l.stack (.receive pkt garbage)
    | .answer pkt garbage => stackSystem.emit l.stack (.receive pkt garbage)

instance (memory : Type2Memory) (l : Session) :
    ∀ e, Decidable ((sessionSystem memory).enabled l e)
  | .poll _ => inferInstanceAs (Decidable (_ ∧ True))
  | .credits pkt _ => inferInstanceAs (Decidable (_ ∧ pkt.IsCredits))
  | .answer pkt _ => inferInstanceAs (Decidable (_ ∧ l.AnsweredBy memory pkt))

/-! ## The transfer that a session is -/

/-- The block that chunk `k` starts with. -/
def chunkBlock (k : Nat) : UInt8 := memoryReadBlock * UInt8.ofNat k

/-- The call that hands a chunk to the application. -/
def dumpCall (more : UInt8) : TagsCall := ⟨.cbDump, .ok, .dump, some ⟨.rxBuf 3, 16, more⟩⟩

/-- What is observed of a step of the transfer. -/
def render (memory : Type2Memory) : TransferOutput → StackOutput
  | .request k =>
      .nciCmd (NfcTagsIntfType2.readBlock (chunkBlock k)) nciStatusOk
        (some (readPacket (chunkBlock k)))
  | .chunk k => .call (dumpCall (if k < 3 then 1 else 0)) (memory.read (chunkBlock k))

/-- The step of the transfer that an event is. -/
def SessionEvent.transfer : SessionEvent → TransferEvent
  | .poll _ => .poll
  | .credits _ _ => .idle
  | .answer _ _ => .answer

/-- The type 2 interface is selected and in a dump. -/
structure Stack.Dumping (s : Stack) : Prop where
  reachable : s.Reachable
  id_eq : s.tags.id = .dump
  state_eq : s.tags.state = .dump
  intf_eq : s.tags.pTagIntf = some .tag2
  tag2_id : s.tags.tag2.id = .dump

/-- The state of the type 2 interface and the tag's say how far the transfer is. -/
inductive Represents (l : Session) : Transfer → Prop where
  | ready (k : Nat) (dumping : l.stack.Dumping) (lt : k < 4)
      (state_eq : l.stack.tags.tag2.state = .dump)
      (block_eq : l.stack.tags.tag2.block = chunkBlock k)
      (reads_eq : l.reads = []) (answered_eq : l.answered = k) : Represents l (.ready k)
  | waiting (k : Nat) (dumping : l.stack.Dumping) (lt : k < 4)
      (state_eq : l.stack.tags.tag2.state = .dumpRsp)
      (block_eq : l.stack.tags.tag2.block = chunkBlock k)
      (reads_eq : l.reads = [chunkBlock k]) (answered_eq : l.answered = k) :
      Represents l (.waiting k)
  | finished (dumping : l.stack.Dumping) (state_eq : l.stack.tags.tag2.state = .none)
      (answered_eq : l.answered = 4) : Represents l .finished

/-- `cmdDump` opens a session whenever it is accepted. -/
theorem represents_start {s : Stack} (h : s.Reachable)
    (hdump : (s.tags.exec .cmdDump).1 = .ok) : Represents (Session.start s) (.ready 0) := by
  have hreachable : (Session.start s).stack.Reachable := h.next (e := .app .cmdDump) trivial
  have hstack : (Session.start s).stack.tags = (s.tags.exec .cmdDump).2 := rfl
  obtain ⟨hintf, htags⟩ := exec_cmdDump_accepted hdump
  rw [htags] at hstack
  have hdumping : (Session.start s).stack.Dumping :=
    ⟨hreachable, by rw [hstack], by rw [hstack], by rw [hstack]; exact hintf, by rw [hstack]⟩
  exact .ready 0 hdumping (by decide) (by rw [hstack]) (by rw [hstack]; rfl) rfl rfl

/-! ## One step -/

/-- With a tag active, a `READ` is sent. -/
theorem read_sent {nci : NfcNci} (h : nci.state = .rfstPollActive) (hw : HwWrite)
    (block : UInt8) :
    nci.exec hw (NfcTagsIntfType2.readBlock block) = nci.send hw (readPacket block) 5 :=
  if_neg (not_not.mpr h)

/-- The bytes that it hands to the transport. -/
theorem read_written {nci : NfcNci} (h : nci.state = .rfstPollActive) (hw : HwWrite)
    (block : UInt8) :
    (nci.exec hw (NfcTagsIntfType2.readBlock block)).written = some (readPacket block) := by
  have hfit : (readPacket block).length ≤ nciPacketSize :=
    show 5 ≤ nciPacketSize by decide
  rw [read_sent h]
  exact congrArg some (ByteBuffer.take_store _ _ hfit)

theorem readOf_readPacket (block : UInt8) : readOf (readPacket block) = some block := by
  simp [readOf, readPacket]

/-- While a `READ` is on its way, a poll does nothing. -/
theorem poll_waiting {s : Stack} (h : s.Dumping) (hstate : s.tags.tag2.state = .dumpRsp)
    (hw : HwWrite) (junk : UInt8) : s.handleEvent hw junk = (s, []) := by
  rw [poll_not_due h.id_eq h.state_eq h.intf_eq (by rw [hstate]; decide) hw junk,
    if_pos (Or.inl hstate)]

/-- Otherwise it sends the next one. -/
theorem poll_ready {s : Stack} (h : s.Dumping) (hstate : s.tags.tag2.state = .dump) {k : Nat}
    (hk : k < 4) (hblock : s.tags.tag2.block = chunkBlock k) (memory : Type2Memory)
    (junk : UInt8) :
    (s.handleEvent acceptAll junk).1.tags = s.tags.issued ∧
      (s.handleEvent acceptAll junk).2 = [render memory (.request k)] := by
  -- the guard of `handleDump` admits the last block, the one of `handleDataDump` does not
  have hle : chunkBlock k ≤ memoryLastBlock + 1 - memoryReadBlock := by
    interval_cases k <;> decide
  have hpending := pending_read h.id_eq h.state_eq h.intf_eq hstate (hblock ▸ hle)
  rw [hblock] at hpending
  have hguard : s.nci.state = .rfstPollActive :=
    h.reachable.agrees.agree _ (by rw [h.state_eq]; rfl)
  have hsent := poll_sent hpending hguard junk
  rw [read_written hguard] at hsent
  exact ⟨by rw [hsent], by rw [hsent]; rfl⟩

/-- Credits change nothing that a dump depends on. -/
theorem receive_credits {s : Stack} (hcb : s.nci.cbRegistered = true) {pkt : Packet}
    (h : pkt.IsCredits) (garbage : NciRfIntf) :
    (s.receive pkt garbage).1.tags = s.tags ∧
      (s.receive pkt garbage).1.nci.state = s.nci.state ∧ (s.receive pkt garbage).2 = [] := by
  cases stack_receive_cases hcb pkt garbage with
  | accepted m carries _ _ _ _ _ _ _ => exact absurd carries (h.not_carries m)
  | refused m carries _ _ _ _ _ _ _ _ _ => exact absurd carries (h.not_carries m)
  | chunk isData _ _ _ _ _ _ _ => exact absurd isData h.not_isData
  | dropped isData _ _ _ _ _ _ => exact absurd isData h.not_isData
  | other _ _ nci_eq tags_eq out_eq => exact ⟨tags_eq, by rw [nci_eq]; rfl, out_eq⟩

theorem Stack.Dumping.receive_credits {s : Stack} (h : s.Dumping) {pkt : Packet}
    (hcredits : pkt.IsCredits) (garbage : NciRfIntf) : (s.receive pkt garbage).1.Dumping := by
  have hcb := h.reachable.agrees.registered
  have htags := (Tags.receive_credits hcb hcredits garbage).1
  have hfits : s.nci.NfcidFits pkt := nfcidFits_of_not_carries hcb (hcredits.not_carries _)
  refine ⟨h.reachable.next (e := .receive pkt garbage) hfits, ?_, ?_, ?_, ?_⟩ <;> rw [htags]
  · exact h.id_eq
  · exact h.state_eq
  · exact h.intf_eq
  · exact h.tag2_id

/-- The answer to a `READ` is a valid chunk. -/
theorem Session.AnsweredBy.chunk {l : Session} {memory : Type2Memory} {pkt : Packet}
    (h : l.AnsweredBy memory pkt) {k : Nat} (hk : k < 4) (hreads : l.reads = [chunkBlock k]) :
    ValidChunk pkt ∧ pkt.payload.take 16 = memory.read (chunkBlock k) := by
  obtain ⟨-, block, hblock, hpayload⟩ := h
  rw [hreads] at hblock
  obtain rfl : chunkBlock k = block := Option.some.inj hblock
  have hlength : (memory.read (chunkBlock k)).length = 16 := by
    simp only [Type2Memory.read, List.length_take, List.length_drop, memory.length_eq]
    interval_cases k <;> decide
  refine ⟨⟨?_, ?_⟩, ?_⟩
  · rw [hpayload, List.length_append, hlength]
    rfl
  · simp [Packet.byte, hpayload, hlength]
  · rw [hpayload, ← hlength, List.take_left]

/-- The type 2 interface takes the chunk and moves on to the next one. -/
theorem receive_chunk {s : Stack} (h : s.Dumping) {pkt : Packet} (hdata : pkt.IsData)
    (garbage : NciRfIntf) :
    (s.receive pkt garbage).1.Dumping ∧
      (s.receive pkt garbage).1.tags.tag2 = s.tags.tag2.chunked pkt ∧
      (s.receive pkt garbage).2 =
        [.call ⟨.cbDump, .ok, .dump, some (s.tags.tag2.chunked pkt).dump⟩
          (if ValidChunk pkt then pkt.payload.take 16 else [])] := by
  have hcb := h.reachable.agrees.registered
  have hfits : s.nci.NfcidFits pkt :=
    nfcidFits_of_not_carries hcb fun hactivated => hactivated.not_isData hdata
  have hreachable := h.reachable.next (e := .receive pkt garbage) hfits
  have hconsumed := receive_consumed hcb ⟨hdata, h.intf_eq, h.tag2_id⟩ garbage
  refine ⟨⟨hreachable, ?_, ?_, ?_, ?_⟩, hconsumed.tag2_eq, hconsumed.out_eq⟩
  · rw [hconsumed.id_eq, h.id_eq]
  · rw [hconsumed.state_eq, h.state_eq]
  · rw [hconsumed.intf_eq, h.intf_eq]
  · rw [hconsumed.tag2_eq, NfcTagsIntfType2.chunked_id, h.tag2_id]

/-- Only the record of a chunk tells its interface from one that has asked for it. -/
theorem chunked_next {t : NfcTagsIntfType2} {pkt : Packet} (h : ValidChunk pkt) {k : Nat}
    (hk : k < 3) (hblock : t.block = chunkBlock k) :
    (t.chunked pkt).state = .dump ∧ (t.chunked pkt).block = chunkBlock (k + 1) ∧
      (t.chunked pkt).dump = ⟨.rxBuf 3, 16, 1⟩ := by
  have hmiddle : t.block < memoryLastBlock + 1 - memoryReadBlock ∧
      t.block + memoryReadBlock = chunkBlock (k + 1) := by
    rw [hblock]
    interval_cases k <;> decide
  rw [NfcTagsIntfType2.chunked, if_pos h, if_pos hmiddle.1]
  exact ⟨rfl, hmiddle.2, rfl⟩

theorem chunked_last {t : NfcTagsIntfType2} {pkt : Packet} (h : ValidChunk pkt)
    (hblock : t.block = chunkBlock 3) :
    (t.chunked pkt).state = .none ∧ (t.chunked pkt).dump = ⟨.rxBuf 3, 16, 0⟩ := by
  have hlast : ¬ t.block < memoryLastBlock + 1 - memoryReadBlock := by
    rw [hblock]
    decide
  rw [NfcTagsIntfType2.chunked, if_pos h, if_neg hlast]
  exact ⟨rfl, rfl⟩

variable {memory : Type2Memory} {l : Session} {t : Transfer}

/-- A step of the session is the step of the transfer that it stands for. -/
structure Follows (memory : Type2Memory) (l : Session) (t : Transfer) (e : SessionEvent) :
    Prop where
  next : Represents ((sessionSystem memory).next l e) ((Transfer.system 4).next t e.transfer)
  emit : (sessionSystem memory).emit l e =
    ((Transfer.system 4).emit t e.transfer).map (render memory)

theorem follows_poll (h : Represents l t) (hopen : l.answered < 4) (junk : UInt8) :
    Follows memory l t (.poll junk) := by
  cases h with
  | finished _ _ answered_eq => exact absurd answered_eq hopen.ne
  | waiting k dumping lt state_eq block_eq reads_eq answered_eq =>
      have hpoll := poll_waiting dumping state_eq acceptAll junk
      -- the answer is still to come: the poll changes nothing and sends nothing
      have hnext : (sessionSystem memory).next l (.poll junk) = l := by
        simp only [sessionSystem, next_poll, emit_poll, hpoll]
        simp [writesOf]
      refine ⟨?_, congrArg Prod.snd hpoll⟩
      rw [hnext]
      exact .waiting k dumping lt state_eq block_eq reads_eq answered_eq
  | ready k dumping lt state_eq block_eq reads_eq answered_eq =>
      obtain ⟨htags, hout⟩ := poll_ready dumping state_eq lt block_eq memory junk
      have hreads : ((sessionSystem memory).next l (.poll junk)).reads = [chunkBlock k] := by
        simp only [sessionSystem, emit_poll, hout, reads_eq]
        simp [writesOf, render, readOf_readPacket]
      have hissued : ((sessionSystem memory).next l (.poll junk)).stack.tags =
          { l.stack.tags with tag2 := { l.stack.tags.tag2 with state := .dumpRsp } } :=
        htags.trans (if_pos dumping.id_eq)
      have hreachable := dumping.reachable.next (e := .poll acceptAll junk) trivial
      refine ⟨.waiting k ⟨hreachable, ?_, ?_, ?_, ?_⟩ lt ?_ ?_ hreads answered_eq, hout⟩
      · rw [hissued]; exact dumping.id_eq
      · rw [hissued]; exact dumping.state_eq
      · rw [hissued]; exact dumping.intf_eq
      · rw [hissued]; exact dumping.tag2_id
      · rw [hissued]
      · rw [hissued]; exact block_eq

theorem follows_credits (h : Represents l t) (hopen : l.answered < 4) {pkt : Packet}
    (hcredits : pkt.IsCredits) (garbage : NciRfIntf) :
    Follows memory l t (.credits pkt garbage) := by
  have hdumping : l.stack.Dumping := by cases h <;> assumption
  obtain ⟨htags, -, hout⟩ := receive_credits hdumping.reachable.agrees.registered hcredits garbage
  have hstack : ((sessionSystem memory).next l (.credits pkt garbage)).stack.tags =
      l.stack.tags := htags
  have hdumping' : ((sessionSystem memory).next l (.credits pkt garbage)).stack.Dumping :=
    hdumping.receive_credits hcredits garbage
  cases h with
  | finished _ _ answered_eq => exact absurd answered_eq hopen.ne
  | waiting k _ lt state_eq block_eq reads_eq answered_eq =>
      refine ⟨.waiting k hdumping' lt ?_ ?_ reads_eq answered_eq, hout⟩
      · rw [hstack]; exact state_eq
      · rw [hstack]; exact block_eq
  | ready k _ lt state_eq block_eq reads_eq answered_eq =>
      refine ⟨.ready k hdumping' lt ?_ ?_ reads_eq answered_eq, hout⟩
      · rw [hstack]; exact state_eq
      · rw [hstack]; exact block_eq

/-- A `READ` is on its way when it is answered. -/
theorem waiting_of_answered (h : Represents l t) (hopen : l.answered < 4) {pkt : Packet}
    (hanswer : l.AnsweredBy memory pkt) : ∃ k, t = .waiting k := by
  cases h with
  | finished _ _ answered_eq => exact absurd answered_eq hopen.ne
  | waiting k _ _ _ _ _ _ => exact ⟨k, rfl⟩
  | ready k _ _ _ _ reads_eq _ =>
      obtain ⟨-, block, hblock, -⟩ := hanswer
      rw [reads_eq] at hblock
      cases hblock

theorem follows_answer (h : Represents l t) (hopen : l.answered < 4) {pkt : Packet}
    (hanswer : l.AnsweredBy memory pkt) (garbage : NciRfIntf) :
    Follows memory l t (.answer pkt garbage) := by
  obtain ⟨k, rfl⟩ := waiting_of_answered h hopen hanswer
  cases h with
  | waiting _ dumping lt _ block_eq reads_eq answered_eq =>
      obtain ⟨hvalid, hbytes⟩ := hanswer.chunk lt reads_eq
      obtain ⟨hdumping, htag2, hout⟩ := receive_chunk dumping hanswer.1 garbage
      rw [if_pos hvalid, hbytes] at hout
      have hreads : ((sessionSystem memory).next l (.answer pkt garbage)).reads = [] := by
        show l.reads.tail = []
        rw [reads_eq]
        rfl
      have hanswered : ((sessionSystem memory).next l (.answer pkt garbage)).answered = k + 1 :=
        congrArg (· + 1) answered_eq
      -- three chunks announce more, the fourth one ends the dump
      by_cases hk : k < 3
      · obtain ⟨hstate, hblock, hdump⟩ := chunked_next hvalid hk block_eq
        rw [hdump] at hout
        have harrived : Transfer.arrived 4 k = .ready (k + 1) := if_pos (by omega)
        refine ⟨?_, ?_⟩
        · show Represents _ (Transfer.arrived 4 k)
          rw [harrived]
          refine .ready (k + 1) hdumping (by omega) ?_ ?_ hreads hanswered
          · exact (congrArg NfcTagsIntfType2.state htag2).trans hstate
          · exact (congrArg NfcTagsIntfType2.block htag2).trans hblock
        · show (l.stack.receive pkt garbage).2 = [render memory (.chunk k)]
          rw [hout, render, if_pos hk]
          rfl
      · obtain rfl : k = 3 := by omega
        obtain ⟨hstate, hdump⟩ := chunked_last hvalid block_eq
        rw [hdump] at hout
        refine ⟨.finished hdumping ?_ hanswered, hout⟩
        exact (congrArg NfcTagsIntfType2.state htag2).trans hstate

/-- A session simulates the transfer of four chunks. -/
theorem session_simulates (memory : Type2Memory) :
    Simulation (sessionSystem memory) (Transfer.system 4) Represents SessionEvent.transfer
      (render memory) := by
  have hfollows : ∀ {l t e}, Represents l t → (sessionSystem memory).enabled l e →
      Follows memory l t e := by
    intro l t e h hen
    cases e with
    | poll junk => exact follows_poll h hen.1 junk
    | credits pkt garbage => exact follows_credits h hen.1 hen.2 garbage
    | answer pkt garbage => exact follows_answer h hen.1 hen.2 garbage
  refine ⟨?_, fun h hen => (hfollows h hen).next, fun h hen => (hfollows h hen).emit⟩
  intro l t e h hen
  -- the transfer is answered only while a request waits, and the session with it
  cases e with
  | answer pkt garbage =>
      obtain ⟨k, rfl⟩ := waiting_of_answered h hen.1 hen.2
      trivial
  | _ =>
      cases h with
      | finished _ _ answered_eq => exact absurd answered_eq hen.1.ne
      | _ => trivial

/-! ## Whole sessions -/

/-- A poll, or credits. -/
def IdleEvent : StackEvent → Prop
  | .poll _ _ => True
  | .receive pkt _ => pkt.IsCredits
  | .app _ => False

/-- A session that is not over can go on with a poll and an answer. -/
theorem session_goes_on (memory : Type2Memory) (h : Represents l t) (hopen : l.answered < 4)
    (junk : UInt8) (garbage : NciRfIntf) :
    ∃ pkt, (sessionSystem memory).Legal l [.poll junk, .answer pkt garbage] := by
  have hpoll : Follows memory l t (.poll junk) := follows_poll h hopen junk
  let l' := (sessionSystem memory).next l (.poll junk)
  have hnext : ∃ k, (Transfer.system 4).next t .poll = .waiting k := by
    cases h with
    | finished _ _ answered_eq => exact absurd answered_eq hopen.ne
    | waiting k _ _ _ _ _ _ => exact ⟨k, rfl⟩
    | ready k _ _ _ _ _ _ => exact ⟨k, rfl⟩
  obtain ⟨k, hk⟩ := hnext
  have hwaiting : Represents l' (.waiting k) := hk ▸ hpoll.next
  have hanswer : l'.AnsweredBy memory (memory.answer (chunkBlock k)) := by
    cases hwaiting with
    | waiting _ _ _ _ _ reads_eq _ =>
        exact ⟨memory.answer_isData _, chunkBlock k, by rw [reads_eq]; rfl, rfl⟩
  exact ⟨_, ⟨hopen, trivial⟩, ⟨hopen, hanswer⟩, trivial⟩

/-- Once the last chunk has arrived, a poll reports a failure at most. -/
theorem poll_finished {s : Stack} (h : s.Dumping) (hnone : s.tags.tag2.state = .none)
    (hw : HwWrite) (junk : UInt8) :
    (s.handleEvent hw junk).1 = s ∧ ∀ o ∈ (s.handleEvent hw junk).2,
      ∃ status, status ≠ .ok ∧ o = failureCall .cbDump .dump status := by
  rw [poll_not_due h.id_eq h.state_eq h.intf_eq (by rw [hnone]; decide) hw junk]
  refine ⟨rfl, ?_⟩
  split_ifs with hquiet
  · exact List.forall_mem_nil _
  · have hjunk : junk ≠ nciStatusOk := fun h => hquiet (Or.inr h)
    rintro o ho
    exact ⟨_, intf_translate_ne_ok hjunk, List.mem_singleton.mp ho⟩

/-- After its last chunk, a dump does not send anything any more and does not succeed
again. -/
theorem after_dump {s : Stack} (h : s.Dumping) (hnone : s.tags.tag2.state = .none)
    {es : List StackEvent} (hidle : ∀ e ∈ es, IdleEvent e) :
    ∀ o ∈ stackSystem.trace s es,
      ∃ status, status ≠ .ok ∧ o = failureCall .cbDump .dump status := by
  -- the interface stays in `NONE`: `handleDump` has no case for it, and credits leave it alone
  induction es generalizing s with
  | nil => exact List.forall_mem_nil _
  | cons e es ih =>
      obtain ⟨he, htail⟩ := List.forall_mem_cons.mp hidle
      rw [LabelledSystem.trace_cons]
      refine List.forall_mem_append.mpr ?_
      cases e with
      | app cmd => cases he
      | poll hw junk =>
          obtain ⟨hnext, hout⟩ := poll_finished h hnone hw junk
          refine ⟨hout, ?_⟩
          rw [next_poll, hnext]
          exact ih h hnone htail
      | receive pkt garbage =>
          obtain ⟨htags, -, hout⟩ := receive_credits h.reachable.agrees.registered he garbage
          refine ⟨?_, ih (h.receive_credits he garbage) ?_ htail⟩
          · rw [emit_receive, hout]
            exact List.forall_mem_nil _
          · rw [next_receive, htags]
            exact hnone

/-- The transfer of four chunks, as it is observed. -/
theorem render_history (memory : Type2Memory) :
    let out := (Transfer.history 4 .finished).map (render memory)
    writesOf out = [readPacket 0, readPacket 4, readPacket 8, readPacket 12] ∧
      callsOf out = [dumpCall 1, dumpCall 1, dumpCall 1, dumpCall 0] ∧
      buffersOf out = [memory.read 0, memory.read 4, memory.read 8, memory.read 12] :=
  ⟨rfl, rfl, rfl⟩

/-- The four chunks are the memory. -/
theorem read_chunks (memory : Type2Memory) :
    [memory.read 0, memory.read 4, memory.read 8, memory.read 12].flatten = memory.bytes := by
  have hread : ∀ block, memory.read block = (memory.bytes.drop (4 * block.toNat)).take 16 :=
    fun _ => rfl
  have hlast : (memory.bytes.drop 48).take 16 = memory.bytes.drop 48 :=
    List.take_of_length_le (by simp [memory.length_eq])
  have hsplit : ∀ i, (memory.bytes.drop i).take 16 ++ memory.bytes.drop (i + 16) =
      memory.bytes.drop i := by
    intro i
    rw [← List.drop_drop, List.take_append_drop]
  calc [memory.read 0, memory.read 4, memory.read 8, memory.read 12].flatten
      = (memory.bytes.drop 0).take 16 ++ ((memory.bytes.drop 16).take 16 ++
          ((memory.bytes.drop 32).take 16 ++ (memory.bytes.drop 48).take 16)) := by
        simp [hread]
    _ = memory.bytes := by
        rw [hlast, hsplit 32, hsplit 16, hsplit 0, List.drop_zero]

/-- A dump that the tag answers returns the tag's memory.  In every session that
`cmdDump` opens, whatever the order of polls, credits and answers, a `READ` can be
answered until there were four answers; then the host has written the four `READ`
commands and the application has received the four chunks, in order, and nothing is
sent any more. -/
theorem dump_returns_memory {s : Stack} (h : s.Reachable)
    (hdump : (s.tags.exec .cmdDump).1 = .ok) (memory : Type2Memory) {es : List SessionEvent}
    (hlegal : (sessionSystem memory).Legal (Session.start s) es) :
    let l := (sessionSystem memory).run (Session.start s) es
    let out := (sessionSystem memory).trace (Session.start s) es
    l.answered ≤ 4 ∧
      (l.answered < 4 → ∀ junk garbage, ∃ pkt, (sessionSystem memory).Legal (Session.start s)
        (es ++ [.poll junk, .answer pkt garbage])) ∧
      (l.answered = 4 →
        writesOf out = [readPacket 0, readPacket 4, readPacket 8, readPacket 12] ∧
        callsOf out = [dumpCall 1, dumpCall 1, dumpCall 1, dumpCall 0] ∧
        (buffersOf out).flatten = memory.bytes ∧
        ∀ fs : List StackEvent, (∀ e ∈ fs, IdleEvent e) →
          ∀ o ∈ stackSystem.trace l.stack fs,
            ∃ status, status ≠ .ok ∧ o = failureCall .cbDump .dump status) := by
  intro l out
  have hstart := represents_start h hdump
  have hend : Represents l ((Transfer.system 4).run (.ready 0) (es.map SessionEvent.transfer)) :=
    (session_simulates memory).run hstart hlegal
  have hout : out = (Transfer.history 4 ((Transfer.system 4).run (.ready 0)
      (es.map SessionEvent.transfer))).map (render memory) := by
    rw [← Transfer.trace_eq_history (by decide) ((session_simulates memory).legal hstart hlegal)]
    exact (session_simulates memory).trace hstart hlegal
  -- only the state that the transfer is in matters from here on
  generalize (Transfer.system 4).run (.ready 0) (es.map SessionEvent.transfer) = t at hend hout
  refine ⟨?_, ?_, ?_⟩
  · cases hend with
    | ready k _ lt _ _ _ answered_eq => omega
    | waiting k _ lt _ _ _ answered_eq => omega
    | finished _ _ answered_eq => omega
  · intro hopen junk garbage
    obtain ⟨pkt, hmore⟩ := session_goes_on memory hend hopen junk garbage
    exact ⟨pkt, ((sessionSystem memory).along_append _ _ _ _).mpr ⟨hlegal, hmore⟩⟩
  · intro hall
    cases hend with
    | ready k _ lt _ _ _ answered_eq => omega
    | waiting k _ lt _ _ _ answered_eq => omega
    | finished dumping state_eq _ =>
        obtain ⟨hwrites, hcalls, hbuffers⟩ := render_history memory
        refine ⟨?_, ?_, ?_, fun fs hidle => after_dump dumping state_eq hidle⟩
        · rw [hout, hwrites]
        · rw [hout, hcalls]
        · rw [hout, hbuffers, read_chunks]

/-- The memory that holds its own addresses. -/
def Type2Memory.addresses : Type2Memory := ⟨(List.range 64).map UInt8.ofNat, by simp⟩

/-- The loop polls twice for every answer, with credits in between. -/
def Session.schedule (memory : Type2Memory) : List SessionEvent :=
  [0, 4, 8, 12].flatMap fun block =>
    [.poll 0, .credits .credits NciRfIntf.zero, .poll 0,
      .answer (memory.answer block) NciRfIntf.zero]

/-- The dump of the first tag that is activated. -/
theorem dump_returns_memory_first :
    let s := stackSystem.run Stack.init (activationRun type2Tag)
    let out := (sessionSystem .addresses).trace (Session.start s) (Session.schedule .addresses)
    (buffersOf out).flatten = (List.range 64).map UInt8.ofNat := by
  intro s out
  have hreachable : s.Reachable := ⟨activationRun type2Tag, by decide +kernel, rfl⟩
  have hlegal : (sessionSystem .addresses).Legal (Session.start s)
      (Session.schedule .addresses) := by decide +kernel
  exact ((dump_returns_memory hreachable (by decide +kernel) .addresses hlegal).2.2
    (by decide +kernel)).2.2.1

end Tags
end ArduinoNfc
