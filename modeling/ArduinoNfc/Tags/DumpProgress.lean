import ArduinoNfc.Foundation.Progress
import ArduinoNfc.Tags.OutstandingRead

/-!
# Progress of a dump

The sending side of the type 2 interface compares `_block` with `<=`, the receiving
side with `<`, and data is taken in any state.  Whatever data comes, `_block` only goes
up by whole answers and stops at the last of them, so that a dump asks for each block
once at most and announces more data three times at most.

`type2Dump` is the interface between two accepted `cmdDump`, under any use.
-/

namespace ArduinoNfc
namespace Tags

open Foundation Nci

/-! ## The interface during one dump -/

/-- What `NfcTags` may do with its type 2 interface. -/
inductive Type2Event where
  | initTag (rf : DataPtr)
  | cmdDump
  | handleDump (nci : NfcNci) (hw : HwWrite) (junk : UInt8)
  | handleData (nci : NfcNci) (status : UInt8) (id : UInt16) (data : DataPtr)

/-- The interface from an accepted `cmdDump` on.  Another one that is accepted begins
the next dump. -/
def type2Dump : LabelledSystem NfcTagsIntfType2 Type2Event StackOutput where
  enabled t e :=
    match e with
    | .cmdDump => t.cmdDump.1 ≠ .ok
    | _ => True
  next t e :=
    match e with
    | .initTag rf => t.initTag rf
    | .cmdDump => t.cmdDump.2
    | .handleDump nci hw junk => (t.handleDump nci hw junk).2.1
    | .handleData nci status id data => (t.handleData nci status id data).1
  emit t e :=
    match e with
    | .initTag _ => []
    | .cmdDump => []
    | .handleDump nci hw junk => (t.handleDump nci hw junk).2.2.2
    | .handleData nci status id data => (t.handleData nci status id data).2

/-- The block of a `READ` command, whatever becomes of it. -/
def StackOutput.readOf : StackOutput → Option UInt8
  | .nciCmd cmd _ _ => readBlockOf cmd
  | .call _ _ => none

/-- The dump record of a call of `cbDump` that announces more data. -/
def StackOutput.moreOf : StackOutput → Option TagsDump
  | .nciCmd _ _ _ => none
  | .call c _ => if c.method = .cbDump then c.data.filter fun dump => dump.more = 1 else none

/-- The blocks that are asked for. -/
def readsOf (out : List StackOutput) : List UInt8 := out.filterMap StackOutput.readOf

/-- The dump records that announce more data. -/
def moresOf (out : List StackOutput) : List TagsDump := out.filterMap StackOutput.moreOf

/-- The blocks at which the sixteen blocks of the tag are read, four by four. -/
def dumpBlocks : List UInt8 := [0, 4, 8, 12]

/-- They are the multiples of four up to twelve. -/
theorem mem_dumpBlocks {block : UInt8} :
    block ∈ dumpBlocks ↔ 4 ∣ block.toNat ∧ block.toNat ≤ 12 := by
  constructor
  · intro h
    simp only [dumpBlocks, List.mem_cons, List.not_mem_nil, or_false] at h
    rcases h with rfl | rfl | rfl | rfl <;> decide
  · rintro ⟨⟨k, hk⟩, hle⟩
    have hcases : k = 0 ∨ k = 1 ∨ k = 2 ∨ k = 3 := by omega
    have hblock : block = UInt8.ofNat (4 * k) := by rw [← hk, UInt8.ofNat_toNat]
    rcases hcases with rfl | rfl | rfl | rfl <;> simp [hblock, dumpBlocks]

/-! ## What one step shows of a dump -/

/-- A step of the interface, by what it does to the block. -/
inductive Type2Stepped (t u : NfcTagsIntfType2) (out : List StackOutput) : Prop where
  /-- The block is asked for. -/
  | asked (due : t.state = .dump) (state_eq : u.state = .dumpRsp)
      (block_eq : u.block = t.block) (reads_eq : readsOf out = [t.block])
      (mores_eq : moresOf out = [])
  /-- A chunk announces the next block. -/
  | advanced (before : t.block.toNat < 12) (state_eq : u.state = .dump)
      (block_eq : u.block.toNat = t.block.toNat + 4) (reads_eq : readsOf out = [])
      (mores_length : (moresOf out).length = 1)
  /-- Nothing is asked for or announced, and the next block is not due again. -/
  | stayed (state_eq : u.state = t.state ∨ u.state = .none) (block_eq : u.block = t.block)
      (reads_eq : readsOf out = []) (mores_eq : moresOf out = [])

theorem type2Stepped_handleDump {t : NfcTagsIntfType2} (hblock : t.block.toNat ≤ 12)
    (nci : NfcNci) (hw : HwWrite) (junk : UInt8) :
    Type2Stepped t (type2Dump.next t (.handleDump nci hw junk))
      (type2Dump.emit t (.handleDump nci hw junk)) := by
  have hguard : t.block ≤ memoryLastBlock + 1 - memoryReadBlock := (block_le_iff _).mpr hblock
  obtain ⟨state, id, pRf, dump, block⟩ := t
  cases state with
  | dump =>
      have hrun : NfcTagsIntfType2.handleDump ⟨.dump, id, pRf, dump, block⟩ nci hw junk =
          let r := nci.exec hw (NfcTagsIntfType2.readBlock block)
          (if r.status ≠ nciStatusOk then NfcTagsIntf.translateNciStatus r.status else .ok,
            ⟨.dumpRsp, id, pRf, dump, block⟩, r.nci,
            [.nciCmd (NfcTagsIntfType2.readBlock block) r.status r.written]) := by
        simp only [NfcTagsIntfType2.handleDump, hguard, if_true, issue]
        split_ifs <;> rfl
      simp only [type2Dump, hrun]
      exact .asked rfl rfl rfl rfl rfl
  | dumpRsp => exact .stayed (Or.inl rfl) rfl rfl rfl
  | none =>
      have hrun : ∃ status, NfcTagsIntfType2.handleDump ⟨.none, id, pRf, dump, block⟩ nci hw junk =
          (status, ⟨.none, id, pRf, dump, block⟩, nci, []) := by
        simp only [NfcTagsIntfType2.handleDump]
        split_ifs
        · exact ⟨_, rfl⟩
        · exact ⟨_, rfl⟩
      obtain ⟨status, hrun⟩ := hrun
      simp only [type2Dump, hrun]
      exact .stayed (Or.inl rfl) rfl rfl rfl

theorem type2Stepped_handleData {t : NfcTagsIntfType2} (hblock : t.block.toNat ≤ 12)
    (nci : NfcNci) (status : UInt8) (id : UInt16) (data : DataPtr) :
    Type2Stepped t (type2Dump.next t (.handleData nci status id data))
      (type2Dump.emit t (.handleData nci status id data)) := by
  simp only [type2Dump]
  cases hid : t.id with
  | none =>
      rw [NfcTagsIntfType2.handleData_none hid]
      exact .stayed (Or.inl rfl) rfl rfl rfl
  | dump =>
      simp only [NfcTagsIntfType2.handleData, hid, NfcTagsIntfType2.handleDataDump]
      split_ifs with hvalid hlast
      · exact .advanced ((block_lt_iff _).mp hlast) rfl (block_add hblock) rfl rfl
      · exact .stayed (Or.inr rfl) rfl rfl rfl
      · exact .stayed (Or.inr rfl) rfl rfl rfl

/-- Every step of the interface is one of the three. -/
theorem type2Stepped_cases {t : NfcTagsIntfType2} (hblock : t.block.toNat ≤ 12)
    {e : Type2Event} (hen : type2Dump.enabled t e) :
    Type2Stepped t (type2Dump.next t e) (type2Dump.emit t e) := by
  cases e with
  | initTag rf => exact .stayed (Or.inl rfl) rfl rfl rfl
  | handleDump nci hw junk => exact type2Stepped_handleDump hblock nci hw junk
  | handleData nci status id data => exact type2Stepped_handleData hblock nci status id data
  | cmdDump =>
      -- a command that is not accepted changes nothing
      have hrefused : t.cmdDump = (.rejected, t) := by
        by_cases hstate : t.state = .none
        · have haccepted : t.cmdDump.1 = .ok := by simp [NfcTagsIntfType2.cmdDump, hstate]
          exact absurd haccepted hen
        · exact if_pos hstate
      simp only [type2Dump, hrefused]
      exact .stayed (Or.inl rfl) rfl rfl rfl

/-! ## Measures of a dump -/

/-- The block is one of the four. -/
def OnDumpBlock (t : NfcTagsIntfType2) : Prop := t.block ∈ dumpBlocks

/-- The least block that may still be asked for. -/
def NfcTagsIntfType2.nextBlock (t : NfcTagsIntfType2) : Nat :=
  if t.state = .dump then t.block.toNat else t.block.toNat + 4

/-- The number of blocks that may still be announced. -/
def NfcTagsIntfType2.blocksLeft (t : NfcTagsIntfType2) : Nat := (12 - t.block.toNat) / 4

/-- An interface that stays at its block, and does not ask for it again. -/
theorem nextBlock_le_of_block_eq {t u : NfcTagsIntfType2} (hblock : u.block = t.block)
    (hstate : u.state = .dump → t.state = .dump) : t.nextBlock ≤ u.nextBlock := by
  unfold NfcTagsIntfType2.nextBlock
  rw [hblock]
  split_ifs with ht hu hu
  · exact le_refl _
  · exact Nat.le_add_right _ _
  · exact absurd (hstate hu) ht
  · exact le_refl _

namespace Type2Stepped

variable {t u : NfcTagsIntfType2} {out : List StackOutput}

theorem onDumpBlock (h : Type2Stepped t u out) (ht : OnDumpBlock t) : OnDumpBlock u := by
  cases h with
  | asked _ _ block_eq _ _ => rw [OnDumpBlock, block_eq]; exact ht
  | stayed _ block_eq _ _ => rw [OnDumpBlock, block_eq]; exact ht
  | advanced before _ block_eq _ _ =>
      obtain ⟨⟨k, hk⟩, -⟩ := mem_dumpBlocks.mp ht
      refine mem_dumpBlocks.mpr ⟨⟨k + 1, ?_⟩, ?_⟩
      · rw [block_eq, hk, Nat.mul_succ]
      · rw [block_eq]
        omega

theorem nextBlock_le (h : Type2Stepped t u out) : t.nextBlock ≤ u.nextBlock := by
  cases h with
  | asked due _ block_eq _ _ => exact nextBlock_le_of_block_eq block_eq fun _ => due
  | stayed state_eq block_eq _ _ =>
      refine nextBlock_le_of_block_eq block_eq fun hdump => ?_
      rcases state_eq with hsame | hnone
      · exact hsame.symm.trans hdump
      · exact absurd (hnone.symm.trans hdump) (by decide)
  | advanced _ state_eq block_eq _ _ =>
      simp only [NfcTagsIntfType2.nextBlock, state_eq, if_true, block_eq]
      split_ifs
      · exact Nat.le_add_right _ _
      · exact le_refl _

theorem reads_increasing (h : Type2Stepped t u out) :
    (readsOf out).Pairwise fun a b => a.toNat < b.toNat := by
  cases h with
  | asked _ _ _ reads_eq _ => rw [reads_eq]; exact List.pairwise_singleton _ _
  | stayed _ _ reads_eq _ => rw [reads_eq]; exact List.Pairwise.nil
  | advanced _ _ _ reads_eq _ => rw [reads_eq]; exact List.Pairwise.nil

/-- A `READ` asks for the block that the interface is at. -/
theorem reads_mem (h : Type2Stepped t u out) (ht : OnDumpBlock t) :
    ∀ block ∈ readsOf out, block ∈ dumpBlocks := by
  cases h with
  | asked _ _ _ reads_eq _ => rw [reads_eq]; exact List.forall_mem_singleton.mpr ht
  | stayed _ _ reads_eq _ => rw [reads_eq]; exact List.forall_mem_nil _
  | advanced _ _ _ reads_eq _ => rw [reads_eq]; exact List.forall_mem_nil _

/-- That is the least one that it may ask for, and afterwards it no longer is. -/
theorem reads_between (h : Type2Stepped t u out) :
    ∀ block ∈ readsOf out, t.nextBlock ≤ block.toNat ∧ block.toNat < u.nextBlock := by
  cases h with
  | asked due state_eq block_eq reads_eq _ =>
      rw [reads_eq, List.forall_mem_singleton]
      simp [NfcTagsIntfType2.nextBlock, due, state_eq, block_eq]
  | stayed _ _ reads_eq _ => rw [reads_eq]; exact List.forall_mem_nil _
  | advanced _ _ _ reads_eq _ => rw [reads_eq]; exact List.forall_mem_nil _

/-- An announcement uses up a block. -/
theorem mores_paid (h : Type2Stepped t u out) (ht : OnDumpBlock t) :
    (moresOf out).length + u.blocksLeft ≤ t.blocksLeft := by
  obtain ⟨⟨k, hk⟩, -⟩ := mem_dumpBlocks.mp ht
  unfold NfcTagsIntfType2.blocksLeft
  cases h with
  | asked _ _ block_eq _ mores_eq => simp [mores_eq, block_eq]
  | stayed _ block_eq _ mores_eq => simp [mores_eq, block_eq]
  | advanced before _ block_eq _ mores_length =>
      rw [mores_length, block_eq]
      omega

end Type2Stepped

/-! ## Whole runs -/

/-- What is observed of one dump, however it goes. -/
structure DumpBounded (out : List StackOutput) : Prop where
  /-- A `READ` answers with four blocks, all of them blocks of the tag. -/
  reads_le : ∀ block ∈ readsOf out,
    block.toNat + memoryReadBlock.toNat ≤ memoryLastBlock.toNat + 1
  increasing : (readsOf out).Pairwise (· < ·)
  mores_le : (moresOf out).length ≤ 3

section Runs

variable {σ ε : Type*} {L : LabelledSystem σ ε StackOutput} {tag2 : σ → NfcTagsIntfType2}

/-- The step is one of a type 2 interface that is a part of the state. -/
def StepsType2 (L : LabelledSystem σ ε StackOutput) (tag2 : σ → NfcTagsIntfType2) (s : σ)
    (e : ε) : Prop :=
  OnDumpBlock (tag2 s) ∧ Type2Stepped (tag2 s) (tag2 (L.next s e)) (L.emit s e)

/-- A `READ` raises the least block that may still be asked for. -/
theorem nextBlock_rank :
    Rank L (StepsType2 L tag2) (fun s => (tag2 s).nextBlock) StackOutput.readOf UInt8.toNat where
  mono := fun h => h.2.nextBlock_le
  increasing := fun h => h.2.reads_increasing
  between := fun h => h.2.reads_between

/-- An announcement is paid for by the blocks that are left. -/
theorem blocksLeft_budget :
    Budget L (StepsType2 L tag2) (fun s => (tag2 s).blocksLeft) StackOutput.moreOf :=
  fun h => h.2.mores_paid h.1

/-- Along steps of the interface, what is observed of its dump is bounded. -/
theorem dumpBounded_of_along {s : σ} {es : List ε} (h : L.Along (StepsType2 L tag2) s es) :
    DumpBounded (L.trace s es) where
  reads_le := by
    intro block hread
    have hmem := LabelledSystem.trace_forall (fun _ _ h => h.2.reads_mem h.1) h block hread
    exact Nat.add_le_add_right (mem_dumpBlocks.mp hmem).2 4
  increasing := (nextBlock_rank.trace_increasing h).imp UInt8.lt_iff_toNat_lt.mpr
  mores_le := by
    have hleft : (tag2 s).blocksLeft ≤ 3 := Nat.div_le_div_right (Nat.sub_le _ _)
    exact (blocksLeft_budget.trace_length h).trans hleft

/-- Legal steps that are steps of the interface keep it at one of the four blocks. -/
theorem along_stepsType2 {C : σ → ε → Prop}
    (hstep : ∀ s e, OnDumpBlock (tag2 s) → L.enabled s e → C s e →
      Type2Stepped (tag2 s) (tag2 (L.next s e)) (L.emit s e))
    {s : σ} {es : List ε} (hs : OnDumpBlock (tag2 s)) (hlegal : L.Legal s es)
    (hC : L.Along C s es) : L.Along (StepsType2 L tag2) s es :=
  LabelledSystem.along_of_invariant (I := fun s => OnDumpBlock (tag2 s))
    (fun s e hs hen hC => (hstep s e hs hen hC).onDumpBlock hs)
    (fun s e hs hen hC => ⟨hs, hstep s e hs hen hC⟩) hs hlegal hC

end Runs

/-- The interface is at one of the four blocks; a `READ` that is due passes the check of
`handleDump`, and the block of the next one fits in a byte. -/
structure BlockInRange (t : NfcTagsIntfType2) (e : Type2Event) : Prop where
  block : t.block ∈ dumpBlocks
  guard : ∀ nci hw junk, e = .handleDump nci hw junk → t.state = .dump →
    t.block ≤ memoryLastBlock + 1 - memoryReadBlock
  noWrap : (t.block + memoryReadBlock).toNat = t.block.toNat + memoryReadBlock.toNat

/-- What holds of the interface in a dump, however it goes. -/
structure DumpProgress (t : NfcTagsIntfType2) (es : List Type2Event) : Prop where
  inRange : type2Dump.Along BlockInRange t es
  block : (type2Dump.run t es).block ∈ dumpBlocks
  bounded : DumpBounded (type2Dump.trace t es)

theorem blockInRange {t : NfcTagsIntfType2} (h : OnDumpBlock t) (e : Type2Event) :
    BlockInRange t e where
  block := h
  guard := fun _ _ _ _ _ => (block_le_iff _).mpr (mem_dumpBlocks.mp h).2
  noWrap := block_add (mem_dumpBlocks.mp h).2

theorem type2Stepped_onDumpBlock {t : NfcTagsIntfType2} (h : OnDumpBlock t) {e : Type2Event}
    (hen : type2Dump.enabled t e) :
    Type2Stepped t (type2Dump.next t e) (type2Dump.emit t e) :=
  type2Stepped_cases (mem_dumpBlocks.mp h).2 hen

/-- An accepted `cmdDump` starts at the first block. -/
theorem cmdDump_accepted {t : NfcTagsIntfType2} (h : t.cmdDump.1 = .ok) :
    t.cmdDump.2 = { t with id := .dump, state := .dump, block := memoryFirstBlock } := by
  by_cases hstate : t.state = .none
  · simp [NfcTagsIntfType2.cmdDump, hstate]
  · have hrefused : t.cmdDump = (.rejected, t) := if_pos hstate
    rw [hrefused] at h
    cases h

/-- From an accepted `cmdDump` up to the next one, and whatever polls and data come, the
block stays on the four and inside of every check, each `READ` asks for a later block of
the tag, and more data is announced three times at most. -/
theorem dump_progress {t : NfcTagsIntfType2} (haccepted : t.cmdDump.1 = .ok)
    {es : List Type2Event} (hlegal : type2Dump.Legal t.cmdDump.2 es) :
    DumpProgress t.cmdDump.2 es := by
  have hblock : OnDumpBlock t.cmdDump.2 := by
    rw [cmdDump_accepted haccepted]
    exact List.mem_cons_self
  have hnext : ∀ t e, OnDumpBlock t → type2Dump.enabled t e →
      OnDumpBlock (type2Dump.next t e) :=
    fun _ _ h hen => (type2Stepped_onDumpBlock h hen).onDumpBlock h
  refine ⟨?_, LabelledSystem.run_invariant hnext hblock hlegal, ?_⟩
  · exact LabelledSystem.along_of_invariant (fun t e h hen _ => hnext t e h hen)
      (fun _ e h _ _ => blockInRange h e) hblock hlegal hlegal
  · exact dumpBounded_of_along (along_stepsType2 (C := type2Dump.enabled)
      (fun _ _ h hen _ => type2Stepped_onDumpBlock h hen) hblock hlegal hlegal)

/-- A chunk, a `NACK` that ends the dump, and chunks that nobody has asked for: they
revive it, and a `READ` is sent once more. -/
def revivedDump : List Type2Event :=
  [.handleDump NfcNci.init acceptAll 0,
    .handleData (NfcNci.init.handOn wholeChunk) nciStatusOk 0 (.rxBuf 2),
    .handleData (NfcNci.init.handOn nackPacket) nciStatusOk 0 (.rxBuf 2),
    .handleData (NfcNci.init.handOn wholeChunk) nciStatusOk 0 (.rxBuf 2),
    .handleData (NfcNci.init.handOn wholeChunk) nciStatusOk 0 (.rxBuf 2),
    .handleDump NfcNci.init acceptAll 0,
    .handleData (NfcNci.init.handOn wholeChunk) nciStatusOk 0 (.rxBuf 2)]

/-- It asks for the first and the last block, and announces more data three times. -/
theorem dump_progress_revived :
    DumpProgress NfcTagsIntfType2.init.cmdDump.2 revivedDump ∧
      readsOf (type2Dump.trace NfcTagsIntfType2.init.cmdDump.2 revivedDump) = [0, 12] ∧
      (moresOf (type2Dump.trace NfcTagsIntfType2.init.cmdDump.2 revivedDump)).length = 3 :=
  ⟨dump_progress rfl ⟨trivial, trivial, trivial, trivial, trivial, trivial, trivial, trivial⟩,
    by decide +kernel, by decide +kernel⟩

/-! ## The interface inside of the stack -/

/-- The step does not begin another dump. -/
def SameDump (s : Stack) : StackEvent → Prop
  | .app cmd => cmd = .cmdDump → (s.tags.exec cmd).1 ≠ .ok
  | _ => True

instance (s : Stack) : ∀ e, Decidable (SameDump s e)
  | .app _ => inferInstanceAs (Decidable (_ → _ ≠ _))
  | .poll _ _ => isTrue trivial
  | .receive _ _ => isTrue trivial

/-- Observations that do not concern the dump neither ask for a block nor announce one. -/
theorem offDump_silent {out : List StackOutput} (h : ∀ o ∈ out, o.OffDump) :
    readsOf out = [] ∧ moresOf out = [] := by
  constructor
  · refine List.filterMap_eq_nil_iff.mpr fun o ho => ?_
    cases o with
    | nciCmd cmd status written => exact h _ ho
    | call c bytes => rfl
  · refine List.filterMap_eq_nil_iff.mpr fun o ho => ?_
    cases o with
    | nciCmd cmd status written => rfl
    | call c bytes => exact if_neg (h _ ho)

/-- The report of a failure carries no dump record. -/
theorem failureCall_silent (method : TagsCb) (id : TagsId) (status : TagsStatus) :
    readsOf [failureCall method id status] = [] ∧ moresOf [failureCall method id status] = [] := by
  refine ⟨rfl, List.filterMap_eq_nil_iff.mpr fun o ho => ?_⟩
  rw [List.mem_singleton.mp ho]
  exact ite_self _

/-- A command that is issued asks for a block if it is a `READ`. -/
theorem issued_observed (cmd : NciCmd) (status : UInt8) (written : Option (List UInt8))
    (rest : List StackOutput) (hrest : readsOf rest = [] ∧ moresOf rest = []) :
    readsOf (.nciCmd cmd status written :: rest) = (readBlockOf cmd).toList ∧
      moresOf (.nciCmd cmd status written :: rest) = [] := by
  refine ⟨?_, hrest.2⟩
  have hread : (StackOutput.nciCmd cmd status written).readOf = readBlockOf cmd := rfl
  show (StackOutput.nciCmd cmd status written :: rest).filterMap StackOutput.readOf = _
  rw [List.filterMap_cons, hread]
  cases readBlockOf cmd with
  | none => exact hrest.1
  | some block => exact congrArg (block :: ·) hrest.1

/-- A chunk is an announcement if there is more. -/
theorem moresOf_chunk (status : TagsStatus) (dump : TagsDump) (bytes : List UInt8) :
    moresOf [.call ⟨.cbDump, status, .dump, some dump⟩ bytes] =
      if dump.more = 1 then [dump] else [] := by
  by_cases hmore : dump.more = 1
  · simp [moresOf, StackOutput.moreOf, List.filterMap, Option.filter, hmore]
  · simp [moresOf, StackOutput.moreOf, List.filterMap, Option.filter, hmore]

/-- A poll is a step of the interface. -/
theorem type2Stepped_poll (s : Stack) (hw : HwWrite) (junk : UInt8) :
    Type2Stepped s.tags.tag2 (s.handleEvent hw junk).1.tags.tag2 (s.handleEvent hw junk).2 := by
  cases poll_cases s hw junk with
  | idle _ stack_eq out_eq =>
      rw [stack_eq, out_eq]
      exact .stayed (Or.inl rfl) rfl rfl rfl
  | deactivated _ _ _ stack_eq out_eq =>
      rw [stack_eq, out_eq]
      exact .stayed (Or.inl rfl) rfl rfl rfl
  | failed _ stack_eq status _ out_eq =>
      obtain ⟨hreads, hmores⟩ := failureCall_silent s.tags.id.answer s.tags.id status
      rw [stack_eq, out_eq]
      exact .stayed (Or.inl rfl) rfl hreads hmores
  | issued cmd pending stack_eq out_eq =>
      obtain ⟨status, -, hout⟩ := out_eq
      obtain ⟨hreads, hmores⟩ := issued_observed cmd (s.nci.exec hw cmd).status
        (s.nci.exec hw cmd).written (if (s.nci.exec hw cmd).status = nciStatusOk then []
          else [failureCall s.tags.id.answer s.tags.id status]) (by
        split_ifs
        · exact ⟨rfl, rfl⟩
        · exact failureCall_silent _ _ _)
      rw [← hout] at hreads hmores
      rw [stack_eq, NfcTags.issued]
      rcases readBlockOf_pending pending with ⟨hid, hdue, hread⟩ | ⟨hid, hread⟩
      · rw [if_pos hid]
        exact .asked hdue rfl rfl (by rw [hreads, hread]; rfl) hmores
      · rw [if_neg hid]
        exact .stayed (Or.inl rfl) rfl (by rw [hreads, hread]; rfl) hmores

/-- A reception is a step of the interface. -/
theorem type2Stepped_receive {s : Stack} (hcb : s.nci.cbRegistered = true)
    (pkt : Packet) (garbage : NciRfIntf) :
    Type2Stepped s.tags.tag2 (s.receive pkt garbage).1.tags.tag2 (s.receive pkt garbage).2 := by
  by_cases hconsumes : s.Consumes pkt
  · obtain ⟨-, -, -, htag2, hout⟩ := receive_consumed hcb hconsumes garbage
    rw [htag2, hout]
    rcases chunked_cases s.tags.tag2 pkt with ⟨hlt, hstate, hblock, hmore⟩ | ⟨hstate, hblock, hmore⟩
    · exact .advanced hlt hstate hblock rfl (by rw [moresOf_chunk, if_pos hmore]; rfl)
    · have hlast : (s.tags.tag2.chunked pkt).dump.more ≠ 1 := by
        rw [hmore]
        decide
      exact .stayed (Or.inr hstate) hblock rfl (by rw [moresOf_chunk, if_neg hlast])
  · obtain ⟨htag2, hoff⟩ := receive_offDump hcb hconsumes garbage
    obtain ⟨hreads, hmores⟩ := offDump_silent hoff
    exact .stayed (Or.inl htag2.state_eq) htag2.block_eq hreads hmores

/-- Until the next dump begins, every step of the stack is a step of the interface. -/
theorem type2Stepped_stack {s : Stack} (hcb : s.nci.cbRegistered = true) {e : StackEvent}
    (hsame : SameDump s e) :
    Type2Stepped s.tags.tag2 (stackSystem.next s e).tags.tag2 (stackSystem.emit s e) := by
  cases e with
  | poll hw junk => exact type2Stepped_poll s hw junk
  | receive pkt garbage => exact type2Stepped_receive hcb pkt garbage
  | app cmd =>
      rw [next_app, (exec_sameDump hsame).1]
      exact .stayed (Or.inl rfl) rfl rfl rfl

/-- From a `cmdDump` that `NfcTags` accepts up to the next one, the bounds hold of what
the whole stack shows. -/
theorem stack_dump_bounded {s : Stack} (hs : s.Reachable)
    (haccepted : (s.tags.exec .cmdDump).1 = .ok) {es : List StackEvent}
    (hlegal : stackSystem.Legal (stackSystem.next s (.app .cmdDump)) es)
    (hsame : stackSystem.Along SameDump (stackSystem.next s (.app .cmdDump)) es) :
    DumpBounded (stackSystem.trace (stackSystem.next s (.app .cmdDump)) es) := by
  have hagrees : (stackSystem.next s (.app .cmdDump)).Agrees := agrees_app hs.agrees .cmdDump
  have hblock : OnDumpBlock (stackSystem.next s (.app .cmdDump)).tags.tag2 := by
    rw [next_app, (exec_cmdDump_accepted haccepted).2]
    exact List.mem_cons_self
  have hsteps : stackSystem.Along (fun s e => s.Agrees ∧ SameDump s e)
      (stackSystem.next s (.app .cmdDump)) es :=
    LabelledSystem.along_of_invariant (I := Stack.Agrees) (fun _ e h _ _ => agrees_next h e)
      (fun _ _ h _ hsame => ⟨h, hsame⟩) hagrees hlegal hsame
  exact dumpBounded_of_along (along_stepsType2
    (fun _ _ _ _ h => type2Stepped_stack h.1.registered h.2) hblock hlegal hsteps)

/-- Two `READ` commands and the chunk between them. -/
theorem stack_dump_bounded_type2 :
    DumpBounded (stackSystem.trace
      (stackSystem.next (stackSystem.run Stack.init (activationRun type2Tag)) (.app .cmdDump))
      [.poll acceptAll 0, .receive wholeChunk NciRfIntf.zero, .poll acceptAll 0]) :=
  stack_dump_bounded ⟨_, by decide +kernel, rfl⟩ (by decide +kernel) (by decide +kernel)
    (by decide +kernel)

end Tags
end ArduinoNfc
