import ArduinoNfc.Tags.DumpProgress

/-!
# Polling a dump that has ended

When a dump ends, the type 2 interface returns to `NONE` inside a data callback, while
`NfcTags` keeps `DUMP` in `_id` and `_state` until the next command.  A poll in between
enters `NfcTagsIntfType2::handleDump` in a state that its switch has no case for, and
what it returns is an unassigned variable.

`dumpEnds` lets a record of what `cbDump` has said run along with the stack, and
`dump_status_iff` says in which runs every poll has a defined outcome.
-/

namespace ArduinoNfc
namespace Tags

open Foundation Nci

/-! ## What the application knows of the end of a dump -/

/-- What `cbDump` has said. -/
structure DumpEnd where
  /-- The last dump record that came since `cmdDump` was last accepted announced no more
  data. -/
  lastChunk : Bool
  /-- An error, or the last chunk, was reported since a command was last accepted. -/
  ended : Bool
  deriving DecidableEq, Repr

/-- The record before the first command. -/
def DumpEnd.start : DumpEnd := ⟨false, false⟩

/-- A call of `cbDump` may come without a record, and then says nothing about the data. -/
def DumpEnd.observe (g : DumpEnd) : StackOutput → DumpEnd
  | .nciCmd _ _ _ => g
  | .call c _ =>
      if c.method = .cbDump then
        { lastChunk := (c.data.map fun dump => decide (dump.more = 0)).getD g.lastChunk
          ended := g.ended || decide c.Terminal }
      else
        g

/-- The record after one step of the stack. -/
def DumpEnd.after (s : Stack) (e : StackEvent) (g : DumpEnd) : DumpEnd :=
  match e with
  | .app cmd =>
      if (s.tags.exec cmd).1 = .ok then
        { lastChunk := if cmd = .cmdDump then false else g.lastChunk, ended := false }
      else
        g
  | _ => (stackSystem.emit s e).foldl DumpEnd.observe g

/-- The stack and what `cbDump` has said. -/
def dumpEnds : LabelledSystem (Stack × DumpEnd) StackEvent StackOutput :=
  stackSystem.withRecord DumpEnd.after

/-- A poll calls `NfcTagsIntfType2::handleDump`. -/
def Stack.EntersHandleDump (s : Stack) : Prop :=
  s.tags.id = .dump ∧ s.tags.state = .dump ∧ s.tags.pTagIntf = some .tag2

instance (s : Stack) : Decidable s.EntersHandleDump := inferInstanceAs (Decidable (_ ∧ _ ∧ _))

/-- One step of a run in which polling a dump has a defined outcome. -/
structure DefinedStatus (p : Stack × DumpEnd) (e : StackEvent) : Prop where
  /-- `handleDump` is entered in a state that its switch has a case for. -/
  entered : ∀ hw junk, e = .poll hw junk → p.1.EntersHandleDump →
    p.1.tags.tag2.state = .dump ∨ p.1.tags.tag2.state = .dumpRsp
  /-- Whatever the variable holds that the switch assigns, the poll does the same. -/
  assigned : ∀ hw junk junk', e = .poll hw junk →
    p.1.handleEvent hw junk' = p.1.handleEvent hw junk
  /-- Once the dump is over, a poll reports no error of it. -/
  quiet : ∀ hw junk, e = .poll hw junk → p.2.ended = true →
    ∀ c ∈ dumpCalls (dumpEnds.emit p e), c.status = .ok

/-- A poll comes neither to a dump whose last chunk has been handed on nor, once the dump
is over, to one that cannot go on. -/
def PollsLiveDump (p : Stack × DumpEnd) : StackEvent → Prop
  | .poll hw junk =>
      (p.1.EntersHandleDump → p.2.lastChunk = false) ∧
        (p.2.ended = true → DumpGoesOn p.1 (.poll hw junk))
  | _ => True

instance (p : Stack × DumpEnd) : ∀ e, Decidable (PollsLiveDump p e)
  | .poll _ _ => inferInstanceAs (Decidable ((_ → _) ∧ (_ → _)))
  | .app _ => isTrue trivial
  | .receive _ _ => isTrue trivial

/-! ## The record follows the interface -/

/-- Once a dump has begun, the interface is in `NONE` exactly when the last chunk has been
handed on. -/
structure FollowsEnd (s : Stack) (g : DumpEnd) : Prop where
  agrees : s.Agrees
  block : OnDumpBlock s.tags.tag2
  begun : s.tags.id = .dump → s.tags.tag2.id = .dump
  idle : s.tags.tag2.id = .dump → (s.tags.tag2.state = .none ↔ g.lastChunk = true)

theorem followsEnd_init : FollowsEnd Stack.init .start where
  agrees := agrees_init
  block := List.mem_cons_self
  begun := nofun
  idle := nofun

theorem DumpEnd.observe_offDump (g : DumpEnd) (o : StackOutput) (h : o.OffDump) :
    g.observe o = g := by
  cases o with
  | nciCmd cmd status written => rfl
  | call c bytes => exact if_neg h

/-- The report of a failure says nothing about the data. -/
theorem DumpEnd.observe_failure (method : TagsCb) (id : TagsId) (status : TagsStatus)
    (g : DumpEnd) : (g.observe (failureCall method id status)).lastChunk = g.lastChunk := by
  simp only [failureCall, DumpEnd.observe]
  split_ifs
  · rfl
  · rfl

/-- A step that does not concern the dump. -/
theorem FollowsEnd.congr {s t : Stack} {g f : DumpEnd} (h : FollowsEnd s g)
    (hagrees : t.Agrees) (hid : t.tags.id = .dump → s.tags.id = .dump)
    (htag2 : s.tags.tag2.UpToRf t.tags.tag2) (hrecord : f.lastChunk = g.lastChunk) :
    FollowsEnd t f where
  agrees := hagrees
  block := by rw [OnDumpBlock, htag2.block_eq]; exact h.block
  begun := by rw [htag2.id_eq]; exact fun hdump => h.begun (hid hdump)
  idle := by rw [htag2.id_eq, htag2.state_eq, hrecord]; exact h.idle

theorem followsEnd_app {s : Stack} {g : DumpEnd} (h : FollowsEnd s g) (cmd : AppCmd) :
    FollowsEnd (stackSystem.next s (.app cmd)) (g.after s (.app cmd)) := by
  have hagrees := agrees_app h.agrees cmd
  by_cases hsame : cmd = .cmdDump → (s.tags.exec cmd).1 ≠ .ok
  · obtain ⟨htag2, hid⟩ := exec_sameDump hsame
    have hrecord : (g.after s (.app cmd)).lastChunk = g.lastChunk := by
      simp only [DumpEnd.after]
      split_ifs with haccepted hcmd
      · exact absurd haccepted (hsame hcmd)
      · rfl
      · rfl
    refine h.congr hagrees hid ?_ hrecord
    rw [next_app, htag2]
    exact NfcTagsIntfType2.UpToRf.refl _
  · obtain ⟨rfl, hnot⟩ := Classical.not_imp.mp hsame
    have haccepted : (s.tags.exec .cmdDump).1 = .ok := not_not.mp hnot
    have hstart : g.after s (.app .cmdDump) = .start := if_pos haccepted
    rw [hstart]
    refine ⟨hagrees, ?_, ?_, ?_⟩ <;> rw [next_app, (exec_cmdDump_accepted haccepted).2]
    · exact List.mem_cons_self
    · exact fun _ => rfl
    · exact fun _ => iff_of_false nofun nofun

/-- A poll may report an error of the dump, but says nothing about the data. -/
theorem followsEnd_poll {s : Stack} {g : DumpEnd} (h : FollowsEnd s g) (hw : HwWrite)
    (junk : UInt8) :
    FollowsEnd (stackSystem.next s (.poll hw junk)) (g.after s (.poll hw junk)) := by
  have hagrees := agrees_poll h.agrees hw junk
  have hafter : g.after s (.poll hw junk) = (s.handleEvent hw junk).2.foldl .observe g := rfl
  have hrefl := NfcTagsIntfType2.UpToRf.refl s.tags.tag2
  rw [hafter, next_poll]
  cases poll_cases s hw junk with
  | idle _ stack_eq out_eq =>
      rw [stack_eq, out_eq]
      exact h
  | deactivated _ _ _ stack_eq out_eq =>
      rw [stack_eq] at hagrees ⊢
      rw [out_eq]
      exact h.congr hagrees nofun hrefl rfl
  | failed _ stack_eq status _ out_eq =>
      rw [stack_eq, out_eq]
      exact h.congr h.agrees id hrefl (g.observe_failure _ _ _)
  | issued cmd pending stack_eq out_eq =>
      obtain ⟨status, -, hout⟩ := out_eq
      have hrecord : ((s.handleEvent hw junk).2.foldl DumpEnd.observe g).lastChunk =
          g.lastChunk := by
        rw [hout, List.foldl_cons]
        split_ifs
        · rfl
        · exact g.observe_failure _ _ _
      rw [stack_eq] at hagrees ⊢
      rcases readBlockOf_pending pending with ⟨hid, hdue, -⟩ | ⟨hid, -⟩
      · have hlast : g.lastChunk ≠ true := fun hlast =>
          absurd (hdue.symm.trans ((h.idle (h.begun hid)).mpr hlast)) (by decide)
        have hissued : s.tags.issued =
            { s.tags with tag2 := { s.tags.tag2 with state := .dumpRsp } } := if_pos hid
        refine ⟨hagrees, ?_, ?_, ?_⟩ <;> simp only [hissued]
        · exact h.block
        · exact h.begun
        · rw [hrecord]
          exact fun _ => iff_of_false (by decide) hlast
      · have hissued : s.tags.issued = s.tags := if_neg hid
        refine h.congr hagrees ?_ ?_ hrecord <;> rw [hissued]
        · exact id
        · exact hrefl

/-- No packet selects a dump. -/
theorem receive_id_dump {s : Stack} (hcb : s.nci.cbRegistered = true) (pkt : Packet)
    (garbage : NciRfIntf) (h : (s.receive pkt garbage).1.tags.id = .dump) :
    s.tags.id = .dump := by
  cases stack_receive_cases hcb pkt garbage with
  | accepted m _ _ _ _ id_eq _ _ _ =>
      rw [id_eq, targetId] at h
      split_ifs at h
      exact h
  | refused _ _ _ _ _ id_eq _ _ _ _ _ => exact id_eq.symm.trans h
  | chunk _ _ _ _ _ id_eq _ _ => exact id_eq.symm.trans h
  | dropped _ _ _ _ id_eq _ _ _ => exact id_eq.symm.trans h
  | other _ _ _ tags_eq _ => exact (congrArg NfcTags.id tags_eq).symm.trans h

theorem followsEnd_receive {s : Stack} {g : DumpEnd} (h : FollowsEnd s g) (pkt : Packet)
    (garbage : NciRfIntf) :
    FollowsEnd (stackSystem.next s (.receive pkt garbage)) (g.after s (.receive pkt garbage)) := by
  have hcb := h.agrees.registered
  have hagrees := agrees_receive h.agrees pkt garbage
  have hafter : g.after s (.receive pkt garbage) =
      (s.receive pkt garbage).2.foldl .observe g := rfl
  rw [hafter, next_receive]
  by_cases hconsumes : s.Consumes pkt
  · obtain ⟨-, -, -, htag2, hout⟩ := receive_consumed hcb hconsumes garbage
    have hblock := (type2Stepped_receive hcb pkt garbage).onDumpBlock h.block
    have hrecord : ((s.receive pkt garbage).2.foldl DumpEnd.observe g).lastChunk =
        decide ((s.tags.tag2.chunked pkt).dump.more = 0) := by
      rw [hout]
      rfl
    refine ⟨hagrees, hblock, ?_, ?_⟩
    · rw [htag2, NfcTagsIntfType2.chunked_id]
      exact fun _ => hconsumes.2.2
    · intro _
      rw [hrecord, htag2, decide_eq_true_eq]
      rcases chunked_cases s.tags.tag2 pkt with ⟨-, hstate, -, hmore⟩ | ⟨hstate, -, hmore⟩
      · rw [hstate, hmore]
        exact iff_of_false (by decide) (by decide)
      · exact iff_of_true hstate hmore
  · obtain ⟨htag2, hoff⟩ := receive_offDump hcb hconsumes garbage
    rw [foldl_offDump DumpEnd.observe_offDump hoff]
    exact h.congr hagrees (receive_id_dump hcb pkt garbage) htag2 rfl

/-- The invariant is inductive. -/
theorem followsEnd_next {s : Stack} {g : DumpEnd} (h : FollowsEnd s g) (e : StackEvent) :
    FollowsEnd (stackSystem.next s e) (g.after s e) := by
  cases e with
  | app cmd => exact followsEnd_app h cmd
  | poll hw junk => exact followsEnd_poll h hw junk
  | receive pkt garbage => exact followsEnd_receive h pkt garbage

/-! ## Whole runs -/

/-- Where `handleDump` is not entered in `NONE`, the variable is assigned before it is read,
or not read at all. -/
theorem handleEvent_assigned {s : Stack} (h : s.EntersHandleDump → s.tags.tag2.state ≠ .none)
    (hw : HwWrite) (junk junk' : UInt8) : s.handleEvent hw junk' = s.handleEvent hw junk := by
  obtain ⟨⟨state, id, rsp, tag2, mif, intf⟩, nci⟩ := s
  cases id with
  | dump =>
      cases state with
      | dump =>
          cases intf with
          | none => rfl
          | some intf =>
              cases intf with
              | tagMifare => rfl
              | tag2 =>
                  obtain ⟨t2State, t2Id, pRf, dump, block⟩ := tag2
                  cases t2State with
                  | none => exact absurd rfl (h ⟨rfl, rfl, rfl⟩)
                  | dump => rfl
                  | dumpRsp => rfl
      | _ => rfl
  | _ => rfl

/-- One poll has a defined outcome exactly when it comes to a live dump. -/
theorem definedStatus_poll {s : Stack} {g : DumpEnd} (h : FollowsEnd s g) (hw : HwWrite)
    (junk : UInt8) :
    DefinedStatus (s, g) (.poll hw junk) ↔ PollsLiveDump (s, g) (.poll hw junk) := by
  have hblock : s.tags.tag2.block ≤ memoryLastBlock + 1 - memoryReadBlock :=
    (block_le_iff _).mpr (mem_dumpBlocks.mp h.block).2
  have hcases := (dumpPolled_cases h.agrees hblock hw junk).calls_cases
  have hidle : s.EntersHandleDump → (s.tags.tag2.state = .none ↔ g.lastChunk = true) :=
    fun henters => h.idle (h.begun henters.1)
  constructor
  · intro hdefined
    refine ⟨fun henters => ?_, fun hended => ?_⟩
    · rw [← Bool.not_eq_true, ← hidle henters]
      rcases hdefined.entered hw junk rfl henters with hstate | hstate
      · exact fun hnone => absurd (hstate.symm.trans hnone) (by decide)
      · exact fun hnone => absurd (hstate.symm.trans hnone) (by decide)
    · rcases hcases with ⟨hgoesOn, -⟩ | ⟨-, status, hfailed, hcalls⟩
      · exact hgoesOn
      · have hcall : ⟨.cbDump, status, .dump, none⟩ ∈ dumpCalls (s.handleEvent hw junk).2 := by
          rw [hcalls]
          exact List.mem_singleton_self _
        exact absurd (hdefined.quiet hw junk rfl hended _ hcall) hfailed
  · rintro ⟨hlive, hgoesOn⟩
    have hentered : s.EntersHandleDump → s.tags.tag2.state ≠ .none := fun henters hnone =>
      absurd (((hidle henters).mp hnone).symm.trans (hlive henters)) (by decide)
    refine ⟨?_, ?_, ?_⟩
    · rintro _ _ - henters
      have hstate := hentered henters
      revert hstate
      cases s.tags.tag2.state <;> decide
    · rintro _ _ junk' ⟨⟩
      exact handleEvent_assigned hentered hw junk junk'
    · rintro _ _ ⟨⟩ hended c hc
      rcases hcases with ⟨-, hcalls⟩ | ⟨hstops, -⟩
      · exact absurd (hcalls ▸ hc) List.not_mem_nil
      · exact absurd (hgoesOn hended) hstops

/-- In a run, every poll of a dump has a defined outcome exactly when every poll comes to a
live dump. -/
theorem dump_status_iff {es : List StackEvent} (hlegal : stackSystem.Legal Stack.init es) :
    dumpEnds.Along DefinedStatus (Stack.init, .start) es ↔
      dumpEnds.Along PollsLiveDump (Stack.init, .start) es := by
  have hrecorded : dumpEnds.Legal (Stack.init, .start) es :=
    (stackSystem.withRecord_along DumpEnd.after .start).mpr hlegal
  refine LabelledSystem.along_congr (I := fun p => FollowsEnd p.1 p.2) ?_ ?_ followsEnd_init
    hrecorded
  · exact fun p e hp _ => followsEnd_next hp e
  · intro p e hp _
    cases e with
    | app cmd => exact iff_of_true ⟨nofun, nofun, nofun⟩ trivial
    | poll hw junk => exact definedStatus_poll hp hw junk
    | receive pkt garbage => exact iff_of_true ⟨nofun, nofun, nofun⟩ trivial

/-- The answer to a `READ` is cut short, and the tag is deactivated before the next poll. -/
theorem dump_status_iff_deactivated :
    dumpEnds.Along DefinedStatus (Stack.init, .start)
      (activationRun type2Tag ++
        [.app .cmdDump, .poll acceptAll 1, .poll acceptAll 1,
          .receive (Type2Memory.addresses.answer 0) NciRfIntf.zero, .poll acceptAll 1,
          .receive nackPacket NciRfIntf.zero, .app .cmdDeactivate, .poll acceptAll 1]) :=
  (dump_status_iff (by decide +kernel)).mpr (by decide +kernel)

/-- The same dump, polled again after its end. -/
def polledEnd : List StackEvent :=
  activationRun type2Tag ++
    [.app .cmdDump, .poll acceptAll 1, .receive nackPacket NciRfIntf.zero, .poll acceptAll 1]

/-- It is entered in `NONE`, and the value of the variable is reported as an error. -/
theorem dump_status_counterexample :
    ¬ ∀ es, stackSystem.Legal Stack.init es →
      dumpEnds.Along DefinedStatus (Stack.init, .start) es := by
  intro h
  have hrun := h polledEnd (by decide +kernel)
  rw [polledEnd, LabelledSystem.along_append] at hrun
  obtain ⟨-, -, -, -, hpoll, -⟩ := hrun
  have hstate := hpoll.entered acceptAll 1 rfl (by decide +kernel)
  exact absurd hstate (by decide +kernel)

end Tags
end ArduinoNfc
