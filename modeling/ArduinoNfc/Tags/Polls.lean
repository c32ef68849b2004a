import ArduinoNfc.Tags.System

/-!
# What one poll can do

`NfcTags::handleEvent` issues the pending command, or it has nothing to do, or its
handler cannot go on.  The command that is pending depends on `_id`, `_state` and,
in a dump, on the type 2 interface.
-/

namespace ArduinoNfc
namespace Tags

open Foundation Nci

/-- The callback that answers a command of the application. -/
def TagsId.answer : TagsId → TagsCb
  | .reset => .cbReset
  | .discover => .cbDiscover
  | .discoverActivated => .cbDiscoverNtf
  | .dump => .cbDump
  | _ => .cbDeactivate

/-- The `NfcNci` command that the next poll issues. -/
def NfcTags.pending (t : NfcTags) : Option NciCmd :=
  match t.id, t.state with
  | .reset, .initReset => some (.cmdCoreReset nciResetTypeKeepCfg)
  | .reset, .initInit => some .cmdCoreInit
  | .discover, .discoverMap => some cmdDiscoverMaps
  | .discover, .discover => some cmdDiscoverConfs
  | .deactivate, .deactivate => some (.cmdRfDeactivate nciDeactivateTypeDiscovery)
  | .dump, .dump =>
      if t.pTagIntf = some .tag2 ∧ t.tag2.state = .dump ∧
          t.tag2.block ≤ memoryLastBlock + 1 - memoryReadBlock then
        some (NfcTagsIntfType2.readBlock t.tag2.block)
      else
        none
  | _, _ => none

/-- The commands that a poll can issue, each with the state it is issued in. -/
inductive Pending (t : NfcTags) : NciCmd → Prop where
  | coreReset (id_eq : t.id = .reset) (state_eq : t.state = .initReset) :
      Pending t (.cmdCoreReset nciResetTypeKeepCfg)
  | coreInit (id_eq : t.id = .reset) (state_eq : t.state = .initInit) : Pending t .cmdCoreInit
  | discoverMap (id_eq : t.id = .discover) (state_eq : t.state = .discoverMap) :
      Pending t cmdDiscoverMaps
  | discover (id_eq : t.id = .discover) (state_eq : t.state = .discover) :
      Pending t cmdDiscoverConfs
  | deactivate (id_eq : t.id = .deactivate) (state_eq : t.state = .deactivate) :
      Pending t (.cmdRfDeactivate nciDeactivateTypeDiscovery)
  | read (id_eq : t.id = .dump) (state_eq : t.state = .dump) (intf : t.pTagIntf = some .tag2)
      (tag2_eq : t.tag2.state = .dump)
      (block_le : t.tag2.block ≤ memoryLastBlock + 1 - memoryReadBlock) :
      Pending t (NfcTagsIntfType2.readBlock t.tag2.block)

theorem pending_cases {t : NfcTags} {cmd : NciCmd} (h : t.pending = some cmd) :
    Pending t cmd := by
  obtain ⟨state, id, rsp, tag2, mif, intf⟩ := t
  cases id with
  | none => cases h
  | discoverActivated => cases h
  | reset =>
      cases state with
      | initReset =>
          cases h
          exact .coreReset rfl rfl
      | initInit =>
          cases h
          exact .coreInit rfl rfl
      | _ => cases h
  | discover =>
      cases state with
      | discoverMap =>
          cases h
          exact .discoverMap rfl rfl
      | discover =>
          cases h
          exact .discover rfl rfl
      | _ => cases h
  | deactivate =>
      cases state with
      | deactivate =>
          cases h
          exact .deactivate rfl rfl
      | _ => cases h
  | dump =>
      cases state with
      | dump =>
          obtain ⟨⟨hintf, hstate, hblock⟩, hcmd⟩ := Option.ite_none_right_eq_some.mp h
          cases hcmd
          exact .read rfl rfl hintf hstate hblock
      | _ => cases h

/-- A `READ` is due. -/
theorem pending_read {t : NfcTags} (hid : t.id = .dump) (hstate : t.state = .dump)
    (hintf : t.pTagIntf = some .tag2) (htag2 : t.tag2.state = .dump)
    (hblock : t.tag2.block ≤ memoryLastBlock + 1 - memoryReadBlock) :
    t.pending = some (NfcTagsIntfType2.readBlock t.tag2.block) := by
  simp only [NfcTags.pending, hid, hstate, hintf, htag2, hblock, and_self, if_true]

/-- The tag layer once the pending command is issued: a type 2 interface in the
middle of a dump now waits for the answer. -/
def NfcTags.issued (t : NfcTags) : NfcTags :=
  if t.id = .dump then { t with tag2 := { t.tag2 with state := .dumpRsp } } else t

@[simp] theorem issued_state (t : NfcTags) : t.issued.state = t.state := by
  unfold NfcTags.issued
  split_ifs <;> rfl

@[simp] theorem issued_id (t : NfcTags) : t.issued.id = t.id := by
  unfold NfcTags.issued
  split_ifs <;> rfl

@[simp] theorem issued_pTagIntf (t : NfcTags) : t.issued.pTagIntf = t.pTagIntf := by
  unfold NfcTags.issued
  split_ifs <;> rfl

/-- What one poll does. -/
inductive Polled (s : Stack) (hw : HwWrite) (r : Stack × List StackOutput) : Prop where
  /-- The pending command is issued, and a failure of it is reported. -/
  | issued (cmd : NciCmd) (pending : s.tags.pending = some cmd)
      (stack_eq : r.1 = ⟨s.tags.issued, (s.nci.exec hw cmd).nci⟩)
      (out_eq : ∃ status, status ≠ .ok ∧ r.2 =
        .nciCmd cmd (s.nci.exec hw cmd).status (s.nci.exec hw cmd).written ::
          if (s.nci.exec hw cmd).status = nciStatusOk then []
          else [failureCall s.tags.id.answer s.tags.id status])
  /-- There is nothing to do. -/
  | idle (pending : s.tags.pending = none) (stack_eq : r.1 = s) (out_eq : r.2 = [])
  /-- The tag is deactivated, the discovery loop goes on. -/
  | deactivated (pending : s.tags.pending = none) (id_eq : s.tags.id = .deactivate)
      (state_eq : s.tags.state = .deactivateNtf)
      (stack_eq : r.1 = s.withTags { s.tags with id := .discover, state := .discoverNtf })
      (out_eq : r.2 = [])
  /-- The handler cannot go on. -/
  | failed (pending : s.tags.pending = none) (stack_eq : r.1 = s) (status : TagsStatus)
      (status_ne : status ≠ .ok) (out_eq : r.2 = [failureCall s.tags.id.answer s.tags.id status])

theorem notify_issue (s : Stack) (hw : HwWrite) (cmd : NciCmd) (method : TagsCb)
    (id : TagsId) :
    Stack.notify method id (s.issue hw cmd) =
      (⟨s.tags, (s.nci.exec hw cmd).nci⟩,
        .nciCmd cmd (s.nci.exec hw cmd).status (s.nci.exec hw cmd).written ::
          if (s.nci.exec hw cmd).status = nciStatusOk then []
          else
            [failureCall method id
              (NfcTags.translateNciStatus (s.nci.exec hw cmd).status)]) := by
  by_cases h : (s.nci.exec hw cmd).status = nciStatusOk
  · simp [Stack.notify, Stack.issue, Tags.issue, h]
  · simp [Stack.notify, Stack.issue, Tags.issue, h, failureCall]

/-- A handler that issues the pending command. -/
theorem polled_issue {s : Stack} {hw : HwWrite} {cmd : NciCmd}
    (hpending : s.tags.pending = some cmd) (hissued : s.tags.issued = s.tags) :
    Polled s hw (Stack.notify s.tags.id.answer s.tags.id (s.issue hw cmd)) := by
  rw [notify_issue]
  by_cases hstatus : (s.nci.exec hw cmd).status = nciStatusOk
  · refine .issued cmd hpending ?_ ⟨.failed, by decide, ?_⟩
    · rw [hissued]
    · simp only [hstatus, if_true]
  · refine .issued cmd hpending ?_ ⟨_, tags_translate_ne_ok hstatus, rfl⟩
    rw [hissued]

theorem intf_translate_ne_ok {status : UInt8} (h : status ≠ nciStatusOk) :
    NfcTagsIntf.translateNciStatus status ≠ .ok := by
  rw [NfcTagsIntf.translateNciStatus, if_neg h]
  split_ifs <;> decide

/-- While no `READ` is due, the handler of a dump reports the value of the variable that
it has not assigned, if it reports anything. -/
theorem handleDump_not_due {s : Stack} (hstate : s.tags.state = .dump)
    (hintf : s.tags.pTagIntf = some .tag2) (htag2 : s.tags.tag2.state ≠ .dump) (hw : HwWrite)
    (junk : UInt8) :
    s.handleDump hw junk =
      (s, if s.tags.tag2.state = .dumpRsp ∨ junk = nciStatusOk then []
        else [failureCall .cbDump .dump (NfcTagsIntf.translateNciStatus junk)]) := by
  obtain ⟨⟨state, id, rsp, ⟨t2State, t2Id, pRf, dump, block⟩, mif, intf⟩, nci⟩ := s
  obtain rfl : state = .dump := hstate
  obtain rfl : intf = some .tag2 := hintf
  cases t2State with
  | dump => exact absurd rfl htag2
  | dumpRsp => rfl
  | none =>
      by_cases hjunk : junk = nciStatusOk
      · simp [Stack.handleDump, Stack.intfHandleDump, NfcTagsIntfType2.handleDump, hjunk]
      · simp [Stack.handleDump, Stack.intfHandleDump, NfcTagsIntfType2.handleDump, hjunk,
          intf_translate_ne_ok hjunk, failureCall]

/-- The dump handler on a type 2 tag, by the state of the interface. -/
theorem polled_dump_tag2 {nci : NfcNci} {rsp : TagsNciRsp} {tag2 : NfcTagsIntfType2}
    {mif : NfcTagsIntfMifare} (hw : HwWrite) (junk : UInt8) :
    Polled ⟨⟨.dump, .dump, rsp, tag2, mif, some .tag2⟩, nci⟩ hw
      (Stack.handleDump ⟨⟨.dump, .dump, rsp, tag2, mif, some .tag2⟩, nci⟩ hw junk) := by
  obtain ⟨state, id, pRf, dump, block⟩ := tag2
  cases state with
  | none =>
      -- the status is not assigned: any value of it
      have hdue : Type2State.none ≠ .dump := by decide
      have hrsp : Type2State.none ≠ .dumpRsp := by decide
      rw [handleDump_not_due rfl rfl hdue hw junk]
      by_cases hjunk : junk = nciStatusOk
      · rw [if_pos (Or.inr hjunk)]
        exact .idle rfl rfl rfl
      · rw [if_neg (not_or.mpr ⟨hrsp, hjunk⟩)]
        exact .failed rfl rfl _ (intf_translate_ne_ok hjunk) rfl
  | dump =>
      by_cases hblock : block ≤ memoryLastBlock + 1 - memoryReadBlock
      · have hpending : NfcTags.pending
            ⟨.dump, .dump, rsp, ⟨.dump, id, pRf, dump, block⟩, mif, some .tag2⟩ =
              some (NfcTagsIntfType2.readBlock block) := if_pos ⟨rfl, rfl, hblock⟩
        -- the state becomes `DUMP_RSP` before the outcome of `dataSend` is known
        by_cases hsent : (nci.exec hw (NfcTagsIntfType2.readBlock block)).status = nciStatusOk
        · refine .issued _ hpending ?_ ⟨.failed, by decide, ?_⟩ <;>
            simp [Stack.handleDump, Stack.intfHandleDump, NfcTagsIntfType2.handleDump, hblock,
              Tags.issue, hsent, NfcTags.issued]
        · have hfail := intf_translate_ne_ok hsent
          refine .issued _ hpending ?_ ⟨NfcTagsIntf.translateNciStatus
            (nci.exec hw (NfcTagsIntfType2.readBlock block)).status, hfail, ?_⟩ <;>
            simp [Stack.handleDump, Stack.intfHandleDump, NfcTagsIntfType2.handleDump, hblock,
              Tags.issue, hsent, hfail, NfcTags.issued, failureCall, TagsId.answer]
      · have hpending : NfcTags.pending
            ⟨.dump, .dump, rsp, ⟨.dump, id, pRf, dump, block⟩, mif, some .tag2⟩ = none :=
          if_neg fun h => hblock h.2.2
        refine .failed hpending ?_ (NfcTagsIntf.translateNciStatus nciStatusRejected)
          (by decide) ?_ <;>
          simp [Stack.handleDump, Stack.intfHandleDump, NfcTagsIntfType2.handleDump, hblock,
            NfcTagsIntf.translateNciStatus, nciStatusRejected, nciStatusOk, failureCall,
            TagsId.answer]
  | dumpRsp => exact .idle rfl rfl rfl

/-- The dump handler, by what `_p_tagIntf` points to. -/
theorem polled_dump {s : Stack} (hid : s.tags.id = .dump) (hw : HwWrite) (junk : UInt8) :
    Polled s hw (s.handleDump hw junk) := by
  obtain ⟨⟨state, id, rsp, tag2, mif, intf⟩, nci⟩ := s
  subst hid
  cases state with
  | dump =>
      cases intf with
      | none => exact .failed rfl rfl .failed (by decide) rfl
      | some intf =>
          cases intf with
          | tag2 => exact polled_dump_tag2 hw junk
          | tagMifare => exact .failed rfl rfl .rejected (by decide) rfl
  | _ => exact .failed rfl rfl .rejected (by decide) rfl

/-- Every poll is one of the four. -/
theorem poll_cases (s : Stack) (hw : HwWrite) (junk : UInt8) :
    Polled s hw (s.handleEvent hw junk) := by
  obtain ⟨⟨state, id, rsp, tag2, mif, intf⟩, nci⟩ := s
  cases id with
  | none => exact .idle rfl rfl rfl
  | discoverActivated => exact .idle rfl rfl rfl
  | reset =>
      cases state with
      | initReset => exact polled_issue rfl rfl
      | initInit => exact polled_issue rfl rfl
      | initDone => exact .idle rfl rfl rfl
      | _ => exact .failed rfl rfl .rejected (by decide) rfl
  | discover =>
      cases state with
      | discoverMap => exact polled_issue rfl rfl
      | discover => exact polled_issue rfl rfl
      | discoverNtf => exact .idle rfl rfl rfl
      | discoverActivated => exact .idle rfl rfl rfl
      | _ => exact .failed rfl rfl .rejected (by decide) rfl
  | deactivate =>
      cases state with
      | deactivate => exact polled_issue rfl rfl
      | deactivateRsp => exact .idle rfl rfl rfl
      | deactivateNtf => exact .deactivated rfl rfl rfl rfl rfl
      | _ => exact .failed rfl rfl .rejected (by decide) rfl
  | dump => exact polled_dump rfl hw junk

/-- A pending command is issued by the next poll. -/
theorem poll_of_pending {s : Stack} {cmd : NciCmd} (h : s.tags.pending = some cmd)
    (hw : HwWrite) (junk : UInt8) :
    (s.handleEvent hw junk).1 = ⟨s.tags.issued, (s.nci.exec hw cmd).nci⟩ ∧
      ∃ status, status ≠ .ok ∧ (s.handleEvent hw junk).2 =
        .nciCmd cmd (s.nci.exec hw cmd).status (s.nci.exec hw cmd).written ::
          if (s.nci.exec hw cmd).status = nciStatusOk then []
          else [failureCall s.tags.id.answer s.tags.id status] := by
  cases poll_cases s hw junk with
  | issued issuedCmd pending stack_eq out_eq =>
      obtain rfl : cmd = issuedCmd := Option.some.inj (h.symm.trans pending)
      exact ⟨stack_eq, out_eq⟩
  | idle pending _ _ => exact absurd (h.symm.trans pending) nofun
  | deactivated pending _ _ _ _ => exact absurd (h.symm.trans pending) nofun
  | failed pending _ _ _ _ => exact absurd (h.symm.trans pending) nofun

/-- The same, said of the whole poll. -/
theorem poll_not_due {s : Stack} (hid : s.tags.id = .dump) (hstate : s.tags.state = .dump)
    (hintf : s.tags.pTagIntf = some .tag2) (htag2 : s.tags.tag2.state ≠ .dump) (hw : HwWrite)
    (junk : UInt8) :
    s.handleEvent hw junk =
      (s, if s.tags.tag2.state = .dumpRsp ∨ junk = nciStatusOk then []
        else [failureCall .cbDump .dump (NfcTagsIntf.translateNciStatus junk)]) := by
  simp only [Stack.handleEvent, hid]
  exact handleDump_not_due hstate hintf htag2 hw junk

/-- The pending commands have valid parameters. -/
theorem pending_paramsOk {t : NfcTags} {cmd : NciCmd} (h : t.pending = some cmd) :
    cmd.ParamsOk := by
  cases pending_cases h with
  | coreReset => exact Or.inl rfl
  | discoverMap => exact Option.some_ne_none _
  | discover => exact ⟨by decide, Option.some_ne_none _⟩
  | _ => trivial

/-- In the state its guard asks for, a pending command is sent without a report. -/
theorem poll_sent {s : Stack} {cmd : NciCmd} (h : s.tags.pending = some cmd)
    (hguard : s.nci.state = cmd.guard) (junk : UInt8) :
    s.handleEvent acceptAll junk =
      (⟨s.tags.issued, (s.nci.exec acceptAll cmd).nci⟩,
        [.nciCmd cmd nciStatusOk (s.nci.exec acceptAll cmd).written]) := by
  obtain ⟨hstack, _, -, hout⟩ := poll_of_pending h acceptAll junk
  rw [exec_acceptAll hguard (pending_paramsOk h), if_pos rfl] at hout
  exact Prod.ext hstack hout

/-- A poll leaves the state of `NfcNci` alone. -/
theorem poll_nci_state (s : Stack) (hw : HwWrite) (junk : UInt8) :
    (s.handleEvent hw junk).1.nci.state = s.nci.state := by
  cases poll_cases s hw junk with
  | issued cmd _ stack_eq _ => rw [stack_eq, exec_state]
  | idle _ stack_eq _ => rw [stack_eq]
  | deactivated _ _ _ stack_eq _ => rw [stack_eq]; rfl
  | failed _ stack_eq _ _ _ => rw [stack_eq]

end Tags
end ArduinoNfc
