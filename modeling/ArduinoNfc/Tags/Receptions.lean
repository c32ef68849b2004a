import ArduinoNfc.Tags.System

/-!
# What one reception does to the stack

A message moves `NfcTags` exactly when `NfcNci` accepts it; whether it does or not,
the application may be told, and an activation notification reaches `identifyTag`.
`stack_receive_cases` puts this on top of `receive_cases`.
-/

namespace ArduinoNfc
namespace Tags

open Foundation Nci

/-- The state of `NfcTags` after an accepted message. -/
def targetState : NciMsg → TagsState
  | .rspCoreReset => .initInit
  | .rspCoreInit => .initDone
  | .rspRfDiscoverMap => .discover
  | .rspRfDiscover => .discoverNtf
  | .rspRfDeactivate => .deactivateRsp
  | .ntfRfIntfActivated => .discoverActivated
  | .ntfRfDeactivate => .discoverNtf

/-- The command that `NfcTags` works on after an accepted message. -/
def targetId (m : NciMsg) (id : TagsId) : TagsId :=
  if m = .ntfRfDeactivate then .discover else id

/-- The callback that reports a message, accepted or not. -/
def reportMethod : NciMsg → TagsCb
  | .rspCoreReset => .cbDeactivate
  | .rspCoreInit => .cbReset
  | .rspRfDiscoverMap => .cbDeactivate
  | .rspRfDiscover => .cbDiscover
  | .rspRfDeactivate => .cbDeactivate
  | .ntfRfIntfActivated => .cbDiscoverNtf
  | .ntfRfDeactivate => .cbDeactivate

/-- The identifier that the report of a message carries. -/
def reportId : NciMsg → TagsId
  | .rspCoreReset => .reset
  | .rspCoreInit => .reset
  | .rspRfDiscoverMap => .discover
  | .rspRfDiscover => .discover
  | .rspRfDeactivate => .deactivate
  | .ntfRfIntfActivated => .discoverActivated
  | .ntfRfDeactivate => .deactivate

/-- The acceptance of three of the responses is not reported. -/
def Reported (m : NciMsg) : Prop :=
  m ≠ .rspCoreReset ∧ m ≠ .rspRfDiscoverMap ∧ m ≠ .rspRfDeactivate

instance (m : NciMsg) : Decidable (Reported m) := inferInstanceAs (Decidable (_ ∧ _ ∧ _))

/-- The interface that the parameters of a record call for. -/
def recognised (params : NciRfParams) : Option TagIntf :=
  if params.type = nciDiscoveryTypePollA then
    if params.pollA.nfcidLen = uidSizeDouble then
      if params.pollA.nfcidFirst = uidNxp then some .tag2 else none
    else if params.pollA.selResLen = 1 ∧ bitMask params.pollA.selRes 3 ∧
        bitMask params.pollA.selRes 4 then
      some .tagMifare
    else
      none
  else
    none

/-- `_p_tagIntf` after `identifyTag`: parameters of type `POLL_A` that call for no
interface leave the old one. -/
def identified (old : Option TagIntf) : Option NciRfIntf → Option TagIntf
  | none => old
  | some rf =>
      if rf.specific.type = nciDiscoveryTypePollA then
        (recognised rf.specific).or old
      else
        none

namespace NfcTagsIntfType2

/-- The two objects differ in `_p_rf` at most. -/
def UpToRf (t u : NfcTagsIntfType2) : Prop := ∃ rf, u = t.initTag rf

variable {t u : NfcTagsIntfType2}

theorem UpToRf.refl (t : NfcTagsIntfType2) : t.UpToRf t := ⟨t.pRf, rfl⟩

theorem UpToRf.state_eq (h : t.UpToRf u) : u.state = t.state := by
  obtain ⟨rf, rfl⟩ := h
  rfl

theorem UpToRf.id_eq (h : t.UpToRf u) : u.id = t.id := by
  obtain ⟨rf, rfl⟩ := h
  rfl

theorem UpToRf.block_eq (h : t.UpToRf u) : u.block = t.block := by
  obtain ⟨rf, rfl⟩ := h
  rfl

end NfcTagsIntfType2

/-- What `identifyTag` leaves alone, and what it does to the interface. -/
theorem identifyTag_spec (t : NfcTags) (data : DataPtr) (rf : Option NciRfIntf) :
    (t.identifyTag data rf).state = t.state ∧
      (t.identifyTag data rf).id = t.id ∧
      t.tag2.UpToRf (t.identifyTag data rf).tag2 ∧
      (t.identifyTag data rf).pTagIntf = identified t.pTagIntf rf := by
  have hrefl := NfcTagsIntfType2.UpToRf.refl t.tag2
  cases rf with
  | none => exact ⟨rfl, rfl, hrefl, rfl⟩
  | some rf =>
      by_cases htype : rf.specific.type = nciDiscoveryTypePollA
      swap
      · simp [NfcTags.identifyTag, identified, htype, hrefl]
      by_cases hlen : rf.specific.pollA.nfcidLen = uidSizeDouble
      · by_cases hfirst : rf.specific.pollA.nfcidFirst = uidNxp
        · have hrf : t.tag2.UpToRf (t.tag2.initTag data) := ⟨data, rfl⟩
          simp [NfcTags.identifyTag, identified, recognised, htype, hlen, hfirst, hrf]
        · simp [NfcTags.identifyTag, identified, recognised, htype, hlen, hfirst, hrefl]
      by_cases hsel : rf.specific.pollA.selResLen = 1
      · by_cases hbits : bitMask rf.specific.pollA.selRes 3 ∧ bitMask rf.specific.pollA.selRes 4
        · simp [NfcTags.identifyTag, identified, recognised, htype, hlen, hsel, hbits, hrefl]
        · simp [NfcTags.identifyTag, identified, recognised, htype, hlen, hsel, hbits, hrefl]
      · simp [NfcTags.identifyTag, identified, recognised, htype, hlen, hsel, hrefl]

/-- What one reception does to the stack. -/
inductive StackReceived (s : Stack) (pkt : Packet) (garbage : NciRfIntf)
    (r : Stack × List StackOutput) : Prop where
  /-- A message that `NfcNci` accepts. -/
  | accepted (m : NciMsg) (carries : pkt.Carries m) (accepts : m.Accepts s.nci.state pkt)
      (nci_eq : r.1.nci = m.accepted s.nci pkt)
      (state_eq : r.1.tags.state = targetState m)
      (id_eq : r.1.tags.id = targetId m s.tags.id)
      (tag2_eq : s.tags.tag2.UpToRf r.1.tags.tag2)
      (intf_eq : r.1.tags.pTagIntf =
        if m = .ntfRfIntfActivated then identified s.tags.pTagIntf (some r.1.nci.rfIntf)
        else s.tags.pTagIntf)
      (out_eq : r.2 =
        if Reported m then [.call ⟨reportMethod m, .ok, reportId m, none⟩ []] else [])
  /-- A message that `NfcNci` refuses: its failure is reported. -/
  | refused (m : NciMsg) (carries : pkt.Carries m) (refuses : ¬ m.Accepts s.nci.state pkt)
      (nci_eq : r.1.nci = m.refused s.nci pkt)
      (state_eq : r.1.tags.state = s.tags.state) (id_eq : r.1.tags.id = s.tags.id)
      (tag2_eq : s.tags.tag2.UpToRf r.1.tags.tag2)
      (intf_eq : r.1.tags.pTagIntf =
        if m = .ntfRfIntfActivated then
          identified s.tags.pTagIntf (r.1.rfIntfAt garbage r.1.nci.data)
        else s.tags.pTagIntf)
      (status : TagsStatus) (failed : status ≠ .ok)
      (out_eq : r.2 = [failureCall (reportMethod m) (reportId m) status])
  /-- A data packet that the type 2 interface handles. -/
  | chunk (isData : pkt.IsData) (intf : s.tags.pTagIntf = some .tag2)
      (nci_eq : r.1.nci = s.nci.handOn pkt) (id : UInt16)
      (state_eq : r.1.tags.state = s.tags.state) (id_eq : r.1.tags.id = s.tags.id)
      (intf_eq : r.1.tags.pTagIntf = s.tags.pTagIntf)
      (run_eq : (r.1.tags.tag2, r.2) =
        s.tags.tag2.handleData r.1.nci nciStatusOk id (.rxBuf 2))
  /-- A data packet for nobody. -/
  | dropped (isData : pkt.IsData) (intf : s.tags.pTagIntf ≠ some .tag2)
      (nci_eq : r.1.nci = s.nci.handOn pkt)
      (state_eq : r.1.tags.state = s.tags.state) (id_eq : r.1.tags.id = s.tags.id)
      (tag2_eq : r.1.tags.tag2 = s.tags.tag2) (intf_eq : r.1.tags.pTagIntf = s.tags.pTagIntf)
      (out_eq : r.2 = [])
  /-- A packet that reaches no parser. -/
  | other (noMsg : ∀ m, ¬ pkt.Carries m) (noData : ¬ pkt.IsData)
      (nci_eq : r.1.nci = s.nci.fill pkt) (tags_eq : r.1.tags = s.tags) (out_eq : r.2 = [])

/-- An accepted message, as `NfcTags` sees it. -/
theorem callback_accepted {s : Stack} {garbage : NciRfIntf} (m : NciMsg)
    (r : Stack × List StackOutput)
    (hr : s.callback garbage ⟨m.method, nciStatusOk, m.id, m.object⟩ = r) :
    r.1.nci = s.nci ∧ r.1.tags.state = targetState m ∧ r.1.tags.id = targetId m s.tags.id ∧
      s.tags.tag2.UpToRf r.1.tags.tag2 ∧
      r.1.tags.pTagIntf =
        (if m = .ntfRfIntfActivated then identified s.tags.pTagIntf (some s.nci.rfIntf)
        else s.tags.pTagIntf) ∧
      r.2 = if Reported m then [.call ⟨reportMethod m, .ok, reportId m, none⟩ []] else [] := by
  have hrefl := NfcTagsIntfType2.UpToRf.refl s.tags.tag2
  subst hr
  cases m with
  | ntfRfIntfActivated =>
      let t : NfcTags := { s.tags.setNciResponse nciStatusOk nciIdNtfRfIntfActivated .rfIntf with
        state := .discoverActivated }
      obtain ⟨hstate, hid, htag2, hintf⟩ :=
        identifyTag_spec t .rfIntf (some s.nci.rfIntf)
      exact ⟨rfl, hstate, hid, htag2, hintf, rfl⟩
  | _ => exact ⟨rfl, rfl, rfl, hrefl, rfl, rfl⟩

/-- A refused message, as `NfcTags` sees it. -/
theorem callback_refused {s : Stack} {garbage : NciRfIntf} (m : NciMsg) {status : UInt8}
    (hstatus : status ≠ nciStatusOk) (data : DataPtr) (r : Stack × List StackOutput)
    (hr : s.callback garbage ⟨m.method, status, m.id, data⟩ = r) :
    r.1.nci = s.nci ∧ r.1.tags.state = s.tags.state ∧ r.1.tags.id = s.tags.id ∧
      s.tags.tag2.UpToRf r.1.tags.tag2 ∧
      r.1.tags.pTagIntf =
        (if m = .ntfRfIntfActivated then
          identified s.tags.pTagIntf (s.rfIntfAt garbage data)
        else s.tags.pTagIntf) ∧
      r.2 = [failureCall (reportMethod m) (reportId m) (NfcTags.translateNciStatus status)] := by
  have hrefl := NfcTagsIntfType2.UpToRf.refl s.tags.tag2
  subst hr
  cases m with
  | rspCoreReset =>
      simp [Stack.callback, NciMsg.method, Stack.cbCoreReset, hstatus, hrefl, Stack.withTags,
        NfcTags.setNciResponse, Stack.calls, failureCall, reportMethod, reportId]
  | rspCoreInit =>
      simp [Stack.callback, NciMsg.method, Stack.cbCoreInit, hstatus, hrefl, Stack.withTags,
        NfcTags.setNciResponse, Stack.calls, failureCall, reportMethod, reportId]
  | rspRfDiscoverMap =>
      simp [Stack.callback, NciMsg.method, Stack.cbRfDiscoverMap, hstatus, hrefl,
        Stack.withTags, NfcTags.setNciResponse, Stack.calls, failureCall, reportMethod, reportId]
  | rspRfDiscover =>
      simp [Stack.callback, NciMsg.method, Stack.cbRfDiscover, hstatus, hrefl, Stack.withTags,
        NfcTags.setNciResponse, Stack.calls, failureCall, reportMethod, reportId]
  | rspRfDeactivate =>
      simp [Stack.callback, NciMsg.method, Stack.cbRfDeactivate, hstatus, hrefl,
        Stack.withTags, NfcTags.setNciResponse, Stack.calls, failureCall, reportMethod, reportId]
  | ntfRfIntfActivated =>
      obtain ⟨hstate, hid, htag2, hintf⟩ := identifyTag_spec
        (s.tags.setNciResponse status NciMsg.ntfRfIntfActivated.id data) data
        (s.rfIntfAt garbage data)
      have hrun : s.callback garbage ⟨.cbRfDiscoverNtf, status, NciMsg.ntfRfIntfActivated.id,
          data⟩ = (s.withTags ((s.tags.setNciResponse status NciMsg.ntfRfIntfActivated.id
            data).identifyTag data (s.rfIntfAt garbage data)),
            Stack.calls .cbDiscoverNtf (NfcTags.translateNciStatus status)
              .discoverActivated) := by
        simp [Stack.callback, Stack.cbRfDiscoverNtf, hstatus]
      rw [NciMsg.method, hrun]
      exact ⟨rfl, hstate, hid, htag2, hintf, rfl⟩
  | ntfRfDeactivate =>
      simp [Stack.callback, NciMsg.method, Stack.cbRfDeactivateNtf, hstatus, hrefl,
        Stack.withTags, NfcTags.setNciResponse, Stack.calls, failureCall, reportMethod, reportId]

theorem Stack.rfIntfAt_congr {s t : Stack} {garbage : NciRfIntf}
    (h : s.nci.rfIntf = t.nci.rfIntf) : s.rfIntfAt garbage = t.rfIntfAt garbage := by
  funext data
  cases data <;> simp [Stack.rfIntfAt, h]

/-- A data packet, as `NfcTags` sees it. -/
theorem cbData_tag2 {s : Stack} (hintf : s.tags.pTagIntf = some .tag2) (status : UInt8)
    (id : UInt16) (data : DataPtr) :
    s.cbData status id data =
      (s.withTags { s.tags.setNciResponse status id data with
          tag2 := (s.tags.tag2.handleData s.nci status id data).1 },
        (s.tags.tag2.handleData s.nci status id data).2) := by
  simp [Stack.cbData, NfcTags.setNciResponse, hintf]

theorem cbData_other {s : Stack} (hintf : s.tags.pTagIntf ≠ some .tag2) (status : UInt8)
    (id : UInt16) (data : DataPtr) :
    s.cbData status id data = (s.withTags (s.tags.setNciResponse status id data), []) := by
  cases h : s.tags.pTagIntf with
  | none => simp [Stack.cbData, NfcTags.setNciResponse, h]
  | some intf =>
      cases intf with
      | tag2 => exact absurd h hintf
      | tagMifare =>
          simp [Stack.cbData, NfcTags.setNciResponse, h, NfcTagsIntfMifare.handleData]

/-- Every reception is one of the five. -/
theorem stack_receive_cases {s : Stack} (hcb : s.nci.cbRegistered = true) (pkt : Packet)
    (garbage : NciRfIntf) : StackReceived s pkt garbage (s.receive pkt garbage) := by
  cases receive_cases hcb pkt with
  | accepted m carries accepts nci_eq call_eq =>
      have hrun : s.receive pkt garbage = Stack.callback { s with nci := (s.nci.receive pkt).nci }
          garbage ⟨m.method, nciStatusOk, m.id, m.object⟩ := by
        simp only [Stack.receive, call_eq]
      obtain ⟨hnci, hstate, hid, htag2, hintf, hout⟩ := callback_accepted m _ hrun.symm
      refine .accepted m carries accepts (hnci.trans nci_eq) hstate hid htag2 ?_ hout
      rw [hnci]
      exact hintf
  | refused m carries refuses nci_eq status failed call_eq =>
      have hrun : s.receive pkt garbage = Stack.callback { s with nci := (s.nci.receive pkt).nci }
          garbage ⟨m.method, status, m.id, (m.refused s.nci pkt).data⟩ := by
        simp only [Stack.receive, call_eq]
      obtain ⟨hnci, hstate, hid, htag2, hintf, hout⟩ := callback_refused m failed _ _ hrun.symm
      refine .refused m carries refuses (hnci.trans nci_eq) hstate hid htag2 ?_ _
        (tags_translate_ne_ok failed) hout
      rw [Stack.rfIntfAt_congr (congrArg NfcNci.rfIntf hnci), hnci, nci_eq]
      rw [nci_eq] at hintf
      exact hintf
  | data isData nci_eq id call_eq =>
      have hrun : s.receive pkt garbage = Stack.cbData
          { s with nci := (s.nci.receive pkt).nci } nciStatusOk id (.rxBuf 2) := by
        simp only [Stack.receive, call_eq, Stack.callback]
      by_cases hintf : s.tags.pTagIntf = some .tag2
      · rw [hrun, cbData_tag2 (s := ⟨s.tags, (s.nci.receive pkt).nci⟩) hintf]
        exact .chunk isData hintf nci_eq id rfl rfl rfl rfl
      · rw [hrun, cbData_other (s := ⟨s.tags, (s.nci.receive pkt).nci⟩) hintf]
        exact .dropped isData hintf nci_eq rfl rfl rfl rfl rfl
  | other noMsg noData nci_eq error =>
      have hrun : s.receive pkt garbage = ({ s with nci := (s.nci.receive pkt).nci }, []) := by
        cases hcall : (s.nci.receive pkt).call with
        | none => simp only [Stack.receive, hcall]
        | some c =>
            have hmethod : c.method = .cbError := (error c hcall).1
            simp only [Stack.receive, hcall, Stack.callback, hmethod]
      rw [hrun]
      exact .other noMsg noData nci_eq rfl rfl

/-- A reception is observed through calls only. -/
theorem receive_calls {s : Stack} (hcb : s.nci.cbRegistered = true) (pkt : Packet)
    (garbage : NciRfIntf) {o : StackOutput} (h : o ∈ (s.receive pkt garbage).2) :
    ∃ c bytes, o = .call c bytes := by
  cases stack_receive_cases hcb pkt garbage with
  | accepted m _ _ _ _ _ _ _ out_eq =>
      rw [out_eq] at h
      split_ifs at h
      · exact ⟨_, _, List.mem_singleton.mp h⟩
      · cases h
  | refused m _ _ _ _ _ _ _ _ _ out_eq =>
      rw [out_eq] at h
      exact ⟨_, _, List.mem_singleton.mp h⟩
  | chunk _ _ _ id _ _ _ run_eq =>
      rw [(Prod.mk.inj run_eq).2] at h
      cases hid : s.tags.tag2.id with
      | dump =>
          simp only [hid] at h
          exact ⟨_, _, List.mem_singleton.mp h⟩
      | none =>
          simp only [hid] at h
          cases h
  | dropped _ _ _ _ _ _ _ out_eq => rw [out_eq] at h; cases h
  | other _ _ _ _ out_eq => rw [out_eq] at h; cases h

/-- The reception of a message that `NfcNci` accepts. -/
theorem receive_of_accepts {s : Stack} (hcb : s.nci.cbRegistered = true) {pkt : Packet}
    {m : NciMsg} (hcarries : pkt.Carries m) (haccepts : m.Accepts s.nci.state pkt)
    (garbage : NciRfIntf) :
    (s.receive pkt garbage).1.nci = m.accepted s.nci pkt ∧
      (s.receive pkt garbage).1.tags.state = targetState m ∧
      (s.receive pkt garbage).1.tags.id = targetId m s.tags.id ∧
      (s.receive pkt garbage).2 =
        if Reported m then [.call ⟨reportMethod m, .ok, reportId m, none⟩ []] else [] := by
  cases stack_receive_cases hcb pkt garbage with
  | accepted n carries _ nci_eq state_eq id_eq _ _ out_eq =>
      obtain rfl := hcarries.unique carries
      exact ⟨nci_eq, state_eq, id_eq, out_eq⟩
  | refused n carries refuses _ _ _ _ _ _ _ _ =>
      obtain rfl := hcarries.unique carries
      exact absurd haccepts refuses
  | chunk isData _ _ _ _ _ _ _ => exact absurd isData hcarries.not_isData
  | dropped isData _ _ _ _ _ _ _ => exact absurd isData hcarries.not_isData
  | other noMsg _ _ _ _ => exact absurd hcarries (noMsg m)

end Tags
end ArduinoNfc
