import ArduinoNfc.Nci.Calls
import ArduinoNfc.Tags.TagIdentity

/-!
# The NFCID of a tag

An interface keeps no copy of the tag's identifier: `getNfcidLen` and `getNfcidBuf`
follow the pointer that `initTag` stored, which leads to the one record of `NfcNci`
that every activation overwrites.  `nfcid_reported` says in which runs an application
reads the identifier of the tag that is active.
-/

namespace ArduinoNfc
namespace Tags

open Foundation Nci

/-! ## The getters -/

/-- `TAGS_TYPE_*`. -/
inductive TagsType where
  | type1
  | type2
  | type3
  | type4
  | mifare
  deriving DecidableEq, Repr

/-- The number of a tag type. -/
def TagsType.code : TagsType → Nat
  | .type1 => 1
  | .type2 => 2
  | .type3 => 3
  | .type4 => 4
  | .mifare => 5

/-- The length in the record behind `_p_rf`, zero without a record. -/
def nfcidLen : Option NciRfIntf → UInt8
  | none => 0
  | some rf => rf.specific.pollA.nfcidLen

/-- The array in the record behind `_p_rf`, named by that pointer. -/
def nfcidBuf (pRf : DataPtr) : Option DataPtr := if pRf ≠ .null then some pRf else none

namespace NfcTagsIntfType2

def getType (_ : NfcTagsIntfType2) : TagsType := .type2

def getNfcidLen (t : NfcTagsIntfType2) (rfAt : DataPtr → Option NciRfIntf) : UInt8 :=
  nfcidLen (rfAt t.pRf)

def getNfcidBuf (t : NfcTagsIntfType2) : Option DataPtr := nfcidBuf t.pRf

end NfcTagsIntfType2

namespace NfcTagsIntfMifare

def getType (_ : NfcTagsIntfMifare) : TagsType := .mifare

def getNfcidLen (t : NfcTagsIntfMifare) (rfAt : DataPtr → Option NciRfIntf) : UInt8 :=
  nfcidLen (rfAt t.pRf)

def getNfcidBuf (t : NfcTagsIntfMifare) : Option DataPtr := nfcidBuf t.pRf

end NfcTagsIntfMifare

namespace Stack

/-- `pTag->getType()`. -/
def getType (s : Stack) : TagIntf → TagsType
  | .tag2 => s.tags.tag2.getType
  | .tagMifare => s.tags.tagMifare.getType

/-- `pTag->getNfcidLen()`. -/
def getNfcidLen (s : Stack) (garbage : NciRfIntf) : TagIntf → UInt8
  | .tag2 => s.tags.tag2.getNfcidLen (s.rfIntfAt garbage)
  | .tagMifare => s.tags.tagMifare.getNfcidLen (s.rfIntfAt garbage)

/-- `pTag->getNfcidBuf()`. -/
def getNfcidBuf (s : Stack) : TagIntf → Option DataPtr
  | .tag2 => s.tags.tag2.getNfcidBuf
  | .tagMifare => s.tags.tagMifare.getNfcidBuf

/-- The bytes that the two getters hand on together, zero past the end of the array. -/
def nfcid (s : Stack) (garbage : NciRfIntf) (intf : TagIntf) : List UInt8 :=
  match (s.getNfcidBuf intf).bind (s.rfIntfAt garbage) with
  | none => []
  | some rf => rf.specific.pollA.nfcid.take (s.getNfcidLen garbage intf).toNat

end Stack

/-- The identifier in an activation notification. -/
def nfcidOf (pkt : Packet) : List UInt8 :=
  (pkt.payload.drop 10).take (pkt.byte 9).toNat

/-! ## Where the pointers lead -/

/-- `_p_rf` of an interface. -/
def NfcTags.pRf (t : NfcTags) : TagIntf → DataPtr
  | .tag2 => t.tag2.pRf
  | .tagMifare => t.tagMifare.pRf

/-- `identifyTag` sets the pointer of the interface that it recognises. -/
theorem identifyTag_pRf (t : NfcTags) (data : DataPtr) (rf : Option NciRfIntf) (i : TagIntf) :
    (t.identifyTag data rf).pRf i =
      if (rf.bind fun rf => recognised rf.specific) = some i then data else t.pRf i := by
  cases rf with
  | none => rfl
  | some rf =>
      by_cases htype : rf.specific.type = nciDiscoveryTypePollA
      swap
      · simp [NfcTags.identifyTag, recognised, htype, NfcTags.pRf]
      by_cases hlen : rf.specific.pollA.nfcidLen = uidSizeDouble
      · by_cases hfirst : rf.specific.pollA.nfcidFirst = uidNxp
        · cases i <;> simp [NfcTags.identifyTag, recognised, htype, hlen, hfirst, NfcTags.pRf,
            NfcTagsIntfType2.initTag]
        · simp [NfcTags.identifyTag, recognised, htype, hlen, hfirst]
      by_cases hsel : rf.specific.pollA.selResLen = 1
      · by_cases hbits : bitMask rf.specific.pollA.selRes 3 ∧ bitMask rf.specific.pollA.selRes 4
        · cases i <;> simp [NfcTags.identifyTag, recognised, htype, hlen, hsel, hbits, NfcTags.pRf,
            NfcTagsIntfMifare.initTag]
        · simp [NfcTags.identifyTag, recognised, htype, hlen, hsel, hbits]
      · simp [NfcTags.identifyTag, recognised, htype, hlen, hsel]

/-- The tag layer after an activation notification, accepted or not. -/
theorem cbRfDiscoverNtf_pRf (s : Stack) (garbage : NciRfIntf) (status : UInt8) (id : UInt16)
    (data : DataPtr) (i : TagIntf) :
    (s.cbRfDiscoverNtf garbage status id data).1.tags.pRf i =
      if ((s.rfIntfAt garbage data).bind fun rf => recognised rf.specific) = some i then data
      else s.tags.pRf i := by
  -- the handler changes nothing else that the pointers depend on
  have hrun : ∃ t : NfcTags, t.pRf i = s.tags.pRf i ∧
      (s.cbRfDiscoverNtf garbage status id data).1.tags =
        t.identifyTag data (s.rfIntfAt garbage data) := by
    let t := s.tags.setNciResponse status id data
    by_cases hok : status = nciStatusOk ∧ id = nciIdNtfRfIntfActivated
    · refine ⟨{ t with state := .discoverActivated }, rfl, ?_⟩
      simp only [Stack.cbRfDiscoverNtf, hok.1, hok.2, if_true, Stack.withTags, t]
    · refine ⟨t, rfl, ?_⟩
      by_cases hstatus : status = nciStatusOk
      · have hid : id ≠ nciIdNtfRfIntfActivated := fun hid => hok ⟨hstatus, hid⟩
        simp only [Stack.cbRfDiscoverNtf, hstatus, hid, if_true, if_false, Stack.withTags, t]
      · simp only [Stack.cbRfDiscoverNtf, hstatus, if_false, Stack.withTags, t]
  obtain ⟨t, ht, htags⟩ := hrun
  rw [htags, identifyTag_pRf, ht]

/-- A data packet leaves the pointers alone. -/
theorem handleData_pRf (t : NfcTagsIntfType2) (nci : NfcNci) (status : UInt8) (id : UInt16)
    (data : DataPtr) : (t.handleData nci status id data).1.pRf = t.pRf := by
  unfold NfcTagsIntfType2.handleData
  cases t.id with
  | none => rfl
  | dump =>
      unfold NfcTagsIntfType2.handleDataDump
      dsimp only
      split_ifs <;> rfl

theorem cbData_pRf (s : Stack) (status : UInt8) (id : UInt16) (data : DataPtr) (i : TagIntf) :
    (s.cbData status id data).1.tags.pRf i = s.tags.pRf i := by
  by_cases hintf : s.tags.pTagIntf = some .tag2
  · rw [cbData_tag2 hintf]
    cases i with
    | tag2 => exact handleData_pRf _ _ _ _ _
    | tagMifare => rfl
  · rw [cbData_other hintf]
    rfl

/-- Only an activation notification moves them. -/
theorem callback_pRf {s : Stack} {garbage : NciRfIntf} {c : NciCall}
    (h : c.method ≠ .cbRfDiscoverNtf) (i : TagIntf) :
    (s.callback garbage c).1.tags.pRf i = s.tags.pRf i := by
  obtain ⟨method, status, id, data⟩ := c
  cases method with
  | cbRfDiscoverNtf => exact absurd rfl h
  | cbData => exact cbData_pRf _ _ _ _ _
  | cbError => rfl
  | _ =>
      simp only [Stack.callback, Stack.cbCoreReset, Stack.cbCoreInit, Stack.cbRfDiscoverMap,
        Stack.cbRfDiscover, Stack.cbRfDeactivate, Stack.cbRfDeactivateNtf]
      split_ifs <;> rfl

/-- The pointers after an activation notification: the interface that is recognised in the
record behind `_data` points there. -/
theorem receive_pRf_activation {s : Stack} (hcb : s.nci.cbRegistered = true) {pkt : Packet}
    (hcarries : pkt.Carries .ntfRfIntfActivated) (garbage : NciRfIntf) (i : TagIntf) :
    (s.receive pkt garbage).1.tags.pRf i =
      if (((s.receive pkt garbage).1.rfIntfAt garbage (s.receive pkt garbage).1.nci.data).bind
          fun rf => recognised rf.specific) = some i then
        (s.receive pkt garbage).1.nci.data
      else s.tags.pRf i := by
  have hrun : ∃ status id, s.receive pkt garbage =
      Stack.cbRfDiscoverNtf { s with nci := (s.nci.receive pkt).nci } garbage status id
        (s.nci.receive pkt).nci.data := by
    rw [Stack.receive, receive_message hcb hcarries]
    exact ⟨_, _, rfl⟩
  obtain ⟨status, id, hrun⟩ := hrun
  have hnci : (s.receive pkt garbage).1.nci = (s.nci.receive pkt).nci := by
    rw [hrun]
    rfl
  have hrecord : (s.receive pkt garbage).1.rfIntfAt garbage =
      Stack.rfIntfAt { s with nci := (s.nci.receive pkt).nci } garbage :=
    Stack.rfIntfAt_congr (congrArg NfcNci.rfIntf hnci)
  rw [hrecord, hnci, hrun]
  exact cbRfDiscoverNtf_pRf _ _ _ _ _ _

/-- Any other packet leaves them alone. -/
theorem receive_pRf_other {s : Stack} (hcb : s.nci.cbRegistered = true) {pkt : Packet}
    (h : ¬ pkt.Carries .ntfRfIntfActivated) (garbage : NciRfIntf) (i : TagIntf) :
    (s.receive pkt garbage).1.tags.pRf i = s.tags.pRf i := by
  have hmethod : ∀ c ∈ (s.nci.receive pkt).call, c.method ≠ .cbRfDiscoverNtf := by
    intro c hc
    cases receive_cases hcb pkt with
    | accepted m carries _ _ call_eq =>
        cases hc.symm.trans call_eq
        intro hm
        obtain rfl : m = .ntfRfIntfActivated := by cases m <;> first | rfl | cases hm
        exact h carries
    | refused m carries _ _ _ _ call_eq =>
        cases hc.symm.trans call_eq
        intro hm
        obtain rfl : m = .ntfRfIntfActivated := by cases m <;> first | rfl | cases hm
        exact h carries
    | data _ _ _ call_eq =>
        cases hc.symm.trans call_eq
        exact nofun
    | other _ _ _ error =>
        rw [(error c hc).1]
        decide
  cases hcall : (s.nci.receive pkt).call with
  | none =>
      simp only [Stack.receive, hcall]
  | some c =>
      simp only [Stack.receive, hcall]
      exact callback_pRf (hmethod c hcall) i

/-! ## The identifier in the record -/

theorem take_nfcid {pa : NciRfParamsPa} {pkt : Packet} {n : Nat}
    (hbyte : ∀ i (hi : i < nciRfPaNfcidLength), i < n → pa.nfcid ⟨i, hi⟩ = pkt.byte (10 + i))
    (hsize : n ≤ nciRfPaNfcidLength) (hlen : 10 + n ≤ pkt.payload.length) :
    pa.nfcid.take n = (pkt.payload.drop 10).take n := by
  apply List.ext_getElem
  · simp [ByteBuffer.take]
    omega
  · intro i hi hi'
    have hlt : i < n := by simpa [ByteBuffer.take] using hi
    have hpayload : 10 + i < pkt.payload.length := by omega
    simp [ByteBuffer.take, hlt.trans_le hsize, hbyte i (hlt.trans_le hsize) hlt, Packet.byte,
      hpayload]

/-- A notification that calls for an interface carries NFC-A parameters. -/
theorem params_of_classify {pkt : Packet} {intf : TagIntf} (h : classify pkt = some intf) :
    pkt.byte 6 ≠ 0 ∧ pkt.byte 3 = nciDiscoveryTypePollA := by
  unfold classify at h
  by_contra hnot
  rw [if_neg hnot] at h
  cases h

/-- The record of a tag that was recognised holds its identifier. -/
structure HoldsNfcid (rf : NciRfIntf) (pkt : Packet) : Prop where
  len : rf.specific.pollA.nfcidLen = pkt.byte 9
  bytes : rf.specific.pollA.nfcid.take (pkt.byte 9).toNat = nfcidOf pkt

theorem holdsNfcid_activated {pkt : Packet} (hfits : pkt.NestedFits) {intf : TagIntf}
    (hclass : classify pkt = some intf) (nci : NfcNci) (old : NciRfIntf) :
    HoldsNfcid (old.activated (nci.fill pkt).payloadByte) pkt := by
  obtain ⟨hparams, hmode⟩ := params_of_classify hclass
  obtain ⟨hsize, hlen⟩ := hfits.2 hparams hmode
  have hspecific : (old.activated pkt.byte).specific =
      old.specific.decoded pkt.byte nciDiscoveryTypePollA 7 := by
    simp [NciRfIntf.activated, hparams, hmode]
  rw [activated_payloadByte old nci hfits]
  refine ⟨?_, take_nfcid ?_ hsize (by omega)⟩
  · rw [hspecific]
    rfl
  · intro i _ hi
    rw [hspecific]
    exact if_pos hi

/-! ## Whole runs -/

/-- The receptions that keep the identifier right: those that keep the interface right, a
refused activation notification aside that finds something else than the RF interface
record behind `_data`. -/
def KeepsNfcid (s : Stack) (e : StackEvent) : Prop :=
  KeepsInterface s e ∧
    match e with
    | .receive pkt _ => pkt.Carries .ntfRfIntfActivated → ¬ s.nci.Activates pkt →
        s.nci.data = .null ∨ s.nci.data = .rfIntf
    | _ => True

instance (s : Stack) : ∀ e, Decidable (KeepsNfcid s e)
  | .app cmd => inferInstanceAs (Decidable (KeepsInterface s (.app cmd) ∧ True))
  | .poll hw junk => inferInstanceAs (Decidable (KeepsInterface s (.poll hw junk) ∧ True))
  | .receive pkt garbage =>
      inferInstanceAs (Decidable (KeepsInterface s (.receive pkt garbage) ∧ (_ → ¬ _ → _ ∨ _)))

/-- The interface of an active tag leads to the record, which holds the identifier of the
last activation. -/
def NfcidRight (s : Stack × Option Packet) : Prop :=
  ∀ intf, s.1.tags.TagActive → s.1.tags.pTagIntf = some intf →
    s.1.tags.pRf intf = .rfIntf ∧ ∃ pkt ∈ s.2, HoldsNfcid s.1.nci.rfIntf pkt

theorem NfcidRight.of_inactive {s : Stack × Option Packet} (h : ¬ s.1.tags.TagActive) :
    NfcidRight s :=
  fun _ hactive => absurd hactive h

theorem NfcidRight.congr {s t : Stack × Option Packet} (h : NfcidRight s)
    (hstate : t.1.tags.state = s.1.tags.state) (hintf : t.1.tags.pTagIntf = s.1.tags.pTagIntf)
    (hrf : ∀ i, s.1.tags.pRf i = .rfIntf → t.1.tags.pRf i = .rfIntf)
    (hrecord : t.1.nci.rfIntf = s.1.nci.rfIntf) (hlast : t.2 = s.2) : NfcidRight t := by
  intro intf hactive hi
  have hactive' : s.1.tags.TagActive := by
    unfold NfcTags.TagActive at hactive ⊢
    rwa [hstate] at hactive
  obtain ⟨hptr, hholds⟩ := h intf hactive' (hintf.symm.trans hi)
  rw [hrecord, hlast]
  exact ⟨hrf intf hptr, hholds⟩

theorem nfcid_app {s : Stack × Option Packet} (h : NfcidRight s) (cmd : AppCmd) :
    NfcidRight (recordedSystem.next s (.app cmd)) := by
  show NfcidRight (({ s.1 with tags := (s.1.tags.exec cmd).2 } : Stack), s.2)
  cases exec_cases s.1.tags cmd with
  | reset _ _ tags_eq =>
      rw [tags_eq]
      exact .of_inactive (by rintro (h | h) <;> cases h)
  | discover _ _ _ tags_eq =>
      rw [tags_eq]
      exact .of_inactive (by rintro (h | h) <;> cases h)
  | deactivate _ _ _ tags_eq =>
      rw [tags_eq]
      exact .of_inactive (by rintro (h | h) <;> cases h)
  | dump _ source _ _ _ tags_eq =>
      -- a dump writes the interface, but not its pointer
      rw [tags_eq]
      intro intf _ hi
      obtain ⟨hptr, hholds⟩ := h intf (Or.inl source) hi
      refine ⟨?_, hholds⟩
      rw [← hptr]
      cases intf <;> rfl
  | refused _ _ _ tags_eq =>
      rw [tags_eq]
      exact h

@[simp] theorem issued_pRf (t : NfcTags) (i : TagIntf) : t.issued.pRf i = t.pRf i := by
  unfold NfcTags.issued
  split_ifs
  · cases i <;> rfl
  · rfl

theorem nfcid_poll {s : Stack × Option Packet} (h : NfcidRight s) (hw : HwWrite)
    (junk : UInt8) : NfcidRight (recordedSystem.next s (.poll hw junk)) := by
  show NfcidRight ((s.1.handleEvent hw junk).1, s.2)
  cases poll_cases s.1 hw junk with
  | issued cmd _ stack_eq _ =>
      rw [stack_eq]
      exact h.congr (issued_state _) (issued_pTagIntf _)
        (fun i hi => (issued_pRf _ i).trans hi) (exec_rfIntf _ _ _) rfl
  | idle _ stack_eq _ =>
      rw [stack_eq]
      exact h
  | deactivated _ _ _ stack_eq _ =>
      rw [stack_eq]
      exact .of_inactive (by rintro (h | h) <;> cases h)
  | failed _ stack_eq _ _ _ =>
      rw [stack_eq]
      exact h

/-- An accepted activation notification writes the record and sets the pointer. -/
theorem nfcid_activation {s : Stack} (hagrees : s.Agrees) {pkt : Packet}
    (hactivates : s.nci.Activates pkt) (hfits : pkt.NestedFits) (garbage : NciRfIntf)
    {intf : TagIntf} (hclass : classify pkt = some intf) :
    (s.receive pkt garbage).1.tags.pRf intf = .rfIntf ∧
      HoldsNfcid (s.receive pkt garbage).1.nci.rfIntf pkt := by
  obtain ⟨hnci, -⟩ :=
    receive_of_accepts hagrees.registered hactivates.1 hactivates.2 garbage
  have hrecord : (s.receive pkt garbage).1.nci.rfIntf =
      s.nci.rfIntf.activated (s.nci.fill pkt).payloadByte := by
    rw [hnci]
    rfl
  have hdata : (s.receive pkt garbage).1.nci.data = .rfIntf := by
    rw [hnci, NciMsg.accepted_data]
    rfl
  have hrecognised : recognised (s.receive pkt garbage).1.nci.rfIntf.specific = some intf := by
    rw [hrecord, recognised_activated hfits (params_of_classify hclass).1, hclass]
  constructor
  · have hptr := receive_pRf_activation hagrees.registered hactivates.1 garbage intf
    rw [hdata] at hptr
    exact hptr.trans (if_pos hrecognised)
  · rw [hrecord]
    exact holdsNfcid_activated hfits hclass _ _

/-- A refused one leaves the pointer where it is, or sets it to the record. -/
theorem nfcid_refused {s : Stack} (hcb : s.nci.cbRegistered = true) {pkt : Packet}
    (hcarries : pkt.Carries .ntfRfIntfActivated) (garbage : NciRfIntf)
    (hnci : (s.receive pkt garbage).1.nci = NciMsg.ntfRfIntfActivated.refused s.nci pkt)
    (hdata : s.nci.data = .null ∨ s.nci.data = .rfIntf) (i : TagIntf)
    (hptr : s.tags.pRf i = .rfIntf) : (s.receive pkt garbage).1.tags.pRf i = .rfIntf := by
  have hkept : (s.receive pkt garbage).1.nci.data = s.nci.data := by
    rw [hnci, NciMsg.refused_data, if_neg (by rintro ⟨h, -⟩; cases h)]
  rw [receive_pRf_activation hcb hcarries garbage i, hkept]
  rcases hdata with hnull | hrf
  · rw [hnull]
    exact hptr
  · rw [hrf]
    split_ifs
    · rfl
    · exact hptr

theorem nfcid_receive {s : Stack × Option Packet} (hid : Identified s) (h : NfcidRight s)
    {pkt : Packet} {garbage : NciRfIntf} (hkeeps : KeepsNfcid s.1 (.receive pkt garbage)) :
    NfcidRight (recordedSystem.next s (.receive pkt garbage)) := by
  have hcb := hid.agrees.registered
  have hnext := right_receive hid hkeeps.1
  show NfcidRight ((s.1.receive pkt garbage).1, lastActivation s.1 (.receive pkt garbage) s.2)
  have hother : ¬ pkt.Carries .ntfRfIntfActivated → ∀ i, s.1.tags.pRf i = .rfIntf →
      (s.1.receive pkt garbage).1.tags.pRf i = .rfIntf := fun hnot i hi =>
    (receive_pRf_other hcb hnot garbage i).trans hi
  cases stack_receive_cases hcb pkt garbage with
  | accepted m carries accepts nci_eq state_eq _ _ _ _ =>
      by_cases hm : m = .ntfRfIntfActivated
      · subst hm
        have hactivates : s.1.nci.Activates pkt := ⟨carries, accepts⟩
        intro intf hactive hintf
        -- the interface is the one that the notification calls for
        obtain ⟨last, hlast, hclass⟩ := hnext.active hactive
        obtain rfl : pkt = last := Option.some.inj ((if_pos hactivates).symm.trans hlast)
        obtain ⟨hptr, hholds⟩ := nfcid_activation hid.agrees hactivates (hkeeps.1.1 hactivates).1
          garbage (hclass.symm.trans hintf)
        exact ⟨hptr, pkt, hlast, hholds⟩
      · refine .of_inactive ?_
        unfold NfcTags.TagActive
        rw [state_eq]
        cases m <;> first | exact absurd rfl hm | exact of_decide_eq_true rfl
  | refused m carries refuses nci_eq state_eq _ _ intf_eq _ _ _ =>
      have hnot : ¬ s.1.nci.Activates pkt := fun hact =>
        refuses (carries.unique hact.1 ▸ hact.2)
      refine h.congr state_eq (kept_refused hkeeps.1 carries refuses nci_eq intf_eq) ?_ ?_
        (if_neg hnot)
      · by_cases hm : m = .ntfRfIntfActivated
        · subst hm
          exact nfcid_refused hcb carries garbage nci_eq (hkeeps.2 carries hnot)
        · exact hother fun hc => hm (carries.unique hc)
      · rw [nci_eq, NciMsg.refused_rfIntf]
  | chunk isData _ nci_eq _ state_eq _ intf_eq _ =>
      exact h.congr state_eq intf_eq (hother fun hc => hc.not_isData isData)
        (by rw [nci_eq]; rfl) (if_neg fun hact : s.1.nci.Activates pkt => hact.1.not_isData isData)
  | dropped isData _ nci_eq state_eq _ _ intf_eq _ =>
      exact h.congr state_eq intf_eq (hother fun hc => hc.not_isData isData)
        (by rw [nci_eq]; rfl) (if_neg fun hact : s.1.nci.Activates pkt => hact.1.not_isData isData)
  | other noMsg _ nci_eq tags_eq _ =>
      exact h.congr (by rw [tags_eq]) (by rw [tags_eq]) (hother (noMsg _))
        (by rw [nci_eq]; rfl) (if_neg fun hact : s.1.nci.Activates pkt => noMsg _ hact.1)

theorem nfcid_next {s : Stack × Option Packet} (hid : Identified s) (h : NfcidRight s)
    {e : StackEvent} (hkeeps : KeepsNfcid s.1 e) : NfcidRight (recordedSystem.next s e) := by
  cases e with
  | app cmd => exact nfcid_app h cmd
  | poll hw junk => exact nfcid_poll h hw junk
  | receive pkt garbage => exact nfcid_receive hid h hkeeps

/-- What the getters return while the pointer leads to a record with the identifier. -/
theorem nfcid_of_holds {s : Stack} {intf : TagIntf} {pkt : Packet}
    (hptr : s.tags.pRf intf = .rfIntf) (hholds : HoldsNfcid s.nci.rfIntf pkt)
    (garbage : NciRfIntf) :
    s.getNfcidLen garbage intf = pkt.byte 9 ∧ s.nfcid garbage intf = nfcidOf pkt := by
  have hlen : s.getNfcidLen garbage intf = pkt.byte 9 := by
    rw [← hholds.len]
    cases intf with
    | tag2 => exact congrArg (fun p => nfcidLen (s.rfIntfAt garbage p)) hptr
    | tagMifare => exact congrArg (fun p => nfcidLen (s.rfIntfAt garbage p)) hptr
  have hbuf : s.getNfcidBuf intf = some .rfIntf := by
    cases intf with
    | tag2 => exact congrArg nfcidBuf hptr
    | tagMifare => exact congrArg nfcidBuf hptr
  refine ⟨hlen, ?_⟩
  rw [← hholds.bytes, Stack.nfcid, hbuf, hlen]
  rfl

/-- In a run with such receptions only, the getters of the interface of an active tag
return the identifier of the last activation. -/
theorem nfcid_reported {es : List StackEvent} (hlegal : stackSystem.Legal Stack.init es)
    (hkeeps : stackSystem.Along KeepsNfcid Stack.init es) {intf : TagIntf}
    (hactive : (stackSystem.run Stack.init es).tags.TagActive)
    (hintf : (stackSystem.run Stack.init es).tags.getInterface = some intf) :
    ∃ pkt ∈ lastActivated es, classify pkt = some intf ∧ ∀ garbage,
      (stackSystem.run Stack.init es).getNfcidLen garbage intf = pkt.byte 9 ∧
        (stackSystem.run Stack.init es).nfcid garbage intf = nfcidOf pkt := by
  have hlegal' : recordedSystem.Legal (Stack.init, none) es :=
    (LabelledSystem.withRecord_along stackSystem lastActivation none).mpr hlegal
  have hkeeps' : recordedSystem.Along (fun s e => KeepsNfcid s.1 e) (Stack.init, none) es :=
    (LabelledSystem.withRecord_along stackSystem lastActivation none).mpr hkeeps
  have hinv := LabelledSystem.run_invariant_along
    (I := fun s : Stack × Option Packet => Identified s ∧ NfcidRight s)
    (fun _ _ hs _ hk => ⟨identified_next hs.1 hk.1, nfcid_next hs.1 hs.2 hk⟩)
    ⟨identified_init, .of_inactive (by rintro (h | h) <;> cases h)⟩ hlegal' hkeeps'
  rw [recorded_run] at hinv
  obtain ⟨pkt, hpkt, hclass⟩ := hinv.1.right.active hactive
  obtain ⟨hptr, pkt', hpkt', hholds⟩ := hinv.2 intf hactive hintf
  obtain rfl : pkt = pkt' := Option.some.inj (Eq.trans (Eq.symm hpkt) hpkt')
  exact ⟨pkt, hpkt, hclass.symm.trans hintf, nfcid_of_holds hptr hholds⟩

/-- The run up to the first type 2 tag, whose identifier has seven bytes. -/
theorem nfcid_reported_type2 :
    ∃ pkt ∈ lastActivated (activationRun type2Tag), classify pkt = some .tag2 ∧ ∀ garbage,
      (stackSystem.run Stack.init (activationRun type2Tag)).getNfcidLen garbage .tag2 =
          pkt.byte 9 ∧
        (stackSystem.run Stack.init (activationRun type2Tag)).nfcid garbage .tag2 =
          nfcidOf pkt :=
  nfcid_reported (by decide +kernel) (by decide +kernel) (by decide +kernel) (by decide +kernel)

end Tags
end ArduinoNfc
