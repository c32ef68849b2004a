import ArduinoNfc.Tags.LayerAgreement

/-!
# Every callback answers its own command

The application tells its commands apart by the callback that is called and by
the identifier that comes with it.  Two of the notification sites, both on error
paths, pair an identifier with the callback of another command;
`callback_pairing_iff` says that a run shows it exactly when it takes one of
them.
-/

namespace ArduinoNfc
namespace Tags

open Foundation Nci

/-- The callback belongs to the command that the identifier names. -/
def TagsCall.Paired (c : TagsCall) : Prop :=
  (c.method, c.id) ∈ [(TagsCb.cbReset, TagsId.reset), (.cbDiscover, .discover),
    (.cbDiscoverNtf, .discoverActivated), (.cbDeactivate, .deactivate), (.cbDump, .dump)]

instance (c : TagsCall) : Decidable c.Paired := inferInstanceAs (Decidable (_ ∈ _))

/-- The callback that the interface comments promise for a message. -/
def promised : NciMsg → TagsCb × TagsId
  | .rspCoreReset => (.cbReset, .reset)
  | .rspCoreInit => (.cbReset, .reset)
  | .rspRfDiscoverMap => (.cbDiscover, .discover)
  | .rspRfDiscover => (.cbDiscover, .discover)
  | .rspRfDeactivate => (.cbDeactivate, .deactivate)
  | .ntfRfIntfActivated => (.cbDiscoverNtf, .discoverActivated)
  | .ntfRfDeactivate => (.cbDeactivate, .deactivate)

/-- The calls of a step are paired, and a message that fails is reported through the
promised callback. -/
structure Pairs (s : Stack) (e : StackEvent) : Prop where
  paired : ∀ c bytes, .call c bytes ∈ stackSystem.emit s e → c.Paired
  failures : ∀ pkt garbage m, e = .receive pkt garbage → pkt.Carries m →
    ¬ m.Accepts s.nci.state pkt →
      ∃ status, status ≠ .ok ∧ stackSystem.emit s e =
        [failureCall (promised m).1 (promised m).2 status]

/-- The step handles no failing response to `CORE_RESET` or `RF_DISCOVER_MAP`. -/
def NoFailingResponse (s : Stack) : StackEvent → Prop
  | .receive pkt _ => ∀ m, m = .rspCoreReset ∨ m = .rspRfDiscoverMap → pkt.Carries m →
      m.Accepts s.nci.state pkt
  | _ => True

theorem paired_report {m : NciMsg} (hreset : m ≠ .rspCoreReset)
    (hmap : m ≠ .rspRfDiscoverMap) (status : TagsStatus) (data : Option TagsDump) :
    TagsCall.Paired ⟨reportMethod m, status, reportId m, data⟩ := by
  cases m with
  | rspCoreReset => exact absurd rfl hreset
  | rspRfDiscoverMap => exact absurd rfl hmap
  | _ => exact of_decide_eq_true rfl

theorem promised_eq {m : NciMsg} (hreset : m ≠ .rspCoreReset)
    (hmap : m ≠ .rspRfDiscoverMap) : promised m = (reportMethod m, reportId m) := by
  cases m with
  | rspCoreReset => exact absurd rfl hreset
  | rspRfDiscoverMap => exact absurd rfl hmap
  | _ => rfl

/-- The identifiers that a handler of `NfcTags::handleEvent` reports under. -/
theorem paired_answer {id : TagsId} (h : id ≠ .none) (status : TagsStatus) :
    TagsCall.Paired ⟨id.answer, status, id, none⟩ := by
  cases id with
  | none => exact absurd rfl h
  | _ => exact of_decide_eq_true rfl

/-- A poll outside of every command is silent. -/
theorem poll_none {s : Stack} (h : s.tags.id = .none) (hw : HwWrite) (junk : UInt8) :
    s.handleEvent hw junk = (s, []) := by
  simp only [Stack.handleEvent, h]

/-- Polls pair their failures. -/
theorem paired_poll (s : Stack) (hw : HwWrite) (junk : UInt8) {c : TagsCall}
    {bytes : List UInt8} (h : .call c bytes ∈ (s.handleEvent hw junk).2) : c.Paired := by
  by_cases hid : s.tags.id = .none
  · rw [poll_none hid] at h
    cases h
  cases poll_cases s hw junk with
  | issued cmd _ _ out_eq =>
      obtain ⟨status, -, hout⟩ := out_eq
      rw [hout] at h
      have htail := (List.mem_cons.mp h).resolve_left nofun
      split_ifs at htail
      · cases htail
      · cases List.mem_singleton.mp htail
        exact paired_answer hid status
  | idle _ _ out_eq =>
      rw [out_eq] at h
      cases h
  | deactivated _ _ _ _ out_eq =>
      rw [out_eq] at h
      cases h
  | failed _ _ status _ out_eq =>
      rw [out_eq] at h
      cases List.mem_singleton.mp h
      exact paired_answer hid status

/-- The type 2 interface reports through `cbDump`. -/
theorem paired_handleData (t : NfcTagsIntfType2) (nci : NfcNci) (status : UInt8)
    (id : UInt16) (data : DataPtr) {c : TagsCall} {bytes : List UInt8}
    (h : .call c bytes ∈ (t.handleData nci status id data).2) : c.Paired := by
  unfold NfcTagsIntfType2.handleData at h
  split at h
  · cases List.mem_singleton.mp h
    exact of_decide_eq_true rfl
  · cases h

/-- A reception that refuses no message: all that is left is to pair its calls. -/
theorem pairs_of_accepts {s : Stack} {pkt : Packet} {garbage : NciRfIntf}
    (haccepts : ∀ m, pkt.Carries m → m.Accepts s.nci.state pkt)
    (hpaired : ∀ c bytes, .call c bytes ∈ (s.receive pkt garbage).2 → c.Paired) :
    Pairs s (.receive pkt garbage) ↔ NoFailingResponse s (.receive pkt garbage) := by
  refine ⟨fun _ m _ hm => haccepts m hm, fun _ => ⟨hpaired, ?_⟩⟩
  rintro _ _ m ⟨⟩ hm hnot
  exact absurd (haccepts m hm) hnot

/-- A reception that refuses a message. -/
theorem pairs_refused {s : Stack} {pkt : Packet} {garbage : NciRfIntf} {m : NciMsg}
    (carries : pkt.Carries m) (refuses : ¬ m.Accepts s.nci.state pkt) {status : TagsStatus}
    (failed : status ≠ .ok)
    (out_eq : (s.receive pkt garbage).2 = [failureCall (reportMethod m) (reportId m) status]) :
    Pairs s (.receive pkt garbage) ↔ NoFailingResponse s (.receive pkt garbage) := by
  by_cases hbad : m = .rspCoreReset ∨ m = .rspRfDiscoverMap
  · -- the two sites that report through `cbDeactivate`
    refine ⟨fun hpairs => absurd (hpairs.paired ⟨reportMethod m, status, reportId m, none⟩ []
      (by rw [emit_receive, out_eq]; exact List.mem_singleton.mpr rfl)) ?_,
      fun hnone => absurd (hnone m hbad carries) refuses⟩
    rcases hbad with rfl | rfl <;> exact of_decide_eq_false rfl
  · have hreset : m ≠ .rspCoreReset := fun h => hbad (Or.inl h)
    have hmap : m ≠ .rspRfDiscoverMap := fun h => hbad (Or.inr h)
    refine ⟨fun _ n hn hcarries => absurd (carries.unique hcarries ▸ hn) hbad, fun _ => ⟨?_, ?_⟩⟩
    · intro c bytes h
      rw [emit_receive, out_eq] at h
      cases List.mem_singleton.mp h
      exact paired_report hreset hmap status none
    · rintro _ _ n ⟨⟩ hcarries _
      obtain rfl := carries.unique hcarries
      refine ⟨status, failed, ?_⟩
      rw [emit_receive, out_eq, promised_eq hreset hmap]

/-- One step pairs its calls exactly when it handles no failing response of the two. -/
theorem pairs_iff {s : Stack} (hcb : s.nci.cbRegistered = true) (e : StackEvent) :
    Pairs s e ↔ NoFailingResponse s e := by
  cases e with
  | app cmd => exact ⟨fun _ => trivial, fun _ => ⟨fun _ _ h => absurd h List.not_mem_nil, nofun⟩⟩
  | poll hw junk =>
      exact ⟨fun _ => trivial, fun _ => ⟨fun _ _ h => paired_poll s hw junk h, nofun⟩⟩
  | receive pkt garbage =>
      cases stack_receive_cases hcb pkt garbage with
      | accepted m carries accepts _ _ _ _ _ out_eq =>
          refine pairs_of_accepts (fun n hn => carries.unique hn ▸ accepts) fun c bytes h => ?_
          rw [out_eq] at h
          split_ifs at h with hreported
          · cases List.mem_singleton.mp h
            exact paired_report hreported.1 hreported.2.1 .ok none
          · cases h
      | refused m carries refuses _ _ _ _ _ status failed out_eq =>
          exact pairs_refused carries refuses failed out_eq
      | chunk isData _ _ id _ _ _ run_eq =>
          refine pairs_of_accepts (fun n hn => absurd isData hn.not_isData) fun c bytes h => ?_
          rw [(Prod.mk.inj run_eq).2] at h
          exact paired_handleData _ _ _ _ _ h
      | dropped isData _ _ _ _ _ _ out_eq =>
          refine pairs_of_accepts (fun n hn => absurd isData hn.not_isData) fun c bytes h => ?_
          rw [out_eq] at h
          cases h
      | other noMsg _ _ _ out_eq =>
          refine pairs_of_accepts (fun n hn => absurd hn (noMsg n)) fun c bytes h => ?_
          rw [out_eq] at h
          cases h

/-- Along a run, every callback is paired with its command and every failing message
reaches the promised callback exactly when no failing response to `CORE_RESET` or
`RF_DISCOVER_MAP` is handled. -/
theorem callback_pairing_iff {es : List StackEvent} (hlegal : stackSystem.Legal Stack.init es) :
    stackSystem.Along Pairs Stack.init es ↔
      stackSystem.Along NoFailingResponse Stack.init es :=
  LabelledSystem.along_congr (I := Stack.Agrees) (fun _ e hs _ => agrees_next hs e)
    (fun _ e hs _ => pairs_iff hs.registered e) agrees_init hlegal

/-- A failing `CORE_INIT` response, which `cbReset` reports. -/
theorem callback_pairing_iff_coreInit :
    stackSystem.Along Pairs Stack.init
      [.app .cmdReset, .poll acceptAll 0, .receive (.minimal .rspCoreInit) NciRfIntf.zero] := by
  refine (callback_pairing_iff (by decide)).mpr ⟨trivial, trivial, ?_, trivial⟩
  intro m hm hcarries
  obtain rfl := (Packet.carries_minimal .rspCoreInit).unique hcarries
  rcases hm with h | h <;> cases h

/-- A `CORE_RESET` response with status `REJECTED` is reported through `cbDeactivate`. -/
theorem callback_pairing_counterexample :
    ¬ ∀ es, stackSystem.Legal Stack.init es → stackSystem.Along Pairs Stack.init es := by
  intro h
  obtain ⟨-, -, hpairs, -⟩ := h [.app .cmdReset, .poll acceptAll 0,
    .receive (.ofMsg .rspCoreReset [nciStatusRejected, 0x10, 0x00] (by decide)) NciRfIntf.zero]
    (by decide)
  have hpaired := hpairs.paired ⟨.cbDeactivate, .rejected, .reset, none⟩ []
    (List.mem_singleton.mpr rfl)
  exact absurd hpaired (by decide)

end Tags
end ArduinoNfc
