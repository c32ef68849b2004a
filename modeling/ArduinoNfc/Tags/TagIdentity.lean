import ArduinoNfc.Tags.LayerAgreement

/-!
# The tag interface and the last activation

`getInterface` is meant to name the tag that the last accepted activation
notification announced, and nothing else.  The history that this speaks of is
carried along as a record of that notification.  `identifyTag` looks at a record
that may belong to an earlier tag and leaves the interface alone on some of its
branches; `tag_identity` says which receptions a run has to avoid for the
interface to stay right.
-/

namespace ArduinoNfc
namespace Tags

open Foundation Nci

/-! ## Classification -/

/-- The interface that an activation notification calls for: type 2 for a double size
NXP identifier, Mifare for bits 3 and 4 of a one byte `SEL_RES`. -/
def classify (pkt : Packet) : Option TagIntf :=
  let nfcidLen := pkt.byte 9
  if pkt.byte 6 ≠ 0 ∧ pkt.byte 3 = nciDiscoveryTypePollA then
    if nfcidLen = 7 then
      if pkt.byte 10 = 0x04 then some .tag2 else none
    else if pkt.byte (10 + nfcidLen.toNat) = 1 ∧
        bitMask (pkt.byte (11 + nfcidLen.toNat)) 3 ∧
        bitMask (pkt.byte (11 + nfcidLen.toNat)) 4 then
      some .tagMifare
    else
      none
  else
    none

theorem recognised_of_type_ne {params : NciRfParams}
    (h : params.type ≠ nciDiscoveryTypePollA) : recognised params = none := if_neg h

/-- Where there was no interface, `identifyTag` sets the one that is called for. -/
theorem identified_none (rf : NciRfIntf) :
    identified none (some rf) = recognised rf.specific := by
  by_cases htype : rf.specific.type = nciDiscoveryTypePollA
  · rw [identified, if_pos htype, Option.or_none]
  · rw [identified, if_neg htype, recognised_of_type_ne htype]

/-- `identifyTag` leaves the interface as it is. -/
def Harmless (old : Option TagIntf) (rf : NciRfIntf) : Prop :=
  recognised rf.specific = old ∨
    recognised rf.specific = none ∧ rf.specific.type = nciDiscoveryTypePollA

theorem Harmless.identified {old : Option TagIntf} {rf : NciRfIntf} (h : Harmless old rf) :
    identified old (some rf) = old := by
  by_cases htype : rf.specific.type = nciDiscoveryTypePollA
  · rw [Tags.identified, if_pos htype]
    rcases h with rfl | ⟨hnone, -⟩
    · exact Option.or_self
    · rw [hnone, Option.none_or]
  · rw [Tags.identified, if_neg htype]
    rcases h with rfl | ⟨-, htype'⟩
    · exact (recognised_of_type_ne htype).symm
    · exact absurd htype' htype

/-- The parameters that a fitting notification carries are classified as the
notification is. -/
theorem recognised_activated {nci : NfcNci} {pkt : Packet} (hfits : pkt.NestedFits)
    (hparams : pkt.byte 6 ≠ 0) (old : NciRfIntf) :
    recognised (old.activated (nci.fill pkt).payloadByte).specific = classify pkt := by
  obtain ⟨houter, hinner⟩ := hfits
  have hbyte : ∀ i, i < 11 → (nci.fill pkt).payloadByte i = pkt.byte i :=
    fun i hi => payloadByte_fill nci pkt i (by omega)
  have h3 := hbyte 3 (by decide)
  have h6 := hbyte 6 (by decide)
  have h9 := hbyte 9 (by decide)
  have h10 := hbyte 10 (by decide)
  by_cases hmode : pkt.byte 3 = nciDiscoveryTypePollA
  -- the three bytes that decide lie in the payload, since the lengths fit
  · obtain ⟨-, hsel⟩ := hinner hparams hmode
    have hselLen : (nci.fill pkt).payloadByte (10 + (pkt.byte 9).toNat) =
        pkt.byte (10 + (pkt.byte 9).toNat) := payloadByte_fill nci pkt _ (by omega)
    have hspecific : (old.activated (nci.fill pkt).payloadByte).specific =
        old.specific.decoded (nci.fill pkt).payloadByte nciDiscoveryTypePollA 7 := by
      simp [NciRfIntf.activated, h6, hparams, h3, hmode]
    rw [hspecific]
    by_cases hlen : pkt.byte 9 = 7
    · simp [recognised, NciRfParams.decoded, NciRfParamsPa.nfcidFirst, uidSizeDouble, uidNxp,
        classify, hparams, hmode, h9, h10, hlen]
    by_cases hone : pkt.byte (10 + (pkt.byte 9).toNat) = 1
    · have hselRes : (nci.fill pkt).payloadByte (11 + (pkt.byte 9).toNat) =
          pkt.byte (11 + (pkt.byte 9).toNat) := by
        rw [hone] at hsel
        have h1 : (1 : UInt8).toNat = 1 := rfl
        exact payloadByte_fill nci pkt _ (by omega)
      simp [recognised, NciRfParams.decoded, uidSizeDouble, classify, hparams, hmode, h9, hlen,
        hselLen, hone, hselRes]
    · simp [recognised, NciRfParams.decoded, uidSizeDouble, classify, hparams, hmode, h9, hlen,
        hselLen, hone]
  · simp [NciRfIntf.activated, h6, hparams, NciRfParams.decoded, h3, hmode, recognised, classify]

/-- A notification without technology parameters leaves the record's as they are. -/
theorem specific_activated_zero {byte : Nat → UInt8} (h : byte 6 = 0) (old : NciRfIntf) :
    (old.activated byte).specific = old.specific := by
  simp [NciRfIntf.activated, h]

theorem classify_zero {pkt : Packet} (h : pkt.byte 6 = 0) : classify pkt = none :=
  if_neg fun hand => hand.1 h

/-! ## The invariant -/

/-- The last activation notification that `NfcNci` accepted. -/
def lastActivation (s : Stack) (e : StackEvent) (last : Option Packet) : Option Packet :=
  match e with
  | .receive pkt _ => if s.nci.Activates pkt then some pkt else last
  | _ => last

/-- The stack, with the last accepted activation notification on record. -/
abbrev recordedSystem : LabelledSystem (Stack × Option Packet) StackEvent StackOutput :=
  stackSystem.withRecord lastActivation

/-- The last activation notification that `NfcNci` accepted in a run. -/
def lastActivated (es : List StackEvent) : Option Packet :=
  (recordedSystem.run (Stack.init, none) es).2

theorem recorded_run (es : List StackEvent) :
    recordedSystem.run (Stack.init, none) es =
      (stackSystem.run Stack.init es, lastActivated es) :=
  Prod.ext (LabelledSystem.withRecord_run_fst stackSystem lastActivation Stack.init none es) rfl

/-- The interface names the tag of the last activation while a tag is activated, and
nothing otherwise. -/
structure InterfaceRight (s : Stack × Option Packet) : Prop where
  inactive : ¬ s.1.tags.TagActive → s.1.tags.getInterface = none
  active : s.1.tags.TagActive → ∃ pkt ∈ s.2, s.1.tags.getInterface = classify pkt

/-- An activation notification that is rejected or malformed does not change the
interface. -/
def InterfaceKept (s : Stack) (e : StackEvent) : Prop :=
  ∀ pkt garbage, e = .receive pkt garbage → pkt.Carries .ntfRfIntfActivated →
    ¬ (s.nci.Activates pkt ∧ pkt.NestedFits) →
      (stackSystem.next s e).tags.getInterface = s.tags.getInterface

/-- The receptions that keep the interface right: an accepted activation notification has
fitting lengths and, if it carries no technology parameters, finds none on record that
call for an interface; a refused one finds nothing behind `_data` that would change the
interface; and a successful `RF_DEACTIVATE` response is accepted without an interface. -/
def KeepsInterface (s : Stack) : StackEvent → Prop
  | .receive pkt garbage =>
      (s.nci.Activates pkt →
        pkt.NestedFits ∧ (pkt.byte 6 = 0 → recognised s.nci.rfIntf.specific = none)) ∧
      (pkt.Carries .ntfRfIntfActivated → ¬ s.nci.Activates pkt →
        ∀ rf ∈ s.rfIntfAt garbage s.nci.data, Harmless s.tags.pTagIntf rf) ∧
      (pkt.Carries .rspRfDeactivate → NciMsg.rspRfDeactivate.Accepts s.nci.state pkt →
        s.tags.pTagIntf = none)
  | _ => True

instance (old : Option TagIntf) (rf : NciRfIntf) : Decidable (Harmless old rf) :=
  inferInstanceAs (Decidable (_ ∨ _ ∧ _))

instance (s : Stack) : ∀ e, Decidable (KeepsInterface s e)
  | .app _ => isTrue trivial
  | .poll _ _ => isTrue trivial
  | .receive _ _ => inferInstanceAs (Decidable ((_ → _ ∧ (_ → _)) ∧ (_ → ¬ _ → _) ∧ (_ → _ → _)))

/-- The layers agree, and the interface is right. -/
structure Identified (s : Stack × Option Packet) : Prop where
  agrees : s.1.Agrees
  right : InterfaceRight s

/-- Without an active tag, an interface is right when there is none. -/
theorem InterfaceRight.of_inactive {s : Stack × Option Packet} (hstate : ¬ s.1.tags.TagActive)
    (hintf : s.1.tags.pTagIntf = none) : InterfaceRight s :=
  ⟨fun _ => hintf, fun h => absurd h hstate⟩

theorem InterfaceRight.congr {s t : Stack × Option Packet} (h : InterfaceRight s)
    (hstate : t.1.tags.state = s.1.tags.state)
    (hintf : t.1.tags.pTagIntf = s.1.tags.pTagIntf) (hlast : t.2 = s.2) : InterfaceRight t where
  inactive := by
    intro hactive
    exact hintf.trans (h.inactive fun hs => hactive (by unfold NfcTags.TagActive; rwa [hstate]))
  active := by
    intro hactive
    rw [hlast]
    obtain ⟨pkt, hpkt, hclass⟩ :=
      h.active (by unfold NfcTags.TagActive at hactive; rwa [hstate] at hactive)
    exact ⟨pkt, hpkt, hintf.trans hclass⟩

theorem identified_init : Identified (Stack.init, none) where
  agrees := agrees_init
  right := .of_inactive (by rintro (h | h) <;> cases h) rfl

theorem right_app {s : Stack × Option Packet} (h : Identified s) (cmd : AppCmd) :
    InterfaceRight (recordedSystem.next s (.app cmd)) := by
  show InterfaceRight (({ s.1 with tags := (s.1.tags.exec cmd).2 } : Stack), s.2)
  cases exec_cases s.1.tags cmd with
  | reset _ _ tags_eq =>
      rw [tags_eq]
      exact .of_inactive (by rintro (h | h) <;> cases h) rfl
  | discover _ source _ tags_eq =>
      -- `cmdDiscover` does not clear the interface: there is none outside of an activation
      have hintf : s.1.tags.pTagIntf = none :=
        h.right.inactive (by rintro (h | h) <;> exact absurd (source.symm.trans h) nofun)
      rw [tags_eq]
      exact .of_inactive (by rintro (h | h) <;> cases h) hintf
  | deactivate _ _ _ tags_eq =>
      rw [tags_eq]
      exact .of_inactive (by rintro (h | h) <;> cases h) rfl
  | dump _ source _ _ _ tags_eq =>
      rw [tags_eq]
      exact ⟨fun hnot => absurd (Or.inr rfl) hnot, fun _ => h.right.active (Or.inl source)⟩
  | refused _ _ _ tags_eq =>
      rw [tags_eq]
      exact h.right

theorem right_poll {s : Stack × Option Packet} (h : Identified s) (hw : HwWrite)
    (junk : UInt8) : InterfaceRight (recordedSystem.next s (.poll hw junk)) := by
  show InterfaceRight ((s.1.handleEvent hw junk).1, s.2)
  cases poll_cases s.1 hw junk with
  | issued cmd _ stack_eq _ =>
      rw [stack_eq]
      exact h.right.congr (issued_state _) (issued_pTagIntf _) rfl
  | idle _ stack_eq _ =>
      rw [stack_eq]
      exact h.right
  | deactivated _ _ state_eq _ _ => exact absurd (Or.inl state_eq) h.agrees.used
  | failed _ stack_eq _ _ _ =>
      rw [stack_eq]
      exact h.right

/-- A refused message leaves the interface as it is. -/
theorem kept_refused {s : Stack} {pkt : Packet} {garbage : NciRfIntf} {m : NciMsg}
    (hkeeps : KeepsInterface s (.receive pkt garbage)) (carries : pkt.Carries m)
    (refuses : ¬ m.Accepts s.nci.state pkt)
    (nci_eq : (s.receive pkt garbage).1.nci = m.refused s.nci pkt)
    (intf_eq : (s.receive pkt garbage).1.tags.pTagIntf =
      if m = .ntfRfIntfActivated then
        identified s.tags.pTagIntf ((s.receive pkt garbage).1.rfIntfAt garbage
          (s.receive pkt garbage).1.nci.data)
      else s.tags.pTagIntf) :
    (s.receive pkt garbage).1.tags.pTagIntf = s.tags.pTagIntf := by
  by_cases hm : m = .ntfRfIntfActivated
  swap
  · rw [intf_eq, if_neg hm]
  subst hm
  have hrecord : (s.receive pkt garbage).1.rfIntfAt garbage = s.rfIntfAt garbage :=
    Stack.rfIntfAt_congr (by rw [nci_eq, NciMsg.refused_rfIntf])
  have hdata : (s.receive pkt garbage).1.nci.data = s.nci.data := by
    rw [nci_eq, NciMsg.refused_data, if_neg (by rintro ⟨h, -⟩; cases h)]
  rw [intf_eq, if_pos rfl, hrecord, hdata]
  -- `identifyTag` is called all the same, on whatever `_data` was left at
  cases hrf : s.rfIntfAt garbage s.nci.data with
  | none => rfl
  | some rf => exact (hkeeps.2.1 carries (fun h => refuses h.2) rf hrf).identified

theorem right_receive {s : Stack × Option Packet} (h : Identified s) {pkt : Packet}
    {garbage : NciRfIntf} (hkeeps : KeepsInterface s.1 (.receive pkt garbage)) :
    InterfaceRight (recordedSystem.next s (.receive pkt garbage)) := by
  show InterfaceRight ((s.1.receive pkt garbage).1, lastActivation s.1 (.receive pkt garbage) s.2)
  cases stack_receive_cases h.agrees.registered pkt garbage with
  | accepted m carries accepts nci_eq state_eq _ _ intf_eq _ =>
      by_cases hm : m = .ntfRfIntfActivated
      · subst hm
        have hactivates : s.1.nci.Activates pkt := ⟨carries, accepts⟩
        -- an activation is accepted in discovery only, where no tag is active
        have hold : s.1.tags.pTagIntf = none :=
          h.right.inactive fun hactive => absurd (accepts_active h.agrees hactive accepts) nofun
        obtain ⟨hfits, hretained⟩ := hkeeps.1 hactivates
        refine ⟨fun hnot => absurd (Or.inl state_eq) hnot, fun _ => ⟨pkt, if_pos hactivates, ?_⟩⟩
        have hintf : (s.1.receive pkt garbage).1.tags.pTagIntf = recognised
            (s.1.nci.rfIntf.activated (s.1.nci.fill pkt).payloadByte).specific := by
          rw [intf_eq, if_pos rfl, hold, identified_none, nci_eq]
          rfl
        refine hintf.trans ?_
        -- without parameters, the record still has those of an earlier notification
        by_cases hparams : pkt.byte 6 = 0
        · have hbyte : (s.1.nci.fill pkt).payloadByte 6 = 0 :=
            (payloadByte_fill s.1.nci pkt 6 (lt_of_lt_of_le (by decide) accepts.2)).trans hparams
          rw [specific_activated_zero hbyte, hretained hparams, classify_zero hparams]
        · exact recognised_activated hfits hparams _
      · -- every other message leaves the active states, if it finds one
        have hold : s.1.tags.pTagIntf = none := by
          by_cases hactive : s.1.tags.TagActive
          · obtain rfl := accepts_active h.agrees hactive accepts
            exact hkeeps.2.2 carries accepts
          · exact h.right.inactive hactive
        refine .of_inactive ?_ (by rw [intf_eq, if_neg hm, hold])
        unfold NfcTags.TagActive
        rw [state_eq]
        cases m <;> first | exact absurd rfl hm | exact of_decide_eq_true rfl
  | refused m carries refuses nci_eq state_eq _ _ intf_eq _ _ _ =>
      refine h.right.congr state_eq (kept_refused hkeeps carries refuses nci_eq intf_eq) ?_
      exact if_neg fun hact : s.1.nci.Activates pkt => refuses (carries.unique hact.1 ▸ hact.2)
  | chunk isData _ _ _ state_eq _ intf_eq _ =>
      exact h.right.congr state_eq intf_eq
        (if_neg fun hact : s.1.nci.Activates pkt => hact.1.not_isData isData)
  | dropped isData _ _ state_eq _ _ intf_eq _ =>
      exact h.right.congr state_eq intf_eq
        (if_neg fun hact : s.1.nci.Activates pkt => hact.1.not_isData isData)
  | other noMsg _ _ tags_eq _ =>
      exact h.right.congr (by rw [tags_eq]) (by rw [tags_eq])
        (if_neg fun hact : s.1.nci.Activates pkt => noMsg _ hact.1)

theorem identified_next {s : Stack × Option Packet} (h : Identified s) {e : StackEvent}
    (hkeeps : KeepsInterface s.1 e) : Identified (recordedSystem.next s e) where
  agrees := agrees_next h.agrees e
  right := by
    cases e with
    | app cmd => exact right_app h cmd
    | poll hw junk => exact right_poll h hw junk
    | receive pkt garbage => exact right_receive h hkeeps

/-- A step of such a run does not let a rejected or malformed notification change the
interface. -/
theorem kept_step {s : Stack} (h : s.Agrees) {e : StackEvent} (hkeeps : KeepsInterface s e) :
    InterfaceKept s e := by
  rintro pkt garbage rfl carries hbad
  have hnot : ¬ s.nci.Activates pkt := fun hact => hbad ⟨hact, (hkeeps.1 hact).1⟩
  cases stack_receive_cases h.registered pkt garbage with
  | accepted m hcarries accepts _ _ _ _ _ _ =>
      obtain rfl := carries.unique hcarries
      exact absurd ⟨carries, accepts⟩ hnot
  | refused m hcarries refuses nci_eq _ _ _ intf_eq _ _ _ =>
      exact kept_refused hkeeps hcarries refuses nci_eq intf_eq
  | chunk isData _ _ _ _ _ _ _ => exact absurd isData carries.not_isData
  | dropped isData _ _ _ _ _ _ _ => exact absurd isData carries.not_isData
  | other noMsg _ _ _ _ => exact absurd carries (noMsg _)

/-- In a run with such receptions only, the interface is right in every state, and no
rejected or malformed notification changes it. -/
theorem tag_identity {es : List StackEvent} (hlegal : stackSystem.Legal Stack.init es)
    (hkeeps : stackSystem.Along KeepsInterface Stack.init es) :
    InterfaceRight (stackSystem.run Stack.init es, lastActivated es) ∧
      stackSystem.Along InterfaceKept Stack.init es := by
  have hlegal' : recordedSystem.Legal (Stack.init, none) es :=
    (LabelledSystem.withRecord_along stackSystem lastActivation none).mpr hlegal
  have hkeeps' : recordedSystem.Along (fun s e => KeepsInterface s.1 e) (Stack.init, none) es :=
    (LabelledSystem.withRecord_along stackSystem lastActivation none).mpr hkeeps
  constructor
  · rw [← recorded_run]
    exact (LabelledSystem.run_invariant_along (I := Identified)
      (fun _ _ hs _ => identified_next hs) identified_init hlegal' hkeeps').right
  · exact LabelledSystem.along_of_invariant (I := Stack.Agrees)
      (fun _ e hs _ _ => agrees_next hs e) (fun _ _ hs _ => kept_step hs) agrees_init hlegal
      hkeeps

/-- The run up to the first type 2 tag. -/
theorem tag_identity_first :
    InterfaceRight (stackSystem.run Stack.init (activationRun type2Tag),
      lastActivated (activationRun type2Tag)) :=
  (tag_identity (by decide +kernel) (by decide +kernel)).1

/-- A type 2 tag is deactivated, and a tag without technology parameters follows it. -/
def staleRun : List StackEvent :=
  activationRun type2Tag ++ .app .cmdDeactivate :: answered .rspRfDeactivate ++
    [.receive (.minimal .ntfRfDeactivate) NciRfIntf.zero,
      .receive (.minimal .ntfRfIntfActivated) NciRfIntf.zero]

/-- The second tag is taken for the type 2 tag before it. -/
theorem tag_identity_counterexample :
    ¬ ∀ es, stackSystem.Legal Stack.init es →
      InterfaceRight (stackSystem.run Stack.init es, lastActivated es) := by
  intro h
  obtain ⟨pkt, hpkt, hintf⟩ := (h staleRun (by decide +kernel)).active (by decide +kernel)
  have hlast : (lastActivated staleRun).map classify = some none := by decide +kernel
  have hstale : (stackSystem.run Stack.init staleRun).tags.getInterface = some .tag2 := by
    decide +kernel
  have hsome : lastActivated staleRun = some pkt := hpkt
  rw [hsome, Option.map_some, Option.some_inj] at hlast
  exact absurd (hstale.symm.trans (hintf.trans hlast)) nofun

end Tags
end ArduinoNfc
