import ArduinoNfc.Nci.PacketBounds

/-!
# The data argument of the callbacks

`_data` is one pointer for all the callbacks, and a parser that gives up leaves
it as an earlier message set it.  `callback_data_iff` says in which runs this is
never visible: those in which a refused message always finds `_data` cleared.
-/

namespace ArduinoNfc
namespace Nci

open Foundation

/-- The object that a successful callback hands on; the payload of a data packet
starts at its length byte. -/
def NciCb.object : NciCb → DataPtr
  | .cbCoreReset => .reset
  | .cbRfDiscoverNtf => .rfIntf
  | .cbRfDeactivateNtf => .deactivate
  | .cbData => .rxBuf nciOffsetLen
  | _ => .null

/-- The data argument fits the status and the callback; in particular an activation
callback hands on `NULL` or an RF interface record. -/
structure NciCall.DataTyped (c : NciCall) : Prop where
  failed : c.status ≠ nciStatusOk → c.data = .null
  ok : c.status = nciStatusOk → c.data = c.method.object
  identified : c.method = .cbRfDiscoverNtf → c.data = .null ∨ c.data = .rfIntf

/-- The calls of a step are well typed. -/
def DataTyped (nci : NfcNci) (e : NciEvent) : Prop := ∀ c ∈ nciSystem.emit nci e, c.DataTyped

/-- A message that is refused finds `_data` cleared, or clears it. -/
def RefusesClean (nci : NfcNci) : NciEvent → Prop
  | .command _ _ => True
  | .receive pkt => ∀ m, pkt.Carries m → ¬ m.Accepts nci.state pkt →
      nci.data = .null ∨ m.Clears nci.state pkt

theorem NciCall.DataTyped.of_ok {c : NciCall} (hstatus : c.status = nciStatusOk)
    (hdata : c.data = c.method.object) : c.DataTyped where
  failed := fun h => absurd hstatus h
  ok := fun _ => hdata
  identified := fun h => Or.inr (by rw [hdata, h]; rfl)

theorem NciCall.DataTyped.of_null {c : NciCall} (hstatus : c.status ≠ nciStatusOk)
    (hdata : c.data = .null) : c.DataTyped where
  failed := fun _ => hdata
  ok := fun h => absurd h hstatus
  identified := fun _ => Or.inl hdata

theorem object_eq (m : NciMsg) : m.object = m.method.object := by
  cases m <;> rfl

theorem refused_data_eq_null {m : NciMsg} {nci : NfcNci} {pkt : Packet} :
    (m.refused nci pkt).data = .null ↔ nci.data = .null ∨ m.Clears nci.state pkt := by
  rw [NciMsg.refused_data]
  split_ifs with h
  · exact ⟨fun _ => Or.inr h, fun _ => rfl⟩
  · exact ⟨Or.inl, fun hor => hor.resolve_right h⟩

/-- One step is well typed exactly when it refuses nothing over a stale pointer. -/
theorem dataTyped_iff {nci : NfcNci} (hcb : nci.cbRegistered = true) (e : NciEvent) :
    DataTyped nci e ↔ RefusesClean nci e := by
  cases e with
  | command hw cmd => exact ⟨fun _ => trivial, fun _ c hc => absurd hc (List.not_mem_nil)⟩
  | receive pkt =>
      have hemit : ∀ c, c ∈ nciSystem.emit nci (.receive pkt) ↔ (nci.receive pkt).call = some c :=
        fun c => Option.mem_toList
      cases receive_cases hcb pkt with
      | accepted m carries accepts _ call_eq =>
          refine ⟨fun _ n hn hnot => absurd (carries.unique hn ▸ accepts) hnot, fun _ c hc => ?_⟩
          rw [hemit, call_eq] at hc
          cases hc
          exact .of_ok rfl (object_eq m)
      | refused m carries refuses _ status failed call_eq =>
          constructor
          · intro htyped n hn _
            obtain rfl := carries.unique hn
            exact refused_data_eq_null.mp ((htyped _ ((hemit _).mpr call_eq)).failed failed)
          · intro hclean c hc
            rw [hemit, call_eq] at hc
            cases hc
            exact .of_null failed (refused_data_eq_null.mpr (hclean m carries refuses))
      | data isData _ id call_eq =>
          refine ⟨fun _ n hn _ => absurd isData hn.not_isData, fun _ c hc => ?_⟩
          rw [hemit, call_eq] at hc
          cases hc
          exact .of_ok rfl rfl
      | other noMsg _ _ error =>
          refine ⟨fun _ n hn _ => absurd hn (noMsg n), fun _ c hc => ?_⟩
          obtain ⟨-, hstatus, hdata⟩ := error c ((hemit c).mp hc)
          exact .of_null hstatus hdata

/-- Along a run, the data arguments are well typed at every step exactly when every
message that is refused finds `_data` cleared or clears it. -/
theorem callback_data_iff {es : List NciEvent} (hlegal : nciSystem.Legal NfcNci.init es) :
    nciSystem.Along DataTyped NfcNci.init es ↔ nciSystem.Along RefusesClean NfcNci.init es :=
  LabelledSystem.along_congr (I := fun nci => nci.cbRegistered = true)
    (fun _ e hs _ => registered_next hs e) (fun _ e hs _ => dataTyped_iff hs e) rfl hlegal

/-- The run of a reset, with a response that comes too early. -/
theorem callback_data_iff_reset :
    nciSystem.Along DataTyped NfcNci.init
      [.receive (.minimal .rspCoreInit), .receive (.minimal .rspCoreReset)] :=
  (callback_data_iff (by decide)).mpr ⟨fun _ _ _ => Or.inl rfl,
    fun _ hn hnot => absurd (by rw [← (Packet.carries_minimal .rspCoreReset).unique hn]; decide)
      hnot, trivial⟩

/-- After a `CORE_RESET` response, an activation notification is rejected and its
callback gets the address of `_reset`. -/
theorem callback_data_counterexample :
    ¬ ∀ es, nciSystem.Legal NfcNci.init es → nciSystem.Along DataTyped NfcNci.init es := by
  intro h
  obtain ⟨-, htyped, -⟩ := h
    [.receive (.minimal .rspCoreReset), .receive (.minimal .ntfRfIntfActivated)] (by decide)
  have hcall : ⟨.cbRfDiscoverNtf, nciStatusRejected, nciIdNtfRfIntfActivated, .reset⟩ ∈
      nciSystem.emit (nciSystem.next NfcNci.init (.receive (.minimal .rspCoreReset)))
        (.receive (.minimal .ntfRfIntfActivated)) := List.mem_singleton.mpr (by decide)
  exact absurd ((htyped _ hcall).failed (by decide)) (by decide)

end Nci
end ArduinoNfc
