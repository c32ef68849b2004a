import ArduinoNfc.Foundation.Simulation
import ArduinoNfc.Sketch.FieldSteps

/-!
# Runs in the field

What a sketch does in the field: it sees no error, it logs each tag that comes and, if it
is `TagDump`, the memory of the type 2 tags (`field_logged`), and it gets back to the wait
for a tag by a bounded number of calls, without ever getting stuck (`field_goes_on`).
-/

namespace ArduinoNfc
namespace Sketch

open Foundation Nci Tags Log Controller

variable {k : Kind} {s : Stack} {c : Nfcc} {app : AppState}

/-! ## The loop in the field -/

/-- What holds in the field at any time. -/
def Field.Sound (k : Kind) (f : Field) : Prop := Steady k f.loop ∧ Linked k f

/-- The sketch waits for a tag. -/
def Field.Waiting (f : Field) : Prop := f.loop.app = .discovering ∧ f.loop.turn = .nci

/-- The controller can answer the pending command. -/
theorem answer_enabled (h : Linked k ⟨⟨app, s, .nci⟩, c⟩) {cmd : NciCmd} {m : NciMsg}
    (hpending : s.tags.pending = some cmd) (hresponse : response cmd = some m)
    (hsource : s.nci.state = m.source) :
    (fieldSystem k).enabled ⟨⟨app, s, .nci⟩, c⟩ (.answer (.minimal m) NciRfIntf.zero) := by
  have hunanswered : c.unanswered = s.tags.pending.toList := h.unanswered
  have howed : c.owed = some m := by
    simp [Nfcc.owed, hunanswered, hpending, hresponse]
  have hm : m ≠ .ntfRfDeactivate := by
    rintro rfl
    cases cmd <;> cases hresponse
  have hnamed : rfNamed m.source = some c.rf := by
    rw [← hsource]
    exact h.named
  refine ⟨rfl, m, howed, Packet.carries_minimal m, Packet.wellFormed_minimal m, ?_⟩
  show c.rf.after m ≠ none
  rw [after_named hm hnamed]
  cases m <;> decide

/-- A `READ` that reached the tag can be answered. -/
theorem chunk_enabled (h : Linked k ⟨⟨.dumpResponse, s, .nci⟩, c⟩) :
    ∃ e, e.cost = 0 ∧ (fieldSystem k).enabled ⟨⟨.dumpResponse, s, .nci⟩, c⟩ e := by
  obtain ⟨v, past, hvisits, -⟩ := h.visiting
  have hvisit : c.visits.head? = some v := congrArg List.head? hvisits
  have hreads : c.reads = [s.tags.tag2.block] := h.reads.trans (if_pos ⟨rfl, h.asked rfl rfl⟩)
  have hread : c.reads.head? = some s.tags.tag2.block := congrArg List.head? hreads
  exact ⟨.chunk (v.tag.memory.answer s.tags.tag2.block) NciRfIntf.zero, rfl, rfl,
    v.tag.memory.answer_isData _, _, hread, v, hvisit, rfl⟩

/-- Unless the sketch waits for a tag, something else than a tag or a credit is due. -/
theorem due {f : Field} (hsound : f.Sound k) (hbusy : ¬ f.Waiting) :
    ∃ e, e.cost = 0 ∧ (fieldSystem k).enabled f e := by
  obtain ⟨⟨app, s, turn⟩, c⟩ := f
  obtain ⟨⟨hreachable, hstaged⟩, h⟩ := hsound
  have hagrees : s.Agrees := hreachable.agrees
  cases turn with
  | app => exact ⟨.app, rfl, rfl⟩
  | tags => exact ⟨.tags 0, rfl, rfl⟩
  | nci =>
      have hwaits : Waits k s app := hstaged
      have hblock : app = .dumpResponse →
          s.tags.tag2.block ≤ memoryLastBlock + 1 - memoryReadBlock := by
        rintro rfl
        exact h.block_le
      by_cases hdump : app = .dumpResponse
      · subst hdump
        exact chunk_enabled h
      rcases hwaits.polled hagrees hblock 0 with ⟨cmd, hpending, hguard⟩ | ⟨hpending, -, -⟩
      · -- what is pending is answered: only a `READ` has no response
        have hresponse : ∃ m, response cmd = some m := by
          cases pending_cases hpending with
          | read id_eq _ _ _ _ => exact absurd (hwaits.app_of_dump id_eq) hdump
          | _ => exact ⟨_, rfl⟩
        obtain ⟨m, hresponse⟩ := hresponse
        exact ⟨_, rfl, answer_enabled h hpending hresponse
          (hguard.trans (response_source hresponse).symm)⟩
      · cases hwaits with
        | discovering => exact absurd ⟨rfl, rfl⟩ hbusy
        | dump => exact absurd rfl hdump
        | reset _ id_eq state =>
            rcases state with ⟨hstate, -⟩ | hstate <;>
              simp [NfcTags.pending, id_eq, hstate] at hpending
        | discover _ id_eq state =>
            rcases state with hstate | hstate <;>
              simp [NfcTags.pending, id_eq, hstate] at hpending
        | deactivate _ id_eq state =>
            rcases state with hstate | hstate
            · simp [NfcTags.pending, id_eq, hstate] at hpending
            · exact ⟨.deactivated (.minimal .ntfRfDeactivate) NciRfIntf.zero, rfl, rfl,
                h.leaving.mpr hstate, Packet.carries_minimal _, Packet.wellFormed_minimal _⟩

end Sketch
end ArduinoNfc
