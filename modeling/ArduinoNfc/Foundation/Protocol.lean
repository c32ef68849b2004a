import ArduinoNfc.Foundation.LabelledSystem

/-!
# Protocols of use

A protocol says which calls may follow each other: a partial step function on its
phases.  `run_trace` reads a protocol off a labelled system: if the phase is a function
of the state, and what every step shows moves it as the step does, then what a run
shows is a word of the protocol.  `trace_recorded` is the same for a record of all that
was shown.
-/

namespace ArduinoNfc
namespace Foundation

/-- Which calls are allowed in which phase, and the phase they lead to. -/
structure Protocol (α π : Type*) where
  step : α → π → Option α

namespace Protocol

variable {α π : Type*} (M : Protocol α π)

/-- The phase after a word of calls, if they are all allowed. -/
def run (a : α) : List π → Option α
  | [] => some a
  | c :: cs => (M.step a c).bind fun b => run b cs

@[simp] theorem run_nil (a : α) : M.run a [] = some a := rfl

theorem run_singleton (a : α) (c : π) : M.run a [c] = M.step a c := by
  simp [run]

theorem run_append {a b : α} {cs : List π} (h : M.run a cs = some b) (ds : List π) :
    M.run a (cs ++ ds) = M.run b ds := by
  induction cs generalizing a with
  | nil =>
      cases h
      rfl
  | cons c cs ih =>
      obtain ⟨a', hstep, hrun⟩ := Option.bind_eq_some_iff.mp h
      rw [List.cons_append, run, hstep]
      exact ih hrun

/-- What a run shows moves the protocol from the phase of its start to the phase of its
end. -/
theorem run_trace {σ ε ω : Type*} {L : LabelledSystem σ ε ω} {P : σ → ε → Prop}
    {I : σ → Prop} {phase : σ → α} {shown : ω → Option π}
    (hstep : ∀ s e, I s → L.enabled s e → P s e → I (L.next s e))
    (hmove : ∀ s e, I s → L.enabled s e → P s e →
      M.run (phase s) ((L.emit s e).filterMap shown) = some (phase (L.next s e)))
    {s : σ} {es : List ε} (hs : I s) (hlegal : L.Legal s es) (hP : L.Along P s es) :
    M.run (phase s) ((L.trace s es).filterMap shown) = some (phase (L.run s es)) := by
  induction es generalizing s with
  | nil => rfl
  | cons e es ih =>
      obtain ⟨hen, hlegal⟩ := hlegal
      obtain ⟨hPe, hP⟩ := hP
      rw [L.trace_cons, List.filterMap_append, M.run_append (hmove s e hs hen hPe)]
      exact ih (hstep s e hs hen hPe) hlegal hP

end Protocol

/-- A record that a system keeps of what it shows: if every step adds what it shows, a run
adds what it shows. -/
theorem LabelledSystem.trace_recorded {σ ε ω β : Type*} {L : LabelledSystem σ ε ω}
    {P : σ → ε → Prop} {I : σ → Prop} {shown : ω → Option β} {record : σ → List β}
    (hstep : ∀ s e, I s → L.enabled s e → P s e → I (L.next s e))
    (hrecord : ∀ s e, I s → L.enabled s e → P s e →
      record (L.next s e) = record s ++ (L.emit s e).filterMap shown)
    {s : σ} {es : List ε} (hs : I s) (hlegal : L.Legal s es) (hP : L.Along P s es) :
    record (L.run s es) = record s ++ (L.trace s es).filterMap shown := by
  induction es generalizing s with
  | nil => exact (List.append_nil _).symm
  | cons e es ih =>
      obtain ⟨hen, hlegal⟩ := hlegal
      obtain ⟨hPe, hP⟩ := hP
      rw [L.run_cons, ih (hstep s e hs hen hPe) hlegal hP, hrecord s e hs hen hPe, L.trace_cons,
        List.filterMap_append, List.append_assoc]

end Foundation
end ArduinoNfc
