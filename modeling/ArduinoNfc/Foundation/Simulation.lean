import ArduinoNfc.Foundation.LabelledSystem

/-!
# Simulation and history

Two ways to read a run of a labelled system off its states.

A `Simulation` follows every legal step of one system by a step of a more
abstract one and renders what is observed there; `Simulation.run` carries it over
whole runs.  A history is a function from states to everything observed so far;
`history_run` says that a function that every step extends by what it emits is
one.
-/

namespace ArduinoNfc
namespace Foundation

variable {σ ε ω τ δ π : Type*}

/-- Every legal step of `L` is a legal step of `M`, observed through `render`. -/
structure Simulation (L : LabelledSystem σ ε ω) (M : LabelledSystem τ δ π)
    (R : σ → τ → Prop) (event : ε → δ) (render : π → ω) : Prop where
  enabled : ∀ {s t e}, R s t → L.enabled s e → M.enabled t (event e)
  next : ∀ {s t e}, R s t → L.enabled s e → R (L.next s e) (M.next t (event e))
  emit : ∀ {s t e}, R s t → L.enabled s e →
    L.emit s e = (M.emit t (event e)).map render

namespace Simulation

variable {L : LabelledSystem σ ε ω} {M : LabelledSystem τ δ π} {R : σ → τ → Prop}
  {event : ε → δ} {render : π → ω}

/-- A step property that holds of the steps that simulate one holds along such a run. -/
theorem along (h : Simulation L M R event render) {P : τ → δ → Prop}
    (himp : ∀ {s t e}, R s t → L.enabled s e → P t (event e)) {s : σ} {t : τ} {es : List ε}
    (hst : R s t) (hlegal : L.Legal s es) : M.Along P t (es.map event) := by
  induction es generalizing s t with
  | nil => trivial
  | cons e es ih =>
      obtain ⟨hen, hlegal⟩ := hlegal
      exact ⟨himp hst hen, ih (h.next hst hen) hlegal⟩

/-- A legal run is simulated by a legal run. -/
theorem legal (h : Simulation L M R event render) {s : σ} {t : τ} {es : List ε}
    (hst : R s t) (hlegal : L.Legal s es) : M.Legal t (es.map event) :=
  h.along h.enabled hst hlegal

/-- The states that the two runs lead to are related. -/
theorem run (h : Simulation L M R event render) {s : σ} {t : τ} {es : List ε}
    (hst : R s t) (hlegal : L.Legal s es) : R (L.run s es) (M.run t (es.map event)) := by
  induction es generalizing s t with
  | nil => exact hst
  | cons e es ih =>
      obtain ⟨hen, hlegal⟩ := hlegal
      exact ih (h.next hst hen) hlegal

/-- What is observed of the run is what is observed of the run that simulates it. -/
theorem trace (h : Simulation L M R event render) {s : σ} {t : τ} {es : List ε}
    (hst : R s t) (hlegal : L.Legal s es) :
    L.trace s es = (M.trace t (es.map event)).map render := by
  induction es generalizing s t with
  | nil => rfl
  | cons e es ih =>
      obtain ⟨hen, hlegal⟩ := hlegal
      simp only [LabelledSystem.trace_cons, List.map_cons, List.map_append]
      rw [h.emit hst hen, ih (h.next hst hen) hlegal]

end Simulation

namespace LabelledSystem

variable {L : LabelledSystem σ ε ω}

/-- A function of the state that every legal step extends by what it emits records
whole runs. -/
theorem history_run {I : σ → Prop} {history : σ → List ω}
    (hstep : ∀ s e, I s → L.enabled s e → I (L.next s e))
    (hemit : ∀ s e, I s → L.enabled s e → history (L.next s e) = history s ++ L.emit s e)
    {s : σ} {es : List ε} (hs : I s) (hlegal : L.Legal s es) :
    history (L.run s es) = history s ++ L.trace s es := by
  induction es generalizing s with
  | nil => simp
  | cons e es ih =>
      obtain ⟨hen, hlegal⟩ := hlegal
      rw [run_cons, trace_cons, ih (hstep s e hs hen) hlegal, hemit s e hs hen,
        List.append_assoc]

end LabelledSystem
end Foundation
end ArduinoNfc
