import Mathlib.Algebra.GroupWithZero.Nat
import Mathlib.Order.Basic
import ArduinoNfc.Foundation.LabelledSystem

/-!
# Progress

What bounds the observations of a run, whatever the environment does.

`trace_forall` carries a property of what each step shows over to a run.  A `Rank` is
never lowered, and what a step shows lies between the ranks before and after it: along
a run, what is shown increases strictly and stays between the ranks of the two ends.
A `Budget` pays for all that a step shows: a run shows no more than the budget that it
starts with.  `Fuel` is burnt by the steps themselves, and events may bring more of it.
`settles` is the rule for a goal that a system gets to and does not leave again.
-/

namespace ArduinoNfc
namespace Foundation

variable {σ ε ω α β : Type*}

/-- What every step shows has a property, then what a run shows has it. -/
theorem LabelledSystem.trace_forall {L : LabelledSystem σ ε ω} {P : σ → ε → Prop}
    {shown : ω → Option β} {Q : β → Prop}
    (hstep : ∀ s e, P s e → ∀ b ∈ (L.emit s e).filterMap shown, Q b) {s : σ} {es : List ε}
    (hP : L.Along P s es) : ∀ b ∈ (L.trace s es).filterMap shown, Q b := by
  induction es generalizing s with
  | nil => exact List.forall_mem_nil _
  | cons e es ih =>
      obtain ⟨hPe, hP⟩ := hP
      rw [L.trace_cons, List.filterMap_append]
      exact List.forall_mem_append.mpr ⟨hstep s e hPe, ih hP⟩

/-- What a system shows among its observations lies between the ranks of the states
around the step. -/
structure Rank [Preorder α] (L : LabelledSystem σ ε ω) (P : σ → ε → Prop) (rank : σ → α)
    (shown : ω → Option β) (value : β → α) : Prop where
  mono : ∀ {s e}, P s e → rank s ≤ rank (L.next s e)
  increasing : ∀ {s e}, P s e →
    ((L.emit s e).filterMap shown).Pairwise fun a b => value a < value b
  between : ∀ {s e}, P s e → ∀ b ∈ (L.emit s e).filterMap shown,
    rank s ≤ value b ∧ value b < rank (L.next s e)

namespace Rank

variable [Preorder α] {L : LabelledSystem σ ε ω} {P : σ → ε → Prop} {rank : σ → α}
  {shown : ω → Option β} {value : β → α}

/-- The rank does not fall along a run. -/
theorem run_mono (h : Rank L P rank shown value) {s : σ} {es : List ε} (hP : L.Along P s es) :
    rank s ≤ rank (L.run s es) := by
  induction es generalizing s with
  | nil => exact le_refl _
  | cons e es ih =>
      obtain ⟨hstep, hP⟩ := hP
      exact (h.mono hstep).trans (ih hP)

/-- What a run shows lies between the ranks of its ends. -/
theorem trace_between (h : Rank L P rank shown value) {s : σ} {es : List ε}
    (hP : L.Along P s es) :
    ∀ b ∈ (L.trace s es).filterMap shown, rank s ≤ value b ∧ value b < rank (L.run s es) := by
  induction es generalizing s with
  | nil => exact List.forall_mem_nil _
  | cons e es ih =>
      obtain ⟨hstep, hP⟩ := hP
      rw [L.trace_cons, List.filterMap_append]
      refine List.forall_mem_append.mpr ⟨fun b hb => ?_, fun b hb => ?_⟩
      · obtain ⟨hle, hlt⟩ := h.between hstep b hb
        exact ⟨hle, hlt.trans_le (h.run_mono hP)⟩
      · obtain ⟨hle, hlt⟩ := ih hP b hb
        exact ⟨(h.mono hstep).trans hle, hlt⟩

/-- What a run shows increases strictly. -/
theorem trace_increasing (h : Rank L P rank shown value) {s : σ} {es : List ε}
    (hP : L.Along P s es) :
    ((L.trace s es).filterMap shown).Pairwise fun a b => value a < value b := by
  induction es generalizing s with
  | nil => exact List.Pairwise.nil
  | cons e es ih =>
      obtain ⟨hstep, hP⟩ := hP
      rw [L.trace_cons, List.filterMap_append, List.pairwise_append]
      refine ⟨h.increasing hstep, ih hP, fun a ha b hb => ?_⟩
      exact (h.between hstep a ha).2.trans_le (h.trace_between hP b hb).1

end Rank

/-- What a step shows is paid for by the budget of the state. -/
def Budget (L : LabelledSystem σ ε ω) (P : σ → ε → Prop) (budget : σ → ℕ)
    (shown : ω → Option β) : Prop :=
  ∀ {s e}, P s e → ((L.emit s e).filterMap shown).length + budget (L.next s e) ≤ budget s

/-- A run shows no more than the budget that it starts with. -/
theorem Budget.trace_length {L : LabelledSystem σ ε ω} {P : σ → ε → Prop} {budget : σ → ℕ}
    {shown : ω → Option β} (h : Budget L P budget shown) {s : σ} {es : List ε}
    (hP : L.Along P s es) : ((L.trace s es).filterMap shown).length ≤ budget s := by
  induction es generalizing s with
  | nil => exact Nat.zero_le _
  | cons e es ih =>
      obtain ⟨hstep, hP⟩ := hP
      have hpaid := h hstep
      have hrest := ih hP
      rw [L.trace_cons, List.filterMap_append, List.length_append]
      omega

/-- Until a goal is met every step lowers the fuel, and the goal stays met: a run that is
longer than the fuel that it starts with meets the goal. -/
theorem LabelledSystem.settles {L : LabelledSystem σ ε ω} {P : σ → ε → Prop} {G : σ → Prop}
    {fuel : σ → ℕ} (hstays : ∀ {s e}, P s e → G s → G (L.next s e))
    (hburns : ∀ {s e}, P s e → ¬ G (L.next s e) → fuel (L.next s e) < fuel s) {s : σ}
    {es : List ε} (hP : L.Along P s es) (hlen : fuel s < es.length ∨ G s) : G (L.run s es) := by
  induction es generalizing s with
  | nil => exact hlen.resolve_left (Nat.not_lt_zero _)
  | cons e es ih =>
      obtain ⟨hstep, hP⟩ := hP
      refine ih hP ?_
      by_cases hgoal : G (L.next s e)
      · exact Or.inr hgoal
      · rcases hlen with hlen | hmet
        · have hburnt := hburns hstep hgoal
          rw [List.length_cons] at hlen
          exact Or.inl (by omega)
        · exact absurd (hstays hstep hmet) hgoal

end Foundation
end ArduinoNfc
