import Mathlib.Data.List.Basic

/-!
# Deterministic labelled systems

A labelled system is a step function together with a guard: an event is
performed by `next`, observed through `emit`, and belongs to a run only where
`enabled` holds.  Nondeterminism of an environment is carried by the events, so
that a run is a start state and a list of events.

The two rules that the developments above this file use are

* `run_invariant`: an inductive invariant holds after every legal run, and its
  guarded form `run_invariant_along`, where the steps also meet a condition;
* `along_congr`: two step properties that agree wherever an invariant holds are
  met by the same runs.
-/

namespace ArduinoNfc
namespace Foundation

/-- A deterministic step function with a guard on events and an observation. -/
structure LabelledSystem (σ ε ω : Type*) where
  /-- The events that may be performed in a state. -/
  enabled : σ → ε → Prop
  /-- The state after an event. -/
  next : σ → ε → σ
  /-- What the environment observes of an event. -/
  emit : σ → ε → List ω

namespace LabelledSystem

variable {σ ε ω : Type*} (L : LabelledSystem σ ε ω)

/-- The state after a list of events. -/
def run (s : σ) : List ε → σ
  | [] => s
  | e :: es => run (L.next s e) es

/-- Everything observed along a list of events. -/
def trace (s : σ) : List ε → List ω
  | [] => []
  | e :: es => L.emit s e ++ trace (L.next s e) es

/-- A step property holds at every step of a run. -/
def Along (P : σ → ε → Prop) (s : σ) : List ε → Prop
  | [] => True
  | e :: es => P s e ∧ Along P (L.next s e) es

/-- Every event of the run is enabled where it is performed. -/
abbrev Legal (s : σ) (es : List ε) : Prop := L.Along L.enabled s es

/-- Some legal run leads from one state to the other. -/
def Reachable (s t : σ) : Prop := ∃ es, L.Legal s es ∧ L.run s es = t

@[simp] theorem run_nil (s : σ) : L.run s [] = s := rfl

@[simp] theorem run_cons (s : σ) (e : ε) (es : List ε) :
    L.run s (e :: es) = L.run (L.next s e) es := rfl

@[simp] theorem trace_nil (s : σ) : L.trace s [] = [] := rfl

@[simp] theorem trace_cons (s : σ) (e : ε) (es : List ε) :
    L.trace s (e :: es) = L.emit s e ++ L.trace (L.next s e) es := rfl

@[simp] theorem along_nil (P : σ → ε → Prop) (s : σ) : L.Along P s [] := trivial

@[simp] theorem along_cons (P : σ → ε → Prop) (s : σ) (e : ε) (es : List ε) :
    L.Along P s (e :: es) ↔ P s e ∧ L.Along P (L.next s e) es := Iff.rfl

instance decidableAlong (P : σ → ε → Prop) [∀ s e, Decidable (P s e)] :
    ∀ (s : σ) (es : List ε), Decidable (L.Along P s es)
  | _, [] => isTrue trivial
  | s, e :: es =>
      haveI := decidableAlong P (L.next s e) es
      inferInstanceAs (Decidable (P s e ∧ L.Along P (L.next s e) es))

theorem run_append (s : σ) (es fs : List ε) :
    L.run s (es ++ fs) = L.run (L.run s es) fs := by
  induction es generalizing s with
  | nil => rfl
  | cons e es ih => exact ih (L.next s e)

theorem trace_append (s : σ) (es fs : List ε) :
    L.trace s (es ++ fs) = L.trace s es ++ L.trace (L.run s es) fs := by
  induction es generalizing s with
  | nil => rfl
  | cons e es ih => simp [ih]

theorem along_append (P : σ → ε → Prop) (s : σ) (es fs : List ε) :
    L.Along P s (es ++ fs) ↔ L.Along P s es ∧ L.Along P (L.run s es) fs := by
  induction es generalizing s with
  | nil => simp
  | cons e es ih => simp [ih, and_assoc]

/-- The system together with a record that every step updates: a ghost, which no
step reads. -/
def withRecord {γ : Type*} (record : σ → ε → γ → γ) : LabelledSystem (σ × γ) ε ω where
  enabled s e := L.enabled s.1 e
  next s e := (L.next s.1 e, record s.1 e s.2)
  emit s e := L.emit s.1 e

/-- The record does not influence a run. -/
theorem withRecord_run_fst {γ : Type*} (record : σ → ε → γ → γ) (s : σ) (c : γ)
    (es : List ε) : ((L.withRecord record).run (s, c) es).1 = L.run s es := by
  induction es generalizing s c with
  | nil => rfl
  | cons e es ih => exact ih (L.next s e) (record s e c)

/-- A step property of the system is one of the system with the record. -/
theorem withRecord_along {γ : Type*} (record : σ → ε → γ → γ) {P : σ → ε → Prop} {s : σ}
    (c : γ) {es : List ε} :
    (L.withRecord record).Along (fun s e => P s.1 e) (s, c) es ↔ L.Along P s es := by
  induction es generalizing s c with
  | nil => exact Iff.rfl
  | cons e es ih => exact and_congr_right fun _ => ih (record s e c)

/-- The system with the steps that have a property. -/
def restrict (P : σ → ε → Prop) : LabelledSystem σ ε ω where
  enabled s e := L.enabled s e ∧ P s e
  next := L.next
  emit := L.emit

/-- Its legal runs are the legal runs along which the property holds. -/
theorem restrict_legal {P : σ → ε → Prop} {s : σ} {es : List ε} (hlegal : L.Legal s es)
    (hP : L.Along P s es) : (L.restrict P).Legal s es := by
  induction es generalizing s with
  | nil => trivial
  | cons e es ih =>
      obtain ⟨hen, hlegal⟩ := hlegal
      obtain ⟨hPe, hP⟩ := hP
      exact ⟨⟨hen, hPe⟩, ih hlegal hP⟩

theorem restrict_run (P : σ → ε → Prop) (s : σ) (es : List ε) :
    (L.restrict P).run s es = L.run s es := by
  induction es generalizing s with
  | nil => rfl
  | cons e es ih => exact ih (L.next s e)

theorem restrict_trace (P : σ → ε → Prop) (s : σ) (es : List ε) :
    (L.restrict P).trace s es = L.trace s es := by
  induction es generalizing s with
  | nil => rfl
  | cons e es ih => exact congrArg (L.emit s e ++ ·) (ih (L.next s e))

variable {L}

/-- A step property that follows from another one along the run, under an
invariant that the legal steps meeting it preserve. -/
theorem along_of_invariant {P Q : σ → ε → Prop} {I : σ → Prop}
    (hstep : ∀ s e, I s → L.enabled s e → P s e → I (L.next s e))
    (himp : ∀ s e, I s → L.enabled s e → P s e → Q s e)
    {s : σ} {es : List ε} (hs : I s) (hlegal : L.Legal s es)
    (hP : L.Along P s es) : L.Along Q s es := by
  induction es generalizing s with
  | nil => trivial
  | cons e es ih =>
      obtain ⟨hen, hlegal⟩ := hlegal
      obtain ⟨hPe, hP⟩ := hP
      exact ⟨himp s e hs hen hPe, ih (hstep s e hs hen hPe) hlegal hP⟩

/-- A property of the events alone. -/
theorem along_of_forall {P : ε → Prop} {es : List ε} (h : ∀ e ∈ es, P e) (s : σ) :
    L.Along (fun _ e => P e) s es := by
  induction es generalizing s with
  | nil => trivial
  | cons e es ih =>
      obtain ⟨he, h⟩ := List.forall_mem_cons.mp h
      exact ⟨he, ih h (L.next s e)⟩

/-- An invariant preserved by the legal steps that meet a condition holds after
every legal run all of whose steps meet it. -/
theorem run_invariant_along {P : σ → ε → Prop} {I : σ → Prop}
    (hstep : ∀ s e, I s → L.enabled s e → P s e → I (L.next s e))
    {s : σ} {es : List ε} (hs : I s) (hlegal : L.Legal s es)
    (hP : L.Along P s es) : I (L.run s es) := by
  induction es generalizing s with
  | nil => exact hs
  | cons e es ih =>
      obtain ⟨hen, hlegal⟩ := hlegal
      obtain ⟨hPe, hP⟩ := hP
      exact ih (hstep s e hs hen hPe) hlegal hP

/-- An inductive invariant holds after every legal run. -/
theorem run_invariant {I : σ → Prop}
    (hstep : ∀ s e, I s → L.enabled s e → I (L.next s e))
    {s : σ} {es : List ε} (hs : I s) (hlegal : L.Legal s es) :
    I (L.run s es) :=
  run_invariant_along (P := fun s e => L.enabled s e)
    (fun s e hs hen _ => hstep s e hs hen) hs hlegal hlegal

/-- Where an event is enabled, a legal run goes on. -/
theorem Reachable.next {s t : σ} (h : L.Reachable s t) {e : ε} (hen : L.enabled t e) :
    L.Reachable s (L.next t e) := by
  obtain ⟨es, hlegal, rfl⟩ := h
  exact ⟨es ++ [e], (L.along_append _ _ _ _).mpr ⟨hlegal, hen, trivial⟩, L.run_append _ _ _⟩

/-- An inductive invariant holds in every reachable state. -/
theorem Reachable.invariant {I : σ → Prop}
    (hstep : ∀ s e, I s → L.enabled s e → I (L.next s e))
    {s t : σ} (h : L.Reachable s t) (hs : I s) : I t := by
  obtain ⟨es, hlegal, rfl⟩ := h
  exact run_invariant hstep hs hlegal

/-- Two step properties that agree wherever an invariant holds are met by the
same legal runs. -/
theorem along_congr {P Q : σ → ε → Prop} {I : σ → Prop}
    (hstep : ∀ s e, I s → L.enabled s e → I (L.next s e))
    (hiff : ∀ s e, I s → L.enabled s e → (P s e ↔ Q s e))
    {s : σ} {es : List ε} (hs : I s) (hlegal : L.Legal s es) :
    L.Along P s es ↔ L.Along Q s es := by
  constructor
  · exact along_of_invariant (fun s e hs hen _ => hstep s e hs hen)
      (fun s e hs hen => (hiff s e hs hen).mp) hs hlegal
  · exact along_of_invariant (fun s e hs hen _ => hstep s e hs hen)
      (fun s e hs hen => (hiff s e hs hen).mpr) hs hlegal

end LabelledSystem
end Foundation
end ArduinoNfc
