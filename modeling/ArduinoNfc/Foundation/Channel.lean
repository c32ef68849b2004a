import ArduinoNfc.Foundation.LabelledSystem

/-!
# Messages out of a queue

A labelled system gets a message when its environment chooses an event that carries one.
Behind a queue the environment may send at any time, and the system takes what is first.
`channel_run` says that this adds nothing: what the system does behind the queue is one of
its own runs, in which the messages come in the order in which they were sent, and each of
them once.
-/

namespace ArduinoNfc
namespace Foundation

variable {σ ε ω α γ : Type*}

/-- The events that carry a message, and what else the environment chooses for them. -/
structure Inbox (ε α γ : Type*) where
  event : α → γ → ε
  content : ε → Option α
  content_event : ∀ a g, content (event a g) = some a

/-- What happens around a queue. -/
inductive ChannelEvent (ε α γ : Type*) where
  /-- The system takes a step without a message. -/
  | step (e : ε)
  /-- A message is put at the end of the queue. -/
  | send (a : α)
  /-- The system takes the first message. -/
  | receive (g : γ)

/-- The message that is sent. -/
def ChannelEvent.sent : ChannelEvent ε α γ → Option α
  | .send a => some a
  | _ => none

namespace LabelledSystem

variable (L : LabelledSystem σ ε ω) (inbox : Inbox ε α γ)

/-- The system behind a queue. -/
def channel : LabelledSystem (σ × List α) (ChannelEvent ε α γ) ω where
  enabled t e :=
    match e with
    | .step e => inbox.content e = none ∧ L.enabled t.1 e
    | .send _ => True
    | .receive g => ∃ a ∈ t.2.head?, L.enabled t.1 (inbox.event a g)
  next t e :=
    match e with
    | .step e => (L.next t.1 e, t.2)
    | .send a => (t.1, t.2 ++ [a])
    | .receive g =>
        match t.2 with
        | [] => t
        | a :: queue => (L.next t.1 (inbox.event a g), queue)
  emit t e :=
    match e with
    | .step e => L.emit t.1 e
    | .send _ => []
    | .receive g =>
        match t.2 with
        | [] => []
        | a :: _ => L.emit t.1 (inbox.event a g)

/-- A run of the system, next to one behind the queue. -/
structure Delivers (t : σ × List α) (es : List (ChannelEvent ε α γ)) (fs : List ε) : Prop where
  legal : L.Legal t.1 fs
  run_eq : L.run t.1 fs = ((L.channel inbox).run t es).1
  trace_eq : L.trace t.1 fs = (L.channel inbox).trace t es
  /-- Nothing is lost, doubled or overtaken. -/
  queue_eq : t.2 ++ es.filterMap ChannelEvent.sent =
    fs.filterMap inbox.content ++ ((L.channel inbox).run t es).2

variable {L inbox}

theorem delivers_nil (t : σ × List α) : Delivers L inbox t [] [] where
  legal := trivial
  run_eq := rfl
  trace_eq := rfl
  queue_eq := List.append_nil _

theorem Delivers.send {s : σ} {queue : List α} {a : α} {es : List (ChannelEvent ε α γ)}
    {fs : List ε} (h : Delivers L inbox (s, queue ++ [a]) es fs) :
    Delivers L inbox (s, queue) (.send a :: es) fs where
  legal := h.legal
  run_eq := h.run_eq
  trace_eq := h.trace_eq
  queue_eq := (List.append_assoc queue [a] _).symm.trans h.queue_eq

theorem Delivers.step {s : σ} {queue : List α} {e : ε} {es : List (ChannelEvent ε α γ)}
    {fs : List ε} (hen : L.enabled s e) (hnone : inbox.content e = none)
    (h : Delivers L inbox (L.next s e, queue) es fs) :
    Delivers L inbox (s, queue) (.step e :: es) (e :: fs) where
  legal := ⟨hen, h.legal⟩
  run_eq := h.run_eq
  trace_eq := congrArg (L.emit s e ++ ·) h.trace_eq
  queue_eq := by
    rw [List.filterMap_cons_none hnone]
    exact h.queue_eq

theorem Delivers.receive {s : σ} {a : α} {queue : List α} {g : γ}
    {es : List (ChannelEvent ε α γ)} {fs : List ε} (hen : L.enabled s (inbox.event a g))
    (h : Delivers L inbox (L.next s (inbox.event a g), queue) es fs) :
    Delivers L inbox (s, a :: queue) (.receive g :: es) (inbox.event a g :: fs) where
  legal := ⟨hen, h.legal⟩
  run_eq := h.run_eq
  trace_eq := congrArg (L.emit s (inbox.event a g) ++ ·) h.trace_eq
  queue_eq := by
    rw [List.filterMap_cons_some (inbox.content_event a g)]
    exact congrArg (a :: ·) h.queue_eq

/-- What a system does behind a queue is a run of its own. -/
theorem channel_run {t : σ × List α} {es : List (ChannelEvent ε α γ)}
    (hlegal : (L.channel inbox).Legal t es) : ∃ fs, Delivers L inbox t es fs := by
  induction es generalizing t with
  | nil => exact ⟨[], delivers_nil t⟩
  | cons e es ih =>
      obtain ⟨s, queue⟩ := t
      obtain ⟨hen, hlegal⟩ := hlegal
      obtain ⟨fs, hfs⟩ := ih hlegal
      cases e with
      | step e => exact ⟨e :: fs, hfs.step hen.2 hen.1⟩
      | send a => exact ⟨fs, hfs.send⟩
      | receive g =>
          obtain ⟨a, ha, hen⟩ := hen
          cases queue with
          | nil => cases ha
          | cons b queue =>
              obtain rfl : b = a := Option.some.inj ha
              exact ⟨inbox.event b g :: fs, hfs.receive hen⟩

end LabelledSystem
end Foundation
end ArduinoNfc
