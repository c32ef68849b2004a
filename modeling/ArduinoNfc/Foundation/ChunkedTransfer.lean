import ArduinoNfc.Foundation.Simulation

/-!
# Transfer in chunks

One party asks for `n` chunks, one after the other, and asks for the next one only
when it has the answer to the last.  It may be polled at any time, and idle events
may happen at any time.  `trace_eq_history` says that this does not show: what is
observed is a prefix of the exchanges in order, fixed by the state reached.
-/

namespace ArduinoNfc
namespace Foundation

/-- How far a transfer is. -/
inductive Transfer where
  /-- The next poll asks for chunk `k`. -/
  | ready (k : Nat)
  /-- Chunk `k` is on its way. -/
  | waiting (k : Nat)
  | finished
  deriving DecidableEq, Repr

/-- What happens to a transfer. -/
inductive TransferEvent where
  | poll
  | idle
  | answer
  deriving DecidableEq, Repr

/-- What is observed of a transfer. -/
inductive TransferOutput where
  | request (k : Nat)
  | chunk (k : Nat)
  deriving DecidableEq, Repr

namespace Transfer

/-- The state once chunk `k` of `n` has arrived. -/
def arrived (n k : Nat) : Transfer := if k + 1 < n then ready (k + 1) else finished

/-- The transfer of `n` chunks. -/
def system (n : Nat) : LabelledSystem Transfer TransferEvent TransferOutput where
  enabled
    | .finished, _ => False
    | .ready _, .answer => False
    | _, _ => True
  next
    | .ready k, .poll => waiting k
    | .waiting k, .answer => arrived n k
    | t, _ => t
  emit
    | .ready k, .poll => [.request k]
    | .waiting k, .answer => [.chunk k]
    | _, _ => []

/-- The chunk that the transfer is at is one of the `n`. -/
def Within (n : Nat) : Transfer → Prop
  | ready k => k < n
  | waiting k => k < n
  | finished => True

/-- A request and its answer, for the first `k` chunks. -/
def exchanges (k : Nat) : List TransferOutput :=
  (List.range k).flatMap fun i => [.request i, .chunk i]

/-- Everything that was observed up to a state. -/
def history (n : Nat) : Transfer → List TransferOutput
  | ready k => exchanges k
  | waiting k => exchanges k ++ [.request k]
  | finished => exchanges n

theorem exchanges_succ (k : Nat) :
    exchanges (k + 1) = exchanges k ++ [.request k] ++ [.chunk k] := by
  simp [exchanges, List.range_succ]

variable {n : Nat}

theorem within_next {t : Transfer} {e : TransferEvent} (h : t.Within n)
    (hen : (system n).enabled t e) : ((system n).next t e).Within n := by
  cases t with
  | ready k =>
      cases e with
      | answer => cases hen
      | _ => exact h
  | waiting k =>
      cases e with
      | poll => exact h
      | idle => exact h
      | answer =>
          show (arrived n k).Within n
          unfold arrived
          split_ifs with hk
          · exact hk
          · trivial
  | finished => cases hen

theorem history_next {t : Transfer} {e : TransferEvent} (h : t.Within n)
    (hen : (system n).enabled t e) :
    history n ((system n).next t e) = history n t ++ (system n).emit t e := by
  cases t with
  | ready k =>
      cases e with
      | poll => rfl
      | idle => exact (List.append_nil _).symm
      | answer => cases hen
  | waiting k =>
      cases e with
      | poll => exact (List.append_nil _).symm
      | idle => exact (List.append_nil _).symm
      | answer =>
          show history n (arrived n k) = exchanges k ++ [.request k] ++ [.chunk k]
          unfold arrived
          split_ifs with hk
          · exact exchanges_succ k
          · have hlast : n = k + 1 := by
              have hlt : k < n := h
              omega
            rw [history, hlast, exchanges_succ]
  | finished => cases hen

/-- Whatever the order of polls and idle events, the observations are the exchanges in
order, up to the state reached. -/
theorem trace_eq_history (hn : 0 < n) {es : List TransferEvent}
    (hlegal : (system n).Legal (ready 0) es) :
    (system n).trace (ready 0) es = history n ((system n).run (ready 0) es) := by
  have hstart : (ready 0).Within n := hn
  exact (LabelledSystem.history_run (fun _ _ => within_next) (fun _ _ => history_next)
    hstart hlegal).symm

end Transfer
end Foundation
end ArduinoNfc
