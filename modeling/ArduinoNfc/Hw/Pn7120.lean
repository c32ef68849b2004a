import ArduinoNfc.Nci.Commands
import ArduinoNfc.Nci.Dispatch

/-!
# The transport of the PN7120

`NfcHw_pn7120` talks to the controller through the `Wire` object of the Arduino
library.  The object queues the bytes of a transmission in a buffer of limited
size, and keeps the bytes of an answer until they are read.  What the device does
with a transmission, and what it answers, is a parameter.
-/

namespace ArduinoNfc
namespace Hw

open Nci

/-! ## The `Wire` library -/

/-- The device on the bus. -/
structure WireDevice where
  /-- How many bytes of a transmission it acknowledges. -/
  acked : List UInt8 → Nat
  acked_le : ∀ bytes, acked bytes ≤ bytes.length
  /-- The result of `endTransmission`. -/
  result : List UInt8 → UInt8
  result_eq_zero : ∀ bytes, result bytes = 0 → acked bytes = bytes.length
  /-- What it answers when `n` bytes are requested. -/
  reply : Nat → List UInt8
  reply_le : ∀ n, (reply n).length ≤ n

/-- The `Wire` object. -/
structure Wire where
  capacity : Nat
  queued : List UInt8
  received : List UInt8

namespace Wire

def beginTransmission (wire : Wire) : Wire := { wire with queued := [] }

/-- Queue one byte; the count tells whether there was room for it. -/
def write (wire : Wire) (b : UInt8) : Nat × Wire :=
  if wire.queued.length < wire.capacity then
    (1, { wire with queued := wire.queued ++ [b] })
  else
    (0, wire)

def endTransmission (wire : Wire) (dev : WireDevice) : UInt8 := dev.result wire.queued

def requestFrom (wire : Wire) (dev : WireDevice) (n : Nat) : Wire :=
  { wire with received := dev.reply n }

/-- The next byte, or -1. -/
def read (wire : Wire) : Int × Wire :=
  match wire.received with
  | [] => (-1, wire)
  | b :: bytes => (b.toNat, { wire with received := bytes })

def available (wire : Wire) : Nat := wire.received.length

/-- Where something is left to be read, reading made it less. -/
theorem available_read {wire : Wire} (h : wire.read.2.available ≠ 0) :
    wire.read.2.available < wire.available := by
  unfold read at h ⊢
  cases hreceived : wire.received with
  | nil =>
      rw [hreceived] at h
      exact absurd (by rw [available, hreceived]; rfl) h
  | cons b bytes =>
      simp [available, hreceived]

end Wire

/-! ## `NfcHw_pn7120` -/

/-- `while (len--) { Wire.write(*buf++); written++; }`. -/
def writeLoop : Wire → Nat → List UInt8 → Nat × Wire
  | wire, written, [] => (written, wire)
  | wire, written, b :: bytes => writeLoop (wire.write b).2 (written + 1) bytes

/-- The returned count and the object behind the transmission. -/
def write (wire : Wire) (dev : WireDevice) (bytes : List UInt8) : UInt8 × Wire :=
  let (written, wire) := writeLoop wire.beginTransmission 0 bytes
  -- the result is not looked at
  let _ := wire.endTransmission dev
  (UInt8.ofNat written, wire)

/-- `do { *buf++ = Wire.read(); } while (Wire.available());`: the bytes that are
stored. -/
def readLoop (wire : Wire) : List UInt8 :=
  let b := UInt8.ofInt wire.read.1
  if wire.read.2.available = 0 then
    [b]
  else
    b :: readLoop wire.read.2
termination_by wire.available
decreasing_by exact Wire.available_read ‹_›

/-- The bytes that are stored, and the count, which is the number that was asked for. -/
def read (wire : Wire) (dev : WireDevice) (n : Nat) : HwRead where
  bytes := readLoop (wire.requestFrom dev n)
  ret := UInt8.ofNat n

/-- The transport as the commands of `NfcNci` see it. -/
def transport (wire : Wire) (dev : WireDevice) : HwWrite := fun bytes =>
  (write wire dev bytes).1

/-- What of a transmission the controller gets. -/
def reached (wire : Wire) (dev : WireDevice) (bytes : List UInt8) : List UInt8 :=
  let queued := (write wire dev bytes).2.queued
  queued.take (dev.acked queued)

/-! ## The two loops -/

theorem writeLoop_fst (wire : Wire) (written : Nat) (bytes : List UInt8) :
    (writeLoop wire written bytes).1 = written + bytes.length := by
  induction bytes generalizing wire written with
  | nil => rfl
  | cons b bytes ih =>
      rw [writeLoop, ih, List.length_cons]
      omega

/-- The queue fills up and drops the rest. -/
theorem writeLoop_queued (wire : Wire) (written : Nat) (bytes : List UInt8)
    (h : wire.queued.length ≤ wire.capacity) :
    (writeLoop wire written bytes).2.queued = (wire.queued ++ bytes).take wire.capacity := by
  induction bytes generalizing wire written with
  | nil =>
      rw [List.append_nil, List.take_of_length_le h]
      rfl
  | cons b bytes ih =>
      rw [writeLoop]
      by_cases hroom : wire.queued.length < wire.capacity
      · have hwrite : (wire.write b).2 = { wire with queued := wire.queued ++ [b] } := by
          rw [Wire.write, if_pos hroom]
        rw [ih _ _ (by rw [hwrite]; simpa using hroom), hwrite]
        simp
      · have hwrite : (wire.write b).2 = wire := by rw [Wire.write, if_neg hroom]
        have hfull : wire.queued.length = wire.capacity := by omega
        rw [ih _ _ (by rw [hwrite]; exact h), hwrite, ← hfull, List.take_left, List.take_left]

/-- The returned count is the length in a byte, whatever was queued. -/
theorem write_fst (wire : Wire) (dev : WireDevice) (bytes : List UInt8) :
    (write wire dev bytes).1 = UInt8.ofNat bytes.length := by
  simp only [write, writeLoop_fst, Nat.zero_add]

theorem write_queued (wire : Wire) (dev : WireDevice) (bytes : List UInt8) :
    (write wire dev bytes).2.queued = bytes.take wire.capacity := by
  rw [write, writeLoop_queued _ _ _ (Nat.zero_le _)]
  rfl

/-- All that is available is stored; if nothing is, the -1 of `Wire.read` is. -/
theorem readLoop_eq (wire : Wire) :
    readLoop wire = if wire.received = [] then [0xFF] else wire.received := by
  generalize hbytes : wire.received = bytes
  induction bytes generalizing wire with
  | nil =>
      rw [readLoop, if_pos (by simp [Wire.read, Wire.available, hbytes])]
      simp [Wire.read, hbytes]
      rfl
  | cons b bytes ih =>
      have hread : wire.read = (↑b.toNat, { wire with received := bytes }) := by
        rw [Wire.read, hbytes]
      have hb : UInt8.ofInt wire.read.1 = b := by
        have hsmall : ((b.toNat : Int) % 2 ^ 8).toNat = b.toNat := by
          have hlt := b.toNat_lt
          omega
        rw [hread, UInt8.ofInt, hsmall, UInt8.ofNat_toNat]
      rw [readLoop, hb, if_neg (List.cons_ne_nil _ _)]
      by_cases hlast : bytes = []
      · rw [if_pos (by rw [hread, hlast]; rfl), hlast]
      · have hmore : ¬ wire.read.2.available = 0 := by
          rw [hread]
          simpa [Wire.available] using hlast
        rw [if_neg hmore, ih _ (by rw [hread]), if_neg hlast]

end Hw
end ArduinoNfc
