import ArduinoNfc.Hw.Pn7120
import ArduinoNfc.Nci.Transmission

/-!
# What the transport counts

`NfcNci` takes a command for sent when the count that the transport returns is the
length of the packet, and the driver returns that length in any case: it looks
neither at the results of `Wire.write` nor at that of `Wire.endTransmission`.  For
received bytes it returns the number that was asked for.  The three equivalences of
`transport_counts_iff` say when these counts are true.
-/

namespace ArduinoNfc
namespace Hw

open Nci

/-! ## True counts -/

/-- The requested length is returned only if all bytes were queued and acknowledged. -/
def WriteHonest (wire : Wire) (dev : WireDevice) (bytes : List UInt8) : Prop :=
  (write wire dev bytes).1.toNat = bytes.length →
    (write wire dev bytes).2.queued = bytes ∧ dev.acked bytes = bytes.length

/-- The received bytes are stored, nothing else is, and their number is returned. -/
def ReadHonest (wire : Wire) (dev : WireDevice) (n : Nat) : Prop :=
  (read wire dev n).bytes = dev.reply n ∧ (read wire dev n).ret.toNat = (dev.reply n).length

/-- A command that succeeds has brought its whole packet to the controller. -/
def CommandHonest (wire : Wire) (dev : WireDevice) (nci : NfcNci) (cmd : NciCmd) : Prop :=
  (nci.exec (transport wire dev) cmd).status = nciStatusOk →
    ∃ bytes, (nci.exec (transport wire dev) cmd).written = some bytes ∧
      reached wire dev bytes = cmd.packet

/-- The bytes fit in the queue, and the device acknowledges all of them. -/
def TakenWhole (wire : Wire) (dev : WireDevice) (bytes : List UInt8) : Prop :=
  bytes.length ≤ wire.capacity ∧ dev.acked bytes = bytes.length

instance (wire : Wire) (dev : WireDevice) (bytes : List UInt8) :
    Decidable (TakenWhole wire dev bytes) := inferInstanceAs (Decidable (_ ∧ _))

/-- The returned count is the length as long as it fits in a byte. -/
theorem write_ret_eq_length_iff (wire : Wire) (dev : WireDevice) (bytes : List UInt8) :
    (write wire dev bytes).1.toNat = bytes.length ↔ bytes.length ≤ 255 := by
  rw [write_fst]
  simp
  omega

theorem queued_eq_iff (wire : Wire) (dev : WireDevice) (bytes : List UInt8) :
    (write wire dev bytes).2.queued = bytes ↔ bytes.length ≤ wire.capacity := by
  rw [write_queued, List.take_eq_self_iff]

theorem writeHonest_iff (wire : Wire) (dev : WireDevice) (bytes : List UInt8) :
    WriteHonest wire dev bytes ↔ (bytes.length ≤ 255 → TakenWhole wire dev bytes) := by
  rw [WriteHonest, write_ret_eq_length_iff, queued_eq_iff, TakenWhole]

/-- The answer is stored as it is, unless it is empty. -/
theorem read_bytes_eq_iff (wire : Wire) (dev : WireDevice) (n : Nat) :
    (read wire dev n).bytes = dev.reply n ↔ dev.reply n ≠ [] := by
  rw [read, readLoop_eq]
  show (if dev.reply n = [] then [0xFF] else dev.reply n) = dev.reply n ↔ _
  split_ifs with hempty
  · rw [hempty]
    exact iff_of_false (List.cons_ne_nil _ _) fun h => h rfl
  · exact iff_of_true rfl hempty

theorem readHonest_iff (wire : Wire) (dev : WireDevice) (n : Nat) :
    ReadHonest wire dev n ↔ dev.reply n ≠ [] ∧ (dev.reply n).length = n % 256 := by
  have hret : (read wire dev n).ret.toNat = n % 256 := by simp [read]
  rw [ReadHonest, read_bytes_eq_iff, hret, eq_comm (a := n % 256)]

/-- The whole transmission reaches the controller exactly when it is taken whole. -/
theorem reached_eq_iff (wire : Wire) (dev : WireDevice) (bytes : List UInt8) :
    reached wire dev bytes = bytes ↔ TakenWhole wire dev bytes := by
  rw [reached, write_queued]
  constructor
  · intro h
    have hlen := congrArg List.length h
    have hacked := dev.acked_le (bytes.take wire.capacity)
    simp only [List.length_take] at hlen hacked
    have hfits : bytes.length ≤ wire.capacity := by omega
    have htake : bytes.take wire.capacity = bytes := List.take_of_length_le hfits
    rw [htake] at hlen hacked
    exact ⟨hfits, by omega⟩
  · rintro ⟨hfits, hacked⟩
    have htake : bytes.take wire.capacity = bytes := List.take_of_length_le hfits
    rw [htake, hacked, List.take_length]

/-- What reaches the controller is not longer than what was handed over. -/
theorem reached_length_le (wire : Wire) (dev : WireDevice) (bytes : List UInt8) :
    (reached wire dev bytes).length ≤ bytes.length := by
  rw [reached, write_queued, List.length_take, List.length_take]
  omega

/-- Every command that is sent succeeds. -/
theorem send_transport_status (wire : Wire) (dev : WireDevice) (nci : NfcNci)
    (bytes : List UInt8) (len : UInt8) :
    (nci.send (transport wire dev) bytes len).status = nciStatusOk := by
  have hlen : transport wire dev ((nci.txBuf.store 0 bytes).take len.toNat) = len := by
    rw [transport, write_fst]
    simp [Foundation.ByteBuffer.take]
  exact if_pos hlen

theorem commandHonest_iff (wire : Wire) (dev : WireDevice) (nci : NfcNci) (cmd : NciCmd) :
    CommandHonest wire dev nci cmd ↔
      (nci.Issues cmd → cmd.packet.length ≤ 255 ∧ TakenWhole wire dev cmd.packet) := by
  by_cases hissues : nci.Issues cmd
  · rw [CommandHonest, exec_send _ hissues]
    have hok := send_transport_status wire dev nci cmd.packet (UInt8.ofNat cmd.packet.length)
    constructor
    · intro hhonest _
      obtain ⟨bytes, hwritten, hreached⟩ := hhonest hok
      by_cases hle : cmd.packet.length ≤ 255
      · rw [send_written _ hle] at hwritten
        cases hwritten
        exact ⟨hle, (reached_eq_iff wire dev cmd.packet).mp hreached⟩
      -- a packet of 256 bytes or more is cut short before it gets to the driver
      · obtain ⟨cut, hcut, hlen⟩ := send_written_length nci (transport wire dev) cmd.packet
        obtain rfl : cut = bytes := Option.some.inj (hcut.symm.trans hwritten)
        have hshort := reached_length_le wire dev cut
        rw [hreached, hlen] at hshort
        omega
    · intro hwhole _
      obtain ⟨hle, htaken⟩ := hwhole hissues
      exact ⟨_, send_written _ hle, (reached_eq_iff wire dev cmd.packet).mpr htaken⟩
  · obtain ⟨status, hstatus, hrefused⟩ := exec_not_issues (transport wire dev) hissues
    refine iff_of_true (fun hok => ?_) fun h => absurd h hissues
    rw [hrefused] at hok
    exact absurd hok hstatus

/-- When the counts of the driver, and the status of a command with it, are true. -/
theorem transport_counts_iff (wire : Wire) (dev : WireDevice) (bytes : List UInt8) (n : Nat)
    (nci : NfcNci) (cmd : NciCmd) :
    (WriteHonest wire dev bytes ↔ (bytes.length ≤ 255 → TakenWhole wire dev bytes)) ∧
      (ReadHonest wire dev n ↔ dev.reply n ≠ [] ∧ (dev.reply n).length = n % 256) ∧
      (CommandHonest wire dev nci cmd ↔
        (nci.Issues cmd → cmd.packet.length ≤ 255 ∧ TakenWhole wire dev cmd.packet)) :=
  ⟨writeHonest_iff wire dev bytes, readHonest_iff wire dev n, commandHonest_iff wire dev nci cmd⟩

/-- No controller on the bus: nothing is acknowledged, nothing is answered. -/
def absentDevice : WireDevice where
  acked := fun _ => 0
  acked_le := fun _ => Nat.zero_le _
  result := fun bytes => if bytes = [] then 0 else 2
  result_eq_zero := by
    intro bytes h
    by_cases hempty : bytes = []
    · rw [hempty]
      rfl
    · rw [if_neg hempty] at h
      exact absurd h (by decide)
  reply := fun _ => []
  reply_le := fun _ => Nat.zero_le _

/-- A reset succeeds without a controller, and reading its response stores a byte that
was never received. -/
theorem transport_counts_counterexample :
    ¬ ∀ wire dev bytes n nci cmd,
      WriteHonest wire dev bytes ∧ ReadHonest wire dev n ∧ CommandHonest wire dev nci cmd := by
  intro h
  obtain ⟨hwrite, hread, hcommand⟩ := h ⟨32, [], []⟩ absentDevice [0x20, 0x00, 0x01, 0x01] 3
    NfcNci.init (.cmdCoreReset nciResetTypeResetCfg)
  have hacked := (hwrite (by decide)).2
  exact absurd hacked (by decide)

end Hw
end ArduinoNfc
