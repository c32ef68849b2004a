import Mathlib.Tactic
import ArduinoNfc.Log.Definitions

/-!
# Reading a logged buffer back

The second `print` of `NfcLog` writes the bytes of a buffer without leading zeros,
behind a label, an address and a length.  `readBuffer` is the reader of such a line;
`readBuffer_printBuffer` says that nothing is lost.
-/

namespace ArduinoNfc
namespace Log

/-! ## Digits -/

/-- The value of a digit, as `printNumber` writes it. -/
def digitValue (c : Char) : Option Nat :=
  if c.isDigit then
    some (c.toNat - '0'.toNat)
  else if 'A' ≤ c ∧ c ≤ 'F' then
    some (10 + (c.toNat - 'A'.toNat))
  else
    none

theorem digitValue_digitChar {d : Nat} (hd : d < 16) :
    digitValue (Nat.digitChar d).toUpper = some d := by
  revert d
  decide

/-- The digits in front of the last one. -/
theorem printNumber_of_base_le {base n : Nat} (hbase : 1 < base) (h : base ≤ n) :
    printNumber base n =
      printNumber base (n / base) ++ [(Nat.digitChar (n % base)).toUpper] := by
  rw [printNumber, Nat.toDigits_of_base_le hbase h, List.map_append]
  rfl

theorem printNumber_of_lt {base n : Nat} (h : n < base) :
    printNumber base n = [(Nat.digitChar n).toUpper] := by
  rw [printNumber, Nat.toDigits_of_lt_base h]
  rfl

/-- Every character of a number up to base sixteen is a digit. -/
theorem digitValue_of_mem {base n : Nat} (hbase : 1 < base) (hle : base ≤ 16) {c : Char}
    (h : c ∈ printNumber base n) : ∃ d, digitValue c = some d := by
  induction n using Nat.strongRecOn with
  | ind n ih =>
      by_cases hn : n < base
      · rw [printNumber_of_lt hn, List.mem_singleton] at h
        exact ⟨n, by rw [h, digitValue_digitChar (hn.trans_le hle)]⟩
      · have hdiv : n / base < n := Nat.div_lt_self (by omega) hbase
        rw [printNumber_of_base_le hbase (by omega), List.mem_append, List.mem_singleton] at h
        rcases h with h | h
        · exact ih _ hdiv h
        · have hmod : n % base < 16 := (Nat.mod_lt _ (by omega)).trans_le hle
          exact ⟨n % base, by rw [h, digitValue_digitChar hmod]⟩

/-! ## The reader -/

/-- One character: a blank starts a number, a digit continues it, anything else is passed
over. -/
def readStep (numbers : List Nat) (c : Char) : List Nat :=
  if c = ' ' then
    0 :: numbers
  else
    match digitValue c, numbers with
    | some d, n :: numbers => (16 * n + d) :: numbers
    | _, _ => numbers

/-- The bytes behind the head of a line. -/
def readBytes (text : List Char) : List UInt8 :=
  (text.foldl readStep []).reverse.map UInt8.ofNat

/-- The bytes of a line that starts with a label: the head ends with the first colon
behind the label. -/
def readBuffer (label : String) (line : List Char) : List UInt8 :=
  readBytes ((line.drop label.toList.length).dropWhile (· ≠ ':'))

theorem readStep_digit {c : Char} {d : Nat} (hc : digitValue c = some d) (n : Nat)
    (numbers : List Nat) : readStep (n :: numbers) c = (16 * n + d) :: numbers := by
  have hblank : c ≠ ' ' := by
    rintro rfl
    cases hc
  simp only [readStep, hblank, if_false, hc]

/-- A number is read as it was printed. -/
theorem foldl_printNumber (n : Nat) (numbers : List Nat) :
    (printNumber 16 n).foldl readStep (0 :: numbers) = n :: numbers := by
  induction n using Nat.strongRecOn with
  | ind n ih =>
      by_cases hn : n < 16
      · rw [printNumber_of_lt hn, List.foldl_cons, List.foldl_nil,
          readStep_digit (digitValue_digitChar hn)]
        simp
      · have hdiv : n / 16 < n := Nat.div_lt_self (by omega) (by omega)
        have hmod : n % 16 < 16 := Nat.mod_lt _ (by omega)
        rw [printNumber_of_base_le (by omega) (by omega), List.foldl_append, ih _ hdiv,
          List.foldl_cons, List.foldl_nil, readStep_digit (digitValue_digitChar hmod),
          Nat.div_add_mod]

/-- What is printed of a byte. -/
def byteText (b : UInt8) : List Char := [' ', '0', 'x'] ++ printNumber 16 b.toNat

theorem foldl_byteText (b : UInt8) (numbers : List Nat) :
    (byteText b).foldl readStep numbers = b.toNat :: numbers := by
  have hprefix : [' ', '0', 'x'].foldl readStep numbers = 0 :: numbers := by
    simp only [List.foldl_cons, List.foldl_nil]
    rfl
  rw [byteText, List.foldl_append, hprefix, foldl_printNumber]

theorem foldl_bytes (bytes : List UInt8) (numbers : List Nat) :
    (bytes.flatMap byteText).foldl readStep numbers =
      (bytes.map UInt8.toNat).reverse ++ numbers := by
  induction bytes generalizing numbers with
  | nil => rfl
  | cons b bytes ih =>
      rw [List.flatMap_cons, List.foldl_append, foldl_byteText, ih]
      simp

theorem readBytes_bytes (bytes : List UInt8) :
    readBytes (':' :: bytes.flatMap byteText ++ ['\n']) = bytes := by
  have hread : (':' :: bytes.flatMap byteText ++ ['\n']).foldl readStep [] =
      (bytes.map UInt8.toNat).reverse := by
    have hcolon : readStep [] ':' = [] := rfl
    have hend : ∀ numbers, readStep numbers '\n' = numbers := by
      intro numbers
      cases numbers <;> rfl
    rw [List.cons_append, List.foldl_cons, hcolon, List.foldl_append, foldl_bytes,
      List.append_nil, List.foldl_cons, List.foldl_nil, hend]
  rw [readBytes, hread, List.reverse_reverse, List.map_map]
  exact (List.map_congr_left fun b _ => UInt8.ofNat_toNat).trans (List.map_id bytes)

/-- The head of a line ends at its colon. -/
theorem dropWhile_head (addr len : Nat) (text : List Char) :
    (['0', 'x'] ++ printNumber 10 addr ++ ['['] ++ printNumber 10 len ++ [']', ':'] ++
      text).dropWhile (· ≠ ':') = ':' :: text := by
  have hnumber : ∀ n, ∀ c ∈ printNumber 10 n, c ≠ ':' := by
    rintro n c hc rfl
    obtain ⟨d, hd⟩ := digitValue_of_mem (by omega) (by omega) hc
    cases hd
  have hhead : ∀ c ∈ ['0', 'x'] ++ printNumber 10 addr ++ ['['] ++ printNumber 10 len ++ [']'],
      decide (c ≠ ':') = true := by
    intro c hc
    simp only [List.mem_append, List.mem_cons, List.not_mem_nil, or_false] at hc
    rcases hc with ((((rfl | rfl) | hc) | rfl) | hc) | rfl
    · rfl
    · rfl
    · exact decide_eq_true (hnumber _ c hc)
    · rfl
    · exact decide_eq_true (hnumber _ c hc)
    · rfl
  have hsplit : ['0', 'x'] ++ printNumber 10 addr ++ ['['] ++ printNumber 10 len ++ [']', ':'] ++
      text = (['0', 'x'] ++ printNumber 10 addr ++ ['['] ++ printNumber 10 len ++ [']']) ++
        ':' :: text := by
    simp
  rw [hsplit, List.dropWhile_append_of_pos hhead]
  rfl

/-- The bytes of a buffer that is logged are in its line. -/
theorem readBuffer_printBuffer {log : NfcLog} {level : UInt8} (hlevel : ¬ log.level < level)
    (label : String) (addr : Nat) {bytes : List UInt8} (hne : bytes ≠ []) :
    readBuffer label (log.printBuffer level label (some addr) bytes) = bytes := by
  have hline : log.printBuffer level label (some addr) bytes =
      label.toList ++ (['0', 'x'] ++ printNumber 10 addr ++ ['['] ++
        printNumber 10 bytes.length ++ [']', ':'] ++
          (bytes.flatMap byteText ++ ['\n'])) := by
    simp only [NfcLog.printBuffer, if_neg (not_or.mpr ⟨hlevel, hne⟩), List.append_assoc]
    rfl
  rw [readBuffer, hline, List.drop_left, dropWhile_head, ← List.cons_append, readBytes_bytes]

/-- The line of a chunk of three bytes, one of them below sixteen. -/
theorem readBuffer_printBuffer_three :
    readBuffer "tag dump = " (NfcLog.printBuffer ⟨nfcLogLevelInfo⟩ nfcLogLevelInfo "tag dump = "
      (some 8192) [0x04, 0xA0, 0xFF]) = [0x04, 0xA0, 0xFF] :=
  readBuffer_printBuffer (by decide) "tag dump = " 8192 nofun

end Log
end ArduinoNfc
