import Mathlib.Tactic

/-!
# Records of a fixed width

A `RecordCodec` writes a value as a record of fixed width and reads it back.  A
table of records has nothing between its records and no end marker, so it can be
read when the number of records is known; `decodeCounted` finds it in the byte in
front of the table.
-/

namespace ArduinoNfc
namespace Foundation

/-- Values as byte records of one width. -/
structure RecordCodec (α : Type*) where
  width : Nat
  encode : α → List UInt8
  decode : List UInt8 → α
  encode_length : ∀ a, (encode a).length = width
  decode_encode : ∀ a, decode (encode a) = a

namespace RecordCodec

variable {α : Type*} (c : RecordCodec α)

/-- The records of a table, one after the other. -/
def encodeAll (xs : List α) : List UInt8 := xs.flatMap c.encode

/-- Read `n` records; nothing may be left over. -/
def decodeAll : Nat → List UInt8 → Option (List α)
  | 0, [] => some []
  | 0, _ :: _ => none
  | n + 1, bytes =>
      if c.width ≤ bytes.length then
        (decodeAll n (bytes.drop c.width)).map (c.decode (bytes.take c.width) :: ·)
      else
        none

/-- The table behind a byte that counts its records. -/
def decodeCounted : List UInt8 → Option (List α)
  | [] => none
  | num :: bytes => c.decodeAll num.toNat bytes

@[simp] theorem encodeAll_nil : c.encodeAll [] = [] := rfl

@[simp] theorem encodeAll_cons (x : α) (xs : List α) :
    c.encodeAll (x :: xs) = c.encode x ++ c.encodeAll xs := rfl

theorem encodeAll_length (xs : List α) :
    (c.encodeAll xs).length = c.width * xs.length := by
  induction xs with
  | nil => rfl
  | cons x xs ih =>
      rw [encodeAll_cons, List.length_append, c.encode_length, ih, List.length_cons]
      ring

/-- The number of records in front, a table is read back. -/
theorem decodeAll_encodeAll (xs : List α) :
    c.decodeAll xs.length (c.encodeAll xs) = some xs := by
  induction xs with
  | nil => rfl
  | cons x xs ih =>
      have hwidth : c.width = (c.encode x).length := (c.encode_length x).symm
      have htake : (c.encode x ++ c.encodeAll xs).take c.width = c.encode x := by
        rw [hwidth, List.take_left]
      have hdrop : (c.encode x ++ c.encodeAll xs).drop c.width = c.encodeAll xs := by
        rw [hwidth, List.drop_left]
      have hle : c.width ≤ (c.encode x ++ c.encodeAll xs).length := by
        rw [List.length_append, hwidth]
        exact Nat.le_add_right _ _
      rw [encodeAll_cons, List.length_cons, decodeAll, if_pos hle, htake, hdrop, ih,
        c.decode_encode]
      rfl

/-- A counted table is read back. -/
theorem decodeCounted_cons {num : UInt8} {xs : List α} (h : num.toNat = xs.length) :
    c.decodeCounted (num :: c.encodeAll xs) = some xs := by
  rw [decodeCounted, h]
  exact c.decodeAll_encodeAll xs

end RecordCodec
end Foundation
end ArduinoNfc
