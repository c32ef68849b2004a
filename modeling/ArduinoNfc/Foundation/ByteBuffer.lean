import Mathlib.Data.List.OfFn

/-!
# Byte buffers of a fixed size

A buffer is a total function on its indices, so no value of the type holds more
or fewer bytes than the memory it stands for.  Storing drops what does not fit:
whoever stores through a raw pointer is expected to count what it stored, and
to be judged by that count.
-/

namespace ArduinoNfc
namespace Foundation

/-- A byte memory with `size` cells. -/
abbrev ByteBuffer (size : Nat) := Fin size → UInt8

namespace ByteBuffer

variable {size : Nat}

/-- The zero-initialised buffer. -/
def zero (size : Nat) : ByteBuffer size := fun _ => 0

/-- Store `bytes` in the cells `off, off + 1, ...`. -/
def store (buf : ByteBuffer size) (off : Nat) (bytes : List UInt8) :
    ByteBuffer size := fun i =>
  if off ≤ i.val ∧ i.val < off + bytes.length then
    bytes.getD (i.val - off) 0
  else
    buf i

/-- The `len` bytes that a pointer to the start of the buffer hands on. -/
def take (buf : ByteBuffer size) (len : Nat) : List UInt8 :=
  (List.range len).map fun i => if h : i < size then buf ⟨i, h⟩ else 0

theorem store_inside (buf : ByteBuffer size) {off : Nat} {bytes : List UInt8}
    (i : Fin size) (hlow : off ≤ i.val) (hhigh : i.val < off + bytes.length) :
    buf.store off bytes i = bytes.getD (i.val - off) 0 := by
  simp [store, hlow, hhigh]

theorem store_below (buf : ByteBuffer size) {off : Nat} {bytes : List UInt8}
    (i : Fin size) (hlow : i.val < off) : buf.store off bytes i = buf i := by
  have : ¬ (off ≤ i.val ∧ i.val < off + bytes.length) := by omega
  simp [store, this]

theorem store_above (buf : ByteBuffer size) {off : Nat} {bytes : List UInt8}
    (i : Fin size) (hhigh : off + bytes.length ≤ i.val) : buf.store off bytes i = buf i := by
  have : ¬ (off ≤ i.val ∧ i.val < off + bytes.length) := by omega
  simp [store, this]

/-- What was stored at the start of a buffer is what its first bytes read. -/
theorem take_store (buf : ByteBuffer size) (bytes : List UInt8)
    (hfit : bytes.length ≤ size) :
    (buf.store 0 bytes).take bytes.length = bytes := by
  apply List.ext_getElem
  · simp [take]
  · intro i hi hi'
    have hsize : i < size := by omega
    simp [take, store, hsize, hi']

end ByteBuffer
end Foundation
end ArduinoNfc
