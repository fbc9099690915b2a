import Mathlib

/-!
# Little-endian byte strings

Fixed-width unsigned integers travel as their little-endian bytes.  This
module gives the encoding of a natural number in `width` bytes and its
inverse, with the facts every fixed-width codec needs: the encoding has
exactly `width` bytes, reading it back gives the number modulo
`256 ^ width`, and every byte string of length `width` is the encoding of
the number it denotes.
-/

namespace LittleEndian

/-- The `width` little-endian bytes of `value`, least significant first. -/
def leBytes : Nat → Nat → List UInt8
  | 0, _ => []
  | width + 1, value =>
      UInt8.ofNat (value % 256) :: leBytes width (value / 256)

/-- The number whose little-endian bytes are `bytes`. -/
def ofLeBytes : List UInt8 → Nat
  | [] => 0
  | byte :: bytes => byte.toNat + 256 * ofLeBytes bytes

@[simp]
theorem length_leBytes (width value : Nat) :
    (leBytes width value).length = width := by
  induction width generalizing value with
  | zero => rfl
  | succ width ih => simp [leBytes, ih]

theorem ofLeBytes_leBytes (width value : Nat) :
    ofLeBytes (leBytes width value) = value % 256 ^ width := by
  induction width generalizing value with
  | zero => simp [leBytes, ofLeBytes, Nat.mod_one]
  | succ width ih =>
      have hlow : (UInt8.ofNat (value % 256)).toNat = value % 256 := by
        simp
      calc
        ofLeBytes (leBytes (width + 1) value) =
            value % 256 + 256 * (value / 256 % 256 ^ width) := by
          simp only [leBytes, ofLeBytes, hlow, ih]
        _ = value % (256 * 256 ^ width) := Nat.mod_mul.symm
        _ = value % 256 ^ (width + 1) := by rw [Nat.pow_succ, Nat.mul_comm]

/-- Reading back a value that fits in `width` bytes gives the value. -/
theorem ofLeBytes_leBytes_of_lt {width value : Nat}
    (hvalue : value < 256 ^ width) :
    ofLeBytes (leBytes width value) = value := by
  rw [ofLeBytes_leBytes, Nat.mod_eq_of_lt hvalue]

theorem ofLeBytes_lt (bytes : List UInt8) :
    ofLeBytes bytes < 256 ^ bytes.length := by
  induction bytes with
  | nil => simp [ofLeBytes]
  | cons byte bytes ih =>
      have hbyte : byte.toNat < 256 := byte.toNat_lt
      simp only [ofLeBytes, List.length_cons, Nat.pow_succ]
      omega

end LittleEndian
