/-
A byte list as a line of bits.

Bit `0` is the most significant bit of the first byte, and the bits past the end
are clear.  Two lists of one length are equal when their bits are, so an operation
on bytes is known once it is known what it does to a bit.
-/
import Mathlib.Data.Nat.Bitwise

namespace BrThermal
namespace Codec

/-- Bit `p` of the line. -/
def bit (bytes : List UInt8) (p : Nat) : Bool := (bytes.getD (p / 8) 0).toNat.testBit (7 - p % 8)

/-- The bits of the line in order. -/
def bits (bytes : List UInt8) : List Bool := (List.range (8 * bytes.length)).map (bit bytes)

/-- The byte whose one set bit is the place of bit `p` in its byte. -/
def bitMask (p : Nat) : UInt8 := 0x80 >>> UInt8.ofNat (p % 8)

theorem toNat_bitMask (p : Nat) : (bitMask p).toNat = 2 ^ (7 - p % 8) := by
  have hmask : ∀ k < 8, (0x80 >>> UInt8.ofNat k : UInt8).toNat = 2 ^ (7 - k) := by decide
  exact hmask (p % 8) (Nat.mod_lt p (by decide))

/-- Masking a byte reads its bit. -/
theorem and_bitMask_ne_zero (b : UInt8) (p : Nat) :
    b &&& bitMask p ≠ 0 ↔ b.toNat.testBit (7 - p % 8) = true := by
  have hpos : 0 < 2 ^ (7 - p % 8) := Nat.two_pow_pos _
  rw [Ne, ← UInt8.toNat_inj, UInt8.toNat_and, toNat_bitMask, Nat.and_two_pow, UInt8.toNat_zero]
  cases b.toNat.testBit (7 - p % 8) with
  | false => simp
  | true => simp

theorem bit_of_le {bytes : List UInt8} {p : Nat} (hp : 8 * bytes.length ≤ p) :
    bit bytes p = false := by
  have hout : bytes.length ≤ p / 8 := by omega
  rw [bit, List.getD_eq_getElem?_getD, List.getElem?_eq_none hout]
  exact Nat.zero_testBit _

theorem bit_replicate_zero (n p : Nat) : bit (List.replicate n 0) p = false := by
  have hbyte : (List.replicate n (0 : UInt8)).getD (p / 8) 0 = 0 := by
    rw [List.getD_eq_getElem?_getD, List.getElem?_replicate]
    split <;> rfl
  rw [bit, hbyte]
  exact Nat.zero_testBit _

/-- A line is determined by its length and its bits. -/
theorem eq_of_bit {xs ys : List UInt8} (hlength : xs.length = ys.length)
    (hbit : ∀ p < 8 * xs.length, bit xs p = bit ys p) : xs = ys := by
  refine List.ext_getElem hlength (fun i hx hy => ?_)
  rw [← UInt8.toNat_inj]
  refine Nat.eq_of_testBit_eq (fun j => ?_)
  by_cases hj : j < 8
  · have hp := hbit (8 * i + (7 - j)) (by omega)
    have hbyte : (8 * i + (7 - j)) / 8 = i := by omega
    have hplace : 7 - (8 * i + (7 - j)) % 8 = j := by omega
    rw [bit, bit, hbyte, hplace, List.getD_eq_getElem _ _ hx, List.getD_eq_getElem _ _ hy] at hp
    exact hp
  · have hlarge : ∀ b : UInt8, b.toNat.testBit j = false := by
      intro b
      have hb : b.toNat < 2 ^ 8 := b.toNat_lt
      have hpow : 2 ^ 8 ≤ 2 ^ j := Nat.pow_le_pow_right (by decide) (by omega)
      exact Nat.testBit_lt_two_pow (by omega)
    rw [hlarge, hlarge]

/-! ## Setting a bit -/

/-- Setting bit `q` sets it, where there is one, and no other. -/
theorem bit_modify_or (bytes : List UInt8) (p q : Nat) :
    bit (bytes.modify (q / 8) (· ||| bitMask q)) p =
      (bit bytes p || decide (p = q ∧ q < 8 * bytes.length)) := by
  rw [bit, List.getD_eq_getElem?_getD, List.getElem?_modify]
  by_cases hin : p / 8 < bytes.length
  · rw [bit, List.getD_eq_getElem?_getD, List.getElem?_eq_getElem hin, Option.map_eq_map,
      Option.map_some, Option.getD_some, Option.getD_some]
    by_cases hbyte : q / 8 = p / 8
    · have hplace : decide (7 - q % 8 = 7 - p % 8) = decide (p = q ∧ q < 8 * bytes.length) := by
        rw [decide_eq_decide]
        omega
      rw [if_pos hbyte, UInt8.toNat_or, Nat.testBit_or, toNat_bitMask, Nat.testBit_two_pow, hplace]
    · have hne : decide (p = q ∧ q < 8 * bytes.length) = false := by
        rw [decide_eq_false_iff_not]
        rintro ⟨rfl, -⟩
        exact hbyte rfl
      rw [if_neg hbyte, hne, Bool.or_false]
  · have hnone : decide (p = q ∧ q < 8 * bytes.length) = false := by
      rw [decide_eq_false_iff_not]
      omega
    rw [bit_of_le (by omega), hnone, List.getElem?_eq_none (by omega)]
    split <;> exact Nat.zero_testBit _

/-! ## Reversing the line -/

/-- Reversing the bytes, and the bits in each, reverses the line. -/
theorem bit_map_reverse {f : UInt8 → UInt8}
    (hf : ∀ b, ∀ i < 8, (f b).toNat.testBit i = b.toNat.testBit (7 - i)) {bytes : List UInt8}
    {p : Nat} (hp : p < 8 * bytes.length) :
    bit (bytes.reverse.map f) p = bit bytes (8 * bytes.length - 1 - p) := by
  have hin : p / 8 < (bytes.reverse.map f).length := by
    rw [List.length_map, List.length_reverse]
    omega
  have hbyte : bytes.length - 1 - p / 8 = (8 * bytes.length - 1 - p) / 8 := by omega
  have hplace : 7 - (7 - p % 8) = 7 - (8 * bytes.length - 1 - p) % 8 := by omega
  rw [bit, List.getD_eq_getElem _ _ hin, List.getElem_map, List.getElem_reverse,
    hf _ _ (by omega), hplace, bit, ← hbyte, List.getD_eq_getElem]

/-! ## The bits as a list -/

@[simp] theorem length_bits (bytes : List UInt8) : (bits bytes).length = 8 * bytes.length := by
  rw [bits, List.length_map, List.length_range]

theorem getElem_bits {bytes : List UInt8} {p : Nat} (hp : p < (bits bytes).length) :
    (bits bytes)[p] = bit bytes p := by
  simp only [bits, List.getElem_map, List.getElem_range]

/-! ## The bits of one byte -/

theorem bits_singleton_injective : Function.Injective fun b : UInt8 => bits [b] := by
  intro b c h
  have hbytes : [b] = [c] := by
    refine eq_of_bit rfl (fun p hp => ?_)
    have hb : p < (bits [b]).length := by simpa using hp
    have hc : p < (bits [c]).length := by simpa using hp
    rw [← getElem_bits hb, ← getElem_bits hc]
    simp only [show bits [b] = bits [c] from h]
  exact List.singleton_inj.mp hbytes

/-- The bits of a line, eight to a byte. -/
theorem map_bits_singleton (bytes : List UInt8) :
    bytes.map (fun b => bits [b]) =
      (List.range bytes.length).map fun i => (List.range 8).map fun j => bit bytes (8 * i + j) := by
  refine List.ext_getElem (by simp) (fun i hi hi' => ?_)
  rw [List.length_map] at hi
  rw [List.getElem_map, List.getElem_map, List.getElem_range, bits, List.length_singleton]
  apply List.map_congr_left
  intro j hj
  have hlt : j < 8 := by simpa using hj
  have hbyte : (8 * i + j) / 8 = i := by omega
  have hplace : (8 * i + j) % 8 = j % 8 := by omega
  have hfirst : j / 8 = 0 := by omega
  rw [bit, bit, hbyte, hplace, hfirst, List.getD_eq_getElem _ _ hi]
  rfl

end Codec
end BrThermal
