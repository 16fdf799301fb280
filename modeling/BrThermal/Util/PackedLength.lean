/-
How long a compressed line is.

A line of at most 128 bytes cannot fill a packet before it ends.  So `compressLine`
takes every repetition whole and stops a literal only in front of one, and the size of
the result is that of the groups of equal neighbours in the line.  Which neighbours of a
head line are equal can be read off the delivered dots.
-/
import BrThermal.Util.CompressLine
import BrThermal.Util.HeadDots

namespace BrThermal
namespace Util

open Codec

/-! ## Short lines -/

/-- The second loop takes bytes of their own, up to the next repetition. -/
theorem packedSize_countLiteral : ∀ (rest : List UInt8) (n : Nat), n + rest.length ≤ 128 →
    ∃ m, countLiteral rest n = n + m ∧ m ≤ rest.length ∧
      packedSize true (groupSizes rest) = m + packedLength (rest.drop m) := by
  intro rest
  induction rest with
  | nil => exact fun n _ => ⟨0, rfl, Nat.le_refl 0, rfl⟩
  | cons next rest ih =>
    intro n hn
    rw [List.length_cons] at hn
    have hcap : n < 128 := by omega
    rw [countLiteral, if_pos hcap]
    by_cases hnext : rest.head? = some next
    · obtain ⟨tail, rfl⟩ := List.head?_eq_some_iff.mp hnext
      refine ⟨0, if_pos hnext, Nat.zero_le _, ?_⟩
      rw [packedSize_repeated, Nat.zero_add, List.drop_zero]
    · obtain ⟨m, hm, hle, hsize⟩ := ih (n + 1) (by omega)
      refine ⟨m + 1, ?_, ?_, ?_⟩
      · rw [if_neg hnext, hm]
        omega
      · rw [List.length_cons]
        omega
      · rw [groupSizes_cons hnext, packedSize, if_pos rfl, if_pos rfl, hsize, List.drop_succ_cons]
        omega

/-- What the first loop leaves behind on a short line: all the copies of the byte. -/
theorem countRun_short {b : UInt8} {rest : List UInt8} (hshort : (b :: rest).length ≤ 128) :
    ∃ k, countRun b rest 1 = 1 + k ∧ b :: rest = List.replicate (1 + k) b ++ rest.drop k ∧
      (rest.drop k).head? ≠ some b := by
  obtain ⟨k, hk, hlen, htake, -, hstop⟩ := countRun_spec b rest 1
  rw [List.length_cons] at hshort
  refine ⟨k, hk, cons_eq_replicate_append htake, ?_⟩
  rcases hstop with hfull | hstop
  · have hend : rest.drop k = [] := by
      rw [List.drop_eq_nil_iff]
      omega
    rw [hend]
    simp
  · exact hstop

theorem length_compressLine {data : List UInt8} (hshort : data.length ≤ 128) :
    (compressLine data).length = packedLength data := by
  induction hn : data.length using Nat.strongRecOn generalizing data with
  | _ n ih =>
    cases data with
    | nil =>
      rw [compressLine]
      rfl
    | cons b rest =>
      obtain ⟨k, hk, hdata, hhead⟩ := countRun_short hshort
      rw [List.length_cons] at hshort hn
      rcases Nat.eq_zero_or_pos k with rfl | hpos
      · have hnext : rest.head? ≠ some b := hhead
        obtain ⟨m, hm, hle, hsize⟩ := packedSize_countLiteral rest 1 (by omega)
        have hrest : (compressLine (rest.drop m)).length = packedLength (rest.drop m) :=
          ih _ (by rw [List.length_drop]; omega) (by rw [List.length_drop]; omega) rfl
        rw [compressLine_literal (by omega) hm, packedLength_cons hnext, hsize, List.length_cons,
          List.length_cons, List.length_append, List.length_take, hrest]
        omega
      · have hrest : (compressLine (rest.drop k)).length = packedLength (rest.drop k) :=
          ih _ (by rw [List.length_drop]; omega) (by rw [List.length_drop]; omega) rfl
        rw [compressLine_run hk hpos, List.length_cons, List.length_cons, hrest, hdata,
          packedLength_replicate_append (by omega) hhead]
        omega

/-! ## Head lines -/

/-- The dots of each byte of the head line, as the delivered line has them. -/
def headCells (delivered : List UInt8) (deliveredDots headDots : Nat) : List (List Bool) :=
  (List.range (headDots / 8)).map fun i => (List.range 8).map fun j =>
    headDot delivered (min deliveredDots (8 * delivered.length)) headDots
      (headDots - 1 - (8 * i + j))

section Line

variable {delivered : List UInt8} (deliveredDots : Nat) {headDots : Nat}

theorem map_bits_buildHeadLine (hspan : 8 * delivered.length < 2 ^ 64) (hhead : headDots < 2 ^ 64)
    (hbytes : 8 ∣ headDots) :
    (buildHeadLine delivered deliveredDots headDots).map (fun b => bits [b]) =
      headCells delivered deliveredDots headDots := by
  rw [map_bits_singleton, length_line deliveredDots hhead hbytes, headCells]
  apply List.map_congr_left
  intro i hi
  apply List.map_congr_left
  intro j hj
  rw [List.mem_range] at hi hj
  exact bit_buildHeadLine deliveredDots hspan hhead hbytes (by omega)

theorem packedLength_buildHeadLine (hspan : 8 * delivered.length < 2 ^ 64)
    (hhead : headDots < 2 ^ 64) (hbytes : 8 ∣ headDots) :
    packedLength (buildHeadLine delivered deliveredDots headDots) =
      packedLength (headCells delivered deliveredDots headDots) := by
  rw [← map_bits_buildHeadLine deliveredDots hspan hhead hbytes,
    packedLength_map bits_singleton_injective]

end Line

end Util
end BrThermal
