/-
TIFF PackBits.

A packed stream is a sequence of packets, each a control byte with its operand.
`Packet` carries the length limits of the format as fields, so an encoder that
produces packets cannot emit the reserved control byte 128 or a count outside the
format.  `unpackBits` is the strict reader: a truncated packet or a control byte
128 is an error.

A packet costs a control byte, so a stream can be longer than what it stands for, but
not by much where an encoder does not break its literals needlessly
(`length_encode_le`).  How long it is where every repetition is found depends on the
sizes of the groups of equal neighbours alone (`packedLength`).
-/
import Mathlib.Data.List.Chain
import Mathlib.Data.List.SplitBy

namespace BrThermal
namespace Codec

/-- Reads a packed stream to its end. -/
def unpackBits : List UInt8 → Option (List UInt8)
  | [] => some []
  | control :: rest =>
    if control.toNat < 128 then
      if control.toNat + 1 ≤ rest.length then
        (unpackBits (rest.drop (control.toNat + 1))).map (rest.take (control.toNat + 1) ++ ·)
      else none
    else if control.toNat = 128 then none
    else match rest with
      | [] => none
      | b :: rest => (unpackBits rest).map (List.replicate (257 - control.toNat) b ++ ·)
termination_by data => data.length
decreasing_by
  · simp only [List.length_drop, List.length_cons]
    omega
  · simp only [List.length_cons]
    omega

theorem unpackBits_literal {control : UInt8} {rest : List UInt8} (hc : control.toNat < 128)
    (hlen : control.toNat + 1 ≤ rest.length) :
    unpackBits (control :: rest) =
      (unpackBits (rest.drop (control.toNat + 1))).map
        (rest.take (control.toNat + 1) ++ ·) := by
  rw [unpackBits.eq_def]
  simp only [hc, hlen, if_true]

theorem unpackBits_run {control b : UInt8} {rest : List UInt8} (hc : 128 < control.toNat) :
    unpackBits (control :: b :: rest) =
      (unpackBits rest).map (List.replicate (257 - control.toNat) b ++ ·) := by
  have hlt : ¬control.toNat < 128 := by omega
  have hne : ¬control.toNat = 128 := by omega
  rw [unpackBits.eq_def]
  simp only [hlt, hne, if_false]

inductive Packet where
  | literal (bytes : List UInt8) (pos : 1 ≤ bytes.length) (le : bytes.length ≤ 128)
  | run (n : Nat) (b : UInt8) (two_le : 2 ≤ n) (le : n ≤ 128)

namespace Packet

def control : Packet → UInt8
  | literal bytes _ _ => UInt8.ofNat (bytes.length - 1)
  | run n _ _ _ => UInt8.ofNat (257 - n)

def operand : Packet → List UInt8
  | literal bytes _ _ => bytes
  | run _ b _ _ => [b]

def encode (p : Packet) : List UInt8 := p.control :: p.operand

/-- The bytes a packet stands for. -/
def expand : Packet → List UInt8
  | literal bytes _ _ => bytes
  | run n b _ _ => List.replicate n b

theorem control_literal (bytes : List UInt8) (pos : 1 ≤ bytes.length)
    (le : bytes.length ≤ 128) :
    (literal bytes pos le).control.toNat = bytes.length - 1 := by
  rw [control, UInt8.toNat_ofNat']
  omega

theorem control_run (n : Nat) (b : UInt8) (two_le : 2 ≤ n) (le : n ≤ 128) :
    (run n b two_le le).control.toNat = 257 - n := by
  rw [control, UInt8.toNat_ofNat']
  omega

/-- No packet uses the reserved control byte. -/
theorem control_ne (p : Packet) : p.control ≠ 128 := by
  intro h
  have h128 : p.control.toNat = 128 := by rw [h]; rfl
  cases p with
  | literal bytes pos le =>
    rw [control_literal] at h128
    omega
  | run n b two_le le =>
    rw [control_run] at h128
    omega

theorem unpackBits_encode_append (p : Packet) (tail : List UInt8) :
    unpackBits (p.encode ++ tail) = (unpackBits tail).map (p.expand ++ ·) := by
  cases p with
  | literal bytes pos le =>
    have hc := control_literal bytes pos le
    have hn : bytes.length - 1 + 1 = bytes.length := by omega
    rw [encode, operand, List.cons_append,
      unpackBits_literal (by omega) (by rw [List.length_append]; omega),
      hc, hn, List.drop_left, List.take_left, expand]
  | run n b two_le le =>
    have hc := control_run n b two_le le
    have hn : 257 - (257 - n) = n := by omega
    rw [encode, operand, List.cons_append, List.singleton_append, unpackBits_run (by omega),
      hc, hn, expand]

end Packet

/-- Reading back a sequence of packets yields what the packets stand for. -/
theorem unpackBits_packets (ps : List Packet) :
    unpackBits (ps.flatMap Packet.encode) = some (ps.flatMap Packet.expand) := by
  induction ps with
  | nil => rw [List.flatMap_nil, List.flatMap_nil, unpackBits]
  | cons p ps ih =>
    rw [List.flatMap_cons, List.flatMap_cons, Packet.unpackBits_encode_append, ih,
      Option.map_some]

/-! ## The size of a packed stream -/

namespace Packet

def IsRun : Packet → Prop
  | literal _ _ _ => False
  | run _ _ _ _ => True

/-- No literal goes on in another one, unless it is full. -/
def Apart (p q : Packet) : Prop := p.IsRun ∨ q.IsRun ∨ p.expand.length = 128

/-- The thirds of a byte that a sequence may be longer than four thirds of what it
stands for: a literal of a single byte pays for its control byte only with the run
after it. -/
def overhead : List Packet → Nat
  | literal _ _ _ :: _ => 2
  | _ => 0

theorem overhead_le (ps : List Packet) : overhead ps ≤ 2 := by
  rcases ps with _ | ⟨_ | _, ps⟩
  · exact Nat.zero_le 2
  · exact Nat.le_refl 2
  · exact Nat.zero_le 2

/-- The charge of one packet is met by what it stands for and by the packet after it. -/
theorem charge_le {p : Packet} {ps : List Packet} (h : ∀ q ∈ ps.head?, p.Apart q) :
    3 * p.encode.length + overhead ps ≤ 4 * p.expand.length + overhead (p :: ps) := by
  have hps := overhead_le ps
  cases p with
  | run n b two_le le =>
    rw [encode, operand, expand, List.length_cons, List.length_singleton, List.length_replicate]
    omega
  | literal bytes pos le =>
    have howed : overhead ps = 0 ∨ bytes.length = 128 := by
      rcases ps with _ | ⟨_ | _, ps⟩
      · exact .inl rfl
      · obtain hrun | hrun | hfull := h _ rfl
        · cases hrun
        · cases hrun
        · exact .inr hfull
      · exact .inl rfl
    have hself : overhead (literal bytes pos le :: ps) = 2 := rfl
    rw [encode, operand, expand, List.length_cons, hself]
    omega

theorem length_encode_le_overhead {ps : List Packet} (h : ps.IsChain Apart) :
    3 * (ps.flatMap encode).length ≤ 4 * (ps.flatMap expand).length + overhead ps := by
  induction ps with
  | nil => exact Nat.le_refl 0
  | cons p ps ih =>
    obtain ⟨hfirst, hrest⟩ := List.isChain_cons.mp h
    have hcharge := charge_le hfirst
    have htail := ih hrest
    rw [List.flatMap_cons, List.flatMap_cons, List.length_append, List.length_append]
    omega

/-- A stream is at most a third longer than what it stands for, rounded up. -/
theorem length_encode_le {ps : List Packet} (h : ps.IsChain Apart) :
    (ps.flatMap encode).length ≤
      (ps.flatMap expand).length + ((ps.flatMap expand).length + 2) / 3 := by
  have hlength := length_encode_le_overhead h
  have howed := overhead_le ps
  omega

end Packet

/-! ## Groups of equal neighbours -/

section Groups

variable {α β : Type} [DecidableEq α] [DecidableEq β]

/-- The sizes of the groups of equal neighbours, in order. -/
def groupSizes (line : List α) : List Nat := (line.splitBy (· == ·)).map List.length

/-- What groups of these sizes pack into: two bytes for a repeated byte, and one for a
byte of its own, which needs a control byte only where no literal is open. -/
def packedSize : Bool → List Nat → Nat
  | _, [] => 0
  | inLiteral, size :: sizes =>
    if size = 1 then (if inLiteral then 1 else 2) + packedSize true sizes
    else 2 + packedSize false sizes

/-- The size of a line of at most 128 bytes packed with every repetition found. -/
def packedLength (line : List α) : Nat := packedSize false (groupSizes line)

theorem groupSizes_replicate_append {b : α} {n : Nat} {tail : List α} (hn : 1 ≤ n)
    (htail : tail.head? ≠ some b) :
    groupSizes (List.replicate n b ++ tail) = n :: groupSizes tail := by
  have hne : List.replicate n b ≠ [] := by
    rw [Ne, List.replicate_eq_nil_iff]
    omega
  have hchain : (List.replicate n b).IsChain fun x y => (x == y) = true :=
    List.isChain_replicate_of_rel n (beq_self_eq_true b)
  have hsplit : (List.replicate n b ++ tail).splitBy (· == ·) =
      List.replicate n b :: tail.splitBy (· == ·) := by
    rw [List.splitBy_append, List.splitBy_of_isChain hne hchain, List.singleton_append]
    intro x hx y hy
    obtain rfl := List.eq_of_mem_replicate (List.mem_of_mem_getLast? hx)
    apply beq_false_of_ne
    rintro rfl
    exact htail hy
  rw [groupSizes, hsplit, List.map_cons, List.length_replicate]
  rfl

theorem groupSizes_cons {b : α} {tail : List α} (htail : tail.head? ≠ some b) :
    groupSizes (b :: tail) = 1 :: groupSizes tail :=
  groupSizes_replicate_append (Nat.le_refl 1) htail

/-- A repetition is a run. -/
theorem packedLength_replicate_append {b : α} {n : Nat} {tail : List α} (hn : 2 ≤ n)
    (htail : tail.head? ≠ some b) :
    packedLength (List.replicate n b ++ tail) = 2 + packedLength tail := by
  have hsize : n ≠ 1 := by omega
  rw [packedLength, groupSizes_replicate_append (by omega) htail, packedSize, if_neg hsize]
  rfl

/-- A byte of its own opens a literal. -/
theorem packedLength_cons {b : α} {tail : List α} (htail : tail.head? ≠ some b) :
    packedLength (b :: tail) = 2 + packedSize true (groupSizes tail) := by
  rw [packedLength, groupSizes_cons htail, packedSize, if_pos rfl]
  rfl

theorem exists_replicate_append (b : α) (line : List α) :
    ∃ n tail, line = List.replicate n b ++ tail ∧ tail.head? ≠ some b := by
  induction line with
  | nil => exact ⟨0, [], rfl, by simp⟩
  | cons c line ih =>
    by_cases hc : c = b
    · subst hc
      obtain ⟨n, tail, rfl, htail⟩ := ih
      exact ⟨n + 1, tail, rfl, htail⟩
    · exact ⟨0, c :: line, rfl, fun h => hc (Option.some.inj h)⟩

/-- A repetition ends a literal, so what it packs into does not depend on one. -/
theorem packedSize_repeated (b : α) (line : List α) (inLiteral : Bool) :
    packedSize inLiteral (groupSizes (b :: b :: line)) = packedLength (b :: b :: line) := by
  obtain ⟨n, tail, rfl, htail⟩ := exists_replicate_append b line
  have hgroups : groupSizes (List.replicate (n + 2) b ++ tail) = (n + 2) :: groupSizes tail :=
    groupSizes_replicate_append (by omega) htail
  have hsize : n + 2 ≠ 1 := by omega
  show packedSize inLiteral (groupSizes (List.replicate (n + 2) b ++ tail)) =
    packedSize false (groupSizes (List.replicate (n + 2) b ++ tail))
  rw [hgroups, packedSize, packedSize, if_neg hsize, if_neg hsize]

/-- Only which neighbours are equal counts. -/
theorem groupSizes_map {f : α → β} (hf : Function.Injective f) (line : List α) :
    groupSizes (line.map f) = groupSizes line := by
  have hsplit : (line.map f).splitBy (· == ·) = (line.splitBy (· == ·)).map (List.map f) := by
    rw [List.splitBy_eq_iff]
    refine ⟨?_, ?_, ?_, ?_⟩
    · rw [← List.map_flatten, List.flatten_splitBy]
    · intro hnil
      obtain ⟨group, hgroup, hempty⟩ := List.mem_map.mp hnil
      exact List.ne_nil_of_mem_splitBy hgroup (List.map_eq_nil_iff.mp hempty)
    · intro mapped hmapped
      obtain ⟨group, hgroup, rfl⟩ := List.mem_map.mp hmapped
      rw [List.isChain_map]
      simpa [hf.eq_iff] using List.isChain_of_mem_splitBy hgroup
    · rw [List.isChain_map]
      refine (List.isChain_getLast_head_splitBy (· == ·) line).imp ?_
      rintro group next ⟨hgroup, hnext, hne⟩
      refine ⟨by simpa using hgroup, by simpa using hnext, ?_⟩
      simpa [hf.eq_iff] using hne
  rw [groupSizes, groupSizes, hsplit, List.map_map]
  congr 1
  funext group
  exact List.length_map f

theorem packedLength_map {f : α → β} (hf : Function.Injective f) (line : List α) :
    packedLength (line.map f) = packedLength line := by
  rw [packedLength, packedLength, groupSizes_map hf]

end Groups

end Codec
end BrThermal
