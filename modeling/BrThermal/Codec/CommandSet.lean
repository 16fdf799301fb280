/-
Streams of self-delimiting commands.

A command is a header, which says how its operand is laid out, and the operand:
either a fixed number of bytes, or a little-endian count and that many bytes.  A
`CommandSet` is a table of headers none of which begins another, and that alone
makes a stream unambiguous: a byte string is the encoding of at most one sequence
of commands, and `decodeAll` finds it.  Operand bytes are arbitrary, so a header
inside an operand is data.
-/
import Mathlib.Algebra.Group.Nat.Defs
import Mathlib.Data.List.Basic

namespace BrThermal
namespace Codec

/-! ## Little-endian counts -/

/-- The low `width` bytes of `n`, the lowest first. -/
def littleEndian : Nat → Nat → List UInt8
  | 0, _ => []
  | width + 1, n => UInt8.ofNat n :: littleEndian width (n / 256)

def ofLittleEndian : List UInt8 → Nat
  | [] => 0
  | b :: bs => b.toNat + 256 * ofLittleEndian bs

@[simp] theorem length_littleEndian (width n : Nat) : (littleEndian width n).length = width := by
  induction width generalizing n with
  | zero => rfl
  | succ width ih => rw [littleEndian, List.length_cons, ih]

/-- A count that does not fit its bytes is cut off. -/
theorem ofLittleEndian_littleEndian_mod (width n : Nat) :
    ofLittleEndian (littleEndian width n) = n % 256 ^ width := by
  induction width generalizing n with
  | zero => exact (Nat.mod_one n).symm
  | succ width ih =>
    have hpow : 256 ^ (width + 1) = 256 * 256 ^ width := Nat.pow_succ'
    have hsplit : n % (256 * 256 ^ width) = n % 256 + 256 * (n / 256 % 256 ^ width) := Nat.mod_mul
    rw [littleEndian, ofLittleEndian, ih, UInt8.toNat_ofNat', hpow, hsplit]

theorem ofLittleEndian_littleEndian {width n : Nat} (h : n < 256 ^ width) :
    ofLittleEndian (littleEndian width n) = n := by
  rw [ofLittleEndian_littleEndian_mod, Nat.mod_eq_of_lt h]

theorem littleEndian_ofLittleEndian (bs : List UInt8) :
    littleEndian bs.length (ofLittleEndian bs) = bs := by
  induction bs with
  | nil => rfl
  | cons b bs ih =>
    have hb := b.toNat_lt
    have hlow : UInt8.ofNat (b.toNat + 256 * ofLittleEndian bs) = b := by
      rw [← UInt8.toNat_inj, UInt8.toNat_ofNat']
      omega
    have hhigh : (b.toNat + 256 * ofLittleEndian bs) / 256 = ofLittleEndian bs := by omega
    rw [List.length_cons, ofLittleEndian, littleEndian, hlow, hhigh, ih]

theorem ofLittleEndian_lt (bs : List UInt8) : ofLittleEndian bs < 256 ^ bs.length := by
  induction bs with
  | nil => exact Nat.one_pos
  | cons b bs ih =>
    have hb := b.toNat_lt
    rw [ofLittleEndian, List.length_cons, Nat.pow_succ]
    omega

/-- A header, the size of the payload in `width` bytes, and the payload. -/
def Counted (header : List UInt8) (width : Nat) (payload bs : List UInt8) : Prop :=
  ∃ count, count.length = width ∧ ofLittleEndian count = payload.length ∧
    bs = header ++ count ++ payload

/-- Bytes under a count hold one payload at most, and only where the count is its size. -/
theorem counted_iff {header payload data : List UInt8} {width n : Nat} :
    Counted header width payload (header ++ littleEndian width n ++ data) ↔
      payload = data ∧ n % 256 ^ width = data.length := by
  constructor
  · rintro ⟨count, hwidth, hsize, hbs⟩
    rw [List.append_assoc, List.append_assoc, List.append_cancel_left_eq] at hbs
    obtain ⟨rfl, rfl⟩ := List.append_inj hbs ((length_littleEndian width n).trans hwidth.symm)
    rw [ofLittleEndian_littleEndian_mod] at hsize
    exact ⟨rfl, hsize⟩
  · rintro ⟨rfl, hsize⟩
    refine ⟨littleEndian width n, length_littleEndian width n, ?_, rfl⟩
    rw [ofLittleEndian_littleEndian_mod, hsize]

/-! ## Operands -/

/-- How an operand is laid out: `counted width` has a count of `width` bytes. -/
inductive Operand where
  | fixed (n : Nat)
  | counted (width : Nat)

/-- The first `n` bytes and the rest. -/
def cut (n : Nat) (bs : List UInt8) : Option (List UInt8 × List UInt8) :=
  if n ≤ bs.length then some (bs.take n, bs.drop n) else none

theorem cut_append {n : Nat} {data : List UInt8} (h : data.length = n) (tail : List UInt8) :
    cut n (data ++ tail) = some (data, tail) := by
  subst h
  rw [cut, if_pos (by rw [List.length_append]; omega), List.take_left, List.drop_left]

theorem of_cut {n : Nat} {bs data tail : List UInt8} (h : cut n bs = some (data, tail)) :
    data.length = n ∧ bs = data ++ tail := by
  rw [cut] at h
  split at h
  case isTrue hn =>
    cases h
    exact ⟨by rw [List.length_take]; omega, (List.take_append_drop n bs).symm⟩
  case isFalse => cases h

namespace Operand

/-- The operands a layout can carry. -/
def Fits : Operand → List UInt8 → Prop
  | fixed n, data => data.length = n
  | counted width, data => data.length < 256 ^ width

instance : (o : Operand) → (data : List UInt8) → Decidable (o.Fits data)
  | fixed _, _ => inferInstanceAs (Decidable (_ = _))
  | counted _, _ => inferInstanceAs (Decidable (_ < _))

/-- The bytes between the header and the data. -/
def count : Operand → List UInt8 → List UInt8
  | fixed _, _ => []
  | counted width, data => littleEndian width data.length

def read : Operand → List UInt8 → Option (List UInt8 × List UInt8)
  | fixed n, bs => cut n bs
  | counted width, bs =>
    match cut width bs with
    | none => none
    | some (size, rest) => cut (ofLittleEndian size) rest

theorem read_append {o : Operand} {data : List UInt8} (h : o.Fits data) (tail : List UInt8) :
    o.read (o.count data ++ (data ++ tail)) = some (data, tail) := by
  cases o with
  | fixed n => exact cut_append h tail
  | counted width =>
    rw [read, count, cut_append (length_littleEndian width data.length)]
    exact cut_append (ofLittleEndian_littleEndian h).symm tail

theorem of_read {o : Operand} {bs data tail : List UInt8} (h : o.read bs = some (data, tail)) :
    o.Fits data ∧ bs = o.count data ++ (data ++ tail) := by
  cases o with
  | fixed n => exact of_cut h
  | counted width =>
    rw [read] at h
    cases hsize : cut width bs with
    | none =>
      rw [hsize] at h
      cases h
    | some parts =>
      obtain ⟨size, rest⟩ := parts
      rw [hsize] at h
      obtain ⟨hwidth, hbs⟩ := of_cut hsize
      obtain ⟨hlen, hrest⟩ := of_cut h
      have hlt := ofLittleEndian_lt size
      have hcount : littleEndian width data.length = size := by
        rw [hlen, ← hwidth]
        exact littleEndian_ofLittleEndian size
      rw [hwidth, ← hlen] at hlt
      exact ⟨hlt, by rw [count, hcount, hbs, hrest]⟩

end Operand

/-! ## Command sets -/

/-- The commands of a protocol, named by `κ`. -/
structure CommandSet (κ : Type) where
  opcodes : List κ
  header : κ → List UInt8
  operand : κ → Operand
  complete : ∀ k, k ∈ opcodes
  header_ne_nil : ∀ k, header k ≠ []
  distinct : ∀ j k, (header j).isPrefixOf (header k) → j = k

namespace CommandSet

variable {κ : Type}

/-- A command whose operand its header can carry. -/
structure Command (s : CommandSet κ) where
  opcode : κ
  data : List UInt8
  fits : (s.operand opcode).Fits data

variable (s : CommandSet κ)

def encode (c : s.Command) : List UInt8 :=
  s.header c.opcode ++ ((s.operand c.opcode).count c.data ++ c.data)

/-- The opcode whose header begins the stream. -/
def opcode? (bs : List UInt8) : Option κ :=
  s.opcodes.find? fun k => (s.header k).isPrefixOf bs

def decode (bs : List UInt8) : Option (s.Command × List UInt8) :=
  match s.opcode? bs with
  | none => none
  | some k =>
    match h : (s.operand k).read (bs.drop (s.header k).length) with
    | none => none
    | some (data, tail) => some (⟨k, data, (Operand.of_read h).1⟩, tail)

/-- Reads a stream of at most `n` commands to its end. -/
def decodeUpTo : Nat → List UInt8 → Option (List s.Command)
  | _, [] => some []
  | 0, _ :: _ => none
  | n + 1, b :: bs =>
    match s.decode (b :: bs) with
    | none => none
    | some (c, tail) => (decodeUpTo n tail).map (c :: ·)

/-- Reads a stream to its end; a command takes at least one byte. -/
def decodeAll (bs : List UInt8) : Option (List s.Command) := s.decodeUpTo bs.length bs

def encodeAll (cs : List s.Command) : List UInt8 := cs.flatMap s.encode

variable {s}

@[simp] theorem encodeAll_cons (c : s.Command) (cs : List s.Command) :
    s.encodeAll (c :: cs) = s.encode c ++ s.encodeAll cs := rfl

@[simp] theorem encodeAll_append (cs ds : List s.Command) :
    s.encodeAll (cs ++ ds) = s.encodeAll cs ++ s.encodeAll ds := List.flatMap_append

theorem opcode?_append (k : κ) (rest : List UInt8) : s.opcode? (s.header k ++ rest) = some k := by
  have hk : (s.header k).isPrefixOf (s.header k ++ rest) := by
    rw [List.isPrefixOf_iff_prefix]
    exact List.prefix_append _ _
  cases hfind : s.opcode? (s.header k ++ rest) with
  | none =>
    rw [opcode?, List.find?_eq_none] at hfind
    exact absurd hk (hfind k (s.complete k))
  | some j =>
    have hj := List.find?_some hfind
    rw [List.isPrefixOf_iff_prefix] at hj
    rcases List.prefix_or_prefix_of_prefix hj (List.prefix_append _ rest) with h | h
    · rw [s.distinct j k (List.isPrefixOf_iff_prefix.mpr h)]
    · rw [s.distinct k j (List.isPrefixOf_iff_prefix.mpr h)]

theorem decode_encode_append (c : s.Command) (tail : List UInt8) :
    s.decode (s.encode c ++ tail) = some (c, tail) := by
  have hread : (s.operand c.opcode).read
      ((s.encode c ++ tail).drop (s.header c.opcode).length) = some (c.data, tail) := by
    rw [encode, List.append_assoc, List.append_assoc, List.drop_left]
    exact Operand.read_append c.fits tail
  have hopcode : s.opcode? (s.encode c ++ tail) = some c.opcode := by
    rw [encode, List.append_assoc]
    exact opcode?_append _ _
  rw [decode, hopcode]
  dsimp only
  split
  case h_1 hnone =>
    rw [hread] at hnone
    cases hnone
  case h_2 data rest hsome =>
    rw [hread] at hsome
    cases hsome
    rfl

theorem encode_of_decode {bs tail : List UInt8} {c : s.Command}
    (h : s.decode bs = some (c, tail)) : bs = s.encode c ++ tail := by
  rw [decode] at h
  split at h
  case h_1 => cases h
  case h_2 k hk =>
    split at h
    case h_1 => cases h
    case h_2 data rest hread =>
      cases h
      have hheader : (s.header k).isPrefixOf bs := List.find?_some (p := fun k =>
        (s.header k).isPrefixOf bs) hk
      obtain ⟨operand, hbs⟩ := List.isPrefixOf_iff_prefix.mp hheader
      obtain ⟨-, hoperand⟩ := Operand.of_read hread
      rw [← hbs, List.drop_left] at hoperand
      calc bs = s.header k ++ operand := hbs.symm
        _ = s.header k ++ ((s.operand k).count data ++ data) ++ tail := by
          rw [hoperand, List.append_assoc, List.append_assoc]

theorem encode_ne_nil (c : s.Command) : s.encode c ≠ [] := by
  intro h
  exact s.header_ne_nil c.opcode (List.append_eq_nil_iff.mp h).1

/-- The empty stream has the empty reading and no other. -/
theorem decodeUpTo_nil {n : Nat} {cs : List s.Command} :
    s.decodeUpTo n [] = some cs ↔ [] = s.encodeAll cs := by
  have hread : s.decodeUpTo n [] = some [] := by
    cases n <;> rfl
  rw [hread]
  cases cs with
  | nil => exact ⟨fun _ => rfl, fun _ => rfl⟩
  | cons c cs =>
    constructor
    · intro h
      cases h
    · intro h
      exact absurd (List.append_eq_nil_iff.mp h.symm).1 (encode_ne_nil c)

theorem decodeUpTo_eq_some_iff {n : Nat} {bs : List UInt8} {cs : List s.Command}
    (hn : bs.length ≤ n) : s.decodeUpTo n bs = some cs ↔ bs = s.encodeAll cs := by
  induction n generalizing bs cs with
  | zero =>
    obtain rfl := List.length_eq_zero_iff.mp (Nat.le_zero.mp hn)
    exact decodeUpTo_nil
  | succ n ih =>
    cases bs with
    | nil => exact decodeUpTo_nil
    | cons b bs =>
      have hshrinks : ∀ {c : s.Command} {tail : List UInt8}, b :: bs = s.encode c ++ tail →
          tail.length ≤ n := by
        intro c tail h
        have hlen := congrArg List.length h
        have hpos := List.length_pos_iff.mpr (encode_ne_nil c)
        rw [List.length_append] at hlen
        omega
      rw [decodeUpTo]
      constructor
      · intro h
        cases hdecode : s.decode (b :: bs) with
        | none =>
          rw [hdecode] at h
          cases h
        | some first =>
          obtain ⟨c, tail⟩ := first
          have hbs := encode_of_decode hdecode
          rw [hdecode] at h
          obtain ⟨ds, hds, rfl⟩ := Option.map_eq_some_iff.mp h
          rw [hbs, encodeAll_cons, ← (ih (hshrinks hbs)).mp hds]
      · intro h
        cases cs with
        | nil => cases h
        | cons c cs =>
          rw [encodeAll_cons] at h
          rw [h, decode_encode_append]
          dsimp only
          rw [(ih (hshrinks h)).mpr rfl, Option.map_some]

/-- A byte string is the encoding of exactly the commands read from it. -/
theorem decodeAll_eq_some_iff {bs : List UInt8} {cs : List s.Command} :
    s.decodeAll bs = some cs ↔ bs = s.encodeAll cs :=
  decodeUpTo_eq_some_iff (Nat.le_refl _)

theorem decodeAll_encodeAll (cs : List s.Command) : s.decodeAll (s.encodeAll cs) = some cs :=
  decodeAll_eq_some_iff.mpr rfl

end CommandSet

end Codec
end BrThermal
