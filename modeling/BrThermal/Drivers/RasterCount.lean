/-
The byte count of a raster command.

A command announces the size of its payload, in one byte for td2000 and in two for
pte550w, and the driver passes that size apart from the payload.  Compression makes a
line longer by at most a third, so the bytes are wide enough for any head there is.  But
where the td2000 driver compresses, it announces the bytes that PAPPL delivered instead
of those of the payload, and the printer loses its place in the stream unless the two
numbers happen to agree.
-/
import BrThermal.Drivers.Wire
import BrThermal.Util.PackedLength

namespace BrThermal
namespace Drivers

open Codec Util

theorem Td2000.counted_rasterGraphicsTransfer {n : Nat} {payload raster : List UInt8} :
    Counted [0x67, 0x00] 1 payload (Commands.rasterGraphicsTransfer n raster) ↔
      payload = raster ∧ n % 256 = raster.length := by
  rw [rasterGraphicsTransfer_eq]
  exact counted_iff

theorem Pte550w.counted_rasterGraphicsTransfer {n : Nat} {payload raster : List UInt8} :
    Counted [0x47] 2 payload (Commands.rasterGraphicsTransfer n raster) ↔
      payload = raster ∧ n % 65536 = raster.length := by
  rw [rasterGraphicsTransfer_eq]
  exact counted_iff

/-- A compressed line is longer than the line by a third of it at most, rounded up, and
some line of each length is.  So the count of td2000 is right for heads of up to 191
bytes and that of pte550w for heads of up to 49151, whatever is printed. -/
theorem compressLine_expansion :
    (∀ data, (compressLine data).length ≤ data.length + (data.length + 2) / 3) ∧
    (∀ n, ∃ data, data.length = n ∧ (compressLine data).length = n + (n + 2) / 3) ∧
    (∀ line, line.length ≤ 191 →
      (compressLine line).length < 256 ∧
        Counted [0x67, 0x00] 1 (compressLine line)
          (Td2000.Commands.rasterGraphicsTransfer (compressLine line).length
            (compressLine line))) ∧
    (∀ line, line.length ≤ 49151 →
      (compressLine line).length < 65536 ∧
        Counted [0x47] 2 (compressLine line)
          (Pte550w.Commands.rasterGraphicsTransfer (compressLine line).length
            (compressLine line))) := by
  refine ⟨length_compressLine_le, fun n => ?_, fun line hline => ?_, fun line hline => ?_⟩
  · exact ⟨sparseLine n, length_sparseLine n, length_compressLine_sparseLine n⟩
  · have hfits : (compressLine line).length < 256 := by
      have hle := length_compressLine_le line
      omega
    exact ⟨hfits, Td2000.counted_rasterGraphicsTransfer.mpr ⟨rfl, Nat.mod_eq_of_lt hfits⟩⟩
  · have hfits : (compressLine line).length < 65536 := by
      have hle := length_compressLine_le line
      omega
    exact ⟨hfits, Pte550w.counted_rasterGraphicsTransfer.mpr ⟨rfl, Nat.mod_eq_of_lt hfits⟩⟩

namespace Td2000

/-! ## Raster lines of td2000 -/

/-- The line that a payload stands for. -/
def payloadLine (useCompression : Bool) (payload : List UInt8) : Option (List UInt8) :=
  if useCompression then unpackBits payload else some payload

/-- The command of a row is `67h 00h`, a count and as many bytes as it says, and these
stand for the row as the head prints it. -/
def Framed (jobData : JobData) (header : Pappl.Header) (pixels : List UInt8) : Prop :=
  ∃ payload line,
    Counted [0x67, 0x00] 1 payload (rasterCommand jobData header pixels) ∧
    payloadLine jobData.useCompression payload = some line ∧
    line = Driver.td2000.headLine jobData.modelFamily header pixels ∧
    (line.length : Int) = jobData.bytesPerLine

/-- If the line is compressed, as many bytes are delivered as their dots, in the middle of
the head, pack into. -/
def CountFits (jobData : JobData) (header : Pappl.Header) (pixels : List UInt8) : Prop :=
  let delivered := pixels.take header.cupsBytesPerLine.toNat
  jobData.useCompression = true →
    delivered.length % 256 =
      packedLength (headCells delivered header.cupsWidth.toNat
        (Driver.td2000.headDots jobData.modelFamily))

section Framed

variable (family : ModelFamily) (header : Pappl.Header) (pixels : List UInt8)

theorem length_compressLine_headLine :
    (compressLine (Driver.td2000.headLine family header pixels)).length =
      packedLength (headCells (pixels.take header.cupsBytesPerLine.toNat) header.cupsWidth.toNat
        (Driver.td2000.headDots family)) := by
  have hlength := length_headLine family header pixels
  have hwidth : (lineWidth family).toNat ≤ 84 := by cases family <;> decide
  have hshort : (Driver.td2000.headLine family header pixels).length ≤ 128 := by omega
  have hspan : 8 * (pixels.take header.cupsBytesPerLine.toNat).length < 2 ^ 64 := by
    have hbytes := header.cupsBytesPerLine.toNat_lt
    rw [List.length_take]
    omega
  have hhead : Driver.td2000.headDots family < 2 ^ 64 := by cases family <;> decide
  have hdots : 8 ∣ Driver.td2000.headDots family := Nat.dvd_mul_left 8 _
  rw [length_compressLine hshort]
  exact packedLength_buildHeadLine _ hspan hhead hdots

theorem framed_plain : Framed ⟨family, false, (lineWidth family).toNat⟩ header pixels := by
  have hlength := length_headLine family header pixels
  have hcount : (lineWidth family).toNat % 256 =
      (Driver.td2000.headLine family header pixels).length := by
    rw [hlength]
    exact Nat.mod_eq_of_lt (lineWidth family).toNat_lt
  rw [Framed, rasterCommand_plain]
  exact ⟨_, _, counted_rasterGraphicsTransfer.mpr ⟨rfl, hcount⟩, rfl, rfl,
    congrArg Int.ofNat hlength⟩

theorem framed_compressed_iff :
    Framed ⟨family, true, (lineWidth family).toNat⟩ header pixels ↔
      (pixels.take header.cupsBytesPerLine.toNat).length % 256 =
        packedLength (headCells (pixels.take header.cupsBytesPerLine.toNat)
          header.cupsWidth.toNat (Driver.td2000.headDots family)) := by
  rw [← length_compressLine_headLine, Framed, rasterCommand_compressed]
  constructor
  · rintro ⟨payload, line, hcounted, -⟩
    exact (counted_rasterGraphicsTransfer.mp hcounted).2
  · intro hcount
    refine ⟨_, _, counted_rasterGraphicsTransfer.mpr ⟨rfl, hcount⟩,
      unpackBits_compressLine _, rfl, ?_⟩
    exact congrArg Int.ofNat (length_headLine family header pixels)

end Framed

/-- The command is in step with its payload, unless the line is compressed and PAPPL
delivers another number of bytes than it is compressed to. -/
theorem rasterCommand_framed_iff (jobData : JobData)
    (hwidth : jobData.bytesPerLine = (lineWidth jobData.modelFamily).toNat)
    (header : Pappl.Header) (pixels : List UInt8) :
    Framed jobData header pixels ↔ CountFits jobData header pixels := by
  obtain ⟨family, useCompression, bytesPerLine⟩ := jobData
  obtain rfl : bytesPerLine = (lineWidth family).toNat := hwidth
  cases useCompression with
  | false =>
    exact ⟨fun _ h => absurd h Bool.false_ne_true, fun _ => framed_plain family header pixels⟩
  | true =>
    rw [framed_compressed_iff]
    exact ⟨fun h _ => h, fun h => h rfl⟩

theorem rasterCommand_framed_iff_blank :
    Framed ⟨.td2x2x, true, 56⟩ oneLinePage.header (List.replicate 56 0) ↔
      CountFits ⟨.td2x2x, true, 56⟩ oneLinePage.header (List.replicate 56 0) :=
  rasterCommand_framed_iff ⟨.td2x2x, true, 56⟩ rfl oneLinePage.header (List.replicate 56 0)

/-- A blank row packs into two bytes and is announced as 56. -/
theorem not_framed_blank :
    ¬∀ jobData : JobData, jobData.bytesPerLine = (lineWidth jobData.modelFamily).toNat →
      ∀ header pixels, Framed jobData header pixels := by
  intro h
  have hframed := h ⟨.td2x2x, true, 56⟩ rfl oneLinePage.header (List.replicate 56 0)
  have hcount : ¬56 % 256 = packedLength (headCells (List.replicate 56 0) 448 448) := by
    decide +kernel
  exact hcount ((framed_compressed_iff .td2x2x oneLinePage.header (List.replicate 56 0)).mp hframed)

end Td2000

end Drivers
end BrThermal
