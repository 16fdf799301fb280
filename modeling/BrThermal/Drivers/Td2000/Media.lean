/-
The media records of the td2000 driver and how one is chosen.

A record is the 127-byte operand of ESC i U.  The build turns each
`data/media/<family>/<name>.bin` into a constant; `mediaRecord` lays out the
fields that differ between those files, and every other byte of every file is
the constant it is here.
-/
import BrThermal.Drivers.Td2000.Types

namespace BrThermal
namespace Drivers
namespace Td2000

open Util.Units

abbrev MediaInfo := PackedProtocolBlock 127

/-- A fixed-size text field, padded with zero bytes. -/
def textField (size : Nat) (text : String) : List UInt8 :=
  (text.toList.map (fun c : Char => UInt8.ofNat c.toNat) ++ List.replicate size 0).take size

theorem length_textField (size : Nat) (text : String) :
    (textField size text).length = size := by
  rw [textField, List.length_take, List.length_append, List.length_replicate]
  omega

def mediaRecord (energyRank paperWidth paperLengthMm rollWidMm : UInt8)
    (pinOffsetLeft imageAreaWidthRes imageAreaLengthRes paperSize : UInt16)
    (sizeMM sizeIN : String) (lblPitchDot lengthOffsetDots : UInt16) (mediaClass : UInt8) :
    MediaInfo where
  raw :=
    [63, energyRank, paperWidth, paperLengthMm, 0, rollWidMm] ++ le16 pinOffsetLeft ++
      le16 imageAreaWidthRes ++ le16 imageAreaLengthRes ++ List.replicate 9 0 ++
      le16 paperSize ++ List.replicate 54 0 ++ textField 16 sizeMM ++ textField 16 sizeIN ++
      [0, 0] ++ le16 lblPitchDot ++ [0, 0] ++ le16 lengthOffsetDots ++ [0, 0, 0, 0, mediaClass] ++
      le16 lengthOffsetDots ++ [0, 0, 0]
  size_eq := by
    simp only [List.length_append, length_textField, List.length_replicate, le16,
      List.length_cons, List.length_nil]

/-- The two fields the driver reads back. -/
def MediaInfo.paperWidth (info : MediaInfo) : UInt8 := info.byte 2

def MediaInfo.paperLengthMm (info : MediaInfo) : UInt8 := info.byte 3

namespace Media

def none : MediaInfo := .zero 127

namespace Td2x2x

def _57mm : MediaInfo := mediaRecord 4 57 0 57 8 432 0 438 "RD 57mm" "2.25\"" 0 24 0

def _58mm : MediaInfo := mediaRecord 4 58 0 58 4 440 0 426 "RD 58mm" "2.28\"" 0 24 0

def _30x30mm : MediaInfo :=
  mediaRecord 5 30 30 34 116 216 192 431 "30mm x 30mm" "1.1\" x 1.1\"" 264 24 1

def _40x40mm : MediaInfo :=
  mediaRecord 5 40 40 44 76 296 272 432 "40mm x 40mm" "1.5\" x 1.5\"" 348 24 1

def _40x50mm : MediaInfo :=
  mediaRecord 5 40 50 44 76 296 352 433 "40mm x 50mm" "1.5\" x 1.9\"" 427 24 1

def _40x60mm : MediaInfo :=
  mediaRecord 5 40 60 44 76 296 432 434 "40mm x 60mm" "1.5\" x 2.3\"" 508 24 1

def _50x30mm : MediaInfo :=
  mediaRecord 5 50 30 54 36 376 192 435 "50mm x 30mm" "1.9\" x 1.1\"" 264 24 1

def _51x26mm : MediaInfo :=
  mediaRecord 4 51 26 55 33 382 157 422 "51mm x 26mm" "2.0\" x 1.0\"" 229 24 1

def _60x60mm : MediaInfo :=
  mediaRecord 5 60 60 63 0 448 432 437 "60mm x 60mm" "2.3\" x 2.3\"" 508 24 1

end Td2x2x

namespace Td2x3x

def _57mm : MediaInfo := mediaRecord 4 57 0 57 17 638 0 438 "RD 57mm" "2.25\"" 0 35 0

def _58mm : MediaInfo := mediaRecord 4 58 0 58 12 648 0 426 "RD 58mm" "2.28\"" 0 35 0

def _30x30mm : MediaInfo :=
  mediaRecord 5 30 30 34 177 318 283 431 "30mm x 30mm" "1.1\" x 1.1\"" 390 35 1

def _40x40mm : MediaInfo :=
  mediaRecord 5 40 40 44 118 436 401 432 "40mm x 40mm" "1.5\" x 1.5\"" 514 35 1

def _40x50mm : MediaInfo :=
  mediaRecord 5 40 50 44 118 436 519 433 "40mm x 50mm" "1.5\" x 1.9\"" 630 35 1

def _40x60mm : MediaInfo :=
  mediaRecord 5 40 60 44 118 436 638 434 "40mm x 60mm" "1.5\" x 2.3\"" 750 35 1

def _50x30mm : MediaInfo :=
  mediaRecord 5 50 30 54 59 554 283 435 "50mm x 30mm" "1.9\" x 1.1\"" 390 35 1

def _51x26mm : MediaInfo :=
  mediaRecord 4 51 26 55 54 564 231 422 "51mm x 26mm" "2.0\" x 1.0\"" 337 35 1

def _60x60mm : MediaInfo :=
  mediaRecord 5 60 60 63 6 660 638 437 "60mm x 60mm" "2.3\" x 2.3\"" 750 35 1

end Td2x3x

structure DieCutEntry where
  width : MediaSize
  length : MediaSize
  td2x2x : MediaInfo
  td2x3x : MediaInfo

/-- Sorted by width, then length. -/
def dieCutTable : List DieCutEntry := [
  ⟨mm 30, mm 30, Td2x2x._30x30mm, Td2x3x._30x30mm⟩,
  ⟨mm 40, mm 40, Td2x2x._40x40mm, Td2x3x._40x40mm⟩,
  ⟨mm 40, mm 50, Td2x2x._40x50mm, Td2x3x._40x50mm⟩,
  ⟨mm 40, mm 60, Td2x2x._40x60mm, Td2x3x._40x60mm⟩,
  ⟨mm 50, mm 30, Td2x2x._50x30mm, Td2x3x._50x30mm⟩,
  ⟨mm 51, mm 26, Td2x2x._51x26mm, Td2x3x._51x26mm⟩,
  ⟨mm 60, mm 60, Td2x2x._60x60mm, Td2x3x._60x60mm⟩]

def pick (family : ModelFamily) (td2x2x td2x3x : MediaInfo) : MediaInfo :=
  if family = .td2x3x then td2x3x else td2x2x

def getMediaInfoForMedia (family : ModelFamily) (width length : MediaSize) :
    MediaType → MediaInfo
  | .continuousLengthTape =>
    if width ≤ mm 57 then pick family Td2x2x._57mm Td2x3x._57mm
    else pick family Td2x2x._58mm Td2x3x._58mm
  | .dieCutLabels =>
    match dieCutTable.find? fun entry => width ≤ entry.width ∧ length ≤ entry.length with
    | some entry => pick family entry.td2x2x entry.td2x3x
    | .none => none
  | .noMedia => none

/-- The {n3} and {n4} bytes of ESC i z. -/
structure PrintInfoMedia where
  width : UInt8
  length : UInt8
  lengthValid : Bool

def printInfoMedia (info : MediaInfo) (type : MediaType) (requestedLength : MediaSize) :
    PrintInfoMedia :=
  if type = .dieCutLabels then ⟨info.paperWidth, info.paperLengthMm, true⟩
  else
    let lengthMm := toWholeMillimetres requestedLength
    if lengthMm < 0 ∨ lengthMm > 255 then ⟨info.paperWidth, 0, false⟩
    else ⟨info.paperWidth, UInt8.ofInt lengthMm, true⟩

end Media

end Td2000
end Drivers
end BrThermal
