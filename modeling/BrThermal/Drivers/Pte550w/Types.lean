/-
Types and tables of the pte550w driver.
-/
import BrThermal.Drivers.Commands
import BrThermal.Pappl.Call
import BrThermal.Util.Units

namespace BrThermal
namespace Drivers
namespace Pte550w

open Pappl Util.Units

inductive ModelVariant where
  | ptE550W
  | ptP750W
  | ptP710BT
deriving DecidableEq

/-- `types::MediaType::LaminatedTape`, the only one the driver sends. -/
def laminatedTape : UInt8 := 0x01

structure JobData where
  variant : ModelVariant
  useCompression : Bool
  bytesPerLine : Int
deriving DecidableEq

structure ErrorInformation1Fields where
  noMedia : Bool
  cutterJam : Bool
  weakBatteries : Bool
  highVoltage : Bool

def ErrorInformation1Fields.ofByte (b : UInt8) : ErrorInformation1Fields where
  noMedia := b.toNat.testBit 0
  cutterJam := b.toNat.testBit 2
  weakBatteries := b.toNat.testBit 3
  highVoltage := b.toNat.testBit 6

structure ErrorInformation2Fields where
  wrongMedia : Bool
  coverOpen : Bool
  overheating : Bool

def ErrorInformation2Fields.ofByte (b : UInt8) : ErrorInformation2Fields where
  wrongMedia := b.toNat.testBit 0
  coverOpen := b.toNat.testBit 4
  overheating := b.toNat.testBit 5

/-- The reasons of an `ErrorOccurred` packet. -/
def errorReasons (info : PrinterInfo) : Reasons :=
  let error1 := ErrorInformation1Fields.ofByte info.errorInformation1
  let error2 := ErrorInformation2Fields.ofByte info.errorInformation2
  (if error2.coverOpen then {.coverOpen} else ∅) ∪
  (if error1.noMedia then {.mediaEmpty, .mediaNeeded} else ∅) ∪
  (if error2.wrongMedia then {.mediaNeeded} else ∅) ∪
  (if error1.cutterJam then {.mediaJam} else ∅) ∪
  (if error1.weakBatteries || error2.overheating then {.other} else ∅)

structure VariousModeSettingsFields where
  autoCut : Bool := false
  mirrorPrint : Bool := false

def VariousModeSettingsFields.raw (settings : VariousModeSettingsFields) : UInt8 :=
  flagBit settings.autoCut 6 ||| flagBit settings.mirrorPrint 7

structure AdvancedModeSettingsFields where
  halfCut : Bool := false
  noChainPrinting : Bool := false
  specialTape : Bool := false
  highResolution : Bool := false
  noBufferClearing : Bool := false

def AdvancedModeSettingsFields.raw (settings : AdvancedModeSettingsFields) : UInt8 :=
  flagBit settings.halfCut 2 ||| flagBit settings.noChainPrinting 3 |||
    flagBit settings.specialTape 4 ||| flagBit settings.highResolution 6 |||
    flagBit settings.noBufferClearing 7

def modelVariantMap : List (String × ModelVariant) := [
  ("PT-E550W", .ptE550W),
  ("PT-P750W", .ptP750W),
  ("PT-P710BT", .ptP710BT)]

/-- Bytes of a raster line at the print head. -/
def lineWidth : ModelVariant → UInt8
  | .ptE550W => 16
  | .ptP750W => 16
  | .ptP710BT => 16

/-- Feed margin at 180 dpi. -/
def minFeedMargin : ModelVariant → DotCount
  | .ptE550W => 14
  | .ptP750W => 14
  | .ptP710BT => 14

def driverName : String := "brother_pte550w_p750w_p710bt"

end Pte550w
end Drivers
end BrThermal
