/-
Types and tables of the td2000 driver.
-/
import BrThermal.Drivers.Commands
import BrThermal.Pappl.Call
import BrThermal.Util.Units

namespace BrThermal
namespace Drivers
namespace Td2000

open Pappl Util.Units

inductive ModelFamily where
  | td2x2x
  | td2x3x
deriving DecidableEq

inductive MediaType where
  | noMedia
  | continuousLengthTape
  | dieCutLabels
deriving DecidableEq

def MediaType.toByte : MediaType → UInt8
  | noMedia => 0x00
  | continuousLengthTape => 0x0A
  | dieCutLabels => 0x0B

structure JobData where
  modelFamily : ModelFamily
  useCompression : Bool
  bytesPerLine : Int
deriving DecidableEq

structure ErrorInformation1Fields where
  noMedia : Bool
  endOfMedia : Bool
  printerInUse : Bool

def ErrorInformation1Fields.ofByte (b : UInt8) : ErrorInformation1Fields where
  noMedia := b.toNat.testBit 0
  endOfMedia := b.toNat.testBit 1
  printerInUse := b.toNat.testBit 4

structure ErrorInformation2Fields where
  replacingMedia : Bool
  communicationError : Bool
  coverOpen : Bool
  mediaCannotBeFed : Bool
  systemError : Bool

def ErrorInformation2Fields.ofByte (b : UInt8) : ErrorInformation2Fields where
  replacingMedia := b.toNat.testBit 0
  communicationError := b.toNat.testBit 2
  coverOpen := b.toNat.testBit 4
  mediaCannotBeFed := b.toNat.testBit 6
  systemError := b.toNat.testBit 7

/-- The reasons of an `ErrorOccurred` packet. -/
def errorReasons (info : PrinterInfo) : Reasons :=
  let error1 := ErrorInformation1Fields.ofByte info.errorInformation1
  let error2 := ErrorInformation2Fields.ofByte info.errorInformation2
  (if error2.coverOpen then {.coverOpen} else ∅) ∪
  (if error1.noMedia || error1.endOfMedia then {.mediaEmpty, .mediaNeeded} else ∅) ∪
  (if error2.replacingMedia then {.mediaNeeded} else ∅) ∪
  (if error2.mediaCannotBeFed then {.mediaJam, .mediaEmpty} else ∅) ∪
  (if error1.printerInUse || error2.systemError || error2.communicationError then {.other}
    else ∅)

structure VariousModeSettingsFields where
  rotate180 : Bool := false
  peeler : Bool := false

def VariousModeSettingsFields.raw (settings : VariousModeSettingsFields) : UInt8 :=
  flagBit settings.rotate180 3 ||| flagBit settings.peeler 4

def modelFamilyMap : List (String × ModelFamily) := [
  ("TD-2020", .td2x2x),
  ("TD-2120N", .td2x2x),
  ("TD-2130N", .td2x3x),
  ("TD-2030A", .td2x3x),
  ("TD-2125N", .td2x2x),
  ("TD-2125NWB", .td2x2x),
  ("TD-2135N", .td2x3x),
  ("TD-2135NWB", .td2x3x)]

/-- Bytes of a raster line at the print head. -/
def lineWidth : ModelFamily → UInt8
  | .td2x2x => 56
  | .td2x3x => 84

/-- Feed margin of continuous tape; die-cut labels take 0. -/
def minFeedMargin : ModelFamily → DotCount
  | .td2x2x => 24
  | .td2x3x => 35

def driverName : String := "brother_td_2000"

end Td2000
end Drivers
end BrThermal
