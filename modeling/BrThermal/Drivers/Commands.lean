/-
The commands both drivers encode alike.

The pte550w header repeats the td2000 command classes "with identical wire
format".  Commands that only one driver has, and the raster line itself, whose
framing differs, are with the driver.
-/
import BrThermal.Drivers.Status

namespace BrThermal
namespace Drivers

/-- `std::bit_cast<std::array<uint8_t, 2>>` on a little-endian host. -/
def le16 (n : UInt16) : List UInt8 := [n.toUInt8, (n >>> 8).toUInt8]

/-- `std::bit_cast<std::array<uint8_t, 4>>` on a little-endian host. -/
def le32 (n : UInt32) : List UInt8 :=
  [n.toUInt8, (n >>> 8).toUInt8, (n >>> 16).toUInt8, (n >>> 24).toUInt8]

/-- A set bit `i` where the flag holds. -/
def flagBit (flag : Bool) (i : UInt8) : UInt8 := if flag then 1 <<< i else 0

inductive CommandMode where
  | escp
  | raster
  | pTouch
deriving DecidableEq

def CommandMode.toByte : CommandMode → UInt8
  | escp => 0x00
  | raster => 0x01
  | pTouch => 0x03

inductive CompressionMode where
  | noCompression
  | compression
deriving DecidableEq

def CompressionMode.toByte : CompressionMode → UInt8
  | noCompression => 0x00
  | compression => 0x02

inductive PageType where
  | startingPage
  | otherPage
deriving DecidableEq

def PageType.toByte : PageType → UInt8
  | startingPage => 0x00
  | otherPage => 0x01

/-- `(pageNumber == 0) ? startingPage : otherPage`. -/
def PageType.ofNumber (pageNumber : UInt32) : PageType :=
  if pageNumber = 0 then startingPage else otherPage

namespace PrintInfoFlags

def piKind : UInt8 := 0x02

def piWidth : UInt8 := 0x04

def piLength : UInt8 := 0x08

def piRecover : UInt8 := 0x80

end PrintInfoFlags

/-- The ten operand bytes of ESC i z.  The td2000 driver leaves the last one
unnamed and zero; pte550w calls it `quality`. -/
structure PrintInfoFields where
  validFields : UInt8
  mediaType : UInt8
  mediaWidth : UInt8
  mediaLength : UInt8
  rasterNumber : UInt32
  pageType : PageType
  quality : UInt8 := 0

def PrintInfoFields.raw (info : PrintInfoFields) : List UInt8 :=
  [info.validFields, info.mediaType, info.mediaWidth, info.mediaLength] ++
    le32 info.rasterNumber ++ [info.pageType.toByte, info.quality]

theorem PrintInfoFields.length_raw (info : PrintInfoFields) : info.raw.length = 10 := rfl

namespace Commands

def initializeCommand : List UInt8 := [0x1B, 0x40]

def statusInformationRequest : List UInt8 := [0x1B, 0x69, 0x53]

def switchDynamicCommandMode (mode : CommandMode) : List UInt8 :=
  [0x1B, 0x69, 0x61, mode.toByte]

def printInformation (info : PrintInfoFields) : List UInt8 := [0x1B, 0x69, 0x7A] ++ info.raw

def variousModeSettings (settings : UInt8) : List UInt8 := [0x1B, 0x69, 0x4D, settings]

def specifyMarginAmount (before after : Int) : List UInt8 :=
  [0x1B, 0x69, 0x64, UInt8.ofInt before, UInt8.ofInt after]

def selectCompressionMode (mode : CompressionMode) : List UInt8 := [0x4D, mode.toByte]

def print : List UInt8 := [0x0C]

def printWithFeeding : List UInt8 := [0x1A]

end Commands

end Drivers
end BrThermal
