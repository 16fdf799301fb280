/-
The callbacks of the td2000 driver.
-/
import BrThermal.Drivers.Common
import BrThermal.Drivers.Td2000.Media
import BrThermal.Util.CompressLine
import BrThermal.Util.HeadLine
import Mathlib.Algebra.Group.Int.Defs

namespace BrThermal
namespace Drivers
namespace Td2000

open Effect Pappl Util Util.Units

namespace Commands

export Drivers.Commands (initializeCommand statusInformationRequest switchDynamicCommandMode
  printInformation variousModeSettings specifyMarginAmount selectCompressionMode print
  printWithFeeding)

def additionalMediaInformation (info : MediaInfo) : List UInt8 :=
  [0x1B, 0x69, 0x55, 0x77, 0x01] ++ info.raw

def rasterGraphicsTransfer (numberOfBytes : Int) (raster : List UInt8) : List UInt8 :=
  [0x67, 0, UInt8.ofInt numberOfBytes] ++ raster

end Commands

/-- Everything `startJob` sends. -/
def startCommands : List (List UInt8) :=
  [List.replicate 200 0, Commands.initializeCommand, Commands.switchDynamicCommandMode .raster]

def startJob : Option Job → Option PrOptions → Option Handle → Code JobData Bool
  | some job, some _, some device => do
    match ← papplDeviceGetID device with
    | none => return false
    | some did =>
      let model := did.mdl.getD ""
      if model = "" then return false
      else
        match modelFamilyMap.lookup model with
        | none => return false
        | some modelFamily =>
          let jobData : JobData :=
            { modelFamily, useCompression := false, bytesPerLine := (lineWidth modelFamily).toNat }
          if ← writeCommands startCommands device then
            -- Push mode: from here on the printer reports by itself.
            storePrinterStatusPolling job.printer true
            papplJobSetData job jobData
            return true
          else return false
  | _, _, _ => return false

def mediaTypeOf (type : String) : Option MediaType :=
  if type = "labels-continuous" ∨ type = "continuous" then some .continuousLengthTape
  else if type = "labels" then some .dieCutLabels
  else none

def printInfo (options : PrOptions) (mediaType : MediaType) (mediaInfo : MediaInfo)
    (mediaLength : MediaSize) (pageNumber : UInt32) : PrintInfoFields :=
  let printMedia := Media.printInfoMedia mediaInfo mediaType mediaLength
  let validFields := PrintInfoFlags.piKind ||| PrintInfoFlags.piWidth |||
    PrintInfoFlags.piRecover ||| PrintInfoFlags.piLength
  { validFields :=
      if printMedia.lengthValid then validFields else validFields &&& ~~~PrintInfoFlags.piLength
    mediaType := mediaType.toByte
    mediaWidth := printMedia.width
    mediaLength := printMedia.length
    rasterNumber := options.header.cupsHeight
    pageType := .ofNumber pageNumber }

def feedMargin (mediaType : MediaType) (modelFamily : ModelFamily) : DotCount :=
  if mediaType = .continuousLengthTape then minFeedMargin modelFamily else 0

/-- The control codes of a page, in the order the specification requires. -/
def pageCommands (jobData : JobData) (options : PrOptions) (mediaType : MediaType)
    (mediaInfo : MediaInfo) (pageNumber : UInt32) : List (List UInt8) :=
  let mediaLength := fromPwg options.media.sizeLength
  [Commands.additionalMediaInformation mediaInfo,
   Commands.printInformation (printInfo options mediaType mediaInfo mediaLength pageNumber),
   Commands.variousModeSettings (VariousModeSettingsFields.raw {}),
   Commands.specifyMarginAmount (feedMargin mediaType jobData.modelFamily) 0,
   Commands.selectCompressionMode .noCompression]

def startPage : Option Job → Option PrOptions → Option Handle → UInt32 → Code JobData Bool
  | some job, some options, some device, pageNumber => do
    match mediaTypeOf options.media.type with
    | none => return false
    | some mediaType =>
      match ← papplJobGetData job with
      | none => return false
      | some jobData =>
        let mediaInfo := Media.getMediaInfoForMedia jobData.modelFamily
          (fromPwg options.media.sizeWidth) (fromPwg options.media.sizeLength) mediaType
        if mediaInfo = Media.none then return false
        else writeCommands (pageCommands jobData options mediaType mediaInfo pageNumber) device
  | _, _, _, _ => return false

def applyPrinterStatus (uri : String) (info : PrinterInfo) : Code JobData Unit :=
  Drivers.applyPrinterStatus errorReasons uri info

def waitForPrinterResume (device : Handle) (uri : String) : Code JobData Bool :=
  Drivers.waitForPrinterResume errorReasons device uri

/-- The line as it goes to the head: the span is sized from what PAPPL
allocated, not from the head width. -/
def mirroredLine (jobData : JobData) (header : Header) (pixels : List UInt8) : List UInt8 :=
  buildHeadLine (pixels.take header.cupsBytesPerLine.toNat) header.cupsWidth.toNat
    (sizeT (Int.toNat (jobData.bytesPerLine % 2 ^ 64) * 8))

def rasterCommand (jobData : JobData) (header : Header) (pixels : List UInt8) : List UInt8 :=
  if jobData.useCompression then
    Commands.rasterGraphicsTransfer (pixels.take header.cupsBytesPerLine.toNat).length
      (compressLine (mirroredLine jobData header pixels))
  else
    Commands.rasterGraphicsTransfer jobData.bytesPerLine (mirroredLine jobData header pixels)

def writeLine : Option Job → Option PrOptions → Option Handle → UInt32 →
    Option (List UInt8) → Code JobData Bool
  | some job, some options, some device, _, some pixels => do
    match ← papplJobGetData job with
    | none => return false
    | some jobData =>
      writeAttempts errorReasons device job.printer
        (rasterCommand jobData options.header pixels) 2
  | _, _, _, _, _ => return false

def endPage : Option Job → Option PrOptions → Option Handle → UInt32 → Code JobData Bool :=
  Drivers.endPage Commands.print

def endJob : Option Job → Option PrOptions → Option Handle → Code JobData Bool :=
  Drivers.endJob Commands.printWithFeeding

/-- One turn of the polling loop.  A read that yields no packet is followed by a
second one into a scratch buffer, which only tells a hard error from silence. -/
def statusAttempt (device : Handle) : Code JobData (Option (Option PrinterInfo)) := do
  match ← readStatusPacket device with
  | some packet => return some (some packet)
  | none =>
    let probe ← papplDeviceRead device
    if probe.result < 0 then return some none else return none

def pulledStatus (uri : String) : Code JobData Bool := do
  match ← papplPrinterOpenDevice uri with
  | none => return false
  | some device =>
    if ← writeToDevice Commands.statusInformationRequest device then
      match ← Prog.poll 100 (statusAttempt device) with
      | some none =>
        papplPrinterCloseDevice uri
        papplPrinterSetReasons uri {.other, .offline}
        return false
      | some (some received) =>
        papplPrinterCloseDevice uri
        applyPrinterStatus uri received
        return true
      | none =>
        papplPrinterCloseDevice uri
        return false
    else
      papplPrinterCloseDevice uri
      return false

def getStatus (uri : String) : Code JobData Bool := do
  if ← loadPrinterStatusPolling uri then pushedStatus errorReasons uri
  else pulledStatus uri

end Td2000
end Drivers
end BrThermal
