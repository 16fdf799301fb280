/-
`updateDriverData`: what a driver tells PAPPL about a model.

The two drivers fill in the same fields in the same order, from tables of their
own.  `DriverTables` names those tables, `updateDriverData` is the code they share,
and each driver's function is that code at its tables.  The driver data the caller
passes is never null: `driver_cb` has written to it before.  Every text copied is
shorter than the buffer it goes to, so no copy truncates.
-/
import BrThermal.Drivers.Driver

namespace BrThermal
namespace Drivers

open Util.Units

/-- The PAPPL and IPP constants the drivers assign. -/
inductive Constant where
  | kindReceipt
  | kindLabel
  | orientPortrait
  | colorModeMonochrome
  | contentText
  | qualityNormal
  | pwgRasterTypeBlack1
  | duplexNone
  | sidesOneSided
  | finishingsNone
deriving DecidableEq, Inhabited

structure Resolution where
  x : Int
  y : Int
deriving DecidableEq

structure Margins where
  left : MediaSize := 0
  right : MediaSize := 0
  top : MediaSize := 0
  bottom : MediaSize := 0
deriving DecidableEq

/-- The dimensions of a named PWG size, in hundredths of a millimetre. -/
structure PwgMedia where
  width : Int
  length : Int
deriving DecidableEq

/-- A `pappl_media_col_t` of the driver data. -/
structure DriverMedia where
  sizeName : String
  sizeWidth : Int
  sizeLength : Int
  bottomMargin : Int
  leftMargin : Int
  rightMargin : Int
  topMargin : Int
  source : String
  type : String
deriving DecidableEq, Inhabited

/-- `pappl_pr_driver_data_t`.  The seven callbacks are those of one driver; a list
stands for an array and its `num_` field; `mediaReady` is `media_ready[0]`. -/
structure DriverData where
  format : String
  callbacks : Option Driver
  outputFaceUp : Bool
  inputFaceUp : Bool
  kind : List Constant
  makeAndModel : String
  ppm : Int
  orientDefault : Constant
  colorSupported : Constant
  colorDefault : Constant
  contentDefault : Constant
  qualityDefault : Constant
  rasterTypes : Constant
  forceRasterType : Constant
  duplex : Constant
  sidesSupported : Constant
  sidesDefault : Constant
  finishings : Constant
  resolutions : List Resolution
  xDefault : Int
  yDefault : Int
  leftRight : Int
  bottomTop : Int
  source : List String
  type : List String
  media : List String
  mediaReady : DriverMedia
  mediaDefault : DriverMedia
deriving DecidableEq, Inhabited

/-- What the two drivers fill in differently; `μ` is what a driver tells models
apart by. -/
structure DriverTables (μ : Type) where
  driver : Driver
  modelMap : List (String × μ)
  kind : List Constant
  resolution : μ → Resolution
  source : List String
  mediaTypes : List String
  defaultMedia : List String
  margins : μ → Margins

section Update

variable {μ : Type} (tables : DriverTables μ) (pwgMediaForPWG : String → Option PwgMedia)

/-- Everything up to the media lists. -/
def fillDriver (model : μ) (name : String) (driverData : DriverData) : DriverData :=
  { driverData with
    callbacks := some tables.driver
    outputFaceUp := true
    inputFaceUp := true
    kind := tables.kind
    makeAndModel := "Brother " ++ name
    ppm := 1
    orientDefault := .orientPortrait
    colorSupported := .colorModeMonochrome
    colorDefault := .colorModeMonochrome
    contentDefault := .contentText
    qualityDefault := .qualityNormal
    rasterTypes := .pwgRasterTypeBlack1
    forceRasterType := .pwgRasterTypeBlack1
    duplex := .duplexNone
    sidesSupported := .sidesOneSided
    sidesDefault := .sidesOneSided
    finishings := .finishingsNone
    resolutions := [tables.resolution model]
    xDefault := (tables.resolution model).x
    yDefault := (tables.resolution model).y
    leftRight := 0
    bottomTop := 0
    source := tables.source
    type := tables.mediaTypes
    media := tables.defaultMedia }

/-- The size, the margins and the type of a medium whose name is set. -/
def fillMedia (model : μ) (pwg : PwgMedia) (media : DriverMedia) : DriverMedia :=
  { media with
    sizeWidth := pwg.width
    sizeLength := pwg.length
    bottomMargin := toPwg (tables.margins model).bottom
    leftMargin := toPwg (tables.margins model).left
    rightMargin := toPwg (tables.margins model).right
    topMargin := toPwg (tables.margins model).top
    type := tables.mediaTypes.headD "" }

/-- The ready medium and the default medium are the first one listed. -/
def fillMediaReady (model : μ) (driverData : DriverData) : Bool × DriverData :=
  match tables.defaultMedia with
  | [] => (true, driverData)
  | sizeName :: _ =>
    let mediaReady := { driverData.mediaReady with sizeName }
    match pwgMediaForPWG sizeName with
    | none => (false, { driverData with mediaReady })
    | some pwg =>
      let mediaReady :=
        { fillMedia tables model pwg mediaReady with source := tables.source.headD "" }
      let mediaDefault := { driverData.mediaDefault with sizeName }
      match pwgMediaForPWG sizeName with
      | none => (false, { driverData with mediaReady, mediaDefault })
      | some pwg =>
        (true, { driverData with
          mediaReady, mediaDefault := fillMedia tables model pwg mediaDefault })

def updateDriverData (driverData : DriverData) (name : String) : Bool × DriverData :=
  match tables.modelMap.lookup name with
  | none => (false, driverData)
  | some model =>
    fillMediaReady tables pwgMediaForPWG model (fillDriver tables model name driverData)

theorem updateDriverData_of_lookup {name : String} {model : μ}
    (h : tables.modelMap.lookup name = some model) (driverData : DriverData) :
    updateDriverData tables pwgMediaForPWG driverData name =
      fillMediaReady tables pwgMediaForPWG model (fillDriver tables model name driverData) := by
  rw [updateDriverData, h]

theorem fillMediaReady_fst
    (hpwg : ∀ sizeName ∈ tables.defaultMedia, (pwgMediaForPWG sizeName).isSome) (model : μ)
    (driverData : DriverData) :
    (fillMediaReady tables pwgMediaForPWG model driverData).1 = true := by
  rw [fillMediaReady]
  cases hmedia : tables.defaultMedia with
  | nil => rfl
  | cons sizeName rest =>
    obtain ⟨pwg, hsome⟩ := Option.isSome_iff_exists.mp (hpwg sizeName (hmedia ▸ List.mem_cons_self))
    simp only [hsome]

/-- Where every listed size resolves, a driver takes exactly the models it lists. -/
theorem updateDriverData_fst
    (hpwg : ∀ sizeName ∈ tables.defaultMedia, (pwgMediaForPWG sizeName).isSome)
    (driverData : DriverData) (name : String) :
    (updateDriverData tables pwgMediaForPWG driverData name).1 = true ↔
      ∃ model, tables.modelMap.lookup name = some model := by
  rw [updateDriverData]
  cases tables.modelMap.lookup name with
  | none => exact ⟨fun h => absurd h Bool.false_ne_true, fun ⟨_, h⟩ => nomatch h⟩
  | some model => exact ⟨fun _ => ⟨model, rfl⟩, fun _ => fillMediaReady_fst _ _ hpwg _ _⟩

end Update

/-! ## The td2000 driver -/

namespace Td2000

def resolutions : ModelFamily → Resolution
  | .td2x2x => ⟨203, 203⟩
  | .td2x3x => ⟨300, 300⟩

def margins : ModelFamily → Margins
  | .td2x2x => ⟨fromPwg 3, fromPwg 3, fromPwg 0, fromPwg 0⟩
  | .td2x3x => ⟨fromPwg 3, fromPwg 3, fromPwg 0, fromPwg 0⟩

def defaultMedia : List String := [
  "roll_default_58x100mm",
  "roll_min_57x12mm",
  "roll_max_58x1000mm",
  "custom_min_57x12mm",
  "custom_max_58x1000mm",
  "om_51x26mm_51x26mm",
  "om_30x30mm_30x30mm",
  "om_40x40mm_40x40mm",
  "om_40x50mm_40x50mm",
  "om_40x60mm_40x60mm",
  "om_50x30mm_50x30mm",
  "om_60x60mm_60x60mm"]

def mediaTypes : List String := ["continuous", "labels", "labels-continuous"]

def driverTables : DriverTables ModelFamily where
  driver := .td2000
  modelMap := modelFamilyMap
  kind := [.kindReceipt, .kindLabel]
  resolution := resolutions
  source := ["main-roll"]
  mediaTypes := mediaTypes
  defaultMedia := defaultMedia
  margins := margins

def updateDriverData (pwgMediaForPWG : String → Option PwgMedia) :
    DriverData → String → Bool × DriverData :=
  Drivers.updateDriverData driverTables pwgMediaForPWG

end Td2000

/-! ## The pte550w driver -/

namespace Pte550w

def margins : ModelVariant → Margins
  | .ptE550W => {}
  | .ptP750W => {}
  | .ptP710BT => {}

def defaultMedia : List String := [
  "roll_default_24x100mm",
  "roll_min_4x4mm",
  "roll_max_24x1000mm",
  "custom_min_4x4mm",
  "custom_max_24x1000mm",
  "roll_current_12x100mm",
  "roll_current_18x100mm"]

def mediaTypes : List String := ["continuous", "labels-continuous"]

/-- Only 180 dpi is advertised, for every variant. -/
def driverTables : DriverTables ModelVariant where
  driver := .pte550w
  modelMap := modelVariantMap
  kind := [.kindLabel]
  resolution := fun _ => ⟨180, 180⟩
  source := ["main-roll", "auto"]
  mediaTypes := mediaTypes
  defaultMedia := defaultMedia
  margins := margins

def updateDriverData (pwgMediaForPWG : String → Option PwgMedia) :
    DriverData → String → Bool × DriverData :=
  Drivers.updateDriverData driverTables pwgMediaForPWG

end Pte550w

end Drivers
end BrThermal
