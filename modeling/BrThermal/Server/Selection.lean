/-
How the server finds a driver for a printer.

`autoadd_cb` names a driver for a device ID, `driver_cb` asks that driver to take the
model, and `startJob` looks the model up once more.  Each goes by a table of its own.
The tables agree on every name but four: auto-add knows TD-2125NW and TD-2135NW,
where the driver knows TD-2125NWB and TD-2135NWB.
-/
import BrThermal.Drivers.DriverData
import BrThermal.Drivers.Sent

namespace BrThermal
namespace Server

open Pappl Drivers

def driverMapping : List (String × String) := [
  ("TD-2020", Td2000.driverName),
  ("TD-2120N", Td2000.driverName),
  ("TD-2130N", Td2000.driverName),
  ("TD-2030A", Td2000.driverName),
  ("TD-2125N", Td2000.driverName),
  ("TD-2125NW", Td2000.driverName),
  ("TD-2135N", Td2000.driverName),
  ("TD-2135NW", Td2000.driverName),
  ("PT-E550W", Pte550w.driverName),
  ("PT-P750W", Pte550w.driverName),
  ("PT-P710BT", Pte550w.driverName)]

/-- `cupsGetOption("MDL", ...)` after `papplDeviceParseID`; a null device ID has no
options. -/
def mdlOption (deviceId : Option DeviceId) : Option String := deviceId.bind DeviceId.mdl

/-- `nullptr` is `none`. -/
def autoaddCb (deviceId : Option DeviceId) : Option String :=
  match mdlOption deviceId with
  | none => none
  | some model => if model = "" then none else driverMapping.lookup model

/-- The model in `usb://Brother/PT-P750W?serial=000C3G547030`: the last segment of
the path, empty where there is none. -/
def uriModel (deviceUri : String) : String :=
  let uri := deviceUri.toList.takeWhile (· ≠ '?')
  if '/' ∈ uri then .ofList (uri.reverse.takeWhile (· ≠ '/')).reverse else ""

/-- The model `driver_cb` goes by: the `MDL` value, or failing that the URI's. -/
def modelOf (deviceUri : Option String) (deviceId : Option DeviceId) : String :=
  let model := (mdlOption deviceId).getD ""
  if model = "" then
    match deviceUri with
    | none => model
    | some uri => uriModel uri
  else model

def driverCb (pwgMediaForPWG : String → Option PwgMedia) (driverName deviceUri : Option String)
    (deviceId : Option DeviceId) (driverData : DriverData) : Bool × DriverData :=
  let driverData := { driverData with format := "image/pwg-raster" }
  let model := modelOf deviceUri deviceId
  match driverName with
  | none => (false, driverData)
  | some driverName =>
    if driverName = "brother_td_2000" then
      Td2000.updateDriverData pwgMediaForPWG driverData model
    else if driverName = "brother_pte550w_p750w_p710bt" then
      Pte550w.updateDriverData pwgMediaForPWG driverData model
    else (false, driverData)

/-! ## Drivers by name -/

def driverName : Driver → String
  | .td2000 => Td2000.driverName
  | .pte550w => Pte550w.driverName

def driverTables : (d : Driver) → DriverTables d.Model
  | .td2000 => Td2000.driverTables
  | .pte550w => Pte550w.driverTables

theorem driverName_injective {d e : Driver} (h : driverName d = driverName e) : d = e := by
  cases d <;> cases e <;> first | rfl | exact absurd h (by decide)

theorem modelMap_driverTables (d : Driver) : (driverTables d).modelMap = d.modelMap := by
  cases d <;> rfl

section DriverCb

variable (pwgMediaForPWG : String → Option PwgMedia)

theorem driverCb_driverName (d : Driver) (deviceUri : Option String) (deviceId : Option DeviceId)
    (driverData : DriverData) :
    driverCb pwgMediaForPWG (some (driverName d)) deviceUri deviceId driverData =
      updateDriverData (driverTables d) pwgMediaForPWG
        { driverData with format := "image/pwg-raster" } (modelOf deviceUri deviceId) := by
  cases d <;> rfl

theorem driverCb_of_ne {name : String} (hname : ∀ d, name ≠ driverName d)
    (deviceUri : Option String) (deviceId : Option DeviceId) (driverData : DriverData) :
    (driverCb pwgMediaForPWG (some name) deviceUri deviceId driverData).1 = false := by
  have htd2000 : name ≠ "brother_td_2000" := hname .td2000
  have hpte550w : name ≠ "brother_pte550w_p750w_p710bt" := hname .pte550w
  simp only [driverCb, if_neg htd2000, if_neg hpte550w]

/-- Every size the drivers list resolves. -/
def ListedSizesResolve : Prop :=
  ∀ d, ∀ sizeName ∈ (driverTables d).defaultMedia, (pwgMediaForPWG sizeName).isSome

variable {pwgMediaForPWG}

/-- `driver_cb` accepts a driver by its name and the model by the driver's map. -/
theorem driverCb_fst (hpwg : ListedSizesResolve pwgMediaForPWG) (name : String)
    (deviceUri : Option String) (deviceId : Option DeviceId) (driverData : DriverData) :
    (driverCb pwgMediaForPWG (some name) deviceUri deviceId driverData).1 = true ↔
      ∃ d, name = driverName d ∧
        ∃ model, d.modelMap.lookup (modelOf deviceUri deviceId) = some model := by
  by_cases hname : ∃ d, name = driverName d
  · obtain ⟨d, rfl⟩ := hname
    rw [driverCb_driverName, updateDriverData_fst _ _ (hpwg d), modelMap_driverTables]
    refine ⟨fun h => ⟨d, rfl, h⟩, fun ⟨d', hd, h⟩ => ?_⟩
    obtain rfl := driverName_injective hd
    exact h
  · rw [driverCb_of_ne _ (fun d h => hname ⟨d, h⟩)]
    exact ⟨fun h => absurd h Bool.false_ne_true, fun ⟨d, hd, _⟩ => absurd ⟨d, hd⟩ hname⟩

end DriverCb

/-! ## The tables -/

theorem lookup_eq_some_iff {α β : Type} [DecidableEq α] {l : List (α × β)}
    (hl : (l.map Prod.fst).Nodup) {k : α} {v : β} : l.lookup k = some v ↔ (k, v) ∈ l := by
  induction l with
  | nil =>
    rw [List.lookup_nil]
    exact ⟨fun h => (nomatch h), fun h => absurd h List.not_mem_nil⟩
  | cons entry l ih =>
    obtain ⟨j, u⟩ := entry
    rw [List.map_cons, List.nodup_cons] at hl
    rw [List.lookup_cons, List.mem_cons, Prod.mk.injEq]
    by_cases hk : k = j
    · subst hk
      rw [beq_self_eq_true]
      simp only [Option.some.injEq]
      refine ⟨fun h => .inl ⟨trivial, h.symm⟩, fun h => ?_⟩
      rcases h with h | h
      · exact h.2.symm
      · exact absurd (List.mem_map_of_mem (f := Prod.fst) h) hl.1
    · rw [beq_false_of_ne hk]
      simp only [ih hl.2]
      exact ⟨.inr, fun h => h.resolve_left fun h => hk h.1⟩

/-- The names that one table has and the other lacks. -/
def driftedModels : List String := ["TD-2125NW", "TD-2125NWB", "TD-2135NW", "TD-2135NWB"]

/-- A driver knows the model. -/
def Supports (d : Driver) (name : String) : Prop := ∃ model, d.modelMap.lookup name = some model

theorem supports_iff {d : Driver} {name : String} :
    Supports d name ↔ name ∈ d.modelMap.map Prod.fst := by
  have hnodup : (d.modelMap.map Prod.fst).Nodup := by cases d <;> decide
  rw [Supports, List.mem_map]
  constructor
  · rintro ⟨model, h⟩
    exact ⟨(name, model), (lookup_eq_some_iff hnodup).mp h, rfl⟩
  · rintro ⟨⟨name, model⟩, h, rfl⟩
    exact ⟨model, (lookup_eq_some_iff hnodup).mpr h⟩

instance (d : Driver) (name : String) : Decidable (Supports d name) :=
  decidable_of_iff _ supports_iff.symm

theorem lookup_driverMapping {model name : String} :
    driverMapping.lookup model = some name ↔ (model, name) ∈ driverMapping :=
  lookup_eq_some_iff (by decide)

/-- Off the drifted names, auto-add names exactly the drivers that know the model. -/
theorem driverMapping_iff {model : String} (hmodel : model ∉ driftedModels) (name : String) :
    driverMapping.lookup model = some name ↔ ∃ d, name = driverName d ∧ Supports d model := by
  have hlisted : ∀ entry ∈ driverMapping, entry.1 ∉ driftedModels →
      ∃ d, entry.2 = driverName d ∧ Supports d entry.1 := by
    intro entry hentry hdrift
    have hsome : entry.2 = driverName .td2000 ∧ Supports .td2000 entry.1 ∨
        entry.2 = driverName .pte550w ∧ Supports .pte550w entry.1 := by
      revert hdrift
      revert entry
      decide
    exact hsome.elim (fun h => ⟨_, h⟩) (fun h => ⟨_, h⟩)
  have hknown : ∀ d, ∀ known ∈ (d : Driver).modelMap.map Prod.fst, known ∉ driftedModels →
      (known, driverName d) ∈ driverMapping := by
    intro d
    cases d <;> decide
  rw [lookup_driverMapping]
  constructor
  · exact fun h => hlisted (model, name) h hmodel
  · rintro ⟨d, rfl, h⟩
    exact hknown d model (supports_iff.mp h) hmodel

/-- On a drifted name, auto-add and the td2000 driver disagree. -/
theorem not_driverMapping_iff {model : String} (hmodel : model ∈ driftedModels) :
    ¬(driverMapping.lookup model = some (driverName .td2000) ↔
      ∃ d, driverName .td2000 = driverName d ∧ Supports d model) := by
  have hdrift : ∀ model ∈ driftedModels,
      ¬(driverMapping.lookup model = some (driverName .td2000) ↔ Supports .td2000 model) := by
    decide
  intro h
  refine hdrift model hmodel (h.trans ⟨fun ⟨d, hd, hsupports⟩ => ?_, fun h => ⟨_, rfl, h⟩⟩)
  exact driverName_injective hd ▸ hsupports

/-! ## Agreement -/

/-- On a device with this ID that takes every write and reports nothing, `startJob`
finds `model` in the map of its driver. -/
def StartsAs (d : Driver) (model : d.Model) (deviceId : DeviceId) : Prop :=
  ∀ (w : World d.JobData) (job : Job) (options : PrOptions) (device : Handle),
    (w.script device.uri).ids.headD none = some deviceId →
    (w.script device.uri).Completes → (w.script device.uri).NothingPending →
      let code := d.callbacks.startJob (some job) (some options) (some device)
      code.value w = true ∧ (code.final w).jobData job = some (d.jobData model)

/-- Auto-add names a driver exactly where `driver_cb` takes it, and then `driver_cb`
and `startJob` find the same model in it. -/
structure Agree (pwgMediaForPWG : String → Option PwgMedia) (deviceId : DeviceId)
    (deviceUri : Option String) (driverData : DriverData) : Prop where
  selects : ∀ name, autoaddCb (some deviceId) = some name ↔
    (driverCb pwgMediaForPWG (some name) deviceUri (some deviceId) driverData).1 = true
  starts : ∀ name, autoaddCb (some deviceId) = some name →
    ∃ (d : Driver) (model : d.Model), name = driverName d ∧
      driverCb pwgMediaForPWG (some name) deviceUri (some deviceId) driverData =
        fillMediaReady (driverTables d) pwgMediaForPWG model
          (fillDriver (driverTables d) model (modelOf deviceUri (some deviceId))
            { driverData with format := "image/pwg-raster" }) ∧
      StartsAs d model deviceId

/-- The model has no drifted name; and where the device ID names none, the URI that
`driver_cb` falls back on names no model of a driver either. -/
def SameModel (deviceId : DeviceId) (deviceUri : Option String) : Prop :=
  deviceId.mdl.getD "" ∉ driftedModels ∧
    (deviceId.mdl.getD "" = "" → ∀ d, ¬Supports d (modelOf deviceUri (some deviceId)))

section Agree

variable {deviceId : DeviceId} {deviceUri : Option String}

theorem autoaddCb_eq (deviceId : DeviceId) :
    autoaddCb (some deviceId) = driverMapping.lookup (deviceId.mdl.getD "") := by
  rw [autoaddCb, mdlOption, Option.bind_some]
  cases deviceId.mdl with
  | none => decide
  | some model =>
    dsimp only [Option.getD_some]
    split
    case isTrue h =>
      rw [h]
      decide
    case isFalse => rfl

/-- Auto-add goes by a model name the device ID carries. -/
theorem name_of_autoaddCb {name : String} (h : autoaddCb (some deviceId) = some name) :
    ∃ model, deviceId = ⟨some model⟩ ∧ model ≠ "" ∧ driverMapping.lookup model = some name := by
  obtain ⟨mdl⟩ := deviceId
  cases mdl with
  | none => cases h
  | some model =>
    rw [autoaddCb, mdlOption, Option.bind_some] at h
    dsimp only at h
    split at h
    case isTrue => cases h
    case isFalse hne => exact ⟨model, rfl, hne, h⟩

theorem modelOf_of_ne (h : deviceId.mdl.getD "" ≠ "") :
    modelOf deviceUri (some deviceId) = deviceId.mdl.getD "" := if_neg h

theorem startsAs_of_lookup {d : Driver} {name : String} {model : d.Model}
    (h : d.modelMap.lookup name = some model) : StartsAs d model ⟨some name⟩ := by
  intro w job options device hid hcompletes hquiet
  obtain ⟨-, hdata, hok⟩ := startJob_sent device job options hcompletes hid h
  exact ⟨hok hquiet, hdata (hok hquiet)⟩

/-- The three tables describe one partial function on every device ID but those with
a drifted name, and those without a name whose URI has one. -/
theorem agree_iff {pwgMediaForPWG : String → Option PwgMedia}
    (hpwg : ListedSizesResolve pwgMediaForPWG) (deviceId : DeviceId) (deviceUri : Option String)
    (driverData : DriverData) :
    Agree pwgMediaForPWG deviceId deviceUri driverData ↔ SameModel deviceId deviceUri := by
  have hselects : (∀ name, autoaddCb (some deviceId) = some name ↔
      (driverCb pwgMediaForPWG (some name) deviceUri (some deviceId) driverData).1 = true) ↔
      SameModel deviceId deviceUri := by
    simp only [autoaddCb_eq, driverCb_fst hpwg]
    by_cases hname : deviceId.mdl.getD "" = ""
    · have hnone : driverMapping.lookup "" = none := by decide
      have hempty : "" ∉ driftedModels := by decide
      rw [SameModel, hname, hnone]
      refine ⟨fun h => ⟨hempty, fun _ d hd => ?_⟩, fun h name => ?_⟩
      · exact nomatch (h (driverName d)).mpr ⟨d, rfl, hd⟩
      · exact ⟨fun hsome => (nomatch hsome), fun ⟨d, _, hd⟩ => absurd hd (h.2 rfl d)⟩
    · rw [modelOf_of_ne hname, SameModel]
      refine ⟨fun h => ⟨fun hdrift => ?_, fun hempty => absurd hempty hname⟩, fun h => ?_⟩
      · exact not_driverMapping_iff hdrift (h (driverName .td2000))
      · exact driverMapping_iff h.1
  refine ⟨fun h => hselects.mp h.selects, fun h => ⟨hselects.mpr h, fun name hauto => ?_⟩⟩
  obtain ⟨m, rfl, hm, hlookup⟩ := name_of_autoaddCb hauto
  obtain ⟨d, rfl, model, hmodel⟩ := (driverMapping_iff h.1 name).mp hlookup
  have hmodelOf : modelOf deviceUri (some ⟨some m⟩) = m := modelOf_of_ne hm
  refine ⟨d, model, rfl, ?_, startsAs_of_lookup hmodel⟩
  rw [driverCb_driverName, hmodelOf]
  exact updateDriverData_of_lookup _ _ (modelMap_driverTables d ▸ hmodel) _

end Agree

/-- A PWG lookup that resolves every name, as that of a listed size does. -/
def labelSize (_ : String) : Option PwgMedia := some ⟨5800, 10000⟩

theorem agree_td2020 :
    Agree labelSize ⟨some "TD-2020"⟩ none default ↔ SameModel ⟨some "TD-2020"⟩ none :=
  agree_iff (fun _ _ _ => rfl) ⟨some "TD-2020"⟩ none default

/-- The td2000 driver takes a TD-2125NWB, and auto-add never offers it one. -/
theorem not_agree_td2125nwb :
    ¬∀ pwgMediaForPWG, ListedSizesResolve pwgMediaForPWG →
      ∀ deviceId deviceUri driverData, Agree pwgMediaForPWG deviceId deviceUri driverData := by
  intro h
  have hselects := (h labelSize (fun _ _ _ => rfl) ⟨some "TD-2125NWB"⟩ none default).selects
    Td2000.driverName
  exact absurd (hselects.mpr (by decide)) (by decide)

end Server
end BrThermal
