/-
The model in a device URI.

A printer that is added by hand has no device ID, and `driver_cb` then reads the model
off the device URI.  It cuts the query first, so that a slash in the query is not taken
for the end of the path, and then looks for the last slash.  A URI that PAPPL builds for
a model selects what a device ID with that model selects, and a URI without a path, or
no URI at all, selects nothing.
-/
import BrThermal.Server.Selection
import Mathlib.Data.List.TakeWhile

namespace BrThermal
namespace Server

open Pappl Drivers

/-! ## Cutting at a delimiter -/

section Cut

variable {α : Type} [DecidableEq α] {c : α} {u : List α}

theorem takeWhile_ne_of_notMem (hu : c ∉ u) : u.takeWhile (· ≠ c) = u := by
  rw [List.takeWhile_eq_self_iff]
  intro x hx
  have hne : x ≠ c := fun h => hu (h ▸ hx)
  simpa using hne

/-- What stands before the delimiter is what stands before its first occurrence. -/
theorem takeWhile_ne_append (hu : c ∉ u) (v : List α) :
    (u ++ c :: v).takeWhile (· ≠ c) = u := by
  rw [List.takeWhile_append, takeWhile_ne_of_notMem hu, if_pos rfl]
  simp

/-- What stands after the delimiter is what stands after its last occurrence. -/
theorem reverse_takeWhile_ne_append (hu : c ∉ u) (v : List α) :
    ((v ++ c :: u).reverse.takeWhile (· ≠ c)).reverse = u := by
  have hreverse : (v ++ c :: u).reverse = u.reverse ++ c :: v.reverse := by simp
  rw [hreverse, takeWhile_ne_append (fun h => hu (List.mem_reverse.mp h)), List.reverse_reverse]

end Cut

/-! ## The model of a URI -/

/-- A model name that can stand in a path. -/
structure Segment (model : String) : Prop where
  nonempty : model ≠ ""
  noSlash : '/' ∉ model.toList
  noQuery : '?' ∉ model.toList

/-- What PAPPL puts in front of the model. -/
structure UriPrefix (path : String) : Prop where
  slash : path.toList.getLast? = some '/'
  noQuery : '?' ∉ path.toList

theorem uriModel_of_path {uri : String} {path model : List Char} (hmodel : '/' ∉ model)
    (huri : uri.toList.takeWhile (· ≠ '?') = path ++ '/' :: model) :
    uriModel uri = .ofList model := by
  have hslash : '/' ∈ path ++ '/' :: model := by simp
  rw [uriModel, huri, if_pos hslash, reverse_takeWhile_ne_append hmodel]

theorem uriModel_of_noSlash {uri : String} (huri : '/' ∉ uri.toList.takeWhile (· ≠ '?')) :
    uriModel uri = "" := if_neg huri

section Path

variable {path model : String}

theorem noQuery_append (hpath : UriPrefix path) (hmodel : Segment model) :
    '?' ∉ (path ++ model).toList := by
  rw [String.toList_append, List.mem_append]
  exact not_or.mpr ⟨hpath.noQuery, hmodel.noQuery⟩

theorem uriModel_append (hpath : UriPrefix path) (hmodel : Segment model) :
    uriModel (path ++ model) = model := by
  obtain ⟨start, hstart⟩ := List.getLast?_eq_some_iff.mp hpath.slash
  have hcut : (path ++ model).toList.takeWhile (· ≠ '?') = start ++ '/' :: model.toList := by
    rw [takeWhile_ne_of_notMem (noQuery_append hpath hmodel), String.toList_append, hstart]
    simp
  rw [uriModel_of_path hmodel.noSlash hcut, String.ofList_toList]

/-- The query goes before the slashes are looked at. -/
theorem uriModel_query (path query : String) (h : '?' ∉ path.toList) :
    uriModel (path ++ "?" ++ query) = uriModel path := by
  have hcut : (path ++ "?" ++ query).toList.takeWhile (· ≠ '?') =
      path.toList.takeWhile (· ≠ '?') := by
    have hquery : (path ++ "?" ++ query).toList = path.toList ++ '?' :: query.toList := by
      rw [String.toList_append, String.toList_append, List.append_assoc]
      rfl
    rw [hquery, takeWhile_ne_append h, takeWhile_ne_of_notMem h]
  rw [uriModel, uriModel, hcut]

theorem modelOf_segment (hmodel : Segment model) (uri : Option String) :
    modelOf uri (some ⟨some model⟩) = model := if_neg hmodel.nonempty

end Path

/-! ## The fallback -/

section Fallback

variable (pwgMediaForPWG : String → Option PwgMedia) (driverName : Option String)
  (driverData : DriverData)

/-- `driver_cb` looks at the URI and at the device ID for the model only. -/
theorem driverCb_congr {uri uri' : Option String} {id id' : Option DeviceId}
    (h : modelOf uri id = modelOf uri' id') :
    driverCb pwgMediaForPWG driverName uri id driverData =
      driverCb pwgMediaForPWG driverName uri' id' driverData := by
  unfold driverCb
  rw [h]

theorem driverCb_of_empty {uri : Option String} {id : Option DeviceId}
    (h : modelOf uri id = "") :
    (driverCb pwgMediaForPWG driverName uri id driverData).1 = false := by
  cases driverName with
  | none => rfl
  | some name =>
    by_cases hname : ∃ d, name = Server.driverName d
    · obtain ⟨d, rfl⟩ := hname
      have hlookup : (driverTables d).modelMap.lookup "" = none := by
        rw [modelMap_driverTables]
        exact d.lookup_empty
      rw [driverCb_driverName, h, updateDriverData, hlookup]
    · exact driverCb_of_ne pwgMediaForPWG (fun d hd => hname ⟨d, hd⟩) uri id driverData

/-- Without a device ID `driver_cb` does what it does for a device ID with the model of
the URI, and fails where the URI has none. -/
structure FallsBack : Prop where
  path : ∀ path model, UriPrefix path → Segment model → ∀ uri,
    driverCb pwgMediaForPWG driverName (some (path ++ model)) none driverData =
      driverCb pwgMediaForPWG driverName uri (some ⟨some model⟩) driverData
  query : ∀ path model query, UriPrefix path → Segment model → ∀ uri,
    driverCb pwgMediaForPWG driverName (some (path ++ model ++ "?" ++ query)) none driverData =
      driverCb pwgMediaForPWG driverName uri (some ⟨some model⟩) driverData
  noUri : (driverCb pwgMediaForPWG driverName none none driverData).1 = false
  noSlash : ∀ uri : String, '/' ∉ uri.toList.takeWhile (· ≠ '?') →
    (driverCb pwgMediaForPWG driverName (some uri) none driverData).1 = false

/-- The device ID path and the URI fallback read one model, for every driver, prefix and
query. -/
theorem driverCb_fallsBack : FallsBack pwgMediaForPWG driverName driverData where
  path path model hpath hmodel uri := by
    apply driverCb_congr
    rw [modelOf_segment hmodel]
    exact uriModel_append hpath hmodel
  query path model query hpath hmodel uri := by
    apply driverCb_congr
    rw [modelOf_segment hmodel]
    show uriModel (path ++ model ++ "?" ++ query) = model
    rw [uriModel_query _ _ (noQuery_append hpath hmodel), uriModel_append hpath hmodel]
  noUri := driverCb_of_empty pwgMediaForPWG driverName driverData rfl
  noSlash _ huri := driverCb_of_empty pwgMediaForPWG driverName driverData
    (uriModel_of_noSlash huri)

end Fallback

/-- A PT-P750W that was added by hand.  The slash and the question mark in the query do no
harm. -/
theorem driverCb_fallsBack_ptp750w :
    let added := driverCb labelSize (some Pte550w.driverName)
      (some ("usb://Brother/" ++ "PT-P750W" ++ "?" ++ "serial=000C3G/547?030")) none default
    added.1 = true ∧ added.2.makeAndModel = "Brother PT-P750W" ∧
      added = driverCb labelSize (some Pte550w.driverName) none (some ⟨some "PT-P750W"⟩) default :=
  ⟨by decide +kernel, by decide +kernel,
    (driverCb_fallsBack labelSize _ default).query _ _ _ ⟨by decide, by decide⟩
      ⟨by decide, by decide, by decide⟩ none⟩

end Server
end BrThermal
