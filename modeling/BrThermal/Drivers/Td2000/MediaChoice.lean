/-
The medium chosen for a page.

A medium is known by the size in its record, in whole millimetres.  Labels are
found by a first-fit search of a table sorted by width and then length, which makes
the label found as small as can be.  Tape is told apart by a single threshold, and
the wider tape is taken for every width beyond it.
-/
import BrThermal.Drivers.Footprint
import BrThermal.Drivers.Written
import BrThermal.Search.FirstFit

namespace BrThermal
namespace Drivers
namespace Td2000

open Effect Effect.Prog Pappl Util.Units

/-- Width and length of the medium; tape, which is cut to length, has the length 0. -/
def MediaInfo.size (info : MediaInfo) : Nat × Nat :=
  (info.paperWidth.toNat, info.paperLengthMm.toNat)

namespace Media

/-- The sizes there are. -/
def sizes : MediaType → List (Nat × Nat)
  | .continuousLengthTape => [(57, 0), (58, 0)]
  | .dieCutLabels => [(30, 30), (40, 40), (40, 50), (40, 60), (50, 30), (51, 26), (60, 60)]
  | .noMedia => []

/-- A medium of that size is large enough. -/
def Holds (type : MediaType) (size : Nat × Nat) (width length : MediaSize) : Prop :=
  width ≤ mm size.1 ∧ (type = .dieCutLabels → length ≤ mm size.2)

instance (type : MediaType) (size : Nat × Nat) (width length : MediaSize) :
    Decidable (Holds type size width length) :=
  inferInstanceAs (Decidable (_ ∧ _))

/-! ## The table of labels -/

def DieCutEntry.size (entry : DieCutEntry) : Nat × Nat := entry.td2x2x.size

/-- Each entry of the table names the size of its two records. -/
theorem dieCutTable_sizes : ∀ entry ∈ dieCutTable,
    entry.width = mm entry.size.1 ∧ entry.length = mm entry.size.2 ∧
      entry.td2x3x.size = entry.size ∧ entry.td2x2x ≠ none ∧ entry.td2x3x ≠ none := by
  decide +kernel

theorem map_size_dieCutTable : dieCutTable.map DieCutEntry.size = sizes .dieCutLabels := by
  decide +kernel

/-- The table is sorted by width, and no label comes after a larger one. -/
theorem dieCutTable_sorted :
    dieCutTable.Pairwise fun a b => a.size.1 ≤ b.size.1 ∧ ¬b.size < a.size := by
  simp only [lt_iff_le_not_ge]
  decide +kernel

def Fits (width length : MediaSize) (entry : DieCutEntry) : Bool :=
  width ≤ entry.width ∧ length ≤ entry.length

variable {width length : MediaSize}

theorem holds_size_iff {entry : DieCutEntry} (hentry : entry ∈ dieCutTable) :
    Holds .dieCutLabels entry.size width length ↔ Fits width length entry = true := by
  obtain ⟨hwidth, hlength, -⟩ := dieCutTable_sizes entry hentry
  rw [Holds, Fits, decide_eq_true_iff, hwidth, hlength]
  exact and_congr_right fun _ => forall_prop_of_true rfl

/-- The label chosen, or that there is none. -/
theorem getMediaInfoForMedia_labels (family : ModelFamily) (width length : MediaSize) :
    match dieCutTable.find? (Fits width length) with
    | some entry => getMediaInfoForMedia family width length .dieCutLabels ≠ none ∧
        (getMediaInfoForMedia family width length .dieCutLabels).size = entry.size
    | .none => getMediaInfoForMedia family width length .dieCutLabels = none := by
  have hget : getMediaInfoForMedia family width length .dieCutLabels =
      match dieCutTable.find? (Fits width length) with
      | some entry => pick family entry.td2x2x entry.td2x3x
      | .none => none := rfl
  rw [hget]
  cases hfind : dieCutTable.find? (Fits width length) with
  | none => rfl
  | some entry =>
    obtain ⟨-, -, hsize, h2x2x, h2x3x⟩ := dieCutTable_sizes entry (List.mem_of_find?_eq_some hfind)
    cases family with
    | td2x2x => exact ⟨h2x2x, rfl⟩
    | td2x3x => exact ⟨h2x3x, hsize⟩

theorem labels_none_iff (family : ModelFamily) (width length : MediaSize) :
    getMediaInfoForMedia family width length .dieCutLabels = none ↔
      ∀ size ∈ sizes .dieCutLabels, ¬Holds .dieCutLabels size width length := by
  have hlabels := getMediaInfoForMedia_labels family width length
  rw [← map_size_dieCutTable, List.forall_mem_map]
  cases hfind : dieCutTable.find? (Fits width length) with
  | none =>
    rw [hfind] at hlabels
    refine ⟨fun _ entry hentry hholds => ?_, fun _ => hlabels⟩
    exact List.find?_eq_none.mp hfind entry hentry ((holds_size_iff hentry).mp hholds)
  | some entry =>
    rw [hfind] at hlabels
    have hentry := List.mem_of_find?_eq_some hfind
    constructor
    · exact fun hnone => absurd hnone hlabels.1
    · exact fun hall => absurd ((holds_size_iff hentry).mpr (List.find?_some hfind))
        (hall entry hentry)

theorem labels_sound (family : ModelFamily) (width length : MediaSize)
    (hrecord : getMediaInfoForMedia family width length .dieCutLabels ≠ none) :
    (getMediaInfoForMedia family width length .dieCutLabels).size ∈ sizes .dieCutLabels ∧
      Holds .dieCutLabels (getMediaInfoForMedia family width length .dieCutLabels).size
        width length := by
  have hlabels := getMediaInfoForMedia_labels family width length
  cases hfind : dieCutTable.find? (Fits width length) with
  | none =>
    rw [hfind] at hlabels
    exact absurd hlabels hrecord
  | some entry =>
    rw [hfind] at hlabels
    have hentry := List.mem_of_find?_eq_some hfind
    rw [hlabels.2, ← map_size_dieCutTable]
    exact ⟨List.mem_map_of_mem hentry, (holds_size_iff hentry).mpr (List.find?_some hfind)⟩

/-! ## The choice of a label -/

/-- The label chosen for a request holds it, is as small as such a label can be, is the same
for both families and grows no wider than the label of a larger request. -/
structure SmallestLabel (family : ModelFamily) (width length : MediaSize) : Prop where
  held : getMediaInfoForMedia family width length .dieCutLabels ≠ none →
    (getMediaInfoForMedia family width length .dieCutLabels).size ∈ sizes .dieCutLabels ∧
      Holds .dieCutLabels (getMediaInfoForMedia family width length .dieCutLabels).size
        width length
  minimal : ∀ size ∈ sizes .dieCutLabels, Holds .dieCutLabels size width length →
    getMediaInfoForMedia family width length .dieCutLabels ≠ none ∧
      ¬size < (getMediaInfoForMedia family width length .dieCutLabels).size
  sameSize : ∀ family', (getMediaInfoForMedia family' width length .dieCutLabels).size =
    (getMediaInfoForMedia family width length .dieCutLabels).size
  monotone : ∀ width' length', width ≤ width' → length ≤ length' →
    getMediaInfoForMedia family width' length' .dieCutLabels ≠ none →
      getMediaInfoForMedia family width length .dieCutLabels ≠ none ∧
        (getMediaInfoForMedia family width length .dieCutLabels).size.1 ≤
          (getMediaInfoForMedia family width' length' .dieCutLabels).size.1

theorem smallestLabel (family : ModelFamily) (width length : MediaSize) :
    SmallestLabel family width length where
  held := labels_sound family width length
  minimal size hsize hholds := by
    have hlabels := getMediaInfoForMedia_labels family width length
    rw [← map_size_dieCutTable] at hsize
    obtain ⟨entry, hentry, rfl⟩ := List.mem_map.mp hsize
    have hfits := (holds_size_iff hentry).mp hholds
    cases hfind : dieCutTable.find? (Fits width length) with
    | none => exact absurd hfits (List.find?_eq_none.mp hfind entry hentry)
    | some first =>
      rw [hfind] at hlabels
      obtain ⟨hne, hfirst⟩ := hlabels
      have hsorted := dieCutTable_sorted.imp fun h => h.2
      rw [hfirst]
      exact ⟨hne, Search.find?_minimal hsorted hfind entry hentry hfits⟩
  sameSize family' := by
    have hlabels := getMediaInfoForMedia_labels family width length
    have hlabels' := getMediaInfoForMedia_labels family' width length
    cases hfind : dieCutTable.find? (Fits width length) with
    | none =>
      rw [hfind] at hlabels hlabels'
      rw [hlabels, hlabels']
    | some first =>
      rw [hfind] at hlabels hlabels'
      rw [hlabels.2, hlabels'.2]
  monotone width' length' hwidth hlength hne := by
    have hlabels := getMediaInfoForMedia_labels family width length
    have hlabels' := getMediaInfoForMedia_labels family width' length'
    cases hfind' : dieCutTable.find? (Fits width' length') with
    | none =>
      rw [hfind'] at hlabels'
      exact absurd hlabels' hne
    | some entry' =>
      rw [hfind'] at hlabels'
      have hless : ∀ entry ∈ dieCutTable, Fits width' length' entry = true →
          Fits width length entry = true := by
        intro entry _ hfits
        rw [Fits, decide_eq_true_iff] at hfits ⊢
        exact ⟨le_trans hwidth hfits.1, le_trans hlength hfits.2⟩
      have hsorted := dieCutTable_sorted.imp fun h => h.1
      obtain ⟨entry, hfind, hle⟩ :=
        Search.find?_mono (fun entry => le_refl entry.size.1) hsorted hless hfind'
      rw [hfind] at hlabels
      rw [hlabels.2, hlabels'.2]
      exact ⟨hlabels.1, hle⟩

/-- A request of 45 mm by 28 mm, which two labels hold. -/
theorem smallestLabel_held :
    (sizes .dieCutLabels).filter (fun size => Holds .dieCutLabels size (mm 45) (mm 28)) =
        [(50, 30), (60, 60)] ∧
      (getMediaInfoForMedia .td2x2x (mm 45) (mm 28) .dieCutLabels).size = (50, 30) ∧
      SmallestLabel .td2x2x (mm 45) (mm 28) :=
  ⟨by decide +kernel, by decide +kernel, smallestLabel .td2x2x (mm 45) (mm 28)⟩

/-! ## What is refused -/

section Refusal

variable {family : ModelFamily} {type : MediaType}

/-- A page of that media, of a job for that family. -/
structure PageOf (family : ModelFamily) (type : MediaType) (width length : MediaSize)
    (options : PrOptions) (data : Option JobData) : Prop where
  type_eq : mediaTypeOf options.media.type = some type
  width_eq : micrometres options.media.sizeWidth = width
  length_eq : micrometres options.media.sizeLength = length
  family_eq : data.map JobData.modelFamily = some family

/-- `startPage` sends nothing and returns false. -/
def Refused (job : Job) (options : PrOptions) (device : Handle) (pageNumber : UInt32)
    (w : World JobData) : Prop :=
  let code := startPage (some job) (some options) (some device) pageNumber
  code.value w = false ∧ written (code.trace w) = []

/-- A page is refused where there is no record for its media, and only there. -/
theorem refused_iff (hwidth : FitsInt width) (hlength : FitsInt length) {job : Job}
    {options : PrOptions} {w : World JobData}
    (hpage : PageOf family type width length options (w.jobData job)) (device : Handle)
    (pageNumber : UInt32) :
    Refused job options device pageNumber w ↔
      getMediaInfoForMedia family width length type = none := by
  obtain ⟨htype, rfl, rfl, hfamily⟩ := hpage
  obtain ⟨jobData, hdata, rfl⟩ := Option.map_eq_some_iff.mp hfamily
  have hanswer : (World.env (.jobGetData job) w).1 = some jobData := hdata
  show Prog.wp World.env _ (fun ok es _ => ok = false ∧ written es = []) w ↔ _
  rw [startPage, htype, fromPwg_of_fitsInt hwidth, fromPwg_of_fitsInt hlength]
  dsimp only
  rw [call_bind, wp_ask, hanswer]
  dsimp only
  split
  case isTrue hnone => exact ⟨fun _ => hnone, fun _ => ⟨rfl, rfl⟩⟩
  case isFalse hrecord =>
    constructor
    · intro hrefused
      have hsent : written _ = [] := hrefused.2
      cases hsent
    · exact fun hnone => absurd hnone hrecord

/-- The record of a request names a medium that holds it, and where there is none no
such medium exists and the page is refused. -/
structure SelectsRightly (family : ModelFamily) (type : MediaType) (width length : MediaSize) :
    Prop where
  sound : getMediaInfoForMedia family width length type ≠ none →
    (getMediaInfoForMedia family width length type).size ∈ sizes type ∧
      Holds type (getMediaInfoForMedia family width length type).size width length
  complete : getMediaInfoForMedia family width length type = none ↔
    ∀ size ∈ sizes type, ¬Holds type size width length
  refuses : ∀ (job : Job) (options : PrOptions) (device : Handle) (pageNumber : UInt32)
    (w : World JobData), PageOf family type width length options (w.jobData job) →
      (Refused job options device pageNumber w ↔
        getMediaInfoForMedia family width length type = none)

/-- Tape is never refused, and its width is on one side of the threshold. -/
theorem getMediaInfoForMedia_tape (family : ModelFamily) (width length : MediaSize) :
    getMediaInfoForMedia family width length .continuousLengthTape ≠ none ∧
      (getMediaInfoForMedia family width length .continuousLengthTape).size =
        if width ≤ mm 57 then (57, 0) else (58, 0) := by
  rw [getMediaInfoForMedia]
  split <;> cases family <;> decide +kernel

theorem holds_tape_iff (size : Nat × Nat) (width length : MediaSize) :
    Holds .continuousLengthTape size width length ↔ width ≤ mm size.1 :=
  and_iff_left fun h => nomatch h

theorem no_tape_holds_iff (width length : MediaSize) :
    (∀ size ∈ sizes .continuousLengthTape, ¬Holds .continuousLengthTape size width length) ↔
      ¬width ≤ mm 58 := by
  have hnarrower : width ≤ mm 57 → width ≤ mm 58 := fun h => le_trans h (by decide)
  simp only [sizes, List.forall_mem_cons, List.not_mem_nil, false_implies, implies_true,
    and_true, holds_tape_iff]
  exact ⟨And.right, fun hwide => ⟨hwide ∘ hnarrower, hwide⟩⟩

/-- Labels, and tape of up to 58 mm, are selected as they should be; a page wider than
any tape is sent as one of 58 mm.  A request is one of two `int`s, in micrometres. -/
theorem selectsRightly_iff (family : ModelFamily) (type : MediaType) (width length : Int32) :
    SelectsRightly family type width.toInt length.toInt ↔
      (type = .continuousLengthTape → width.toInt ≤ mm 58) := by
  have hrefuses : ∀ job options device pageNumber w,
      PageOf family type width.toInt length.toInt options (w.jobData job) →
        (Refused job options device pageNumber w ↔
          getMediaInfoForMedia family width.toInt length.toInt type = none) :=
    fun _ _ device pageNumber _ hpage =>
      refused_iff (fitsInt_toInt width) (fitsInt_toInt length) hpage device pageNumber
  cases type with
  | noMedia =>
    refine ⟨fun _ h => (nomatch h), fun _ => ⟨fun h => absurd rfl h, ?_, hrefuses⟩⟩
    exact ⟨fun _ _ hsize => absurd hsize List.not_mem_nil, fun _ => rfl⟩
  | dieCutLabels =>
    refine ⟨fun _ h => (nomatch h), fun _ => ⟨?_, ?_, hrefuses⟩⟩
    · exact labels_sound family width.toInt length.toInt
    · exact labels_none_iff family width.toInt length.toInt
  | continuousLengthTape =>
    obtain ⟨hrecord, hsize⟩ := getMediaInfoForMedia_tape family width.toInt length.toInt
    constructor
    · intro hright _
      by_contra hwide
      exact hrecord (hright.complete.mpr ((no_tape_holds_iff width.toInt length.toInt).mpr hwide))
    · intro hwidth
      have hwidth := hwidth rfl
      refine ⟨fun _ => ?_, ?_, hrefuses⟩
      · rw [hsize, holds_tape_iff]
        split
        case isTrue hnarrow => exact ⟨List.mem_cons_self, hnarrow⟩
        case isFalse => exact ⟨List.mem_cons_of_mem _ List.mem_cons_self, hwidth⟩
      · rw [no_tape_holds_iff]
        exact iff_of_false hrecord (not_not.mpr hwidth)

/-- A page of 60 mm by 60 mm on tape. -/
theorem not_selectsRightly_wideTape :
    ¬∀ (family : ModelFamily) (type : MediaType) (width length : Int32),
      SelectsRightly family type width.toInt length.toInt := by
  intro h
  have hwide : ¬(60000 : Int32).toInt ≤ mm 58 := by decide
  have hcomplete := (h .td2x2x .continuousLengthTape 60000 60000).complete
  have hnone := hcomplete.mpr ((no_tape_holds_iff _ _).mpr hwide)
  revert hnone
  decide +kernel

end Refusal

end Media

end Td2000
end Drivers
end BrThermal
