/-
The stream of a whole job, as the printer reads it.

A job of `N` pages arrives as `N` pages: each announces its place and its lines,
carries the rows of PAPPL's as the head prints them, and ends with FF, or with
Ctrl-Z where it is the last.  The induction is on the pages still to come; what it
carries is that the reader stands between pages and has read all pages before.
-/
import BrThermal.Drivers.Wire

namespace BrThermal
namespace Drivers

open Codec Raster Pappl

/-- `p` is what a reader should find of page number `page.2` in a job of `count`
pages. -/
structure Shows (d : Driver) (model : d.Model) (count : Nat) (page : JobPage × Nat)
    (p : Raster.Page) : Prop where
  pageType : p.pageType = PageType.startingPage.toByte ↔ page.2 = 0
  lineCount : p.lineCount = p.lines.length
  lines : p.lines = page.1.rows.map fun row =>
    Util.buildHeadLine (row.take page.1.options.header.cupsBytesPerLine.toNat)
      page.1.options.header.cupsWidth.toNat (d.headDots model)
  ending : p.ending = if page.2 + 1 = count then .printWithFeeding else .print

theorem toByte_ofNumber {k : Nat} (hk : k < 2 ^ 32) :
    (PageType.ofNumber (.ofNat k)).toByte = PageType.startingPage.toByte ↔ k = 0 := by
  have hzero : UInt32.ofNat k = 0 ↔ k = 0 := by
    rw [← UInt32.toNat_inj, UInt32.toNat_ofNat_of_lt' hk]
    rfl
  rw [PageType.ofNumber]
  split
  case isTrue h => exact ⟨fun _ => hzero.mp h, fun _ => rfl⟩
  case isFalse h => exact ⟨fun hbyte => absurd hbyte (by decide), fun hk => absurd (hzero.mpr hk) h⟩

theorem shows_page (d : Driver) (model : d.Model) {count k : Nat} (page : JobPage)
    {info : PrintInfoFields} {ending : Ending} (hk : k < 2 ^ 32)
    (hcount : info.rasterNumber = page.options.header.cupsHeight)
    (htype : info.pageType = .ofNumber (.ofNat k))
    (hending : ending = if k + 1 = count then .printWithFeeding else .print) :
    Shows d model count (page, k)
      ⟨info.raw, page.rows.map (d.headLine model page.options.header), ending⟩ where
  pageType := by
    rw [← toByte_ofNumber hk, ← htype]
    rfl
  lineCount := by
    rw [lineCount_raw, hcount, page.height, List.length_map]
  lines := rfl
  ending := hending

/-- FF follows every page but the last. -/
theorem ofNat_lt_pred {pageCount : UInt32} {k : Nat} (hk : k < pageCount.toNat) :
    UInt32.ofNat k < pageCount - 1 ↔ k + 1 ≠ pageCount.toNat := by
  have hlt := pageCount.toNat_lt
  have hone : (1 : UInt32) ≤ pageCount := by
    rw [UInt32.le_iff_toNat_le, UInt32.toNat_one]
    omega
  rw [UInt32.lt_iff_toNat_lt, UInt32.toNat_sub_of_le _ _ hone, UInt32.toNat_one,
    UInt32.toNat_ofNat_of_lt' (by rw [UInt32.size]; omega)]
  omega

/-- The command that ends a page. -/
def endingCommand : Ending → Command
  | .print => ⟨.print, [], rfl⟩
  | .printWithFeeding => ⟨.printWithFeeding, [], rfl⟩

/-- A page that is read in full and then ended is finished. -/
theorem readAll_endingCommand {cs : List Command} {r : Reader} {mode : UInt8} {info : List UInt8}
    {lines : List (List UInt8)}
    (h : r.readAll cs = some { r with mode := mode, current := some (info, lines) })
    (ending : Ending) :
    r.readAll (cs ++ [endingCommand ending]) =
      some { pages := r.pages ++ [⟨info, lines, ending⟩], mode := mode, current := none } := by
  rw [Reader.readAll_append, h]
  cases ending <;> rfl

/-- The pages from number `k` on, with the Ctrl-Z that ends the job. -/
theorem pages_read {d : Driver} {model : d.Model} {pageCount : UInt32} {pages : List JobPage}
    {k : Nat} (hne : pages ≠ []) (hcount : pageCount.toNat = k + pages.length)
    (hmedia : ∀ page ∈ pages, d.AcceptsMedia model page.options.media) :
    ∃ (cs : List Command) (ps : List Raster.Page),
      commandSet.encodeAll cs =
        (pageCallbacks k pages).flatMap (d.sent (d.jobData model) pageCount) ++
          Commands.printWithFeeding ∧
      List.Forall₂ (Shows d model pageCount.toNat) (pages.zipIdx k) ps ∧
      ∀ r : Reader, r.current = none →
        ∃ r', r.readAll cs = some r' ∧ r'.current = none ∧ r'.pages = r.pages ++ ps := by
  induction pages generalizing k with
  | nil => exact absurd rfl hne
  | cons page pages ih =>
    have hlt := pageCount.toNat_lt
    rw [List.length_cons] at hcount
    obtain ⟨cs, info, hcs, -, hlines, htype, hread⟩ :=
      body_read (hmedia page List.mem_cons_self) k
    rw [pageCallbacks_cons, List.flatMap_append, flatMap_callbacks, List.zipIdx_cons]
    cases pages with
    | nil =>
      -- The last page: no FF, and Ctrl-Z closes it.
      have hlast : k + 1 = pageCount.toNat := by
        rw [hcount]
        rfl
      refine ⟨cs ++ [endingCommand .printWithFeeding], [_], ?_, .cons (shows_page d model page
        (by omega) hlines htype (if_pos hlast).symm) .nil, fun r hr =>
        ⟨_, readAll_endingCommand (hread r hr) .printWithFeeding, rfl, rfl⟩⟩
      rw [if_neg (fun h => (ofNat_lt_pred (by omega)).mp h hlast), CommandSet.encodeAll_append,
        hcs, List.append_nil]
      exact congrArg (· ++ Commands.printWithFeeding) (List.append_nil _).symm
    | cons page' pages =>
      have hmore : k + 1 ≠ pageCount.toNat := by
        rw [hcount, List.length_cons]
        omega
      obtain ⟨ds, ps, hds, hps, hrest⟩ := ih (k := k + 1) (List.cons_ne_nil _ _)
        (by omega) fun p hp => hmedia p (List.mem_cons_of_mem _ hp)
      refine ⟨cs ++ [endingCommand .print] ++ ds, _ :: ps, ?_, .cons (shows_page d model page
        (by omega) hlines htype (if_neg hmore).symm) hps, fun r hr => ?_⟩
      · rw [if_pos ((ofNat_lt_pred (by omega)).mpr hmore), CommandSet.encodeAll_append,
          CommandSet.encodeAll_append, hcs, hds, ← List.append_assoc]
        rfl
      · have hpage := readAll_endingCommand (hread r hr) .print
        obtain ⟨r', hr', hcurrent, hpages⟩ := hrest _ (rfl : Reader.current ⟨_, _, none⟩ = none)
        refine ⟨r', ?_, hcurrent, ?_⟩
        · rw [Reader.readAll_append, hpage]
          exact hr'
        · rw [hpages, List.append_assoc, List.singleton_append]

theorem toNat_toUInt32 {n : Int32} {k : Nat} (h : n.toInt = k) : n.toUInt32.toNat = k := by
  have hcond := BitVec.toInt_eq_toNat_cond n.toBitVec
  have hlt := n.toUInt32.toNat_lt
  rw [Int32.toNat_toBitVec, Int32.toInt_toBitVec] at hcond
  split at hcond <;> omega

/-- On a device that takes every write and has no packet to deliver, a job arrives
whole: the reader finds its pages in order and nothing else. -/
theorem stream_parses (d : Driver) {s : Session d.JobData} {uri : String} {options : PrOptions}
    {pages : List JobPage} {name : String} {model : d.Model} {steps : List Step}
    (h : JobRun d s uri options pages name model steps)
    (hquiet : ∀ x ∈ steps, x.script.NothingPending) (hne : pages ≠ [])
    (hcount : (s.world.impressions ⟨uri, s.jobs uri⟩).toInt = pages.length)
    (hmedia : ∀ page ∈ pages, d.AcceptsMedia model page.options.media) :
    ∃ parsed, Raster.parse (received d s steps) = some parsed ∧
      List.Forall₂ (Shows d model pages.length) pages.zipIdx parsed := by
  have hbytes := received_job h (starts_of_nothingPending h hquiet)
  have hpageCount := toNat_toUInt32 hcount
  obtain ⟨cs, hcs, -, hstart⟩ := preamble_startCommands d model
  obtain ⟨ds, parsed, hds, hshows, hread⟩ := pages_read (k := 0) (d := d) hne
    (hpageCount.trans (Nat.zero_add _).symm) hmedia
  obtain ⟨r, hr, hcurrent, hpages⟩ := hread {} rfl
  refine ⟨parsed, ?_, hpageCount ▸ hshows⟩
  have hall : Reader.readAll {} (cs ++ ds) = some r := by
    rw [Reader.readAll_append, hstart {} rfl]
    exact hr
  rw [parse_eq_some (by rw [hbytes, CommandSet.encodeAll_append, hcs, hds, Driver.jobBytes]) hall
    hcurrent, hpages]
  rfl

/-- A job on a TD-2020, with a device that answers at once. -/
def quietSteps (options : PrOptions) (pages : List JobPage) : List Step :=
  (jobCallbacks options pages).map fun c =>
    ⟨"usb://TD-2020", c, { ids := [some ⟨some "TD-2020"⟩] }⟩

def quietJob (impressions : Int32) : Session Td2000.JobData := Session.init fun _ => impressions

theorem jobRun_quietSteps (impressions : Int32) (options : PrOptions) (pages : List JobPage) :
    JobRun .td2000 (quietJob impressions) "usb://TD-2020" options pages "TD-2020" .td2x2x
      (quietSteps options pages) where
  idle := rfl
  callbacks := by
    rw [quietSteps, List.map_map]
    exact List.map_id _
  completing := by
    intro x hx
    obtain ⟨c, -, rfl⟩ := List.mem_map.mp hx
    exact ⟨rfl, fun o ho => absurd ho List.not_mem_nil⟩
  model := by decide
  identified := by
    intro x hx
    obtain rfl := Option.some.inj hx
    rfl

theorem quietSteps_nothingPending (options : PrOptions) (pages : List JobPage) :
    ∀ x ∈ quietSteps options pages, x.script.NothingPending := by
  intro x hx
  obtain ⟨c, -, rfl⟩ := List.mem_map.mp hx
  exact fun r hr => absurd hr List.not_mem_nil

/-- A page of one row, every dot of it set. -/
def oneRow : JobPage := ⟨oneLinePage, [List.replicate 56 0xFF], rfl⟩

theorem acceptsMedia_oneRow : Driver.td2000.AcceptsMedia .td2x2x oneRow.options.media :=
  ⟨.continuousLengthTape, by decide, by decide⟩

theorem stream_parses_twoPages :
    ∃ parsed, Raster.parse (received .td2000 (quietJob 2)
        (quietSteps oneLinePage [oneRow, oneRow])) = some parsed ∧
      List.Forall₂ (Shows .td2000 .td2x2x 2) [(oneRow, 0), (oneRow, 1)] parsed :=
  stream_parses .td2000 (jobRun_quietSteps 2 oneLinePage [oneRow, oneRow])
    (quietSteps_nothingPending _ _) (List.cons_ne_nil _ _) (by decide)
    (by
      intro page hpage
      simp only [List.mem_cons, List.not_mem_nil, or_false, or_self] at hpage
      rw [hpage]
      exact acceptsMedia_oneRow)

end Drivers
end BrThermal
