/-
What a job leaves at the printer.

On any device the bytes of a job, up to its first failure, are a first part of the
job's stream, unless part of a line was sent again.  Where every callback returned
true they are the whole stream exactly if no line was taken twice, and then the
printer has PAPPL's pages, dot by dot: what the callbacks report is what was
printed.
-/
import BrThermal.Drivers.Attempt
import BrThermal.Drivers.JobStream
import BrThermal.Util.HeadDots

namespace BrThermal
namespace Drivers

open Effect Effect.Prog Pappl Codec

/-! ## Up to the first failure -/

/-- The line of the step is sent again although the device has part of it. -/
def Step.Resends (d : Driver) (jobData : d.JobData) (x : Step) : Prop :=
  match x.callback with
  | .writeLine options _ pixels =>
    Drivers.Resends (d.rasterCommand jobData options.header pixels) x.script
  | _ => False

/-- The line of the step is taken in part, and then as a whole. -/
def Step.TakenTwice (d : Driver) (jobData : d.JobData) (x : Step) : Prop :=
  match x.callback with
  | .writeLine options _ pixels =>
    Drivers.TakenTwice (d.rasterCommand jobData options.header pixels) x.script
  | _ => False

section Begun

variable {d : Driver} {uri : String} {s : Session d.JobData} {options : PrOptions}
  {pages : List JobPage} {name : String} {model : d.Model} {steps : List Step}

theorem addsUp_delivers {δ : Type} (K : Nat → Prop) (f : Step → List (List UInt8)) :
    AddsUp fun xs ok (es : List (Event δ)) => Delivers K (xs.flatMap f) ok es where
  nil := Delivers.of_eq rfl
  append h h' := by
    rw [List.flatMap_append]
    exact h.append h'
  stop ys h := by
    rw [List.flatMap_append]
    exact h.stop _

/-- What a callback of a page leaves at the device. -/
theorem code_delivers {K : Nat → Prop} {r : Running} {x : Step} {w : World d.JobData}
    (hpage : x.callback.OfPage) (hs : BreaksAt K x.script) (hscript : w.script uri = x.script)
    (hdata : w.jobData ⟨uri, r.job⟩ = some (d.jobData model))
    (hresends : ¬x.Resends d (d.jobData model)) :
    (d.callbacks.code uri r.job r.device x.callback).wp World.env
      (fun ok es _ => Delivers K
        (d.writes model (w.impressions ⟨uri, r.job⟩).toUInt32 x.callback) ok es) w := by
  obtain ⟨u, callback, script⟩ := x
  subst hscript
  cases callback with
  | startPage options pageNumber =>
    exact wp_mono (startPage_delivers ⟨uri, r.device⟩ options hs hdata pageNumber) fun _ _ _ h => h.1
  | writeLine options y pixels => exact writeLine_delivers options hs hdata y pixels hresends
  | endPage options pageNumber => exact endPage_delivers ⟨uri, r.device⟩ options hs pageNumber
  | startJob | endJob | getStatus => exact hpage.elim

/-- The commands that the steps of a job are to send, step by step, are those of the
job. -/
theorem flatMap_steps (h : JobSteps d s uri options pages name model steps)
    (pageCount : UInt32) :
    (steps.flatMap fun x => d.writes model pageCount x.callback) =
      d.jobWrites model pageCount options pages := by
  rw [Driver.jobWrites, ← h.callbacks, List.flatMap_map]

/-- A device that takes the line whole at once gets it once. -/
theorem not_resends_of_completes {jobData : d.JobData} {x : Step} (hx : x.script.Completes) :
    ¬x.Resends d jobData := by
  obtain ⟨u, callback, script⟩ := x
  cases callback with
  | writeLine options y pixels =>
    rintro ⟨-, hpart, -⟩
    rw [DeviceScript.Completes.headD hx, WriteOutcome.result] at hpart
    exact absurd hpart (Int.lt_irrefl _)
  | _ => exact id

/-- A job has sent its commands as far as it got, if no line was sent again of which
the device had a part. -/
theorem attempt_delivers {K : Nat → Prop}
    (h : JobSteps d s uri options pages name model steps)
    (hs : ∀ x ∈ steps, BreaksAt K x.script)
    (hresends : ∀ x ∈ steps, ¬x.Resends d (d.jobData model)) :
    ∃ es, (s.attempt d.callbacks steps).1.log = s.log ++ es ∧
      Delivers K (d.jobWrites model (s.world.impressions ⟨uri, s.jobs uri⟩).toUInt32 options pages)
        (s.attempt d.callbacks steps).2 es := by
  have hattempt := attempts_job h (addsUp_delivers K fun x =>
      d.writes model (s.world.impressions ⟨uri, s.jobs uri⟩).toUInt32 x.callback) hs
    (fun x _ _ ok es hes => by
      rw [List.flatMap_singleton]
      exact hes)
    (fun x hx hpage w hscript hdata himp => by
      simp only [List.flatMap_singleton]
      rw [← himp]
      exact code_delivers (r := ⟨_, _⟩) hpage (hs x hx) hscript hdata (hresends x hx))
  obtain ⟨es, hlog, hes, -⟩ := hattempt
  rw [flatMap_steps h] at hes
  exact ⟨es, hlog, hes⟩

theorem breaksAt_any (x : Step) : BreaksAt (fun _ => True) x.script := fun _ _ => trivial

/-- A job that gets no further has left a first part of its stream, and one that got
to its end all of it, if no line was sent again of which the device had a part. -/
theorem job_begun (h : JobSteps d s uri options pages name model steps)
    (hresends : ∀ x ∈ steps, ¬x.Resends d (d.jobData model)) :
    ∃ es, (s.attempt d.callbacks steps).1.log = s.log ++ es ∧
      accepted es <+:
        d.jobBytes model (s.world.impressions ⟨uri, s.jobs uri⟩).toUInt32 pages ∧
      ((s.attempt d.callbacks steps).2 = true → accepted es =
        d.jobBytes model (s.world.impressions ⟨uri, s.jobs uri⟩).toUInt32 pages) := by
  obtain ⟨es, hlog, hes⟩ := attempt_delivers h (fun x _ => breaksAt_any x) hresends
  rw [← flatten_jobWrites model _ options]
  exact ⟨es, hlog, hes.begun.prefix_flatten, hes.whole⟩

/-- A job run on a device that takes every write is such a job. -/
theorem jobSteps_of_jobRun (h : JobRun d s uri options pages name model steps) :
    JobSteps d s uri options pages name model steps where
  idle := h.idle
  callbacks := h.callbacks
  uri x hx := (h.completing x hx).uri
  model := h.model
  identified := h.identified

theorem job_begun_oneRow :
    ∃ es, ((quietJob 1).attempt Driver.td2000.callbacks
        (quietSteps oneLinePage [oneRow])).1.log = [] ++ es ∧
      accepted es <+: Driver.td2000.jobBytes .td2x2x 1 [oneRow] ∧
      (((quietJob 1).attempt Driver.td2000.callbacks (quietSteps oneLinePage [oneRow])).2 = true →
        accepted es = Driver.td2000.jobBytes .td2x2x 1 [oneRow]) :=
  have h := jobRun_quietSteps 1 oneLinePage [oneRow]
  job_begun (jobSteps_of_jobRun h)
    fun x hx => not_resends_of_completes (h.completing x hx).completes

end Begun

/-! ## Where everything succeeds -/

section Carries

variable {δ : Type}

/-- What the device has of `bytes` when every call succeeded: all of it, and more
exactly where something came twice. -/
structure Carries (bytes : List UInt8) (twice : Prop) (es : List (Event δ)) : Prop where
  covers : bytes.length ≤ (accepted es).length
  exact : (accepted es).length = bytes.length → accepted es = bytes
  once : accepted es = bytes ↔ ¬twice

namespace Carries

variable {bytes bytes' : List UInt8} {twice twice' : Prop} {es es' : List (Event δ)}

theorem of_eq (h : accepted es = bytes) (honce : ¬twice) : Carries bytes twice es where
  covers := by rw [h]
  exact _ := h
  once := iff_of_true h honce

theorem append (h : Carries bytes twice es) (h' : Carries bytes' twice' es') :
    Carries (bytes ++ bytes') (twice ∨ twice') (es ++ es') := by
  have hcovers := h.covers
  have hcovers' := h'.covers
  -- Neither part falls short, so the sum of the lengths decides about both.
  have hparts : (accepted (es ++ es')).length = (bytes ++ bytes').length →
      accepted es = bytes ∧ accepted es' = bytes' := by
    intro hlength
    rw [accepted_append, List.length_append, List.length_append] at hlength
    exact ⟨h.exact (by omega), h'.exact (by omega)⟩
  constructor
  · rw [accepted_append, List.length_append, List.length_append]
    omega
  · intro hlength
    obtain ⟨hes, hes'⟩ := hparts hlength
    rw [accepted_append, hes, hes']
  · rw [not_or, ← h.once, ← h'.once]
    constructor
    · intro heq
      exact hparts (congrArg List.length heq)
    · rintro ⟨hes, hes'⟩
      rw [accepted_append, hes, hes']

end Carries

/-- A line that goes through. -/
theorem attempts_carries (errorReasons : PrinterInfo → Reasons) (device : Handle) (uri : String)
    (command : List UInt8) (w : World δ) :
    (writeAttempts errorReasons device uri command 2).wp World.env
      (fun ok es _ => ok = true →
        Carries command (TakenTwice command (w.script device.uri)) es) w := by
  refine wp_mono (wp_and (attempts_suffix errorReasons device uri command w)
    (attempts_exactlyOnce errorReasons device uri command w)) (fun ok es _ h hok => ?_)
  obtain ⟨hsuffix, honce⟩ := h
  have hends := hsuffix hok
  refine ⟨hends.length_le, fun hlength => (hends.eq_of_length hlength.symm).symm, ?_⟩
  rw [← honce]
  exact ⟨fun heq _ => heq, fun heq => heq hok⟩

end Carries

section Delivered

variable {d : Driver} {uri : String} {s : Session d.JobData} {options : PrOptions}
  {pages : List JobPage} {name : String} {model : d.Model} {steps : List Step}

theorem addsUp_carries {δ : Type} (f : Step → List (List UInt8)) (twice : Step → Prop) :
    AddsUp fun xs ok (es : List (Event δ)) =>
      ok = true → Carries (xs.flatMap f).flatten (∃ x ∈ xs, twice x) es where
  nil _ := Carries.of_eq rfl (by simp)
  append h h' hok := by
    rw [List.flatMap_append, List.flatten_append]
    simp only [List.mem_append, or_and_right, exists_or]
    exact (h rfl).append (h' hok)
  stop _ _ hok := absurd hok Bool.false_ne_true

theorem code_carries {r : Running} {x : Step} {w : World d.JobData} (hpage : x.callback.OfPage)
    (hscript : w.script uri = x.script)
    (hdata : w.jobData ⟨uri, r.job⟩ = some (d.jobData model)) :
    (d.callbacks.code uri r.job r.device x.callback).wp World.env
      (fun ok es _ => ok = true →
        Carries (d.writes model (w.impressions ⟨uri, r.job⟩).toUInt32 x.callback).flatten
          (x.TakenTwice d (d.jobData model)) es) w := by
  have hother : ¬x.Resends d (d.jobData model) → ¬x.TakenTwice d (d.jobData model) →
      (d.callbacks.code uri r.job r.device x.callback).wp World.env
        (fun ok es _ => ok = true →
          Carries (d.writes model (w.impressions ⟨uri, r.job⟩).toUInt32 x.callback).flatten
            (x.TakenTwice d (d.jobData model)) es) w := by
    intro hresends honce
    exact wp_mono (code_delivers hpage (breaksAt_any x) hscript hdata hresends)
      fun ok es _ h hok => Carries.of_eq (h.whole hok) honce
  obtain ⟨u, callback, script⟩ := x
  cases callback with
  | startPage | endPage => exact hother id id
  | writeLine options y pixels =>
    subst hscript
    rw [Driver.writes, List.flatten_singleton]
    apply writeLine_attempts options hdata y pixels
    refine wp_mono (attempts_carries d.errorReasons ⟨uri, r.device⟩ uri _ w)
      (fun ok es _ h hok => ?_)
    exact ⟨(h hok).covers, (h hok).exact, (h hok).once⟩
  | startJob | endJob | getStatus => exact hpage.elim

/-- What the device has after a job of which every callback returned true. -/
theorem received_carries (h : JobSteps d s uri options pages name model steps)
    (hok : (s.attempt d.callbacks steps).2 = true) :
    ∃ es : List (Event d.JobData), received d s steps = accepted es ∧
      Carries (d.jobBytes model (s.world.impressions ⟨uri, s.jobs uri⟩).toUInt32 pages)
        (∃ x ∈ steps, x.TakenTwice d (d.jobData model)) es := by
  have hattempt := attempts_job h (addsUp_carries (fun x =>
      d.writes model (s.world.impressions ⟨uri, s.jobs uri⟩).toUInt32 x.callback)
      (fun x => x.TakenTwice d (d.jobData model))) (fun x _ => breaksAt_any x)
    (fun x _ hnot ok es hes hok => by
      have honce : ¬∃ y ∈ [x], y.TakenTwice d (d.jobData model) := by
        simp only [List.mem_singleton, exists_eq_left, Step.TakenTwice]
        cases hc : x.callback with
        | writeLine => exact absurd (hc ▸ trivial) hnot
        | _ => exact id
      rw [List.flatMap_singleton]
      exact Carries.of_eq (hes.whole hok) honce)
    (fun x hx hpage w hscript hdata himp => by
      simp only [List.flatMap_singleton, List.mem_singleton, exists_eq_left]
      rw [← himp]
      exact code_carries (r := ⟨_, _⟩) hpage hscript hdata)
  obtain ⟨es, hlog, hes, -⟩ := hattempt
  have hcarries := hes hok
  rw [flatMap_steps h, flatten_jobWrites] at hcarries
  refine ⟨es, ?_, hcarries⟩
  rw [received, ← Session.attempt_of_true hok, hlog, List.drop_left]

/-- After a job of which every callback returned true the device has exactly the
job's stream if and only if it took no line twice. -/
theorem job_delivered_iff (h : JobSteps d s uri options pages name model steps)
    (hok : (s.attempt d.callbacks steps).2 = true) :
    received d s steps =
        d.jobBytes model (s.world.impressions ⟨uri, s.jobs uri⟩).toUInt32 pages ↔
      ∀ x ∈ steps, ¬x.TakenTwice d (d.jobData model) := by
  obtain ⟨es, hreceived, hcarries⟩ := received_carries h hok
  rw [hreceived, hcarries.once]
  simp only [not_exists, not_and]

theorem takenTwice_resends {jobData : d.JobData} {x : Step} (h : x.TakenTwice d jobData) :
    x.Resends d jobData := by
  obtain ⟨u, callback, script⟩ := x
  cases callback with
  | writeLine options y pixels =>
    obtain ⟨hpos, hpart, -, reads, hretry, -⟩ := h
    exact ⟨hpos, hpart, hretry ▸ rfl⟩
  | _ => exact h

/-- The one-row job goes through. -/
theorem attempt_oneRow : ((quietJob 1).attempt Driver.td2000.callbacks
    (quietSteps oneLinePage [oneRow])).2 = true := by decide +kernel

theorem job_delivered_iff_oneRow :
    received .td2000 (quietJob 1) (quietSteps oneLinePage [oneRow]) =
        Driver.td2000.jobBytes .td2x2x 1 [oneRow] ↔
      ∀ x ∈ quietSteps oneLinePage [oneRow],
        ¬x.TakenTwice .td2000 (Driver.td2000.jobData .td2x2x) :=
  job_delivered_iff (jobSteps_of_jobRun (jobRun_quietSteps 1 oneLinePage [oneRow])) attempt_oneRow

end Delivered

/-! ## What is printed -/

/-- The dots of a printed page, line by line. -/
def printedDots (p : Raster.Page) : List (List Bool) := p.lines.map bits

/-- The dots of a page of PAPPL's in the middle of the head, as the head prints them:
the last dot first. -/
def JobPage.headDots (d : Driver) (model : d.Model) (page : JobPage) : List (List Bool) :=
  page.rows.map fun row =>
    let delivered := row.take page.options.header.cupsBytesPerLine.toNat
    ((List.range (d.headDots model)).map (Util.headDot delivered
      (min page.options.header.cupsWidth.toNat (8 * delivered.length)) (d.headDots model))).reverse

theorem headDots_dvd (d : Driver) (model : d.Model) : 8 ∣ d.headDots model := by
  cases d with
  | td2000 => exact Nat.dvd_mul_left _ _
  | pte550w => exact ⟨16, rfl⟩

theorem headDots_lt (d : Driver) (model : d.Model) : d.headDots model < 2 ^ 64 := by
  cases d with
  | td2000 =>
    have hwidth := (Td2000.lineWidth model).toNat_lt
    rw [Driver.headDots]
    omega
  | pte550w =>
    show 128 < 2 ^ 64
    decide

/-- A row that the page announces is short enough for its dots to be counted. -/
theorem dots_take_lt (row : List UInt8) (n : UInt32) : 8 * (row.take n.toNat).length < 2 ^ 64 := by
  have hn := n.toNat_lt
  have hlength := List.length_take_le n.toNat row
  omega

theorem printedDots_of_shows {d : Driver} {model : d.Model} {count : Nat} {page : JobPage × Nat}
    {p : Raster.Page} (h : Shows d model count page p) :
    printedDots p = page.1.headDots d model := by
  rw [printedDots, h.lines, List.map_map, JobPage.headDots]
  apply List.map_congr_left
  intro row _
  exact Util.bits_buildHeadLine _ (dots_take_lt row _) (headDots_lt d model) (headDots_dvd d model)

theorem map_printedDots {d : Driver} {model : d.Model} {count k : Nat} {pages : List JobPage}
    {parsed : List Raster.Page} (h : List.Forall₂ (Shows d model count) (pages.zipIdx k) parsed) :
    parsed.map printedDots = pages.map (JobPage.headDots d model) := by
  induction pages generalizing k parsed with
  | nil =>
    cases h
    rfl
  | cons page pages ih =>
    obtain ⟨p, ps, hshows, hrest, rfl⟩ := List.forall₂_cons_left_iff.mp h
    rw [List.map_cons, List.map_cons, printedDots_of_shows hshows, ih hrest]

theorem acceptsMedia_of_pageCommands {d : Driver} {model : d.Model} {options : PrOptions}
    {pageNumber : UInt32} (h : (d.pageCommands (d.jobData model) options pageNumber).isSome) :
    d.AcceptsMedia model options.media := by
  cases d with
  | td2000 =>
    rw [Driver.pageCommands] at h
    split at h
    case h_1 => cases h
    case h_2 mediaType htype =>
      refine ⟨mediaType, htype, fun hnone => ?_⟩
      dsimp only [Driver.jobData] at h
      rw [if_pos hnone] at h
      cases h
  | pte550w =>
    rw [Driver.pageCommands] at h
    split at h
    case isTrue => cases h
    case isFalse htype =>
      by_contra hnot
      exact htype (not_or.mp hnot)

/-- The stream of a job, read. -/
theorem jobBytes_read {d : Driver} {model : d.Model} {pageCount : UInt32}
    {pages : List JobPage} (hne : pages ≠ []) (hcount : pageCount.toNat = pages.length)
    (hmedia : ∀ page ∈ pages, d.AcceptsMedia model page.options.media) :
    ∃ (cs : List Raster.Command) (r : Raster.Reader),
      Raster.commandSet.encodeAll cs = d.jobBytes model pageCount pages ∧
      Raster.Reader.readAll {} cs = some r ∧ r.current = none ∧
      List.Forall₂ (Shows d model pages.length) pages.zipIdx r.pages := by
  obtain ⟨cs, hcs, -, hstart⟩ := preamble_startCommands d model
  obtain ⟨ds, parsed, hds, hshows, hread⟩ := pages_read (k := 0) (d := d) hne
    (hcount.trans (Nat.zero_add _).symm) hmedia
  obtain ⟨r, hr, hcurrent, hpages⟩ := hread {} rfl
  refine ⟨cs ++ ds, r, ?_, ?_, hcurrent, ?_⟩
  · rw [CommandSet.encodeAll_append, hcs, hds, Driver.jobBytes]
  · rw [Raster.Reader.readAll_append, hstart {} rfl]
    exact hr
  · rw [hpages, ← hcount]
    exact hshows

section Printed

variable {d : Driver} {uri : String} {s : Session d.JobData} {options : PrOptions}
  {pages : List JobPage} {name : String} {model : d.Model} {steps : List Step}

/-- The page of the step, if it opens one, is on media of the driver's. -/
def Step.Accepts (d : Driver) (model : d.Model) (x : Step) : Prop :=
  ∀ options pageNumber, x.callback = .startPage options pageNumber →
    d.AcceptsMedia model options.media

theorem addsUp_accepts {δ : Type} (d : Driver) (model : d.Model) :
    AddsUp fun xs ok (_ : List (Event δ)) => ok = true → ∀ x ∈ xs, x.Accepts d model where
  nil _ _ hx := absurd hx List.not_mem_nil
  append h h' hok x hx := (List.mem_append.mp hx).elim (h rfl x) (h' hok x)
  stop _ _ hok := absurd hok Bool.false_ne_true

/-- In a job that goes through, every page is on media of the driver's. -/
theorem acceptsMedia_of_attempt (h : JobSteps d s uri options pages name model steps)
    (hok : (s.attempt d.callbacks steps).2 = true) :
    ∀ page ∈ pages, d.AcceptsMedia model page.options.media := by
  have hattempt := attempts_job h (addsUp_accepts d model) (fun x _ => breaksAt_any x)
    (fun _ _ hnot ok es _ _ y hy options pageNumber hc => by
      rw [List.mem_singleton.mp hy] at hc
      exact absurd (hc ▸ trivial) hnot)
    (fun x _ hpage w _ hdata _ => by
      simp only [List.mem_singleton, forall_eq]
      obtain ⟨u, callback, script⟩ := x
      cases callback with
      | startPage options pageNumber =>
        have hany : BreaksAt (fun _ => True) (w.script uri) := fun _ _ => trivial
        refine wp_mono (startPage_delivers ⟨uri, _⟩ options hany hdata pageNumber)
          (fun ok es _ h hok => ?_)
        rintro options' pageNumber' hc
        cases hc
        exact acceptsMedia_of_pageCommands (h.2 hok)
      | _ => exact fun _ options pageNumber hc => by cases hc)
  obtain ⟨es, -, haccepts, -⟩ := hattempt
  intro page hpage
  obtain ⟨k, hk⟩ := List.mem_iff_getElem?.mp hpage
  have hopens : Callback.startPage page.options (.ofNat k) ∈ steps.map Step.callback := by
    rw [h.callbacks, jobCallbacks]
    refine List.mem_cons_of_mem _ (List.mem_append_left _ (List.mem_flatMap.mpr ⟨(page, k), ?_, ?_⟩))
    · exact List.mk_mem_zipIdx_iff_getElem?.mpr hk
    · exact List.mem_cons_self
  obtain ⟨x, hx, hc⟩ := List.mem_map.mp hopens
  exact haccepts hok x hx _ _ hc

/-- If every callback of a job returned true, PAPPL counted its pages and no line was taken
twice, the printer has PAPPL's pages in order, every dot in its place. -/
theorem job_printed (h : JobSteps d s uri options pages name model steps)
    (hok : (s.attempt d.callbacks steps).2 = true)
    (honce : ∀ x ∈ steps, ¬x.TakenTwice d (d.jobData model)) (hne : pages ≠ [])
    (hcount : (s.world.impressions ⟨uri, s.jobs uri⟩).toInt = pages.length) :
    ∃ parsed, Raster.parse (received d s steps) = some parsed ∧
      List.Forall₂ (Shows d model pages.length) pages.zipIdx parsed ∧
      parsed.map printedDots = pages.map (JobPage.headDots d model) := by
  obtain ⟨es, hreceived, hcarries⟩ := received_carries h hok
  have hbytes := hcarries.once.mpr fun ⟨x, hx, htwice⟩ => honce x hx htwice
  obtain ⟨cs, r, hcs, hread, hcurrent, hshows⟩ :=
    jobBytes_read hne (toNat_toUInt32 hcount) (acceptsMedia_of_attempt h hok)
  refine ⟨r.pages, ?_, hshows, map_printedDots hshows⟩
  rw [hreceived, hbytes]
  exact Raster.parse_eq_some hcs.symm hread hcurrent

theorem job_printed_oneRow :
    ∃ parsed, Raster.parse (received .td2000 (quietJob 1) (quietSteps oneLinePage [oneRow])) =
        some parsed ∧
      List.Forall₂ (Shows .td2000 .td2x2x 1) [(oneRow, 0)] parsed ∧
      parsed.map printedDots = [oneRow.headDots .td2000 .td2x2x] :=
  have h := jobRun_quietSteps 1 oneLinePage [oneRow]
  job_printed (jobSteps_of_jobRun h) attempt_oneRow
    (fun x hx htwice => not_resends_of_completes (h.completing x hx).completes
      (takenTwice_resends htwice))
    (List.cons_ne_nil _ _) (by decide)

end Printed

end Drivers
end BrThermal
