/-
A job, and status calls that overlap it.

PAPPL makes status calls on threads of their own while a job runs, and they share the
device with it: they take packets the job waits for, and one that looked at the flag
too early sends ESC i S in the middle of a page.  On a device that takes every write
none of this reaches the paper.  What the job's thread does in a schedule it also does
alone on a device that reports what the thread came to see, and what the others add to
the stream are whole status requests between whole commands of the job.
-/
import BrThermal.Drivers.Beside
import BrThermal.Drivers.Recovery

namespace BrThermal
namespace Drivers

open Effect Effect.Prog Pappl Codec Raster

/-! ## The thread of a job -/

/-- PAPPL's loop over the callbacks of a job, which ends with the first that returns
false. -/
def attemptCode {δ : Type} (callbacks : Callbacks δ) (uri : String) (job device : Nat) :
    List Callback → Code δ Bool
  | [] => return true
  | c :: cs => do
    if ← callbacks.code uri job device c then attemptCode callbacks uri job device cs
    else return false

def jobThread (d : Driver) (uri : String) (job device : Nat) (options : PrOptions)
    (pages : List JobPage) : Code d.JobData (List Bool) := do
  let ok ← attemptCode d.callbacks uri job device (jobCallbacks options pages)
  return [ok]

/-- One job on the printer at `uri`, and other threads that serve printers. -/
def overlapPool {τ : Type} (d : Driver) (uri : String) (job device : Nat) (options : PrOptions)
    (pages : List JobPage) (owner : τ → String) (requests : τ → List Request)
    (w : World d.JobData) :
    Pool (Option τ) (Call d.JobData) Call.Reply (List Bool) (World d.JobData) where
  state := w
  prog
    | none => jobThread d uri job device options pages
    | some t => serve d.callbacks (owner t) (requests t)

/-! ## The job alone -/

section Callbacks

variable {d : Driver} {job : Job} {device : Handle} (options : PrOptions) {model : d.Model}
  {jobData : d.JobData} {w : World d.JobData}

theorem writesUpTo_of_asks {δ : Type} {p : Code δ Bool} (hp : p.Asks WritesNothing)
    (w : World δ) : p.wp World.env (fun ok es _ => WritesUpTo [] ok es) w := by
  have hnone : ∀ e ∈ p.trace w, WritesNothing e.1 := events_of_asks hp w
  refine writesUpTo_nil (List.filterMap_eq_nil_iff.mpr fun e he => ?_)
    (List.filterMap_eq_nil_iff.mpr fun e he => ?_)
  all_goals
    have hwrites := hnone e he
    obtain ⟨c, r⟩ := e
    cases c with
    | deviceWrite => exact hwrites.elim
    | _ => rfl

variable (job device) in
theorem startJob_writesUpTo {name : String}
    (hid : ∀ did, (w.script device.uri).ids.headD none = some did → did = ⟨some name⟩)
    (hmodel : d.modelMap.lookup name = some model) :
    (d.callbacks.startJob (some job) (some options) (some device)).wp World.env
      (fun ok es w' => WritesUpTo (d.startCommands model) ok es ∧
        (ok = true → w'.jobData job = some (d.jobData model))) w := by
  have hanswer : (World.env (.deviceGetID device) w).1 = (w.script device.uri).ids.headD none := rfl
  rw [Driver.startJob_eq, call_bind, wp_ask, hanswer]
  cases hdid : (w.script device.uri).ids.headD none with
  | none =>
    exact ⟨⟨List.prefix_refl _, List.nil_prefix, fun hok => absurd hok Bool.false_ne_true⟩,
      fun hok => absurd hok Bool.false_ne_true⟩
  | some did =>
    obtain rfl := hid did hdid
    simp only [Option.getD_some, hmodel]
    refine wp_mono (wp_and (start_writesUpTo job device model _) (start_stores job device model _))
      (fun ok es w' h => ?_)
    obtain ⟨hwrites, hstores⟩ := h
    refine ⟨⟨hwrites.taken, hwrites.written, hwrites.whole⟩, fun hok => ?_⟩
    rw [(hstores.started hok).2.2]
    exact Function.update_self _ _ _

variable (device) in
theorem startPage_writesUpTo (hdata : w.jobData job = some jobData) (pageNumber : UInt32) :
    (d.callbacks.startPage (some job) (some options) (some device) pageNumber).wp World.env
      (fun ok es _ => WritesUpTo ((d.pageCommands jobData options pageNumber).getD []) ok es) w := by
  have hanswer : (World.env (.jobGetData job) w).1 = some jobData := hdata
  rw [Driver.startPage_eq]
  split
  case isTrue =>
    rw [call_bind, wp_ask, hanswer]
    dsimp only
    cases d.pageCommands jobData options pageNumber with
    | none => exact writesUpTo_nil rfl rfl
    | some commands =>
      refine wp_mono (writeCommands_writesUpTo commands _) (fun ok es _ h => ?_)
      exact ⟨h.taken, h.written, h.whole⟩
  case isFalse htype =>
    rw [pageCommands_of_takesMediaType options (Bool.eq_false_iff.mpr htype)]
    exact writesUpTo_nil rfl rfl

/-- A line that the device takes whole is written once. -/
theorem writeLine_writesUpTo (hs : (w.script device.uri).Completes)
    (hdata : w.jobData job = some jobData) (y : UInt32) (pixels : List UInt8) :
    (d.callbacks.writeLine (some job) (some options) (some device) y (some pixels)).wp World.env
      (fun ok es _ => WritesUpTo [d.rasterCommand jobData options.header pixels] ok es) w := by
  apply writeLine_attempts options hdata y pixels
  rw [wp_attempt_taken d.errorReasons device job.printer _ (takesFirst_of_completes hs _)]
  refine wp_mono (writesUpTo_of_asks (asks_lineWritten d.errorReasons trivial trivial
    (statusStores_writesNothing job.printer)) _) (fun ok es _ h => ?_)
  have hcommand : WritesUpTo [d.rasterCommand jobData options.header pixels] true
      [(⟨.deviceWrite device (d.rasterCommand jobData options.header pixels),
        ((d.rasterCommand jobData options.header pixels).length : Int)⟩ : Event d.JobData)] := by
    have htaken := taken_write (δ := d.JobData) device
      (d.rasterCommand jobData options.header pixels)
      (d.rasterCommand jobData options.header pixels).length []
    rw [if_pos rfl] at htaken
    refine ⟨?_, List.prefix_refl _, fun _ => htaken⟩
    rw [htaken]
    exact List.prefix_refl _
  have hline := hcommand.append h
  exact ⟨hline.taken, hline.written, hline.whole⟩

variable (device) in
theorem endPage_writesUpTo (pageNumber : UInt32) :
    (d.callbacks.endPage (some job) (some options) (some device) pageNumber).wp World.env
      (fun ok es _ => WritesUpTo
        (if pageNumber < (w.impressions job).toUInt32 - 1 then [Commands.print] else []) ok es)
      w := by
  have hanswer : (World.env (.jobGetImpressions job) w).1 = w.impressions job := rfl
  rw [Driver.endPage_eq, endPage, call_bind, wp_ask, hanswer]
  dsimp only
  split
  · refine wp_mono (writesUpTo_guard (writeToDevice_writesUpTo _ _)
      (fun w' => writesUpTo_of_asks (asks_ret _) w')) (fun ok es _ h => ?_)
    exact ⟨h.taken, h.written, h.whole⟩
  · exact writesUpTo_nil rfl rfl

variable (job device) in
theorem endJob_writesUpTo (w : World d.JobData) :
    (d.callbacks.endJob (some job) (some options) (some device)).wp World.env
      (fun ok es _ => WritesUpTo [Commands.printWithFeeding] ok es) w := by
  rw [Driver.endJob_eq, endJob]
  refine writesUpTo_guard (writeToDevice_writesUpTo _ w) (fun w' => ?_)
  refine writesUpTo_of_asks (asks_bind (asks_poll (asks_drainAttempt trivial) _) fun _ => ?_) w'
  refine asks_bind (asks_call trivial) fun _ => ?_
  exact asks_bind (asks_call trivial) fun _ => asks_bind (asks_call trivial) fun _ => asks_ret _

end Callbacks

section Alone

variable {d : Driver} {uri : String} {job device : Nat} {options : PrOptions} {model : d.Model}
  {w : World d.JobData}

theorem code_writesUpTo {c : Callback} (hpage : c.OfPage) (hs : (w.script uri).Completes)
    (hdata : w.jobData ⟨uri, job⟩ = some (d.jobData model)) :
    (d.callbacks.code uri job device c).wp World.env
      (fun ok es _ => WritesUpTo
        (d.writes model (w.impressions ⟨uri, job⟩).toUInt32 c) ok es) w := by
  cases c with
  | startPage options pageNumber =>
    exact startPage_writesUpTo ⟨uri, device⟩ options hdata pageNumber
  | writeLine options y pixels => exact writeLine_writesUpTo options hs hdata y pixels
  | endPage options pageNumber => exact endPage_writesUpTo ⟨uri, device⟩ options pageNumber
  | startJob | endJob | getStatus => exact hpage.elim

/-- The callbacks of the pages and `endJob`, alone on a device that takes every write. -/
theorem attemptCode_pages {cs : List Callback} (hcs : ∀ c ∈ cs, c.OfPage) (options : PrOptions)
    (hs : (w.script uri).Completes) (hdata : w.jobData ⟨uri, job⟩ = some (d.jobData model)) :
    (attemptCode d.callbacks uri job device (cs ++ [.endJob options])).wp World.env
      (fun ok es _ => WritesUpTo (cs.flatMap (d.writes model
        (w.impressions ⟨uri, job⟩).toUInt32) ++ [Commands.printWithFeeding]) ok es) w := by
  induction cs generalizing w with
  | nil =>
    have hend := endJob_writesUpTo (d := d) ⟨uri, job⟩ ⟨uri, device⟩ options w
    have hdone := writesUpTo_guard hend fun w' => writesUpTo_of_asks (asks_ret true) w'
    exact hdone
  | cons c cs ih =>
    have hpage := hcs c List.mem_cons_self
    have hleft : (d.callbacks.code uri job device c).wp World.env (fun _ _ w' =>
        (w'.script uri).Completes ∧ w'.jobData = w.jobData ∧ w'.impressions = w.impressions) w :=
      ⟨(leaves_final _ w uri).completes hs,
        jobData_final (code_keepsJobData (r := ⟨job, device⟩) hpage) w,
        impressions_final _ w⟩
    rw [List.cons_append, attemptCode, List.flatMap_cons, List.append_assoc]
    refine wp_seq (wp_and (code_writesUpTo hpage hs hdata) hleft) (fun ok es w' h => ?_)
    obtain ⟨hes, hs', hdata', himp⟩ := h
    cases ok with
    | true =>
      have hrest := ih (w := w') (fun c hc => hcs c (List.mem_cons_of_mem _ hc)) hs'
        ((congrFun hdata' _).trans hdata)
      rw [congrFun himp ⟨uri, job⟩] at hrest
      rw [if_pos rfl]
      exact wp_mono hrest fun ok es' _ h' => hes.append h'
    | false =>
      rw [if_neg Bool.false_ne_true, pure_eq, wp_ret, List.append_nil]
      exact hes.stop _

variable (job device) in
/-- A job alone on a device that takes every write and names its model, if anything. -/
theorem jobThread_writesUpTo {name : String} (options : PrOptions) (pages : List JobPage)
    (hs : (w.script uri).Completes)
    (hid : ∀ did, (w.script uri).ids.headD none = some did → did = ⟨some name⟩)
    (hmodel : d.modelMap.lookup name = some model) :
    (jobThread d uri job device options pages).wp World.env
      (fun results es _ => ∃ ok, results = [ok] ∧ WritesUpTo
        (d.jobWrites model (w.impressions ⟨uri, job⟩).toUInt32 options pages) ok es) w := by
  have hattempt : (attemptCode d.callbacks uri job device (jobCallbacks options pages)).wp World.env
      (fun ok es _ => WritesUpTo
        (d.jobWrites model (w.impressions ⟨uri, job⟩).toUInt32 options pages) ok es) w := by
    have hleft : (d.callbacks.code uri job device (.startJob options)).wp World.env
        (fun _ _ w' => (w'.script uri).Completes ∧ w'.impressions = w.impressions) w :=
      ⟨(leaves_final _ w uri).completes hs, impressions_final _ w⟩
    rw [jobCallbacks, attemptCode, Driver.jobWrites, jobCallbacks, List.flatMap_cons,
      List.flatMap_append, List.flatMap_singleton]
    refine wp_seq (wp_and (startJob_writesUpTo ⟨uri, job⟩ ⟨uri, device⟩ options hid hmodel) hleft)
      (fun ok es w' h => ?_)
    obtain ⟨⟨hes, hdata⟩, hs', himp⟩ := h
    cases ok with
    | true =>
      rw [if_pos rfl, ← himp]
      exact wp_mono (attemptCode_pages (fun c hc => ofPage_of_mem hc) options hs' (hdata rfl))
        fun ok es' _ h' => hes.append h'
    | false =>
      rw [if_neg Bool.false_ne_true, pure_eq, wp_ret, List.append_nil]
      exact hes.stop _
  refine wp_seq hattempt (fun ok es w' h => ?_)
  rw [pure_eq, wp_ret, List.append_nil]
  exact ⟨ok, rfl, h⟩

end Alone

/-! ## Every schedule -/

section Schedule

variable {d : Driver} {τ : Type} [DecidableEq τ] {uri : String} {owner : τ → String}
  {requests : τ → List Request}

theorem asks_serve_of_forall {δ : Type} {callbacks : Callbacks δ} {P : Call δ → Prop}
    {requests : List Request}
    (h : ∀ r ∈ requests, (callbacks.code uri r.job r.device r.callback).Asks P) :
    (serve callbacks uri requests).Asks P := by
  induction requests with
  | nil => exact asks_ret _
  | cons r rs ih =>
    refine asks_bind (h r List.mem_cons_self) (fun result => ?_)
    exact asks_bind (ih fun r hr => h r (List.mem_cons_of_mem _ hr)) (fun results => asks_ret _)

theorem asks_attemptCode {P : Call d.JobData → Prop} {job device : Nat} {cs : List Callback}
    (hcs : ∀ c ∈ cs, (d.callbacks.code uri job device c).Asks P) :
    (attemptCode d.callbacks uri job device cs).Asks P := by
  induction cs with
  | nil => exact asks_ret _
  | cons c cs ih =>
    refine asks_bind (hcs c List.mem_cons_self) (fun ok => ?_)
    cases ok with
    | true => exact ih fun c hc => hcs c (List.mem_cons_of_mem _ hc)
    | false => exact asks_ret _

theorem ne_getStatus_of_mem {options : PrOptions} {pages : List JobPage} {c : Callback}
    (hc : c ∈ pageCallbacks 0 pages ++ [.endJob options]) : c ≠ .getStatus := by
  rcases List.mem_append.mp hc with hc | hc
  · rintro rfl
    exact ofPage_of_mem hc
  · rw [List.mem_singleton.mp hc]
    exact Callback.noConfusion

theorem asks_jobThread (job device : Nat) (options : PrOptions) (pages : List JobPage) :
    (jobThread d uri job device options pages).Asks (OwnCall uri) := by
  refine asks_bind (asks_attemptCode fun c hc => asks_code_own ?_ job device) (fun ok => asks_ret _)
  rcases List.mem_cons.mp hc with rfl | hc
  · exact Callback.noConfusion
  · exact ne_getStatus_of_mem hc

omit [DecidableEq τ] in
/-- The job's thread, beside threads that serve other printers and status calls. -/
theorem beside_overlapPool (job device : Nat) (options : PrOptions) (pages : List JobPage)
    (hstatus : ∀ t, owner t = uri → ∀ r ∈ requests t, r.callback = .getStatus)
    (w : World d.JobData) :
    Beside uri none (overlapPool d uri job device options pages owner requests w) where
  own := asks_jobThread job device options pages
  others t ht := by
    cases t with
    | none => exact absurd rfl ht
    | some t =>
      exact asks_serve_of_forall fun r hr => asks_code_bystands (fun hu => hstatus t hu r hr) _ _

/-- What the thread of a job does in a schedule, and then would do next, it does alone
on a device that answers as the thread was answered. -/
theorem jobThread_alone (job device : Nat) (options : PrOptions) (pages : List JobPage)
    (hstatus : ∀ t, owner t = uri → ∀ r ∈ requests t, r.callback = .getStatus)
    (w : World d.JobData) (schedule : List (Option τ)) :
    let pool := overlapPool d uri job device options pages owner requests w
    let own := Pool.eventsOf none (pool.trace World.env schedule)
    let next := (pool.run World.env schedule).prog none
    ∃ w', (jobThread d uri job device options pages).trace (w.withScript uri (seen own)) =
        own ++ next.events World.env w' ∧
      (jobThread d uri job device options pages).run World.env (w.withScript uri (seen own)) =
        next.run World.env w' :=
  (beside_overlapPool job device options pages hstatus w).alone schedule

/-- Whatever the device does and whoever is scheduled, a job goes as it would alone on
some device: alone it makes the calls it made and gets the answers it got, and where it
ran to its end it makes no others and returns the same. -/
theorem overlap_replays (job device : Nat) (options : PrOptions) (pages : List JobPage)
    (hstatus : ∀ t, owner t = uri → ∀ r ∈ requests t, r.callback = .getStatus)
    (w : World d.JobData) (schedule : List (Option τ)) :
    let pool := overlapPool d uri job device options pages owner requests w
    let own := Pool.eventsOf none (pool.trace World.env schedule)
    ∃ script : DeviceScript,
      own <+: (jobThread d uri job device options pages).trace (w.withScript uri script) ∧
      ∀ results, (pool.run World.env schedule).prog none = .ret results →
        (jobThread d uri job device options pages).trace (w.withScript uri script) = own ∧
          (jobThread d uri job device options pages).value (w.withScript uri script) =
            results := by
  intro pool own
  obtain ⟨w', hevents, hrun⟩ := jobThread_alone job device options pages hstatus w schedule
  refine ⟨seen own, ⟨_, hevents.symm⟩, fun results hdone => ?_⟩
  rw [hdone] at hevents hrun
  exact ⟨hevents.trans (List.append_nil own), congrArg Prod.fst hrun⟩

def statusOwner (_ : Nat) : String := "usb://TD-2020"

def statusRequests (_ : Nat) : List Request := [⟨0, 0, .getStatus⟩]

theorem statusRequests_getStatus (t : Nat) :
    ∀ r ∈ statusRequests t, r.callback = .getStatus := by
  intro r hr
  rw [List.mem_singleton.mp hr]

/-- A status call looks at the flag before `startJob` sets it, and asks after. -/
def raceSchedule : List (Option Nat) :=
  [some 0] ++ List.replicate 12 none ++ [some 0, some 0] ++ List.replicate 250 none

theorem overlap_replays_race :
    let pool := overlapPool .td2000 "usb://TD-2020" 0 0 oneLinePage [oneRow] statusOwner
      statusRequests answeringWorld
    let own := Pool.eventsOf none (pool.trace World.env raceSchedule)
    ∃ script : DeviceScript,
      own <+: (jobThread .td2000 "usb://TD-2020" 0 0 oneLinePage [oneRow]).trace
        (answeringWorld.withScript "usb://TD-2020" script) ∧
      ∀ results, (pool.run World.env raceSchedule).prog none = .ret results →
        (jobThread .td2000 "usb://TD-2020" 0 0 oneLinePage [oneRow]).trace
            (answeringWorld.withScript "usb://TD-2020" script) = own ∧
          (jobThread .td2000 "usb://TD-2020" 0 0 oneLinePage [oneRow]).value
            (answeringWorld.withScript "usb://TD-2020" script) = results :=
  overlap_replays (d := .td2000) 0 0 oneLinePage [oneRow] (fun t _ => statusRequests_getStatus t)
    answeringWorld raceSchedule

end Schedule

/-! ## The stream -/

/-- Requests between pages change nothing, and a stream in order has them nowhere
else. -/
theorem readAll_work {r r' : Reader} {cs : List Command} (h : r.readAll cs = some r') :
    r.readAll (cs.filter isWork) = some r' := by
  induction cs generalizing r with
  | nil => exact h
  | cons c cs ih =>
    rw [Reader.readAll_cons] at h
    obtain ⟨r₁, hstep, hrest⟩ := Option.bind_eq_some_iff.mp h
    by_cases hwork : isWork c
    · rw [List.filter_cons_of_pos hwork, Reader.readAll_cons, hstep]
      exact ih hrest
    · rw [List.filter_cons_of_neg hwork]
      have hsame : r₁ = r := by
        obtain ⟨opcode, data, fits⟩ := c
        obtain rfl : opcode = .statusInformationRequest := by
          by_contra hne
          exact hwork (decide_eq_true hne)
        have hif : (if r.betweenPages then some r else none) = some r₁ := hstep
        split at hif
        case isTrue => exact (Option.some.inj hif).symm
        case isFalse => cases hif
      rw [← hsame]
      exact ih hrest

theorem encodes_jobWrites {d : Driver} (model : d.Model) (pageCount : UInt32)
    (options : PrOptions) (pages : List JobPage) :
    ∀ block ∈ d.jobWrites model pageCount options pages,
      ∃ cs, commandSet.encodeAll cs = block := by
  intro block hblock
  rw [Driver.jobWrites_eq_nuls, List.mem_cons, List.mem_cons] at hblock
  rcases hblock with rfl | rfl | hblock
  · exact ⟨_, encodeAll_nul d.nulCount⟩
  · exact ⟨[⟨.initializeCommand, [], rfl⟩], rfl⟩
  · obtain ⟨cs, hcs, -⟩ := cuttable_jobRest d model pageCount pages block hblock
    exact ⟨cs, hcs⟩

/-- The first commands of a job, without requests, read as the first of its pages. -/
theorem readAll_begun {d : Driver} {model : d.Model} {pageCount : UInt32} {options : PrOptions}
    {pages : List JobPage} (hne : pages ≠ []) (hcount : pageCount.toNat = pages.length)
    (hmedia : ∀ page ∈ pages, d.AcceptsMedia model page.options.media)
    {blocks : List (List UInt8)} (hblocks : blocks <+: d.jobWrites model pageCount options pages)
    {js : List Command} (hjs : commandSet.encodeAll js = blocks.flatten) :
    ∃ (whole : List Raster.Page) (r : Reader),
      List.Forall₂ (Shows d model pages.length) pages.zipIdx whole ∧
      Reader.readAll {} (js.filter isWork) = some r ∧ r.pages <+: whole ∧
      (blocks = d.jobWrites model pageCount options pages → r.pages = whole ∧ r.current = none) := by
  obtain ⟨all, r, hall, hread, hclosed, hshows⟩ := jobBytes_read (d := d) hne hcount hmedia
  obtain ⟨rest, hrest⟩ := hblocks
  obtain ⟨ks, hks⟩ := encodeAll_of_blocks fun block hblock =>
    encodes_jobWrites model pageCount options pages block
      (hrest ▸ List.mem_append_right blocks hblock)
  have hsame : all = js ++ ks := by
    apply CommandSet.encodeAll_injective
    rw [hall, ← flatten_jobWrites model pageCount options, ← hrest, List.flatten_append,
      CommandSet.encodeAll_append, hjs, hks]
  have hwork := readAll_work hread
  rw [hsame, List.filter_append, Reader.readAll_append] at hwork
  obtain ⟨r₁, hbegun, hremains⟩ := Option.bind_eq_some_iff.mp hwork
  refine ⟨r.pages, r₁, hshows, hbegun, (Reader.precedes_of_readAll hremains hclosed).pages,
    fun hdone => ?_⟩
  -- All blocks are there, so the commands are all of the job's.
  have hdone' : js = all := by
    apply CommandSet.encodeAll_injective
    rw [hjs, hall, hdone, flatten_jobWrites]
  have hr := readAll_work hread
  rw [← hdone', hbegun] at hr
  obtain rfl := Option.some.inj hr
  exact ⟨rfl, hclosed⟩

section Prints

variable {d : Driver} {τ : Type} [DecidableEq τ] {uri name : String} {model : d.Model}
  {owner : τ → String} {requests : τ → List Request} {pages : List JobPage} {w : World d.JobData}

variable (owner requests) in
/-- In every schedule the job's thread writes the commands of the job as far as it got. -/
theorem own_writes (job device : Nat) (options : PrOptions)
    (hstatus : ∀ t, owner t = uri → ∀ r ∈ requests t, r.callback = .getStatus)
    (hmodel : d.modelMap.lookup name = some model) (hs : Agreeable name (w.script uri))
    (schedule : List (Option τ)) :
    let pool := overlapPool d uri job device options pages owner requests w
    let own := Pool.eventsOf none (pool.trace World.env schedule)
    let commands := d.jobWrites model (w.impressions ⟨uri, job⟩).toUInt32 options pages
    written own <+: commands ∧
      ((pool.run World.env schedule).prog none = .ret [true] → written own = commands) := by
  intro pool own commands
  have hseen : Agreeable name (seen own) :=
    (beside_overlapPool job device options pages hstatus w).agreeable hs schedule
  have hscript : (w.withScript uri (seen own)).script uri = seen own := Function.update_self _ _ _
  have halone := jobThread_writesUpTo job device options pages
    (hscript ▸ hseen.completes) (fun did hdid => by
      rw [hscript] at hdid
      rcases hseen.headD with hnone | hsome
      · cases hnone.symm.trans hdid
      · exact Option.some.inj (hdid.symm.trans hsome)) hmodel
  obtain ⟨w', hevents, hrun⟩ := jobThread_alone job device options pages hstatus w schedule
  obtain ⟨ok, hvalue, hwrites⟩ := halone
  have hevents' : (jobThread d uri job device options pages).events World.env
      (w.withScript uri (seen own)) =
        own ++ ((pool.run World.env schedule).prog none).events World.env w' := hevents
  have hrun' : (jobThread d uri job device options pages).run World.env
      (w.withScript uri (seen own)) = ((pool.run World.env schedule).prog none).run World.env w' :=
    hrun
  rw [hrun'] at hvalue
  rw [hevents'] at hwrites
  constructor
  · have hwritten := hwrites.written
    rw [written_append] at hwritten
    exact (List.prefix_append _ _).trans hwritten
  · intro hdone
    rw [hdone] at hvalue hwrites
    obtain rfl : true = ok := (List.cons.inj hvalue).1
    have hwritten := hwrites.written_eq
    rwa [written_append, show written (events World.env (.ret [true]) w') = [] from rfl,
      List.append_nil] at hwritten

/-- On a device that takes every write, no status call and nothing that happens at another
printer reaches the paper of a job whose pages PAPPL counted and whose media fit.  At any
moment of any schedule the stream is one of commands; without the status requests it reads
as the first of the job's pages, and as all of them once the job's thread has returned
true. -/
theorem overlap_prints (job device : Nat) (options : PrOptions)
    (hstatus : ∀ t, owner t = uri → ∀ r ∈ requests t, r.callback = .getStatus)
    (hmodel : d.modelMap.lookup name = some model) (hs : Agreeable name (w.script uri))
    (hne : pages ≠ []) (hcount : (w.impressions ⟨uri, job⟩).toInt = pages.length)
    (hmedia : ∀ page ∈ pages, d.AcceptsMedia model page.options.media)
    (schedule : List (Option τ)) :
    let pool := overlapPool d uri job device options pages owner requests w
    ∃ (cs : List Command) (whole : List Raster.Page) (r : Reader),
      commandSet.decodeAll (stream uri (pool.trace World.env schedule)) = some cs ∧
      List.Forall₂ (Shows d model pages.length) pages.zipIdx whole ∧
      Reader.readAll {} (cs.filter isWork) = some r ∧ r.pages <+: whole ∧
      ((pool.run World.env schedule).prog none = .ret [true] →
        r.pages = whole ∧ r.current = none) := by
  intro pool
  have hbeside : Beside uri none pool := beside_overlapPool job device options pages hstatus w
  obtain ⟨hbegun, hwhole⟩ :=
    own_writes owner requests job device options hstatus hmodel hs schedule
  obtain ⟨cs, js, hstream, hjs, hfilter⟩ := hbeside.stream_eq hs fun block hblock =>
    encodes_jobWrites model _ options pages block (hbegun.subset hblock)
  obtain ⟨whole, r, hshows, hread, hpages, hall⟩ :=
    readAll_begun hne (toNat_toUInt32 hcount) hmedia hbegun hjs
  exact ⟨cs, whole, r, CommandSet.decodeAll_eq_some_iff.mpr hstream, hshows, hfilter ▸ hread,
    hpages, fun hdone => hall (hwhole hdone)⟩

theorem overlap_prints_race :
    let pool := overlapPool .td2000 "usb://TD-2020" 0 0 oneLinePage [oneRow] statusOwner
      statusRequests answeringWorld
    ∃ (cs : List Command) (whole : List Raster.Page) (r : Reader),
      commandSet.decodeAll
        (stream "usb://TD-2020" (pool.trace World.env raceSchedule)) = some cs ∧
      List.Forall₂ (Shows .td2000 .td2x2x [oneRow].length) [oneRow].zipIdx whole ∧
      Reader.readAll {} (cs.filter isWork) = some r ∧ r.pages <+: whole ∧
      ((pool.run World.env raceSchedule).prog none = .ret [true] →
        r.pages = whole ∧ r.current = none) :=
  overlap_prints 0 0 oneLinePage (fun t _ => statusRequests_getStatus t)
    (show Driver.td2000.modelMap.lookup "TD-2020" = some .td2x2x by decide)
    ⟨fun o ho => absurd ho List.not_mem_nil, fun did hdid => .inr (List.mem_singleton.mp hdid)⟩
    (List.cons_ne_nil _ _) (by decide) acceptsMedia_singleton raceSchedule

end Prints

end Drivers
end BrThermal
