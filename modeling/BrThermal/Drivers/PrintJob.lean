/-
A whole job as a run of steps.

PAPPL prints a job by calling `startJob`, then for each page `startPage`, `writeLine`
once per row and `endPage`, and at last `endJob`.  On a device that takes every
write, the bytes of the run are the bytes of its callbacks one after another,
whatever the device reports meanwhile.
-/
import BrThermal.Drivers.Sent

namespace BrThermal
namespace Drivers

open Effect Effect.Prog Pappl

/-- A page as PAPPL hands it to the driver: as many rows as its header says. -/
structure JobPage where
  options : PrOptions
  rows : List (List UInt8)
  height : options.header.cupsHeight.toNat = rows.length

def JobPage.lineCallbacks (page : JobPage) : List Callback :=
  page.rows.zipIdx.map fun (row, y) => .writeLine page.options (.ofNat y) row

/-- The callbacks of page number `k`. -/
def JobPage.callbacks (page : JobPage) (k : Nat) : List Callback :=
  .startPage page.options (.ofNat k) :: (page.lineCallbacks ++ [.endPage page.options (.ofNat k)])

/-- The callbacks of the pages numbered from `k`. -/
def pageCallbacks (k : Nat) (pages : List JobPage) : List Callback :=
  (pages.zipIdx k).flatMap fun (page, k) => page.callbacks k

def jobCallbacks (options : PrOptions) (pages : List JobPage) : List Callback :=
  .startJob options :: (pageCallbacks 0 pages ++ [.endJob options])

theorem pageCallbacks_cons (k : Nat) (page : JobPage) (pages : List JobPage) :
    pageCallbacks k (page :: pages) = page.callbacks k ++ pageCallbacks (k + 1) pages := rfl

theorem ofPage_of_mem {k : Nat} {pages : List JobPage} {c : Callback}
    (hc : c ∈ pageCallbacks k pages) : c.OfPage := by
  obtain ⟨⟨page, i⟩, -, hc⟩ := List.mem_flatMap.mp hc
  simp only [JobPage.callbacks, List.mem_cons, List.mem_append, List.not_mem_nil, or_false] at hc
  rcases hc with rfl | hc | rfl
  · trivial
  · obtain ⟨⟨row, y⟩, -, rfl⟩ := List.mem_map.mp hc
    trivial
  · trivial

namespace Session

variable {δ : Type}

def runFrom (callbacks : Callbacks δ) (s : Session δ) (steps : List Step) : Session δ :=
  steps.foldl (fun s x => s.next callbacks x) s

theorem runFrom_append (callbacks : Callbacks δ) (s : Session δ) (xs ys : List Step) :
    s.runFrom callbacks (xs ++ ys) = (s.runFrom callbacks xs).runFrom callbacks ys :=
  List.foldl_append

end Session

section Run

variable {d : Driver} {uri : String} {r : Running} {jobData : d.JobData} {impressions : Int32}

/-- A job is running on the printer, with its data attached. -/
structure InJob (d : Driver) (uri : String) (r : Running) (jobData : d.JobData)
    (impressions : Int32) (s : Session d.JobData) : Prop where
  active : s.active uri = some r
  data : s.world.jobData ⟨uri, r.job⟩ = some jobData
  impressions : s.world.impressions ⟨uri, r.job⟩ = impressions

/-- The device takes every write of the step. -/
structure Completing (uri : String) (x : Step) : Prop where
  uri : x.uri = uri
  completes : x.script.Completes

/-- The bytes the device accepts during some steps. -/
def received (d : Driver) (s : Session d.JobData) (steps : List Step) : List UInt8 :=
  accepted ((s.runFrom d.callbacks steps).log.drop s.log.length)

/-- The session goes on to one in which the device has accepted `bytes` more. -/
def Sends (bytes : List UInt8) (s s' : Session d.JobData) : Prop :=
  ∃ es, s'.log = s.log ++ es ∧ accepted es = bytes

theorem sends_trans {bs cs : List UInt8} {s s' s'' : Session d.JobData} (h : Sends bs s s')
    (h' : Sends cs s' s'') : Sends (bs ++ cs) s s'' := by
  obtain ⟨es, hlog, hes⟩ := h
  obtain ⟨fs, hlog', hfs⟩ := h'
  exact ⟨es ++ fs, by rw [hlog', hlog, List.append_assoc], by rw [accepted_append, hes, hfs]⟩

theorem code_sent {x : Step} {w : World d.JobData} (hpage : x.callback.OfPage)
    (hs : (w.script uri).Completes) (hdata : w.jobData ⟨uri, r.job⟩ = some jobData)
    (himp : w.impressions ⟨uri, r.job⟩ = impressions) :
    accepted ((d.callbacks.code uri r.job r.device x.callback).trace w) =
      d.sent jobData impressions.toUInt32 x.callback := by
  obtain ⟨u, callback, script⟩ := x
  cases callback with
  | startPage options pageNumber =>
    exact (startPage_sent ⟨uri, r.device⟩ ⟨uri, r.job⟩ options hs hdata pageNumber).1
  | writeLine options y pixels =>
    exact writeLine_sent ⟨uri, r.device⟩ ⟨uri, r.job⟩ options hs hdata y pixels
  | endPage options pageNumber =>
    subst himp
    exact endPage_sent ⟨uri, r.device⟩ ⟨uri, r.job⟩ options hs pageNumber
  | startJob | endJob | getStatus => exact hpage.elim

theorem code_keepsJobData {c : Callback} (hpage : c.OfPage) :
    (d.callbacks.code uri r.job r.device c).Asks KeepsJobData := by
  cases c with
  | startPage options pageNumber =>
    exact Driver.asks_startPage options ⟨fun _ _ => trivial, trivial, trivial, trivial, trivial⟩ _
  | writeLine options y pixels =>
    exact Driver.asks_writeLine options trivial ⟨fun _ _ => trivial, trivial, trivial⟩
      ⟨fun _ => trivial, fun _ => trivial⟩ y pixels
  | endPage options pageNumber =>
    exact Driver.asks_endPage options ⟨fun _ _ => trivial, trivial, trivial, trivial, trivial⟩ _
  | startJob | endJob | getStatus => exact hpage.elim

theorem next_page {s : Session d.JobData} {x : Step} (h : InJob d uri r jobData impressions s)
    (hx : Completing uri x) (hpage : x.callback.OfPage) :
    Sends (d.sent jobData impressions.toUInt32 x.callback) s (s.next d.callbacks x) ∧
      InJob d uri r jobData impressions (s.next d.callbacks x) := by
  obtain rfl := hx.uri
  have htarget : s.target x = some r := (s.target_of_page hpage).trans h.active
  have hdata : (s.before x).jobData = s.world.jobData := by rw [s.before_eq x]
  have himp : (s.before x).impressions = s.world.impressions := by rw [s.before_eq x]
  have hcompletes : ((s.before x).script x.uri).Completes := by
    rw [s.script_before x]
    exact hx.completes
  rw [Session.next, htarget]
  refine ⟨⟨_, rfl, ?_⟩, ?_, ?_, ?_⟩
  · exact code_sent hpage hcompletes (by rw [hdata]; exact h.data)
      (by rw [himp]; exact h.impressions)
  · rw [s.active_after_of_page hpage]
    exact h.active
  · show (Code.final _ _).jobData _ = _
    rw [jobData_final (code_keepsJobData hpage), hdata]
    exact h.data
  · show (Code.final _ _).impressions _ = _
    rw [impressions_final, himp]
    exact h.impressions

theorem runFrom_pages {s : Session d.JobData} (h : InJob d uri r jobData impressions s)
    {steps : List Step} (hsteps : ∀ x ∈ steps, Completing uri x ∧ x.callback.OfPage) :
    Sends ((steps.map Step.callback).flatMap (d.sent jobData impressions.toUInt32)) s
        (s.runFrom d.callbacks steps) ∧
      InJob d uri r jobData impressions (s.runFrom d.callbacks steps) := by
  induction steps generalizing s with
  | nil => exact ⟨⟨[], (List.append_nil _).symm, rfl⟩, h⟩
  | cons x steps ih =>
    obtain ⟨hx, hpage⟩ := hsteps x List.mem_cons_self
    obtain ⟨hsends, hnext⟩ := next_page h hx hpage
    obtain ⟨hrest, hlast⟩ := ih hnext fun y hy => hsteps y (List.mem_cons_of_mem _ hy)
    exact ⟨sends_trans hsends hrest, hlast⟩

theorem next_start {s : Session d.JobData} {x : Step} {options : PrOptions} {name : String}
    {model : d.Model} (hidle : s.active uri = none) (hx : Completing uri x)
    (hc : x.callback = .startJob options) (hmodel : d.modelMap.lookup name = some model)
    (hid : x.script.ids.headD none = some ⟨some name⟩) :
    Sends (d.startCommands model).flatten s (s.next d.callbacks x) ∧
      ((s.next d.callbacks x).active uri ≠ none →
        InJob d uri ⟨s.jobs uri, s.world.handles uri⟩ (d.jobData model)
          (s.world.impressions ⟨uri, s.jobs uri⟩) (s.next d.callbacks x)) ∧
      (x.script.NothingPending → (s.next d.callbacks x).active uri ≠ none) := by
  obtain ⟨u, callback, script⟩ := x
  obtain rfl : u = uri := hx.uri
  obtain rfl : callback = .startJob options := hc
  have hscript := s.script_before ⟨u, .startJob options, script⟩
  have htarget : s.target ⟨u, .startJob options, script⟩ =
      some ⟨s.jobs u, s.world.handles u⟩ := if_pos hidle
  obtain ⟨hsent, hdata, hstarts⟩ := startJob_sent (d := d) ⟨u, s.world.handles u⟩
    ⟨u, s.jobs u⟩ options (hscript ▸ hx.completes) (hscript ▸ hid) hmodel
  rw [Session.next, htarget]
  -- The job runs exactly where `startJob` returned true.
  have hactive : ∀ ok es w, ((s.after ⟨u, .startJob options, script⟩
      ⟨s.jobs u, s.world.handles u⟩ ok es w).active u =
        if ok then some ⟨s.jobs u, s.world.handles u⟩ else none) := by
    intro ok es w
    cases ok with
    | true => exact Function.update_self _ _ _
    | false => exact hidle
  dsimp only
  rw [hactive]
  refine ⟨⟨_, rfl, hsent⟩, fun hok => ?_, fun hquiet => ?_⟩
  · split at hok
    case isTrue hvalue =>
      refine ⟨?_, hdata hvalue, ?_⟩
      · rw [hactive, if_pos hvalue]
      · exact congrFun (impressions_final _ _) _
    case isFalse => exact absurd rfl hok
  · have hok := hstarts (hscript ▸ hquiet)
    exact fun hnone => absurd ((if_pos hok).symm.trans hnone) (Option.some_ne_none _)

theorem next_end {s : Session d.JobData} {x : Step} {options : PrOptions}
    (h : InJob d uri r jobData impressions s) (hx : Completing uri x)
    (hc : x.callback = .endJob options) :
    Sends Commands.printWithFeeding s (s.next d.callbacks x) := by
  obtain ⟨u, callback, script⟩ := x
  obtain rfl : u = uri := hx.uri
  obtain rfl : callback = .endJob options := hc
  have hcompletes : ((s.before ⟨u, .endJob options, script⟩).script u).Completes := by
    rw [s.script_before ⟨u, .endJob options, script⟩]
    exact hx.completes
  have htarget : s.target ⟨u, .endJob options, script⟩ = some r := h.active
  rw [Session.next, htarget]
  exact ⟨_, rfl, endJob_sent (d := d) ⟨u, r.device⟩ ⟨u, r.job⟩ options hcompletes⟩

/-- The steps of one job on an idle printer: PAPPL's callbacks in order, each with a
device that takes every write, for a device ID that names one of the driver's
models. -/
structure JobRun (d : Driver) (s : Session d.JobData) (uri : String) (options : PrOptions)
    (pages : List JobPage) (name : String) (model : d.Model) (steps : List Step) : Prop where
  idle : s.active uri = none
  callbacks : steps.map Step.callback = jobCallbacks options pages
  completing : ∀ x ∈ steps, Completing uri x
  model : d.modelMap.lookup name = some model
  identified : ∀ x ∈ steps.head?, x.script.ids.headD none = some ⟨some name⟩

/-- `startJob` returned true. -/
def Starts (d : Driver) (s : Session d.JobData) (uri : String) (steps : List Step) : Prop :=
  ∀ x ∈ steps.head?, (s.next d.callbacks x).active uri ≠ none

/-- The bytes of a job. -/
def Driver.jobBytes (d : Driver) (model : d.Model) (pageCount : UInt32) (pages : List JobPage) :
    List UInt8 :=
  (d.startCommands model).flatten ++
    ((pageCallbacks 0 pages).flatMap (d.sent (d.jobData model) pageCount) ++
      Commands.printWithFeeding)

section Job

variable {s : Session d.JobData} {options : PrOptions} {pages : List JobPage} {name : String}
  {model : d.Model} {steps : List Step}

theorem starts_of_nothingPending (h : JobRun d s uri options pages name model steps)
    (hquiet : ∀ x ∈ steps, x.script.NothingPending) : Starts d s uri steps := by
  intro x hx
  have hmem := List.mem_of_mem_head? hx
  have hcallback : x.callback = .startJob options := by
    have hhead := congrArg List.head? h.callbacks
    rw [List.head?_map, Option.mem_def.mp hx] at hhead
    exact Option.some.inj hhead
  exact (next_start h.idle (h.completing x hmem) hcallback h.model (h.identified x hx)).2.2
    (hquiet x hmem)

theorem job_sends (h : JobRun d s uri options pages name model steps)
    (hstart : Starts d s uri steps) :
    Sends (d.jobBytes model (s.world.impressions ⟨uri, s.jobs uri⟩).toUInt32 pages) s
      (s.runFrom d.callbacks steps) := by
  obtain ⟨first, rest, rfl, hfirst, hrest⟩ := List.map_eq_cons_iff.mp h.callbacks
  obtain ⟨middle, last, rfl, hmiddle, hlast⟩ := List.map_eq_append_iff.mp hrest
  obtain ⟨last, _, rfl, hend, hnil⟩ := List.map_eq_cons_iff.mp hlast
  obtain rfl := List.map_eq_nil_iff.mp hnil
  have hcompleting := h.completing
  simp only [List.mem_cons, List.mem_append, List.not_mem_nil, or_false] at hcompleting
  obtain ⟨hsent, hjob, -⟩ := next_start h.idle (hcompleting first (.inl rfl)) hfirst h.model
    (h.identified first rfl)
  have hpages : ∀ x ∈ middle, Completing uri x ∧ x.callback.OfPage := by
    intro x hx
    have hmem : x.callback ∈ pageCallbacks 0 pages := hmiddle ▸ List.mem_map_of_mem hx
    exact ⟨hcompleting x (.inr (.inl hx)), ofPage_of_mem hmem⟩
  obtain ⟨hsent', hjob'⟩ := runFrom_pages (hjob (hstart first rfl)) hpages
  have hsent'' := next_end hjob' (hcompleting last (.inr (.inr rfl))) hend
  rw [hmiddle] at hsent'
  rw [show first :: (middle ++ [last]) = [first] ++ (middle ++ [last]) from rfl,
    Session.runFrom_append, Session.runFrom_append]
  exact sends_trans hsent (sends_trans hsent' hsent'')

/-- The bytes of the run are the bytes of the job. -/
theorem received_job (h : JobRun d s uri options pages name model steps)
    (hstart : Starts d s uri steps) :
    received d s steps =
      d.jobBytes model (s.world.impressions ⟨uri, s.jobs uri⟩).toUInt32 pages := by
  obtain ⟨es, hlog, hes⟩ := job_sends h hstart
  rw [received, hlog, List.drop_left, hes]

end Job

end Run

end Drivers
end BrThermal
