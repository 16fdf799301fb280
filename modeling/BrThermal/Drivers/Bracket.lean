/-
The bracket around a job.

`startJob` puts a printer into push mode and attaches the job data; `endJob` puts
it back into pull mode and detaches them.  Between the two nothing may touch
either.  The bracket of a world is the pair of these facts, over all printers and
all jobs, and each callback is described by what it does to it: most keep it,
`startJob` opens it and `endJob` closes it.
-/
import BrThermal.Drivers.Device
import BrThermal.Drivers.Session

namespace BrThermal
namespace Drivers

open Effect Effect.Prog Pappl

variable {δ : Type}

/-- `printerStatusPolling[uri]` is there and true. -/
def pushMode (w : World δ) (uri : String) : Bool := (w.printerStatusPolling uri).getD false

def hasData (w : World δ) (job : Job) : Bool := (w.jobData job).isSome

structure SameBracket (w w' : World δ) : Prop where
  pushMode : pushMode w' = pushMode w
  hasData : hasData w' = hasData w

/-- The bracket of one job moves to `on`. -/
structure SetsBracket (on : Bool) (job : Job) (w w' : World δ) : Prop where
  pushMode : pushMode w' = Function.update (Drivers.pushMode w) job.printer on
  hasData : hasData w' = Function.update (Drivers.hasData w) job on

theorem SameBracket.refl (w : World δ) : SameBracket w w := ⟨rfl, rfl⟩

theorem SameBracket.trans {a b c : World δ} (hab : SameBracket a b) (hbc : SameBracket b c) :
    SameBracket a c :=
  ⟨hbc.pushMode.trans hab.pushMode, hbc.hasData.trans hab.hasData⟩

theorem SetsBracket.of_same {on : Bool} {job : Job} {a b c : World δ} (hab : SameBracket a b)
    (hbc : SetsBracket on job b c) : SetsBracket on job a c :=
  ⟨by rw [hbc.pushMode, hab.pushMode], by rw [hbc.hasData, hab.hasData]⟩

/-- The calls that leave every bracket alone. -/
def Unbracketed : Call δ → Prop
  | .storePolling _ _ | .jobSetData _ _ => False
  | _ => True

theorem sameBracket_answer (c : Call δ) (w : World δ) (hc : Unbracketed c) :
    SameBracket w (World.answer c w).2 := by
  cases c with
  | storePolling | jobSetData => exact hc.elim
  | loadPolling uri =>
    refine ⟨funext fun u => ?_, rfl⟩
    simp only [pushMode, World.answer]
    by_cases hu : u = uri
    · rw [hu, Function.update_self, Option.getD_some]
    · rw [Function.update_of_ne hu]
  | printerOpenDevice uri =>
    simp only [World.answer]
    split <;> exact ⟨rfl, rfl⟩
  | _ => exact ⟨rfl, rfl⟩

theorem sameBracket_of_asks {α : Type} {p : Code δ α} (hp : p.Asks Unbracketed) (w : World δ) :
    SameBracket w (p.final w) :=
  run_of_asks SameBracket.refl (fun _ _ _ => SameBracket.trans) sameBracket_answer hp w

theorem setsBracket_store (on : Bool) (job : Job) (data : Option δ) (hdata : data.isSome = on)
    (w : World δ) :
    SetsBracket on job w (World.answer (.jobSetData job data)
      (World.answer (.storePolling job.printer on) w).2).2 := by
  refine ⟨funext fun u => ?_, funext fun j => ?_⟩
  · simp only [pushMode, World.answer]
    by_cases hu : u = job.printer
    · rw [hu, Function.update_self, Function.update_self, Option.getD_some]
    · rw [Function.update_of_ne hu, Function.update_of_ne hu, pushMode]
  · simp only [hasData, World.answer]
    by_cases hj : j = job
    · rw [hj, Function.update_self, Function.update_self, hdata]
    · rw [Function.update_of_ne hj, Function.update_of_ne hj, hasData]

theorem deviceCalls_unbracketed (device : Handle) :
    DeviceCalls (Unbracketed : Call δ → Prop) device :=
  ⟨⟨fun _ _ => trivial, trivial, trivial⟩, trivial, trivial⟩

theorem pageCalls_unbracketed (job : Job) (device : Handle) :
    PageCalls (Unbracketed : Call δ → Prop) job device :=
  ⟨fun _ _ => trivial, trivial, trivial, trivial, trivial⟩

theorem statusCalls_unbracketed (uri : String) :
    StatusCalls (Unbracketed : Call δ → Prop) uri :=
  ⟨⟨fun _ => trivial, fun _ => trivial⟩, fun _ => deviceCalls_unbracketed _, fun _ => trivial,
    trivial, trivial, trivial⟩

/-! ## What the callbacks do to the bracket -/

/-- A callback that moves the bracket of its job and reports whether it did. -/
def Brackets (on : Bool) (job : Job) (p : Code δ Bool) : Prop :=
  ∀ w, p.wp World.env (fun ok _ w' =>
    (ok = false → SameBracket w w') ∧ (ok = true → SetsBracket on job w w')) w

section Brackets

variable {on : Bool} {job : Job}

theorem brackets_false : Brackets on job (ret false : Code δ Bool) :=
  fun w => ⟨fun _ => SameBracket.refl w, fun h => absurd h Bool.false_ne_true⟩

theorem brackets_bind {α : Type} {p : Code δ α} {f : α → Code δ Bool}
    (hp : p.Asks Unbracketed) (hf : ∀ a, Brackets on job (f a)) : Brackets on job (p >>= f) := by
  intro w
  have hsame := sameBracket_of_asks hp w
  obtain ⟨hfalse, htrue⟩ := hf (p.value w) (p.final w)
  exact wp_bind.mpr ⟨fun h => hsame.trans (hfalse h), fun h => (htrue h).of_same hsame⟩

theorem brackets_store {data : Option δ} (hdata : data.isSome = on) :
    Brackets on job (do
      storePrinterStatusPolling job.printer on
      papplJobSetData job data
      return true) :=
  fun w => ⟨fun h => absurd h.symm Bool.false_ne_true,
    fun _ => setsBracket_store on job data hdata w⟩

end Brackets

variable (job : Job) (options : PrOptions) (device : Handle)

theorem brackets_endJob (printWithFeeding : List UInt8) :
    Brackets false job
      (endJob printWithFeeding (some job) (some options) (some device) : Code δ Bool) := by
  refine brackets_bind (asks_writeToDevice trivial trivial trivial) (fun ok => ?_)
  cases ok with
  | false => exact brackets_false
  | true =>
    refine brackets_bind (asks_poll ?_ _) (fun _ w => ?_)
    · exact asks_drainAttempt trivial
    · exact ⟨fun h => absurd h.symm Bool.false_ne_true,
        fun _ => setsBracket_store false job none rfl w⟩

/-- Nothing after the print command can keep `endJob` from returning true. -/
theorem value_endJob (printWithFeeding : List UInt8) (w : World δ)
    (h : TakesFirst printWithFeeding (w.script device.uri)) :
    (endJob printWithFeeding (some job) (some options) (some device)).value w = true := by
  rw [endJob, Code.value_bind, value_writeToDevice h]
  exact Code.value_bind _ _ _

namespace Driver

variable (d : Driver)

theorem brackets_startJob :
    Brackets true job (d.callbacks.startJob (some job) (some options) (some device)) := by
  rw [startJob_eq]
  refine brackets_bind (asks_call trivial) (fun did => ?_)
  cases did with
  | none => exact brackets_false
  | some did =>
    dsimp only
    split
    · exact brackets_false
    · refine brackets_bind (asks_writeCommands (fun _ _ => trivial) trivial trivial)
        (fun ok => ?_)
      cases ok with
      | false => exact brackets_false
      | true =>
        refine brackets_bind (asks_checkStatus (deviceCalls_unbracketed device) _) (fun ok => ?_)
        cases ok with
        | false => exact brackets_false
        | true => exact brackets_store rfl

theorem brackets_endJob :
    Brackets false job (d.callbacks.endJob (some job) (some options) (some device)) := by
  rw [endJob_eq]
  exact Drivers.brackets_endJob job options device _

theorem value_endJob (w : World d.JobData)
    (h : TakesFirst Commands.printWithFeeding (w.script device.uri)) :
    (d.callbacks.endJob (some job) (some options) (some device)).value w = true := by
  rw [endJob_eq]
  exact Drivers.value_endJob job options device _ w h

end Driver

/-! ## Over a session -/

/-- A printer is in push mode exactly while a job runs on it, and job data is
attached to exactly that job. -/
structure Bracketed (s : Session δ) : Prop where
  polling : ∀ uri, s.world.printerStatusPolling uri = some true ↔ (s.active uri).isSome
  data : ∀ job, (s.world.jobData job).isSome ↔ ∃ r, s.active job.printer = some r ∧ r.job = job.id

/-- The brackets that the running jobs call for. -/
def runs (active : String → Option Running) (uri : String) : Bool := (active uri).isSome

def runsJob (active : String → Option Running) (job : Job) : Bool :=
  (active job.printer).any fun r => r.job = job.id

theorem bracketed_iff (s : Session δ) : Bracketed s ↔
    pushMode s.world = runs s.active ∧ hasData s.world = runsJob s.active := by
  have hmode : ∀ uri, s.world.printerStatusPolling uri = some true ↔
      pushMode s.world uri = true := by
    intro uri
    rw [pushMode]
    rcases s.world.printerStatusPolling uri with _ | _ | _ <;> simp
  have hjob : ∀ job, runsJob s.active job = true ↔
      ∃ r, s.active job.printer = some r ∧ r.job = job.id := by
    intro job
    rw [runsJob, Option.any_eq_true]
    simp only [decide_eq_true_eq]
  constructor
  · intro h
    refine ⟨funext fun uri => Bool.eq_iff_iff.mpr ?_, funext fun job => Bool.eq_iff_iff.mpr ?_⟩
    · rw [← hmode, h.polling, runs]
    · rw [hasData, h.data, hjob]
  · rintro ⟨hpolling, hdata⟩
    constructor
    · intro uri
      rw [hmode, hpolling, runs]
    · intro job
      rw [← hjob, ← hdata, hasData]

section Active

variable (active : String → Option Running) (uri : String) (r : Running)

theorem runs_update (o : Option Running) :
    runs (Function.update active uri o) = Function.update (runs active) uri o.isSome := by
  funext u
  by_cases hu : u = uri
  · rw [hu, runs, Function.update_self, Function.update_self]
  · rw [runs, Function.update_of_ne hu, Function.update_of_ne hu, runs]

/-- Starting or ending `r` changes the jobs that run by `r` alone, because the
printer was idle before or is idle after. -/
theorem runsJob_update {o : Option Running}
    (h : active uri = none ∧ o = some r ∨ active uri = some r ∧ o = none) :
    runsJob (Function.update active uri o) =
      Function.update (runsJob active) ⟨uri, r.job⟩ o.isSome := by
  funext job
  by_cases hjob : job = ⟨uri, r.job⟩
  · rw [hjob, Function.update_self, runsJob, Function.update_self]
    rcases h with ⟨-, rfl⟩ | ⟨-, rfl⟩ <;> simp
  · rw [Function.update_of_ne hjob, runsJob, runsJob]
    by_cases hu : job.printer = uri
    · have hid : r.job ≠ job.id := by
        rintro hid
        exact hjob (by rw [← hu, hid])
      rw [hu, Function.update_self]
      rcases h with ⟨hactive, rfl⟩ | ⟨hactive, rfl⟩ <;> simp [hactive, hid]
    · rw [Function.update_of_ne hu]

end Active

/-- In `endJob` the device takes the print command. -/
def FeedTaken (_ : Session δ) (x : Step) : Prop :=
  match x.callback with
  | .endJob _ => TakesFirst Commands.printWithFeeding x.script
  | _ => True

theorem sameBracket_before (s : Session δ) (x : Step) : SameBracket s.world (s.before x) := by
  rw [Session.before_eq]
  exact ⟨rfl, rfl⟩

section After

variable {s : Session δ} {x : Step} {r : Running} {ok : Bool} {es : List (Event δ)} {w : World δ}

/-- A callback that keeps every bracket, and neither starts nor ends a job. -/
theorem Bracketed.after_same (hs : Bracketed s) (hw : SameBracket (s.before x) w)
    (hactive : (s.after x r ok es w).active = s.active) : Bracketed (s.after x r ok es w) := by
  have h := (sameBracket_before s x).trans hw
  rw [bracketed_iff] at hs
  rw [bracketed_iff, hactive]
  exact ⟨h.pushMode.trans hs.1, h.hasData.trans hs.2⟩

/-- A callback that moves the bracket of the job it starts or ends. -/
theorem Bracketed.after_sets (hs : Bracketed s) {on : Bool} {o : Option Running}
    (hw : SetsBracket on ⟨x.uri, r.job⟩ (s.before x) w) (hon : o.isSome = on)
    (ho : s.active x.uri = none ∧ o = some r ∨ s.active x.uri = some r ∧ o = none)
    (hactive : (s.after x r ok es w).active = Function.update s.active x.uri o) :
    Bracketed (s.after x r ok es w) := by
  have h := hw.of_same (sameBracket_before s x)
  rw [bracketed_iff] at hs
  rw [bracketed_iff, hactive, runs_update, runsJob_update _ _ r ho, hon, ← hs.1, ← hs.2]
  exact ⟨h.pushMode, h.hasData⟩

end After

theorem next_bracketed {d : Driver} {s : Session d.JobData} {x : Step} (hs : Bracketed s)
    (hx : FeedTaken s x) : Bracketed (s.next d.callbacks x) := by
  refine Session.next_rule hs (fun r ht => ?_)
  have hscript := Session.script_before s x
  obtain ⟨uri, callback, script⟩ := x
  have hasks : ∀ code : Code d.JobData Bool, code.Asks Unbracketed →
      (∀ ok es w, (s.after ⟨uri, callback, script⟩ r ok es w).active = s.active) →
      code.wp World.env (fun ok es w => Bracketed (s.after ⟨uri, callback, script⟩ r ok es w))
        (s.before ⟨uri, callback, script⟩) :=
    fun code hcode hactive => hs.after_same (sameBracket_of_asks hcode _) (hactive _ _ _)
  have hpage := pageCalls_unbracketed (δ := d.JobData) ⟨uri, r.job⟩ ⟨uri, r.device⟩
  cases callback with
  | startJob options =>
    obtain ⟨hidle, -⟩ := Session.idle_of_target ht
    refine wp_mono (Driver.brackets_startJob _ options _ d _) (fun ok es w h => ?_)
    cases ok with
    | false => exact hs.after_same (h.1 rfl) rfl
    | true => exact hs.after_sets (h.2 rfl) rfl (.inl ⟨hidle, rfl⟩) rfl
  | endJob options =>
    have hok := Driver.value_endJob ⟨uri, r.job⟩ options ⟨uri, r.device⟩ d
      (s.before ⟨uri, .endJob options, script⟩) (by rw [hscript]; exact hx)
    obtain ⟨-, htrue⟩ := Driver.brackets_endJob ⟨uri, r.job⟩ options ⟨uri, r.device⟩ d
      (s.before ⟨uri, .endJob options, script⟩)
    exact hs.after_sets (htrue hok) rfl (.inr ⟨ht, rfl⟩) rfl
  | startPage options pageNumber =>
    exact hasks _ (Driver.asks_startPage options hpage pageNumber) (fun _ _ _ => rfl)
  | writeLine options y pixels =>
    exact hasks _ (Driver.asks_writeLine options trivial
      (deviceCalls_unbracketed ⟨uri, r.device⟩).toLineCalls
      (statusCalls_unbracketed uri).toStatusStores y pixels) (fun _ _ _ => rfl)
  | endPage options pageNumber =>
    exact hasks _ (Driver.asks_endPage options hpage pageNumber) (fun _ _ _ => rfl)
  | getStatus =>
    exact hasks _ (Driver.asks_getStatus (statusCalls_unbracketed uri)) (fun _ _ _ => rfl)

/-- In every run in which `endJob` never loses its print command, the brackets
are right whenever no callback is executing. -/
theorem reachable_bracketed {d : Driver} {impressions : Job → Int32} {s : Session d.JobData}
    (h : s.Reachable d.callbacks impressions FeedTaken) : Bracketed s := by
  induction h with
  | init =>
    constructor
    · intro uri
      simp [Session.init, World.fresh]
    · intro job
      simp [Session.init, World.fresh]
  | next x h hx ih => exact next_bracketed ih hx

/-- One job of a TD-2020: it starts, and the device takes the print command of
`endJob` as `outcome` says. -/
def startAndEnd (outcome : WriteOutcome) : List Step :=
  [⟨"usb://TD-2020", .startJob oneLinePage, { ids := [some ⟨some "TD-2020"⟩] }⟩,
   ⟨"usb://TD-2020", .endJob oneLinePage, { writes := [outcome] }⟩]

theorem reachable_bracketed_startAndEnd :
    Bracketed (Session.run Driver.td2000.callbacks (fun _ => 1) (startAndEnd .complete)) := by
  refine reachable_bracketed (Session.reachable_run _ _ (fun x hx _ => ?_))
  simp only [startAndEnd, List.mem_cons, List.not_mem_nil, or_false] at hx
  rcases hx with rfl | rfl
  · exact trivial
  · show TakesFirst Commands.printWithFeeding { writes := [.complete] }
    decide

/-- A refused print command leaves the printer in push mode with no job on it. -/
theorem not_bracketed_startAndEnd :
    ¬∀ (d : Driver) (impressions : Job → Int32) (s : Session d.JobData),
      s.Reachable d.callbacks impressions Session.anyStep → Bracketed s := by
  intro h
  have hend := h .td2000 _ _ (Session.reachable_run Driver.td2000.callbacks (fun _ => 1)
    (fun x (_ : x ∈ startAndEnd .error) _ => trivial))
  have hpolling := (hend.polling "usb://TD-2020").mp (by decide +kernel)
  revert hpolling
  decide +kernel

end Drivers
end BrThermal
