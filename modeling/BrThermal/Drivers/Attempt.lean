/-
A job as far as it gets.

PAPPL calls the callbacks of a job one after another until one returns false.  What
such an attempt leaves behind is told from what each callback leaves behind: a fact
about steps and their log that adds up is proved once for a callback of a page and
once for `startJob` and `endJob`, on any device, whatever it takes, refuses and
reports.
-/
import BrThermal.Drivers.Delivery

namespace BrThermal
namespace Drivers

open Effect Effect.Prog Pappl

namespace Session

variable {δ : Type} (callbacks : Callbacks δ)

/-- What the callback of a step returns; a call that PAPPL does not make counts as
one that fails. -/
def returned (s : Session δ) (x : Step) : Bool :=
  match s.target x with
  | none => false
  | some r => (callbacks.code x.uri r.job r.device x.callback).value (s.before x)

/-- The steps up to and with the first that does not return true, and whether all of
them did. -/
def attempt (s : Session δ) : List Step → Session δ × Bool
  | [] => (s, true)
  | x :: xs =>
    if s.returned callbacks x then (s.next callbacks x).attempt xs
    else (s.next callbacks x, false)

variable {callbacks} {s : Session δ} {x : Step} {xs ys : List Step}

theorem attempt_cons_of_true (h : s.returned callbacks x = true) :
    s.attempt callbacks (x :: xs) = (s.next callbacks x).attempt callbacks xs := if_pos h

theorem attempt_cons_of_false (h : s.returned callbacks x = false) :
    s.attempt callbacks (x :: xs) = (s.next callbacks x, false) := by
  rw [attempt, h, if_neg Bool.false_ne_true]

/-- Steps that all succeed are followed by the rest. -/
theorem attempt_append_of_true (h : (s.attempt callbacks xs).2 = true) :
    s.attempt callbacks (xs ++ ys) = (s.attempt callbacks xs).1.attempt callbacks ys := by
  induction xs generalizing s with
  | nil => rfl
  | cons x xs ih =>
    cases hx : s.returned callbacks x with
    | true =>
      rw [attempt_cons_of_true hx] at h ⊢
      rw [List.cons_append, attempt_cons_of_true hx]
      exact ih h
    | false =>
      rw [attempt_cons_of_false hx] at h
      exact absurd h Bool.false_ne_true

/-- A failure is the end. -/
theorem attempt_append_of_false (h : (s.attempt callbacks xs).2 = false) :
    s.attempt callbacks (xs ++ ys) = s.attempt callbacks xs := by
  induction xs generalizing s with
  | nil => exact absurd h.symm Bool.false_ne_true
  | cons x xs ih =>
    cases hx : s.returned callbacks x with
    | true =>
      rw [attempt_cons_of_true hx] at h ⊢
      rw [List.cons_append, attempt_cons_of_true hx]
      exact ih h
    | false => rw [List.cons_append, attempt_cons_of_false hx, attempt_cons_of_false hx]

theorem attempt_of_true (h : (s.attempt callbacks xs).2 = true) :
    (s.attempt callbacks xs).1 = s.runFrom callbacks xs := by
  induction xs generalizing s with
  | nil => rfl
  | cons x xs ih =>
    cases hx : s.returned callbacks x with
    | true =>
      rw [attempt_cons_of_true hx] at h ⊢
      exact ih h
    | false =>
      rw [attempt_cons_of_false hx] at h
      exact absurd h Bool.false_ne_true

/-- What a callback is known to do is known of its step. -/
theorem next_of_target {r : Running} (ht : s.target x = some r)
    {Q : Bool → List (Event δ) → World δ → Prop}
    (h : (callbacks.code x.uri r.job r.device x.callback).wp World.env Q (s.before x)) :
    ∃ es w, Q (s.returned callbacks x) es w ∧
      s.next callbacks x = s.after x r (s.returned callbacks x) es w := by
  rw [returned, next, ht]
  exact ⟨_, _, h, rfl⟩

end Session

/-! ## Rules for attempts -/

section Rules

variable {δ : Type} {callbacks : Callbacks δ} {s : Session δ} {x : Step} {xs ys : List Step}

/-- Facts about steps and the log they leave that add up along an attempt. -/
structure AddsUp (P : List Step → Bool → List (Event δ) → Prop) : Prop where
  nil : P [] true []
  append : ∀ {xs ys ok es es'}, P xs true es → P ys ok es' → P (xs ++ ys) ok (es ++ es')
  stop : ∀ {xs es} ys, P xs false es → P (xs ++ ys) false es

/-- The attempt leaves a log of which `P` holds, and where it succeeds a session of
which `J` holds. -/
def Attempts (callbacks : Callbacks δ) (P : List Step → Bool → List (Event δ) → Prop)
    (s : Session δ) (xs : List Step) (J : Session δ → Prop) : Prop :=
  ∃ es, (s.attempt callbacks xs).1.log = s.log ++ es ∧ P xs (s.attempt callbacks xs).2 es ∧
    ((s.attempt callbacks xs).2 = true → J (s.attempt callbacks xs).1)

variable {P : List Step → Bool → List (Event δ) → Prop} {I J : Session δ → Prop}

theorem attempts_append (hP : AddsUp P) (h : Attempts callbacks P s xs I)
    (h' : ∀ s', I s' → Attempts callbacks P s' ys J) : Attempts callbacks P s (xs ++ ys) J := by
  obtain ⟨es, hlog, hes, hI⟩ := h
  cases hok : (s.attempt callbacks xs).2 with
  | true =>
    obtain ⟨es', hlog', hes', hJ⟩ := h' _ (hI hok)
    rw [hok] at hes
    rw [Attempts, Session.attempt_append_of_true hok]
    refine ⟨es ++ es', ?_, hP.append hes hes', hJ⟩
    rw [hlog', hlog, List.append_assoc]
  | false =>
    rw [hok] at hes
    rw [Attempts, Session.attempt_append_of_false hok, hok]
    exact ⟨es, hlog, hP.stop ys hes, fun h => absurd h Bool.false_ne_true⟩

theorem attempts_single {r : Running} (ht : s.target x = some r)
    (h : (callbacks.code x.uri r.job r.device x.callback).wp World.env
      (fun ok es w => P [x] ok es ∧ (ok = true → J (s.after x r ok es w))) (s.before x)) :
    Attempts callbacks P s [x] J := by
  obtain ⟨es, w, ⟨hes, hJ⟩, hnext⟩ := Session.next_of_target ht h
  cases hok : s.returned callbacks x with
  | true =>
    rw [hok] at hes hJ hnext
    rw [Attempts, Session.attempt_cons_of_true hok, Session.attempt, hnext]
    exact ⟨es, rfl, hes, hJ⟩
  | false =>
    rw [hok] at hes hnext
    rw [Attempts, Session.attempt_cons_of_false hok, hnext]
    exact ⟨es, rfl, hes, fun h => absurd h Bool.false_ne_true⟩

/-- An invariant that every step keeps. -/
theorem attempts_forall (hP : AddsUp P)
    (hstep : ∀ s x, x ∈ xs → I s → Attempts callbacks P s [x] I) (hs : I s) :
    Attempts callbacks P s xs I := by
  induction xs generalizing s with
  | nil => exact ⟨[], (List.append_nil _).symm, hP.nil, fun _ => hs⟩
  | cons x xs ih =>
    show Attempts callbacks P s ([x] ++ xs) I
    refine attempts_append hP (hstep s x List.mem_cons_self hs) (fun s' hs' => ?_)
    exact ih (fun s y hy => hstep s y (List.mem_cons_of_mem _ hy)) hs'

end Rules

/-! ## The steps of a job -/

section Job

variable {d : Driver} {uri : String}

/-- The steps of one job on an idle printer whose device ID names one of the driver's
models.  The device may do anything else. -/
structure JobSteps (d : Driver) (s : Session d.JobData) (uri : String) (options : PrOptions)
    (pages : List JobPage) (name : String) (model : d.Model) (steps : List Step) : Prop where
  idle : s.active uri = none
  callbacks : steps.map Step.callback = jobCallbacks options pages
  uri : ∀ x ∈ steps, x.uri = uri
  model : d.modelMap.lookup name = some model
  identified : ∀ x ∈ steps.head?, x.script.ids.headD none = some ⟨some name⟩

/-- The commands that a callback of a job is to send, one write each. -/
def Driver.writes (d : Driver) (model : d.Model) (pageCount : UInt32) :
    Callback → List (List UInt8)
  | .startJob _ => d.startCommands model
  | .startPage options pageNumber =>
    (d.pageCommands (d.jobData model) options pageNumber).getD []
  | .writeLine options _ pixels => [d.rasterCommand (d.jobData model) options.header pixels]
  | .endPage _ pageNumber => if pageNumber < pageCount - 1 then [Commands.print] else []
  | .endJob _ => [Commands.printWithFeeding]
  | .getStatus => []

/-- The commands of a job. -/
def Driver.jobWrites (d : Driver) (model : d.Model) (pageCount : UInt32) (options : PrOptions)
    (pages : List JobPage) : List (List UInt8) :=
  (jobCallbacks options pages).flatMap (d.writes model pageCount)

theorem flatten_writes {c : Callback} (hc : c.OfPage) (model : d.Model) (pageCount : UInt32) :
    (d.writes model pageCount c).flatten = d.sent (d.jobData model) pageCount c := by
  cases c with
  | startPage => rfl
  | writeLine => exact List.flatten_singleton
  | endPage =>
    rw [Driver.writes, Driver.sent]
    split <;> rfl
  | startJob | endJob | getStatus => exact hc.elim

theorem flatten_flatMap_writes (model : d.Model) (pageCount : UInt32) {callbacks : List Callback}
    (h : ∀ c ∈ callbacks, c.OfPage) :
    (callbacks.flatMap (d.writes model pageCount)).flatten =
      callbacks.flatMap (d.sent (d.jobData model) pageCount) := by
  induction callbacks with
  | nil => rfl
  | cons c callbacks ih =>
    rw [List.flatMap_cons, List.flatMap_cons, List.flatten_append,
      flatten_writes (h c List.mem_cons_self) model pageCount,
      ih fun c hc => h c (List.mem_cons_of_mem _ hc)]

/-- The bytes of the commands of a job are the bytes of the job. -/
theorem flatten_jobWrites (model : d.Model) (pageCount : UInt32) (options : PrOptions)
    (pages : List JobPage) :
    (d.jobWrites model pageCount options pages).flatten = d.jobBytes model pageCount pages := by
  rw [Driver.jobWrites, jobCallbacks, List.flatMap_cons, List.flatMap_append, List.flatten_append,
    List.flatten_append, flatten_flatMap_writes model pageCount fun c hc => ofPage_of_mem hc,
    Driver.jobBytes]
  rfl

variable {r : Running} {jobData : d.JobData} {impressions : Int32} {s : Session d.JobData}

theorem inJob_after {x : Step} {ok : Bool} {es : List (Event d.JobData)} {w : World d.JobData}
    (h : InJob d uri r jobData impressions s) (hpage : x.callback.OfPage)
    (hdata : w.jobData = s.world.jobData) (himp : w.impressions = s.world.impressions) :
    InJob d uri r jobData impressions (s.after x r ok es w) where
  active := by
    rw [s.active_after_of_page hpage]
    exact h.active
  data := (congrFun hdata _).trans h.data
  impressions := (congrFun himp _).trans h.impressions

variable {P : List Step → Bool → List (Event d.JobData) → Prop}

/-- What holds of every callback of a page, run on the job's data, holds along the pages. -/
theorem attempts_pages (hP : AddsUp P) {steps : List Step}
    (hpages : ∀ x ∈ steps, x.uri = uri ∧ x.callback.OfPage)
    (hcode : ∀ x ∈ steps, ∀ w : World d.JobData, w.script uri = x.script →
      w.jobData ⟨uri, r.job⟩ = some jobData → w.impressions ⟨uri, r.job⟩ = impressions →
        (d.callbacks.code uri r.job r.device x.callback).wp World.env (fun ok es _ => P [x] ok es) w)
    (h : InJob d uri r jobData impressions s) :
    Attempts d.callbacks P s steps (InJob d uri r jobData impressions) := by
  refine attempts_forall hP (fun s x hx h => ?_) h
  obtain ⟨rfl, hpage⟩ := hpages x hx
  have hbefore := s.before_eq x
  have hdata : (s.before x).jobData = s.world.jobData := by rw [hbefore]
  have himp : (s.before x).impressions = s.world.impressions := by rw [hbefore]
  apply attempts_single ((s.target_of_page hpage).trans h.active)
  refine wp_and (hcode x hx _ (s.script_before x) (by rw [hdata]; exact h.data)
    (by rw [himp]; exact h.impressions)) (fun _ => ?_)
  exact inJob_after h hpage ((jobData_final (code_keepsJobData hpage) _).trans hdata)
    ((impressions_final _ _).trans himp)

/-- The first callback of the job. -/
theorem attempts_start {K : Nat → Prop} {x : Step} {options : PrOptions} {name : String}
    {model : d.Model} (hs : BreaksAt K x.script) (hidle : s.active uri = none)
    (hx : x.uri = uri) (hc : x.callback = .startJob options)
    (hmodel : d.modelMap.lookup name = some model)
    (hid : x.script.ids.headD none = some ⟨some name⟩)
    (hP : ∀ ok es, Delivers K (d.startCommands model) ok es → P [x] ok es) :
    Attempts d.callbacks P s [x] (InJob d uri ⟨s.jobs uri, s.world.handles uri⟩
      (d.jobData model) (s.world.impressions ⟨uri, s.jobs uri⟩)) := by
  obtain ⟨u, callback, script⟩ := x
  obtain rfl : u = uri := hx
  obtain rfl : callback = .startJob options := hc
  have hscript := s.script_before ⟨u, .startJob options, script⟩
  have htarget : s.target ⟨u, .startJob options, script⟩ =
      some ⟨s.jobs u, s.world.handles u⟩ := if_pos hidle
  have hcounts : (d.callbacks.code u (s.jobs u) (s.world.handles u) (.startJob options)).wp
      World.env (fun _ _ w => w.impressions = s.world.impressions)
      (s.before ⟨u, .startJob options, script⟩) := impressions_final _ _
  have hstart := startJob_delivers (d := d) ⟨u, s.jobs u⟩ ⟨u, s.world.handles u⟩ options
    (hscript ▸ hs) (hscript ▸ hid) hmodel
  apply attempts_single htarget
  refine wp_mono (wp_and hstart hcounts) (fun ok es w h => ?_)
  obtain ⟨⟨hdelivers, hdata⟩, himp⟩ := h
  refine ⟨hP ok es hdelivers, ?_⟩
  rintro rfl
  exact ⟨Function.update_self _ _ _, hdata rfl, congrFun himp _⟩

/-- The last callback of the job. -/
theorem attempts_end {K : Nat → Prop} {x : Step} {options : PrOptions}
    (hs : BreaksAt K x.script) (hx : x.uri = uri) (hc : x.callback = .endJob options)
    (hP : ∀ ok es, Delivers K [Commands.printWithFeeding] ok es → P [x] ok es)
    (h : InJob d uri r jobData impressions s) :
    Attempts d.callbacks P s [x] fun _ => True := by
  obtain ⟨u, callback, script⟩ := x
  obtain rfl : u = uri := hx
  obtain rfl : callback = .endJob options := hc
  have htarget : s.target ⟨u, .endJob options, script⟩ = some r := h.active
  have hscript := s.script_before ⟨u, .endJob options, script⟩
  apply attempts_single htarget
  exact wp_mono (endJob_delivers options (hscript ▸ hs)) fun ok es _ hes =>
    ⟨hP ok es hes, fun _ => trivial⟩

/-- What holds of each callback after `startJob` holds along the rest of a job. -/
theorem attempts_rest {K : Nat → Prop} {options : PrOptions} {pages : List JobPage}
    {steps : List Step} (hP : AddsUp P)
    (hcallbacks : steps.map Step.callback = pageCallbacks 0 pages ++ [.endJob options])
    (huri : ∀ x ∈ steps, x.uri = uri) (hs : ∀ x ∈ steps, BreaksAt K x.script)
    (hends : ∀ x ∈ steps, x.callback = .endJob options → ∀ ok es,
      Delivers K [Commands.printWithFeeding] ok es → P [x] ok es)
    (hcode : ∀ x ∈ steps, x.callback.OfPage → ∀ w : World d.JobData, w.script uri = x.script →
      w.jobData ⟨uri, r.job⟩ = some jobData → w.impressions ⟨uri, r.job⟩ = impressions →
        (d.callbacks.code uri r.job r.device x.callback).wp World.env (fun ok es _ => P [x] ok es) w)
    (h : InJob d uri r jobData impressions s) :
    Attempts d.callbacks P s steps fun _ => True := by
  obtain ⟨middle, last, rfl, hmiddle, hlast⟩ := List.map_eq_append_iff.mp hcallbacks
  obtain ⟨last, _, rfl, hend, hnil⟩ := List.map_eq_cons_iff.mp hlast
  obtain rfl := List.map_eq_nil_iff.mp hnil
  have hpages : ∀ x ∈ middle, x.uri = uri ∧ x.callback.OfPage := by
    intro x hx
    have hmem : x.callback ∈ pageCallbacks 0 pages := hmiddle ▸ List.mem_map_of_mem hx
    exact ⟨huri x (List.mem_append_left _ hx), ofPage_of_mem hmem⟩
  have hmem : last ∈ middle ++ [last] := List.mem_append_right _ List.mem_cons_self
  refine attempts_append hP (attempts_pages hP hpages (fun x hx =>
    hcode x (List.mem_append_left _ hx) (hpages x hx).2) h) (fun s' hs' => ?_)
  exact attempts_end (hs last hmem) (huri last hmem) hend (hends last hmem hend) hs'

/-- What holds of each callback of a job holds along the job. -/
theorem attempts_job {K : Nat → Prop} {options : PrOptions} {pages : List JobPage} {name : String}
    {model : d.Model} {steps : List Step} (h : JobSteps d s uri options pages name model steps)
    (hP : AddsUp P) (hs : ∀ x ∈ steps, BreaksAt K x.script)
    (hends : ∀ x ∈ steps, ¬x.callback.OfPage → ∀ ok es, Delivers K (d.writes model
      (s.world.impressions ⟨uri, s.jobs uri⟩).toUInt32 x.callback) ok es → P [x] ok es)
    (hcode : ∀ x ∈ steps, x.callback.OfPage → ∀ w : World d.JobData, w.script uri = x.script →
      w.jobData ⟨uri, s.jobs uri⟩ = some (d.jobData model) →
      w.impressions ⟨uri, s.jobs uri⟩ = s.world.impressions ⟨uri, s.jobs uri⟩ →
        (d.callbacks.code uri (s.jobs uri) (s.world.handles uri) x.callback).wp World.env
          (fun ok es _ => P [x] ok es) w) :
    Attempts d.callbacks P s steps fun _ => True := by
  obtain ⟨first, rest, rfl, hfirst, hrest⟩ := List.map_eq_cons_iff.mp h.callbacks
  have hmem : first ∈ first :: rest := List.mem_cons_self
  have hstarts := hends first hmem (by
    rw [hfirst]
    exact id)
  rw [hfirst] at hstarts
  have hstart := attempts_start (hs first hmem) h.idle (h.uri first hmem) hfirst h.model
    (h.identified first rfl) hstarts
  refine attempts_append hP hstart (fun s' hs' => ?_)
  refine attempts_rest hP hrest (fun x hx => h.uri x (List.mem_cons_of_mem _ hx))
    (fun x hx => hs x (List.mem_cons_of_mem _ hx)) (fun x hx hend => ?_)
    (fun x hx => hcode x (List.mem_cons_of_mem _ hx)) hs'
  have hstops := hends x (List.mem_cons_of_mem _ hx) (by
    rw [hend]
    exact id)
  rw [hend] at hstops
  exact hstops

end Job

end Drivers
end BrThermal
