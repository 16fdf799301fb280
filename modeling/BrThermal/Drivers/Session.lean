/-
Runs of callbacks in PAPPL's order.

A session is the world together with what PAPPL itself keeps: the job it is
running on each printer and the connection it opened for that job.  A step calls
one callback for one printer while the device follows the step's script.  Jobs on
one printer do not overlap: `startJob` is called when none is running, the page
callbacks and `endJob` only while one is, and `getStatus` at any time.  A job
whose `startJob` returned false never runs, and one that runs is over once
`endJob` has been called, whatever it returned.
-/
import BrThermal.Drivers.Footprint
import BrThermal.Pappl.View

namespace BrThermal
namespace Drivers

open Effect Effect.Prog Pappl

structure Running where
  job : Nat
  device : Nat
deriving DecidableEq

structure Step where
  uri : String
  callback : Callback
  script : DeviceScript := {}

structure Session (δ : Type) where
  world : World δ
  active : String → Option Running
  /-- The number of jobs each printer was given so far. -/
  jobs : String → Nat
  /-- Every call the callbacks made, in order. -/
  log : List (Event δ)

namespace Session

variable {δ : Type}

def init (impressions : Job → Int32) : Session δ where
  world := .fresh impressions
  active := fun _ => none
  jobs := fun _ => 0
  log := []

/-- The job and the connection a step is about, `none` where PAPPL does not make
the call.  A new job has the next number and a connection of its own. -/
def target (s : Session δ) (x : Step) : Option Running :=
  let fresh : Running := ⟨s.jobs x.uri, s.world.handles x.uri⟩
  match x.callback with
  | .startJob _ => if s.active x.uri = none then some fresh else none
  | .getStatus => some fresh
  | _ => s.active x.uri

/-- The world in which the callback starts. -/
def before (s : Session δ) (x : Step) : World δ :=
  let w := s.world.withScript x.uri x.script
  match x.callback with
  | .startJob _ =>
    { w with handles := Function.update w.handles x.uri (w.handles x.uri + 1) }
  | _ => w

/-- The session after a callback returned `ok`, made the calls `es` and left `w`. -/
def after (s : Session δ) (x : Step) (r : Running) (ok : Bool) (es : List (Event δ))
    (w : World δ) : Session δ where
  world := w
  active :=
    match x.callback with
    | .startJob _ => if ok then Function.update s.active x.uri (some r) else s.active
    | .endJob _ => Function.update s.active x.uri none
    | _ => s.active
  jobs :=
    match x.callback with
    | .startJob _ => Function.update s.jobs x.uri (s.jobs x.uri + 1)
    | _ => s.jobs
  log := s.log ++ es

def next (callbacks : Callbacks δ) (s : Session δ) (x : Step) : Session δ :=
  match s.target x with
  | none => s
  | some r =>
    let code := callbacks.code x.uri r.job r.device x.callback
    s.after x r (code.value (s.before x)) (code.trace (s.before x)) (code.final (s.before x))

/-- What a callback is known to do is known of the step that makes it. -/
theorem next_rule {callbacks : Callbacks δ} {s : Session δ} {x : Step} {Q : Session δ → Prop}
    (hnone : Q s)
    (hsome : ∀ r, s.target x = some r →
      (callbacks.code x.uri r.job r.device x.callback).wp World.env
        (fun ok es w => Q (s.after x r ok es w)) (s.before x)) :
    Q (s.next callbacks x) := by
  cases ht : s.target x with
  | none =>
    rw [next, ht]
    exact hnone
  | some r =>
    rw [next, ht]
    exact hsome r ht

/-- A job starts only on an idle printer. -/
theorem idle_of_target {s : Session δ} {uri : String} {options : PrOptions}
    {script : DeviceScript} {r : Running}
    (h : s.target ⟨uri, .startJob options, script⟩ = some r) :
    s.active uri = none ∧ r = ⟨s.jobs uri, s.world.handles uri⟩ := by
  simp only [target] at h
  split at h
  case isTrue hidle => exact ⟨hidle, (Option.some.inj h).symm⟩
  case isFalse => cases h

theorem target_of_page (s : Session δ) {x : Step} (hx : x.callback.OfPage) :
    s.target x = s.active x.uri := by
  cases hc : x.callback with
  | startPage | writeLine | endPage => simp only [target, hc]
  | startJob | endJob | getStatus =>
    rw [hc] at hx
    exact hx.elim

section After

variable (s : Session δ) {x : Step} {r : Running} {ok : Bool} {es : List (Event δ)} {w : World δ}

theorem active_after_of_page (hx : x.callback.OfPage) :
    (s.after x r ok es w).active = s.active := by
  cases hc : x.callback with
  | startPage | writeLine | endPage => simp only [after, hc]
  | startJob | endJob | getStatus =>
    rw [hc] at hx
    exact hx.elim

/-- A step starts and ends no job of another printer. -/
theorem active_after_of_ne {u : String} (hu : u ≠ x.uri) :
    (s.after x r ok es w).active u = s.active u := by
  cases hc : x.callback with
  | startJob options =>
    simp only [after, hc]
    split
    · rw [Function.update_of_ne hu]
    · rfl
  | endJob options => simp only [after, hc, Function.update_of_ne hu]
  | _ => simp only [after, hc]

end After

/-- Before a callback only its script is handed to the device, and a handle to a job. -/
theorem before_eq (s : Session δ) (x : Step) :
    s.before x =
      { s.world with script := (s.before x).script, handles := (s.before x).handles } := by
  cases hx : x.callback <;> simp only [before, hx, World.withScript]

theorem view_before_of_ne (s : Session δ) (x : Step) {uri : String} (hne : uri ≠ x.uri) :
    World.view uri (s.before x) = World.view uri s.world := by
  cases hx : x.callback <;>
    simp only [before, hx, World.view, World.withScript, Function.update_of_ne hne]

theorem script_before (s : Session δ) (x : Step) : (s.before x).script x.uri = x.script := by
  cases hx : x.callback <;> simp only [before, hx, World.withScript, Function.update_self]

/-- The sessions some run leads to, when every step of it satisfies `meets`. -/
inductive Reachable (callbacks : Callbacks δ) (impressions : Job → Int32)
    (meets : Session δ → Step → Prop) : Session δ → Prop
  | init : Reachable callbacks impressions meets (init impressions)
  | next {s : Session δ} (x : Step) (h : Reachable callbacks impressions meets s)
      (hx : meets s x) : Reachable callbacks impressions meets (s.next callbacks x)

/-- No condition on the steps: every run. -/
def anyStep (_ : Session δ) (_ : Step) : Prop := True

def run (callbacks : Callbacks δ) (impressions : Job → Int32) (steps : List Step) : Session δ :=
  steps.foldl (fun s x => s.next callbacks x) (init impressions)

theorem reachable_run (callbacks : Callbacks δ) (impressions : Job → Int32)
    {meets : Session δ → Step → Prop} {steps : List Step} (h : ∀ x ∈ steps, ∀ s, meets s x) :
    Reachable callbacks impressions meets (run callbacks impressions steps) := by
  induction steps using List.reverseRecOn with
  | nil => exact .init
  | append_singleton steps x ih =>
    rw [run, List.foldl_append, List.foldl_cons, List.foldl_nil]
    exact .next x (ih fun y hy => h y (List.mem_append_left _ hy))
      (h x (List.mem_append_right _ List.mem_cons_self) _)

end Session

end Drivers
end BrThermal
