/-
Interleaving programs over a shared state.

A pool holds one program per thread and the state all of them share.  One step
of thread `t` asks the next question of its program, so a schedule is a list of
threads and every interleaving is some schedule.  The question is the unit of
atomicity: what a program does between two questions touches nothing shared.

The second half is about isolation.  When every question concerns one site, an
answer depends only on that site's part of the state, and each thread keeps to
its own site, then the steps of other threads can be deleted from a schedule
without changing anything the remaining threads see.
-/
import Mathlib.Logic.Function.Basic
import BrThermal.Effect.Prog

namespace BrThermal
namespace Effect

/-- A shared state and one program per thread. -/
structure Pool (τ ι : Type) (ρ : ι → Type) (α σ : Type) where
  state : σ
  prog : τ → Prog ι ρ α

namespace Pool

variable {τ ι α σ : Type} {ρ : ι → Type}

/-- What the next step of thread `t` adds to the trace. -/
def event (h : Handler ι ρ σ) (c : Pool τ ι ρ α σ) (t : τ) : List (τ × Event ι ρ) :=
  match c.prog t with
  | .ret _ => []
  | .ask i _ => [(t, ⟨i, (h i c.state).1⟩)]

theorem event_ret {h : Handler ι ρ σ} {c : Pool τ ι ρ α σ} {t : τ} {a : α}
    (hp : c.prog t = .ret a) : c.event h t = [] := by
  rw [event, hp]

theorem event_ask {h : Handler ι ρ σ} {c : Pool τ ι ρ α σ} {t : τ} {i : ι}
    {k : ρ i → Prog ι ρ α} (hp : c.prog t = .ask i k) :
    c.event h t = [(t, ⟨i, (h i c.state).1⟩)] := by
  rw [event, hp]

variable [DecidableEq τ]

/-- Thread `t` asks its next question; a finished thread does nothing. -/
def step (h : Handler ι ρ σ) (c : Pool τ ι ρ α σ) (t : τ) : Pool τ ι ρ α σ :=
  match c.prog t with
  | .ret _ => c
  | .ask i k =>
    { state := (h i c.state).2, prog := Function.update c.prog t (k (h i c.state).1) }

def run (h : Handler ι ρ σ) : List τ → Pool τ ι ρ α σ → Pool τ ι ρ α σ
  | [], c => c
  | t :: ts, c => run h ts (c.step h t)

def trace (h : Handler ι ρ σ) : List τ → Pool τ ι ρ α σ → List (τ × Event ι ρ)
  | [], _ => []
  | t :: ts, c => c.event h t ++ trace h ts (c.step h t)

variable {h : Handler ι ρ σ} {c : Pool τ ι ρ α σ} {t : τ}

theorem step_ret {a : α} (hp : c.prog t = .ret a) : c.step h t = c := by
  rw [step, hp]

theorem step_ask {i : ι} {k : ρ i → Prog ι ρ α} (hp : c.prog t = .ask i k) :
    c.step h t = { state := (h i c.state).2,
                   prog := Function.update c.prog t (k (h i c.state).1) } := by
  rw [step, hp]

theorem step_state {i : ι} {k : ρ i → Prog ι ρ α} (hp : c.prog t = .ask i k) :
    (c.step h t).state = (h i c.state).2 := by
  rw [step_ask hp]

theorem step_prog_self {i : ι} {k : ρ i → Prog ι ρ α} (hp : c.prog t = .ask i k) :
    (c.step h t).prog t = k (h i c.state).1 := by
  rw [step_ask hp]
  exact Function.update_self _ _ _

theorem step_prog_of_ne {u : τ} (hu : u ≠ t) : (c.step h t).prog u = c.prog u := by
  cases hp : c.prog t with
  | ret a => rw [step_ret hp]
  | ask i k =>
    rw [step_ask hp]
    exact Function.update_of_ne hu _ _

/-! ## What the threads of a pool can ask -/

section Asks

variable {P : τ → ι → Prop}

theorem asks_step (hc : ∀ t, (c.prog t).Asks (P t)) (t : τ) :
    ∀ r, ((c.step h t).prog r).Asks (P r) := by
  intro r
  cases hp : c.prog t with
  | ret a =>
    rw [step_ret hp]
    exact hc r
  | ask i k =>
    rw [step_ask hp]
    by_cases hr : r = t
    · subst hr
      have hk := hc r
      rw [hp] at hk
      simp only [Function.update_self]
      exact hk.2 _
    · simp only [Function.update_of_ne hr]
      exact hc r

omit [DecidableEq τ] in
theorem event_of_asks (hc : ∀ t, (c.prog t).Asks (P t)) (t : τ) :
    ∀ e ∈ c.event h t, P e.1 e.2.1 := by
  intro e he
  cases hp : c.prog t with
  | ret a =>
    rw [event_ret hp] at he
    cases he
  | ask i k =>
    have hi := hc t
    rw [hp] at hi
    rw [event_ask hp, List.mem_singleton] at he
    rw [he]
    exact hi.1

/-- Every event of a schedule is one its thread could ask for. -/
theorem trace_of_asks (ts : List τ) (hc : ∀ t, (c.prog t).Asks (P t)) :
    ∀ e ∈ trace h ts c, P e.1 e.2.1 := by
  induction ts generalizing c with
  | nil =>
    intro e he
    cases he
  | cons t ts ih =>
    intro e he
    rw [trace, List.mem_append] at he
    rcases he with he | he
    · exact event_of_asks hc t e he
    · exact ih (asks_step hc t) e he

end Asks

/-! ## Isolation -/

section Isolation

variable {κ ν : Type}

/-- An environment split into sites: a question changes the view of its own site
only, and that site's view alone decides the answer and the change. -/
structure Local (h : Handler ι ρ σ) (site : ι → κ) (view : κ → σ → ν) : Prop where
  frame : ∀ i s u, site i ≠ u → view u (h i s).2 = view u s
  answer : ∀ i s s', view (site i) s = view (site i) s' → (h i s).1 = (h i s').1
  change : ∀ i s s', view (site i) s = view (site i) s' →
    view (site i) (h i s).2 = view (site i) (h i s').2

variable {site : ι → κ} {view : κ → σ → ν} {owner : τ → κ} {u : κ}

/-- Two pools that site `u` cannot tell apart. -/
structure Agree (view : κ → σ → ν) (owner : τ → κ) (u : κ) (c d : Pool τ ι ρ α σ) : Prop where
  state : view u c.state = view u d.state
  prog : ∀ t, owner t = u → c.prog t = d.prog t

/-- A step of a thread that belongs elsewhere is invisible at `u`. -/
theorem agree_step_other (hl : Local h site view) {c d : Pool τ ι ρ α σ}
    (hc : ∀ t, (c.prog t).Asks fun i => site i = owner t) (hcd : Agree view owner u c d)
    {t : τ} (ht : owner t ≠ u) : Agree view owner u (c.step h t) d := by
  refine ⟨?_, fun r hr => ?_⟩
  · cases hp : c.prog t with
    | ret a =>
      rw [step_ret hp]
      exact hcd.state
    | ask i k =>
      have hi := hc t
      rw [hp] at hi
      rw [step_ask hp, hl.frame i c.state u (by rw [hi.1]; exact ht)]
      exact hcd.state
  · rw [step_prog_of_ne (fun e => ht (by rw [← e]; exact hr))]
    exact hcd.prog r hr

/-- A step of one of `u`'s threads has the same event and effect in both pools. -/
theorem agree_step_own (hl : Local h site view) {c d : Pool τ ι ρ α σ}
    (hc : ∀ t, (c.prog t).Asks fun i => site i = owner t) (hcd : Agree view owner u c d)
    {t : τ} (ht : owner t = u) :
    c.event h t = d.event h t ∧ Agree view owner u (c.step h t) (d.step h t) := by
  have hprog := hcd.prog t ht
  cases hp : c.prog t with
  | ret a =>
    have hd : d.prog t = .ret a := hprog ▸ hp
    rw [event_ret hp, event_ret hd, step_ret hp, step_ret hd]
    exact ⟨rfl, hcd⟩
  | ask i k =>
    have hd : d.prog t = .ask i k := hprog ▸ hp
    have hi := hc t
    rw [hp] at hi
    have hsite : site i = u := hi.1.trans ht
    have hview : view (site i) c.state = view (site i) d.state := by
      rw [hsite]
      exact hcd.state
    have hans := hl.answer i _ _ hview
    rw [event_ask hp, event_ask hd, step_ask hp, step_ask hd, hans]
    refine ⟨rfl, ?_, fun r hr => ?_⟩
    · have hchange := hl.change i _ _ hview
      rw [hsite] at hchange
      exact hchange
    · by_cases hrt : r = t
      · subst hrt
        simp only [Function.update_self]
      · simp only [Function.update_of_ne hrt]
        exact hcd.prog r hr

omit [DecidableEq τ] in
/-- A step adds to the trace of its own site alone. -/
theorem filter_event [DecidableEq κ] (c : Pool τ ι ρ α σ) (t : τ) :
    (c.event h t).filter (fun e => owner e.1 = u) = if owner t = u then c.event h t else [] := by
  cases hp : c.prog t with
  | ret a =>
    rw [event_ret hp]
    split <;> rfl
  | ask i k =>
    rw [event_ask hp]
    by_cases ht : owner t = u
    · rw [if_pos ht]
      exact List.filter_cons_of_pos (decide_eq_true ht)
    · rw [if_neg ht]
      exact List.filter_cons_of_neg (fun h => ht (of_decide_eq_true h))

/-- Deleting the steps of every other site's threads from a schedule changes
neither what site `u` sees of the state, nor the programs of its threads, nor
their events. -/
theorem run_isolated [DecidableEq κ] (hl : Local h site view) (ts : List τ) {c d : Pool τ ι ρ α σ}
    (hc : ∀ t, (c.prog t).Asks fun i => site i = owner t) (hcd : Agree view owner u c d) :
    Agree view owner u (run h ts c) (run h (ts.filter fun t => owner t = u) d) ∧
      (trace h ts c).filter (fun e => owner e.1 = u) =
        trace h (ts.filter fun t => owner t = u) d := by
  induction ts generalizing c d with
  | nil => exact ⟨hcd, rfl⟩
  | cons t ts ih =>
    have hstep := asks_step (h := h) hc t
    by_cases ht : owner t = u
    · obtain ⟨hev, hag⟩ := agree_step_own hl hc hcd ht
      obtain ⟨hrun, htrace⟩ := ih hstep hag
      have hown : (c.event h t).filter (fun e => owner e.1 = u) = d.event h t := by
        rw [filter_event, if_pos ht, hev]
      have hkeep : (t :: ts).filter (fun t => owner t = u) =
          t :: ts.filter (fun t => owner t = u) := by simp [ht]
      rw [hkeep]
      simp only [run, trace, List.filter_append, hown, htrace]
      exact ⟨hrun, trivial⟩
    · obtain ⟨hrun, htrace⟩ := ih hstep (agree_step_other hl hc hcd ht)
      have hother : (c.event h t).filter (fun e => owner e.1 = u) = [] := by
        rw [filter_event, if_neg ht]
      have hdrop : (t :: ts).filter (fun t => owner t = u) =
          ts.filter (fun t => owner t = u) := by simp [ht]
      rw [hdrop]
      simp only [run, trace, List.filter_append, hother, htrace, List.nil_append]
      exact ⟨hrun, trivial⟩

end Isolation

end Pool
end Effect
end BrThermal
