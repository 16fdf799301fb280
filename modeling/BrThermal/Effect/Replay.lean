/-
A thread of a pool, run again alone.

Other threads of a pool reach a thread only through the answers it gets.  So what a
thread did in a schedule it also does alone, in a state of its own that gives it the
same answers, and whatever is known of its runs alone is known of its part in every
schedule.  `Mimics` is what such a state must keep up with: it gives the answers that
are still to come, follows the thread's own questions, and does not mind the questions
of the others.
-/
import BrThermal.Effect.Threads

namespace BrThermal
namespace Effect
namespace Pool

variable {τ ι α σ : Type} {ρ : ι → Type}

/-- The events of thread `t`. -/
def eventsOf [DecidableEq τ] (t : τ) (trace : List (τ × Event ι ρ)) : List (Event ι ρ) :=
  (trace.filter fun e => e.1 = t).map Prod.snd

section EventsOf

variable [DecidableEq τ] {t : τ}

theorem eventsOf_append (xs ys : List (τ × Event ι ρ)) :
    eventsOf t (xs ++ ys) = eventsOf t xs ++ eventsOf t ys := by
  rw [eventsOf, List.filter_append, List.map_append]
  rfl

theorem eventsOf_event_self (h : Handler ι ρ σ) (c : Pool τ ι ρ α σ) :
    eventsOf t (c.event h t) = (c.event h t).map Prod.snd := by
  cases hp : c.prog t with
  | ret a =>
    rw [event_ret hp]
    rfl
  | ask i k =>
    rw [event_ask hp]
    exact congrArg (List.map Prod.snd) (List.filter_cons_of_pos (decide_eq_true rfl))

theorem eventsOf_event_of_ne (h : Handler ι ρ σ) (c : Pool τ ι ρ α σ) {u : τ} (hu : u ≠ t) :
    eventsOf t (c.event h u) = [] := by
  cases hp : c.prog u with
  | ret a =>
    rw [event_ret hp]
    rfl
  | ask i k =>
    rw [event_ask hp]
    exact congrArg (List.map Prod.snd)
      (List.filter_cons_of_neg fun heq => hu (of_decide_eq_true heq))

theorem mem_of_mem_eventsOf {trace : List (τ × Event ι ρ)} {e : Event ι ρ}
    (h : e ∈ eventsOf t trace) : (t, e) ∈ trace := by
  obtain ⟨⟨u, e⟩, hmem, rfl⟩ := List.mem_map.mp h
  obtain ⟨htrace, hu⟩ := List.mem_filter.mp hmem
  obtain rfl : u = t := of_decide_eq_true hu
  exact htrace

/-- Leaving out events of other threads alone. -/
theorem eventsOf_filter {trace : List (τ × Event ι ρ)} {keep : τ × Event ι ρ → Bool}
    (h : ∀ e ∈ trace, e.1 = t → keep e = true) :
    eventsOf t (trace.filter keep) = eventsOf t trace := by
  rw [eventsOf, List.filter_filter, eventsOf]
  refine congrArg (List.map Prod.snd) (List.filter_congr fun e he => ?_)
  by_cases ht : e.1 = t
  · rw [h e he ht, Bool.and_true]
  · rw [decide_eq_false ht, Bool.false_and]

end EventsOf

/-- `M es s' s`: in the private state `s'` thread `t` is answered as in `s`, where its
answers will be those of `es`. -/
structure Mimics (h : Handler ι ρ σ) (P : τ → ι → Prop) (t : τ)
    (M : List (Event ι ρ) → σ → σ → Prop) : Prop where
  answer : ∀ i es s' s, P t i → M (⟨i, (h i s).1⟩ :: es) s' s → (h i s').1 = (h i s).1
  follow : ∀ i es s' s, P t i → M (⟨i, (h i s).1⟩ :: es) s' s → M es (h i s').2 (h i s).2
  ignore : ∀ u i es s' s, u ≠ t → P u i → M es s' s → M es s' (h i s).2

section Replay

variable [DecidableEq τ] {h : Handler ι ρ σ} {P : τ → ι → Prop} {t : τ}
  {M : List (Event ι ρ) → σ → σ → Prop}

/-- What a thread does in a schedule it does alone, and then what it would do next. -/
theorem replay (hM : Mimics h P t M) (ts : List τ) {c : Pool τ ι ρ α σ} {s' : σ}
    (hc : ∀ u, (c.prog u).Asks (P u)) (hs : M (eventsOf t (c.trace h ts)) s' c.state) :
    ∃ s'', (c.prog t).events h s' =
        eventsOf t (c.trace h ts) ++ ((c.run h ts).prog t).events h s'' ∧
      (c.prog t).run h s' = ((c.run h ts).prog t).run h s'' := by
  induction ts generalizing c s' with
  | nil => exact ⟨s', rfl, rfl⟩
  | cons u ts ih =>
    have hstep := asks_step (h := h) hc u
    rw [trace, eventsOf_append] at hs ⊢
    rw [run]
    cases hp : c.prog u with
    | ret a =>
      -- A finished thread does nothing.
      rw [event_ret hp, step_ret hp] at hs ⊢
      rw [step_ret hp] at hstep
      exact ih hstep hs
    | ask i k =>
      have hi := hc u
      rw [hp] at hi
      by_cases hu : u = t
      · subst hu
        rw [eventsOf_event_self, event_ask hp] at hs ⊢
        have hanswer := hM.answer i _ s' c.state hi.1 hs
        have hfollow := hM.follow i _ s' c.state hi.1 hs
        rw [← step_state hp] at hfollow
        obtain ⟨s'', hevents, hrun⟩ := ih hstep hfollow
        rw [step_prog_self hp] at hevents hrun
        refine ⟨s'', ?_, ?_⟩
        · rw [hp, Prog.events_ask, hanswer, hevents]
          rfl
        · rw [hp, Prog.run_ask, hanswer, hrun]
      · rw [eventsOf_event_of_ne h c hu, List.nil_append] at hs ⊢
        have hprog : (c.step h u).prog t = c.prog t := step_prog_of_ne (Ne.symm hu)
        rw [← hprog]
        refine ih hstep ?_
        rw [step_state hp]
        exact hM.ignore u i _ s' c.state hu hi.1 hs

/-- What a state keeps, and the answers it gives, hold along every schedule. -/
theorem trace_of_invariant {I : σ → Prop} {A : Event ι ρ → Prop}
    (hI : ∀ i s, I s → A ⟨i, (h i s).1⟩ ∧ I (h i s).2) (ts : List τ) {c : Pool τ ι ρ α σ}
    (hc : I c.state) : ∀ e ∈ c.trace h ts, A e.2 := by
  induction ts generalizing c with
  | nil =>
    intro e he
    cases he
  | cons u ts ih =>
    intro e he
    rw [trace, List.mem_append] at he
    cases hp : c.prog u with
    | ret a =>
      rw [event_ret hp, step_ret hp] at he
      exact he.elim (fun he => absurd he List.not_mem_nil) (ih hc e)
    | ask i k =>
      obtain ⟨hanswer, hkeeps⟩ := hI i c.state hc
      rw [event_ask hp, List.mem_singleton] at he
      rcases he with rfl | he
      · exact hanswer
      · refine ih ?_ e he
        rw [step_state hp]
        exact hkeeps

end Replay

end Pool
end Effect
end BrThermal
