/-
What a program has seen when it asks.

An invariant of the state says nothing of why a question was put.  `Warranted` does: it
reads the questions and answers so far as a thread's knowledge, asks of each question
that this knowledge warrants it, and of the value returned that it is warranted in the
same way.  No environment is involved, so what holds of a program holds of its thread in
every schedule, whatever the others do in between.  Where a part of the state is changed
by marked questions alone, the last mark of a trace says what it is.
-/
import BrThermal.Effect.Replay

namespace BrThermal
namespace Effect
namespace Prog

variable {ι : Type} {ρ : ι → Type} {α β : Type}

/-- From the events `past` on, every question satisfies `P` of what precedes it, and the
value satisfies `J` of everything. -/
def Warranted (P : List (Event ι ρ) → ι → Prop) (J : List (Event ι ρ) → α → Prop) :
    Prog ι ρ α → List (Event ι ρ) → Prop
  | ret a, past => J past a
  | ask i k, past => P past i ∧ ∀ r, Warranted P J (k r) (past ++ [⟨i, r⟩])

section Rules

variable {P : List (Event ι ρ) → ι → Prop} {J : List (Event ι ρ) → α → Prop}
  {K : List (Event ι ρ) → β → Prop} {past : List (Event ι ρ)}

theorem warranted_ret {a : α} (h : J past a) : (ret a : Prog ι ρ α).Warranted P J past := h

theorem warranted_ask {i : ι} {k : ρ i → Prog ι ρ α} (hi : P past i)
    (hk : ∀ r, (k r).Warranted P J (past ++ [⟨i, r⟩])) : (ask i k).Warranted P J past := ⟨hi, hk⟩

theorem warranted_mono {J' : List (Event ι ρ) → α → Prop} {p : Prog ι ρ α}
    (hp : p.Warranted P J past) (hJ : ∀ past a, J past a → J' past a) :
    p.Warranted P J' past := by
  induction p generalizing past with
  | ret a => exact hJ past a hp
  | ask i k ih => exact ⟨hp.1, fun r => ih r (hp.2 r)⟩

theorem warranted_bind {p : Prog ι ρ α} {f : α → Prog ι ρ β} (hp : p.Warranted P J past)
    (hf : ∀ past a, J past a → (f a).Warranted P K past) : (p >>= f).Warranted P K past := by
  induction p generalizing past with
  | ret a => exact hf past a hp
  | ask i k ih => exact ⟨hp.1, fun r => ih r (hp.2 r)⟩

/-- A turn that settles nothing has to warrant the next one. -/
theorem warranted_poll {J : List (Event ι ρ) → Option α → Prop} {body : Prog ι ρ (Option α)}
    (hbody : ∀ past, J past none → body.Warranted P J past) (n : Nat) (h : J past none) :
    (poll n body).Warranted P J past := by
  induction n generalizing past with
  | zero => exact h
  | succ n ih =>
    refine warranted_bind (hbody past h) (fun past r hr => ?_)
    cases r with
    | none => exact ih hr
    | some a => exact hr

/-- What is known does not come undone while a program asks. -/
theorem warranted_of_asks {Q : ι → Prop} {p : Prog ι ρ α} (hp : p.Asks Q)
    {I : List (Event ι ρ) → Prop} (hI : ∀ past i r, Q i → I past → I (past ++ [⟨i, r⟩]))
    (hP : ∀ past i, Q i → I past → P past i) (h : I past) :
    p.Warranted P (fun past _ => I past) past := by
  induction p generalizing past with
  | ret a => exact h
  | ask i k ih => exact ⟨hP past i hp.1 h, fun r => ih r (hp.2 r) (hI past i r hp.1 h)⟩

end Rules

end Prog

namespace Pool

variable {τ ι α σ β : Type} {ρ : ι → Type}

/-- What the last question with a mark leaves, and `b` where there is none. -/
def lastMark (mark : ι → Option β) (b : β) (trace : List (τ × Event ι ρ)) : β :=
  (trace.filterMap fun e => mark e.2.1).getLast?.getD b

theorem lastMark_append {mark : ι → Option β} {b : β} (xs ys : List (τ × Event ι ρ)) :
    lastMark mark b (xs ++ ys) = lastMark mark (lastMark mark b xs) ys := by
  rw [lastMark, List.filterMap_append, List.getLast?_append, Option.getD_or]
  rfl

variable [DecidableEq τ] {h : Handler ι ρ σ} {P : List (Event ι ρ) → ι → Prop}
  {J : List (Event ι ρ) → α → Prop}

/-- A step adds to what its own thread has seen, and leaves every program warranted. -/
theorem warranted_step {c : Pool τ ι ρ α σ} {past : τ → List (Event ι ρ)}
    (hc : ∀ t, (c.prog t).Warranted P J (past t)) (u : τ) :
    ∀ t, ((c.step h u).prog t).Warranted P J (past t ++ eventsOf t (c.event h u)) := by
  intro t
  by_cases ht : u = t
  · subst ht
    have hu := hc u
    rw [eventsOf_event_self]
    cases hp : c.prog u with
    | ret a =>
      rw [hp] at hu
      rw [step_ret hp, event_ret hp, hp, List.map_nil, List.append_nil]
      exact hu
    | ask i k =>
      rw [hp] at hu
      rw [step_prog_self hp, event_ask hp]
      exact hu.2 _
  · rw [eventsOf_event_of_ne h c ht, List.append_nil, step_prog_of_ne (Ne.symm ht)]
    exact hc t

theorem warranted_run (ts : List τ) {c : Pool τ ι ρ α σ} {past : τ → List (Event ι ρ)}
    (hc : ∀ t, (c.prog t).Warranted P J (past t)) (t : τ) :
    ((c.run h ts).prog t).Warranted P J (past t ++ eventsOf t (c.trace h ts)) := by
  induction ts generalizing c past with
  | nil =>
    rw [trace, eventsOf, List.filter_nil, List.map_nil, List.append_nil]
    exact hc t
  | cons u ts ih =>
    rw [trace, eventsOf_append, ← List.append_assoc, run]
    exact ih (warranted_step hc u)

/-- In every schedule each question is warranted by what its thread has seen. -/
theorem trace_of_warranted (ts : List τ) {c : Pool τ ι ρ α σ} {past : τ → List (Event ι ρ)}
    (hc : ∀ t, (c.prog t).Warranted P J (past t)) {xs ys : List (τ × Event ι ρ)} {t : τ}
    {e : Event ι ρ} (htrace : c.trace h ts = xs ++ (t, e) :: ys) :
    P (past t ++ eventsOf t xs) e.1 := by
  induction ts generalizing c past xs with
  | nil =>
    rw [trace] at htrace
    exact absurd htrace.symm (List.append_ne_nil_of_right_ne_nil _ (List.cons_ne_nil _ _))
  | cons u ts ih =>
    have hstep := warranted_step (h := h) hc u
    rw [trace] at htrace
    cases hp : c.prog u with
    | ret a =>
      rw [event_ret hp] at htrace hstep
      simp only [eventsOf, List.filter_nil, List.map_nil, List.append_nil] at hstep
      exact ih hstep htrace
    | ask i k =>
      rw [event_ask hp, List.singleton_append] at htrace
      cases xs with
      | nil =>
        -- The first event of the trace is the question this step puts.
        obtain ⟨hfirst, -⟩ := List.cons.inj htrace
        obtain ⟨rfl, rfl⟩ := Prod.mk.inj hfirst
        have hu := hc u
        rw [hp] at hu
        rw [eventsOf, List.filter_nil, List.map_nil, List.append_nil]
        exact hu.1
      | cons x xs =>
        obtain ⟨rfl, hrest⟩ := List.cons.inj htrace
        rw [event_ask hp] at hstep
        have hpast := ih hstep hrest
        rw [List.append_assoc, ← eventsOf_append, List.singleton_append] at hpast
        exact hpast

/-- A part of the state that only marks change is what the last of them made it. -/
theorem lastMark_run {f : σ → β} {mark : ι → Option β}
    (hf : ∀ i s, f (h i s).2 = (mark i).getD (f s)) (ts : List τ) (c : Pool τ ι ρ α σ) :
    f (c.run h ts).state = lastMark mark (f c.state) (c.trace h ts) := by
  induction ts generalizing c with
  | nil => rfl
  | cons u ts ih =>
    have hstep : f (c.step h u).state = lastMark mark (f c.state) (c.event h u) := by
      cases hp : c.prog u with
      | ret a =>
        rw [step_ret hp, event_ret hp]
        rfl
      | ask i k =>
        rw [step_state hp, event_ask hp, hf, lastMark, List.filterMap_cons]
        cases mark i <;> rfl
    rw [run, trace, lastMark_append, ← hstep]
    exact ih (c.step h u)

end Pool
end Effect
end BrThermal
