/-
How many questions a program puts.

A loop with an early exit costs less when it ends well than when it runs out, and what
follows the exit costs more, so a single number for each part counts too much.  `Within`
gives a program a number of questions to spend and says of each value what is left: the
two trade off, and the bounds that come out are those of a worst run.  Nothing is assumed
of the answers.  In a pool a thread with a budget is done once it has been scheduled that
often, whatever the other threads do.
-/
import BrThermal.Effect.Replay

namespace BrThermal
namespace Effect
namespace Prog

variable {ι : Type} {ρ : ι → Type} {α β σ : Type}

/-- With the questions given the program returns, and `left a` of them are unspent when
it returns `a`. -/
def Within (left : α → Nat) : Prog ι ρ α → Nat → Prop
  | ret a, budget => left a ≤ budget
  | ask _ _, 0 => False
  | ask _ k, budget + 1 => ∀ r, Within left (k r) budget

/-- What a turn of a loop leaves: enough to go on, or what its result needs. -/
def turnLeaves (retry : Nat) (left : Option α → Nat) : Option α → Nat
  | none => retry
  | some a => left (some a)

section Rules

variable {l : α → Nat} {rest : β → Nat} {b : Nat}

theorem within_ret {a : α} (h : l a ≤ b) : (ret a : Prog ι ρ α).Within l b := h

theorem within_ask {i : ι} {k : ρ i → Prog ι ρ α} (hk : ∀ r, (k r).Within l b) :
    (ask i k).Within l (b + 1) := hk

theorem within_call {i : ι} : (call i : Prog ι ρ (ρ i)).Within (fun _ => b) (b + 1) :=
  fun _ => Nat.le_refl b

theorem within_mono {p : Prog ι ρ α} {b' : Nat} (hp : p.Within l b)
    (hb : b ≤ b') : p.Within l b' := by
  induction p generalizing b b' with
  | ret a => exact Nat.le_trans hp hb
  | ask i k ih =>
    cases b with
    | zero => exact hp.elim
    | succ b =>
      cases b' with
      | zero => omega
      | succ b' => exact fun r => ih r (hp r) (Nat.le_of_succ_le_succ hb)

theorem within_bind {p : Prog ι ρ α} {f : α → Prog ι ρ β} (hp : p.Within l b)
    (hf : ∀ a, (f a).Within rest (l a)) : (p >>= f).Within rest b := by
  induction p generalizing b with
  | ret a => exact within_mono (hf a) hp
  | ask i k ih =>
    cases b with
    | zero => exact hp.elim
    | succ b => exact fun r => ih r (hp r)

theorem length_events_le (h : Handler ι ρ σ) {p : Prog ι ρ α} (hp : p.Within l b) (s : σ) :
    (p.events h s).length + l (p.run h s).1 ≤ b := by
  induction p generalizing b s with
  | ret a =>
    show 0 + l a ≤ b
    rw [Nat.zero_add]
    exact hp
  | ask i k ih =>
    cases b with
    | zero => exact hp.elim
    | succ b =>
      have hk := ih _ (hp (h i s).1) (h i s).2
      rw [events_ask, run_ask, List.length_cons]
      omega

/-- A turn that settles nothing leaves enough for the turns that remain. -/
theorem within_poll {l : Option α → Nat} {c : Nat → Nat} {body : Prog ι ρ (Option α)}
    (hnone : l none ≤ c 0)
    (hbody : ∀ n, body.Within (turnLeaves (c n) l) (c (n + 1)))
    (n : Nat) : (poll n body).Within l (c n) := by
  induction n with
  | zero => exact hnone
  | succ n ih =>
    refine within_bind (hbody n) (fun r => ?_)
    cases r with
    | none => exact ih
    | some a => exact within_ret (Nat.le_refl _)

end Rules

/-- Nothing is left to ask. -/
def isDone : Prog ι ρ α → Bool
  | ret _ => true
  | ask _ _ => false

theorem eq_ret_of_isDone {p : Prog ι ρ α} (h : p.isDone = true) : ∃ a, p = ret a := by
  cases p with
  | ret a => exact ⟨a, rfl⟩
  | ask i k => exact absurd h Bool.false_ne_true

end Prog

namespace Pool

variable {τ ι α σ : Type} {ρ : ι → Type} [DecidableEq τ] {h : Handler ι ρ σ} {l : α → Nat}

theorem run_prog_of_ret (ts : List τ) {c : Pool τ ι ρ α σ} {t : τ} {a : α}
    (hp : c.prog t = .ret a) : (c.run h ts).prog t = .ret a := by
  induction ts generalizing c with
  | nil => exact hp
  | cons u ts ih =>
    refine ih ?_
    by_cases hu : t = u
    · subst hu
      rw [step_ret hp]
      exact hp
    · rw [step_prog_of_ne hu]
      exact hp

theorem eventsOf_trace_of_ret (ts : List τ) {c : Pool τ ι ρ α σ} {t : τ} {a : α}
    (hp : c.prog t = .ret a) : eventsOf t (c.trace h ts) = [] := by
  induction ts generalizing c with
  | nil => rfl
  | cons u ts ih =>
    rw [trace, eventsOf_append]
    by_cases hu : u = t
    · subst hu
      rw [event_ret hp, step_ret hp]
      exact ih hp
    · rw [eventsOf_event_of_ne h c hu]
      exact ih ((step_prog_of_ne (Ne.symm hu)).trans hp)

/-- A thread that is done asks nothing more. -/
theorem eventsOf_of_done (ts us : List τ) {c : Pool τ ι ρ α σ} {t : τ}
    (hdone : ((c.run h ts).prog t).isDone = true) :
    eventsOf t (c.trace h (ts ++ us)) = eventsOf t (c.trace h ts) := by
  induction ts generalizing c with
  | nil =>
    obtain ⟨a, hp⟩ := Prog.eq_ret_of_isDone hdone
    exact eventsOf_trace_of_ret us hp
  | cons u ts ih =>
    rw [List.cons_append, trace, trace, eventsOf_append, eventsOf_append, ih hdone]

/-- What a thread has asked and what it may still ask add up to its budget. -/
theorem within_run (ts : List τ) {c : Pool τ ι ρ α σ} {t : τ} {budget : Nat}
    (hc : (c.prog t).Within l budget) :
    ∃ left, ((c.run h ts).prog t).Within l left ∧
      (eventsOf t (c.trace h ts)).length + left = budget := by
  induction ts generalizing c budget with
  | nil => exact ⟨budget, hc, Nat.zero_add budget⟩
  | cons u ts ih =>
    rw [run, trace, eventsOf_append, List.length_append]
    by_cases hu : u = t
    · subst hu
      rw [eventsOf_event_self]
      cases hp : c.prog u with
      | ret a =>
        rw [event_ret hp, step_ret hp, List.map_nil, List.length_nil, Nat.zero_add]
        exact ih hc
      | ask i k =>
        rw [hp] at hc
        cases budget with
        | zero => exact hc.elim
        | succ budget =>
          have hk : ((c.step h u).prog u).Within l budget := by
            rw [step_prog_self hp]
            exact hc _
          obtain ⟨left, hleft, hsum⟩ := ih hk
          refine ⟨left, hleft, ?_⟩
          rw [event_ask hp, List.map_singleton, List.length_singleton]
          omega
    · rw [eventsOf_event_of_ne h c hu, List.length_nil, Nat.zero_add]
      refine ih ?_
      rw [step_prog_of_ne (Ne.symm hu)]
      exact hc

/-- A thread that was scheduled as often as its budget says is done. -/
theorem done_of_count (ts : List τ) {c : Pool τ ι ρ α σ} {t : τ} {budget : Nat}
    (hc : (c.prog t).Within l budget) (hcount : budget ≤ ts.countP (· = t)) :
    ∃ a, (c.run h ts).prog t = .ret a := by
  induction ts generalizing c budget with
  | nil =>
    obtain rfl : budget = 0 := Nat.le_zero.mp hcount
    cases hp : c.prog t with
    | ret a => exact ⟨a, hp⟩
    | ask i k =>
      rw [hp] at hc
      exact hc.elim
  | cons u ts ih =>
    cases hp : c.prog t with
    | ret a => exact ⟨a, run_prog_of_ret (u :: ts) hp⟩
    | ask i k =>
      rw [run]
      by_cases hu : u = t
      · subst hu
        rw [hp] at hc
        rw [List.countP_cons, if_pos (decide_eq_true rfl)] at hcount
        cases budget with
        | zero => exact hc.elim
        | succ budget =>
          refine ih ?_ (Nat.le_of_succ_le_succ hcount)
          rw [step_prog_self hp]
          exact hc _
      · rw [List.countP_cons, if_neg fun heq => hu (of_decide_eq_true heq)] at hcount
        refine ih ?_ hcount
        rw [step_prog_of_ne (Ne.symm hu)]
        exact hc

end Pool
end Effect
end BrThermal
