/-
Programs that stop at a trigger.

Some answers call for the end: the program may still wind up, with calls that are
quiet, but it returns a failure and leaves the state that the answer calls for.  A
program stops if it does so at whichever of its questions the answer comes.  A part
of a program need not return to the top to stop: what follows it must do nothing
more where the part has failed, and that is all that composition needs.
-/
import BrThermal.Effect.Prog

namespace BrThermal
namespace Effect
namespace Prog

/-- The answers that call for an end, the calls that may follow one, and the states
that an end may leave. -/
structure Trigger (ι : Type) (ρ : ι → Type) (σ τ : Type) where
  cause : Event ι ρ → Option τ
  quiet : ι → Prop
  ended : τ → σ → Prop

section Rules

variable {ι α β σ τ : Type} {ρ : ι → Type}

/-- From every state, after each event that is a cause the program makes quiet calls
alone, returns a failure and leaves a state ended for that cause. -/
def Stops (h : Handler ι ρ σ) (g : Trigger ι ρ σ τ) (fails : α → Prop) (p : Prog ι ρ α) : Prop :=
  ∀ s, p.wp h (fun a es s' => ∀ earlier e later t, es = earlier ++ e :: later →
    g.cause e = some t → fails a ∧ (∀ x ∈ later, g.quiet x.1) ∧ g.ended t s') s

/-- The program winds up after `t`. -/
def WindsUp (h : Handler ι ρ σ) (g : Trigger ι ρ σ τ) (fails : α → Prop) (t : τ)
    (p : Prog ι ρ α) : Prop :=
  ∀ s, p.wp h (fun a es s' =>
    fails a ∧ (∀ x ∈ es, g.quiet x.1 ∧ g.cause x = none) ∧ g.ended t s') s

variable {h : Handler ι ρ σ} {g : Trigger ι ρ σ τ}

theorem stops_of_asks {fails : α → Prop} {P : ι → Prop} {p : Prog ι ρ α} (hp : p.Asks P)
    (hP : ∀ i r, P i → g.cause ⟨i, r⟩ = none) : p.Stops h g fails := by
  rintro s earlier e later t hes hcause
  have he : P e.1 := events_of_asks hp s e (hes ▸ List.mem_append_right _ List.mem_cons_self)
  rw [hP e.1 e.2 he] at hcause
  cases hcause

theorem stops_ret {fails : α → Prop} (a : α) : (ret a : Prog ι ρ α).Stops h g fails :=
  stops_of_asks (P := fun _ => False) (asks_ret a) fun _ _ hi => hi.elim

theorem stops_ask {fails : α → Prop} {i : ι} {k : ρ i → Prog ι ρ α}
    (hnone : ∀ r, g.cause ⟨i, r⟩ = none → (k r).Stops h g fails)
    (hsome : ∀ r t, g.cause ⟨i, r⟩ = some t → (k r).WindsUp h g fails t) :
    (ask i k).Stops h g fails := by
  rintro s earlier e later t hes hcause
  rw [events_ask] at hes
  cases earlier with
  | nil =>
    obtain ⟨rfl, rfl⟩ := List.cons.inj hes
    obtain ⟨hfails, hquiet, hended⟩ := hsome _ t hcause (h i s).2
    exact ⟨hfails, fun x hx => (hquiet x hx).1, hended⟩
  | cons first earlier =>
    obtain ⟨rfl, hrest⟩ := List.cons.inj hes
    cases hfirst : g.cause ⟨i, (h i s).1⟩ with
    | none => exact hnone _ hfirst (h i s).2 earlier e later t hrest hcause
    | some t₀ =>
      obtain ⟨-, hquiet, -⟩ := hsome _ t₀ hfirst (h i s).2
      have he := hquiet e (hrest ▸ List.mem_append_right _ List.mem_cons_self)
      rw [he.2] at hcause
      cases hcause

/-- What follows a part that has failed does nothing more. -/
theorem stops_bind {fails : α → Prop} {fails' : β → Prop} {p : Prog ι ρ α} {f : α → Prog ι ρ β}
    (hp : p.Stops h g fails) (hfail : ∀ a, fails a → ∃ b, f a = ret b ∧ fails' b)
    (hf : ∀ a, (f a).Stops h g fails') : (p >>= f).Stops h g fails' := by
  rintro s earlier e later t hes hcause
  rw [events_bind] at hes
  rw [run_bind]
  have hsecond := hf (p.run h s).1 (p.run h s).2
  rcases List.append_eq_append_iff.mp hes with ⟨as, -, hes'⟩ | ⟨bs, hes', hbs⟩
  · exact hsecond as e later t hes' hcause
  · cases bs with
    | nil => exact hsecond [] e later t hbs.symm hcause
    | cons x bs =>
      obtain ⟨rfl, hlater⟩ : e = x ∧ later = bs ++ _ := List.cons.inj hbs
      obtain ⟨hfails, hquiet, hended⟩ := hp s earlier e bs t hes' hcause
      obtain ⟨b, hret, hb⟩ := hfail _ hfails
      rw [hlater, hret, events, List.append_nil]
      exact ⟨hb, hquiet, hended⟩

/-- A loop stops if its body does, leaving the loop with a failure. -/
theorem stops_poll {fails : α → Prop} {body : Prog ι ρ (Option α)}
    (hbody : body.Stops h g fun r => ∃ a, r = some a ∧ fails a) (n : Nat) :
    (poll n body).Stops h g fun r => ∃ a, r = some a ∧ fails a := by
  induction n with
  | zero => exact stops_ret none
  | succ n ih =>
    refine stops_bind hbody ?_ (fun r => ?_)
    · rintro _ ⟨a, rfl, ha⟩
      exact ⟨some a, rfl, a, rfl, ha⟩
    · cases r with
      | none => exact ih
      | some a => exact stops_ret (some a)

end Rules

end Prog
end Effect
end BrThermal
