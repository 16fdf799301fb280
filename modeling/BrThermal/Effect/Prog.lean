/-
Programs that put questions to an environment.

A callback of a driver alternates between pure decisions and calls into the
surrounding system, and the system answers each call.  `Prog` is the tree of
those alternations.  One tree is read in several ways: `run` answers the
questions from a state, `events` lists the questions with their answers, and a
scheduler may interleave several trees one question at a time.  Keeping a single
tree for all readings is what lets a sequential theorem and a concurrent one
speak about the same code.
-/

namespace BrThermal
namespace Effect

/-- A program over questions `ι` with answers `ρ`. -/
inductive Prog (ι : Type) (ρ : ι → Type) (α : Type) where
  | ret (a : α)
  | ask (i : ι) (k : ρ i → Prog ι ρ α)

/-- A question together with the answer it received. -/
abbrev Event (ι : Type) (ρ : ι → Type) := (i : ι) × ρ i

/-- An environment: it answers each question from a state and moves the state. -/
abbrev Handler (ι : Type) (ρ : ι → Type) (σ : Type) := (i : ι) → σ → ρ i × σ

namespace Prog

variable {ι : Type} {ρ : ι → Type} {α β γ σ : Type}

def bind : Prog ι ρ α → (α → Prog ι ρ β) → Prog ι ρ β
  | ret a, f => f a
  | ask i k, f => ask i fun r => (k r).bind f

/-- The program that asks one question and returns the answer. -/
def call (i : ι) : Prog ι ρ (ρ i) := ask i ret

instance : Monad (Prog ι ρ) where
  pure := ret
  bind := bind

@[simp] theorem pure_eq (a : α) : (pure a : Prog ι ρ α) = ret a := rfl

@[simp] theorem ask_bind (i : ι) (k : ρ i → Prog ι ρ α) (f : α → Prog ι ρ β) :
    (ask i k >>= f) = ask i fun r => k r >>= f := rfl

@[simp] theorem call_bind (i : ι) (f : ρ i → Prog ι ρ β) : (call i >>= f) = ask i f := rfl

theorem bind_ret (p : Prog ι ρ α) : (p >>= ret) = p := by
  induction p with
  | ret a => rfl
  | ask i k ih =>
    rw [ask_bind]
    exact congrArg (ask i) (funext ih)

theorem bind_assoc (p : Prog ι ρ α) (f : α → Prog ι ρ β) (g : β → Prog ι ρ γ) :
    (p >>= f >>= g) = (p >>= fun a => f a >>= g) := by
  induction p with
  | ret a => rfl
  | ask i k ih =>
    rw [ask_bind, ask_bind, ask_bind]
    exact congrArg (ask i) (funext ih)

/-! ## Running -/

/-- The value returned and the state reached when `h` answers every question. -/
def run (h : Handler ι ρ σ) : Prog ι ρ α → σ → α × σ
  | ret a, s => (a, s)
  | ask i k, s => run h (k (h i s).1) (h i s).2

/-- The questions of that run in order, each with its answer. -/
def events (h : Handler ι ρ σ) : Prog ι ρ α → σ → List (Event ι ρ)
  | ret _, _ => []
  | ask i k, s => ⟨i, (h i s).1⟩ :: events h (k (h i s).1) (h i s).2

/-- `Q` holds of the value, the events and the final state of the run from `s`. -/
def wp (h : Handler ι ρ σ) (p : Prog ι ρ α)
    (Q : α → List (Event ι ρ) → σ → Prop) (s : σ) : Prop :=
  Q (p.run h s).1 (p.events h s) (p.run h s).2

variable {h : Handler ι ρ σ}

@[simp] theorem run_ask (i : ι) (k : ρ i → Prog ι ρ α) (s : σ) :
    (ask i k).run h s = (k (h i s).1).run h (h i s).2 := rfl

@[simp] theorem events_ask (i : ι) (k : ρ i → Prog ι ρ α) (s : σ) :
    (ask i k).events h s = ⟨i, (h i s).1⟩ :: (k (h i s).1).events h (h i s).2 := rfl

theorem run_bind (p : Prog ι ρ α) (f : α → Prog ι ρ β) (s : σ) :
    (p >>= f).run h s = (f (p.run h s).1).run h (p.run h s).2 := by
  induction p generalizing s with
  | ret a => rfl
  | ask i k ih =>
    rw [ask_bind, run_ask, run_ask]
    exact ih _ _

theorem events_bind (p : Prog ι ρ α) (f : α → Prog ι ρ β) (s : σ) :
    (p >>= f).events h s =
      p.events h s ++ (f (p.run h s).1).events h (p.run h s).2 := by
  induction p generalizing s with
  | ret a => rfl
  | ask i k ih =>
    rw [ask_bind, events_ask, events_ask, run_ask, List.cons_append]
    exact congrArg _ (ih _ _)

section Rules

variable {p : Prog ι ρ α} {f : α → Prog ι ρ β} {s : σ}

@[simp] theorem wp_ret {a : α} {Q : α → List (Event ι ρ) → σ → Prop} :
    (ret a : Prog ι ρ α).wp h Q s ↔ Q a [] s := Iff.rfl

@[simp] theorem wp_ask {i : ι} {k : ρ i → Prog ι ρ α}
    {Q : α → List (Event ι ρ) → σ → Prop} :
    (ask i k).wp h Q s ↔
      (k (h i s).1).wp h (fun a es s' => Q a (⟨i, (h i s).1⟩ :: es) s') (h i s).2 := Iff.rfl

theorem wp_bind {Q : β → List (Event ι ρ) → σ → Prop} :
    (p >>= f).wp h Q s ↔
      p.wp h (fun a es s' => (f a).wp h (fun b es' s'' => Q b (es ++ es') s'') s') s := by
  simp only [wp, run_bind, events_bind]

/-- A stronger postcondition at the run's own outcome suffices. -/
theorem wp_mono {Q R : α → List (Event ι ρ) → σ → Prop} (hp : p.wp h Q s)
    (hQR : ∀ a es s', Q a es s' → R a es s') : p.wp h R s := hQR _ _ _ hp

theorem wp_and {Q R : α → List (Event ι ρ) → σ → Prop} (hQ : p.wp h Q s)
    (hR : p.wp h R s) : p.wp h (fun a es s' => Q a es s' ∧ R a es s') s := ⟨hQ, hR⟩

/-- Run `p`, then use what is known of its outcome to run the rest. -/
theorem wp_seq {Q : α → List (Event ι ρ) → σ → Prop} {R : β → List (Event ι ρ) → σ → Prop}
    (hp : p.wp h Q s)
    (hf : ∀ a es s', Q a es s' → (f a).wp h (fun b es' s'' => R b (es ++ es') s'') s') :
    (p >>= f).wp h R s := wp_bind.mpr (wp_mono hp hf)

end Rules

/-! ## What a program can ask -/

/-- Every question the program can reach, whatever the answers, satisfies `P`. -/
def Asks (P : ι → Prop) : Prog ι ρ α → Prop
  | ret _ => True
  | ask i k => P i ∧ ∀ r, Asks P (k r)

theorem asks_ret {P : ι → Prop} (a : α) : (ret a : Prog ι ρ α).Asks P := trivial

theorem asks_call {P : ι → Prop} {i : ι} (hi : P i) : (call i : Prog ι ρ (ρ i)).Asks P :=
  ⟨hi, fun _ => trivial⟩

theorem asks_bind {P : ι → Prop} {p : Prog ι ρ α} {f : α → Prog ι ρ β}
    (hp : p.Asks P) (hf : ∀ a, (f a).Asks P) : (p >>= f).Asks P := by
  induction p with
  | ret a => exact hf a
  | ask i k ih => exact ⟨hp.1, fun r => ih r (hp.2 r)⟩

theorem asks_true (p : Prog ι ρ α) : p.Asks fun _ => True := by
  induction p with
  | ret a => trivial
  | ask i k ih => exact ⟨trivial, ih⟩

/-- Every event of a run answers a question the program can ask. -/
theorem events_of_asks {P : ι → Prop} {p : Prog ι ρ α} (hp : p.Asks P) (s : σ) :
    ∀ e ∈ p.events h s, P e.1 := by
  induction p generalizing s with
  | ret a => intro e he; cases he
  | ask i k ih =>
    intro e he
    rw [events_ask, List.mem_cons] at he
    rcases he with rfl | he
    · exact hp.1
    · exact ih _ (hp.2 _) _ e he

/-- A reflexive transitive relation that every question of the program keeps
relates the first state of a run to the last.  Frame conditions are this rule at
the relation "this part of the state is the same". -/
theorem run_of_asks {P : ι → Prop} {R : σ → σ → Prop} (hrefl : ∀ s, R s s)
    (htrans : ∀ a b c, R a b → R b c → R a c)
    (hstep : ∀ i s, P i → R s (h i s).2) {p : Prog ι ρ α} (hp : p.Asks P) (s : σ) :
    R s (p.run h s).2 := by
  induction p generalizing s with
  | ret a => exact hrefl s
  | ask i k ih => exact htrans _ _ _ (hstep i s hp.1) (ih _ (hp.2 _) _)

/-! ## Bounded polling

A loop that makes up to `n` attempts and leaves with the first result. -/

/-- `for (attempt = 0; attempt < n; ++attempt)` around a body that may break. -/
def poll : Nat → Prog ι ρ (Option α) → Prog ι ρ (Option α)
  | 0, _ => ret none
  | n + 1, body => body >>= fun
    | some a => ret (some a)
    | none => poll n body

theorem asks_poll {P : ι → Prop} {body : Prog ι ρ (Option α)} (hb : body.Asks P) :
    ∀ n, (poll n body).Asks P := by
  intro n
  induction n with
  | zero => trivial
  | succ n ih =>
    refine asks_bind hb (fun r => ?_)
    cases r with
    | none => exact ih
    | some a => trivial

end Prog
end Effect
end BrThermal
