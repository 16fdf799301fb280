/-
A flag that keeps an action out of a window.

One thread owns a flag; while it is set, the others must not act.  They look at the
flag before they act, in a step of its own, so what keeps them out is not the flag
but when they looked: a thread that saw the flag clear goes on to act whatever has
become of the flag since.  `trace_clear` says that this is all that can go wrong:
if no thread is past its check when the owner sets the flag, none acts until the
owner clears it.
-/
import BrThermal.Effect.Threads

namespace BrThermal
namespace Effect

/-- The questions that matter: the acts, the questions that open (`true`) or close
(`false`) the window, and the answers to a check that let a thread act. -/
structure Watch (ι : Type) (ρ : ι → Type) where
  acts : ι → Bool
  sets : ι → Option Bool
  passes : (i : ι) → ρ i → Bool

namespace Watch

variable {ι α β σ τ : Type} {ρ : ι → Type} (v : Watch ι ρ)

/-- Whether the window is open after some events. -/
def after (window : Bool) (es : List (Event ι ρ)) : Bool :=
  es.foldl (fun w e => (v.sets e.1).getD w) window

/-- Nothing acts while the window is open. -/
def Clear : Bool → List (Event ι ρ) → Prop
  | _, [] => True
  | window, e :: es => (window = true → v.acts e.1 = false) ∧ Clear ((v.sets e.1).getD window) es

instance : (window : Bool) → (es : List (Event ι ρ)) → Decidable (v.Clear window es)
  | _, [] => isTrue trivial
  | window, e :: es =>
    have := instDecidableClear ((v.sets e.1).getD window) es
    inferInstanceAs (Decidable (_ ∧ _))

/-- A program that does not act once it has set the flag. -/
def ActsFirst : Prog ι ρ α → Prop
  | .ret _ => True
  | .ask i k => (v.sets i = none ∧ ∀ r, ActsFirst (k r)) ∨
      (v.acts i = false ∧ ∀ r, (k r).Asks fun j => v.acts j = false)

/-- A program that does not act before a check it has still to make. -/
def Cautious : Prog ι ρ α → Prop
  | .ret _ => True
  | .ask i k => v.acts i = false ∧ ∀ r, v.passes i r = true ∨ Cautious (k r)

/-- The next question of the program opens the window. -/
def OpensNext : Prog ι ρ α → Prop
  | .ret _ => False
  | .ask i _ => v.sets i = some true

variable {v}

theorem clear_append {window : Bool} {es fs : List (Event ι ρ)} :
    v.Clear window (es ++ fs) ↔ v.Clear window es ∧ v.Clear (v.after window es) fs := by
  induction es generalizing window with
  | nil => exact ⟨fun h => ⟨trivial, h⟩, fun h => h.2⟩
  | cons e es ih =>
    rw [List.cons_append, Clear, Clear, ih, and_assoc]
    rfl

theorem actsFirst_of_asks {p : Prog ι ρ α} (hp : p.Asks fun i => v.acts i = false) :
    v.ActsFirst p := by
  cases p with
  | ret a => trivial
  | ask i k => exact .inr hp

theorem actsFirst_bind {p : Prog ι ρ α} {f : α → Prog ι ρ β} (hp : p.Asks fun i => v.sets i = none)
    (hf : ∀ a, v.ActsFirst (f a)) : v.ActsFirst (p >>= f) := by
  induction p with
  | ret a => exact hf a
  | ask i k ih => exact .inl ⟨hp.1, fun r => ih r (hp.2 r)⟩

theorem actsFirst_seq {p : Prog ι ρ α} {f : α → Prog ι ρ β} (hp : v.ActsFirst p)
    (hf : ∀ a, (f a).Asks fun i => v.acts i = false) : v.ActsFirst (p >>= f) := by
  induction p with
  | ret a => exact actsFirst_of_asks (hf a)
  | ask i k ih =>
    rcases hp with ⟨hi, hk⟩ | ⟨hi, hk⟩
    · exact .inl ⟨hi, fun r => ih r (hk r)⟩
    · exact .inr ⟨hi, fun r => Prog.asks_bind (hk r) hf⟩

theorem cautious_of_asks {p : Prog ι ρ α} (hp : p.Asks fun i => v.acts i = false) :
    v.Cautious p := by
  induction p with
  | ret a => trivial
  | ask i k ih => exact ⟨hp.1, fun r => .inr (ih r (hp.2 r))⟩

variable (v)

/-- The flag is part of the state: setting it opens the window, only setting it can
close the window, and a check made while the window is open does not pass. -/
structure Guards (h : Handler ι ρ σ) (isOpen : σ → Bool) : Prop where
  check : ∀ i s, isOpen s = true → v.passes i (h i s).1 = false
  keeps : ∀ i s, v.sets i = none → isOpen s = true → isOpen (h i s).2 = true
  opens : ∀ i s, v.sets i = some true → isOpen (h i s).2 = true

/-- While the window is open the flag is set, its owner acts no more, and no other
thread is past its check. -/
structure Held (isOpen : σ → Bool) (owner : τ) (window : Bool) (c : Pool τ ι ρ α σ) : Prop where
  actsFirst : v.ActsFirst (c.prog owner)
  setsNone : ∀ t, t ≠ owner → (c.prog t).Asks fun i => v.sets i = none
  isOpen : window = true → isOpen c.state = true
  actsNone : window = true → (c.prog owner).Asks fun i => v.acts i = false
  cautious : window = true → ∀ t, t ≠ owner → v.Cautious (c.prog t)

/-- Along a schedule, no thread is past its check when the owner sets the flag. -/
def SetsSafely [DecidableEq τ] (h : Handler ι ρ σ) (owner : τ) :
    List τ → Pool τ ι ρ α σ → Prop
  | [], _ => True
  | t :: ts, c =>
    (t = owner → v.OpensNext (c.prog owner) → ∀ u, u ≠ owner → v.Cautious (c.prog u)) ∧
      SetsSafely h owner ts (c.step h t)

variable {v} [DecidableEq τ] {h : Handler ι ρ σ} {isOpen : σ → Bool} {owner : τ}

section Step

variable {window : Bool} {c : Pool τ ι ρ α σ} {t : τ}

/-- The window is open after a question that opens it, and where it was open before a
question that leaves it alone. -/
theorem opens_or_stays {i : ι} (h : (v.sets i).getD window = true) :
    v.sets i = none ∧ window = true ∨ v.sets i = some true := by
  cases hs : v.sets i with
  | none =>
    rw [hs] at h
    exact .inl ⟨rfl, h⟩
  | some opened =>
    rw [hs] at h
    exact .inr (congrArg some h)

/-- A step of the owner: what opens the window finds nobody past a check. -/
theorem held_step_owner (hg : v.Guards h isOpen) (hc : v.Held isOpen owner window c)
    (hsafe : v.OpensNext (c.prog owner) → ∀ u, u ≠ owner → v.Cautious (c.prog u)) :
    v.Clear window ((c.event h owner).map Prod.snd) ∧
      v.Held isOpen owner (v.after window ((c.event h owner).map Prod.snd)) (c.step h owner) := by
  have hothers : ∀ u, u ≠ owner → (c.step h owner).prog u = c.prog u :=
    fun u hu => Pool.step_prog_of_ne hu
  cases hp : c.prog owner with
  | ret a =>
    rw [Pool.event_ret hp, Pool.step_ret hp]
    exact ⟨trivial, hc⟩
  | ask i k =>
    have hfirst := hc.actsFirst
    have hquiet := hc.actsNone
    rw [hp] at hfirst hquiet hsafe
    rw [Pool.event_ask hp]
    refine ⟨⟨fun hw => (hquiet hw).1, trivial⟩, ?_⟩
    show v.Held isOpen owner ((v.sets i).getD window) (c.step h owner)
    refine ⟨?_, fun u hu => hothers u hu ▸ hc.setsNone u hu, fun hw => ?_, fun hw => ?_,
      fun hw u hu => ?_⟩
    · rw [Pool.step_prog_self hp]
      rcases hfirst with ⟨-, hk⟩ | ⟨-, hk⟩
      · exact hk _
      · exact actsFirst_of_asks (hk _)
    · rw [Pool.step_state hp]
      rcases opens_or_stays hw with ⟨hs, hw⟩ | hs
      · exact hg.keeps i c.state hs (hc.isOpen hw)
      · exact hg.opens i c.state hs
    · rw [Pool.step_prog_self hp]
      rcases opens_or_stays hw with ⟨hs, hw⟩ | hs
      · exact (hquiet hw).2 _
      · rcases hfirst with ⟨hnone, -⟩ | ⟨-, hk⟩
        · cases hs.symm.trans hnone
        · exact hk _
    · rw [hothers u hu]
      rcases opens_or_stays hw with ⟨hs, hw⟩ | hs
      · exact hc.cautious hw u hu
      · exact hsafe hs u hu

/-- A step of another thread: a check made in the window sends it away. -/
theorem held_step_other (hg : v.Guards h isOpen) (hc : v.Held isOpen owner window c)
    (ht : t ≠ owner) :
    v.Clear window ((c.event h t).map Prod.snd) ∧
      v.Held isOpen owner (v.after window ((c.event h t).map Prod.snd)) (c.step h t) := by
  cases hp : c.prog t with
  | ret a =>
    rw [Pool.event_ret hp, Pool.step_ret hp]
    exact ⟨trivial, hc⟩
  | ask i k =>
    have hsets := hc.setsNone t ht
    rw [hp] at hsets
    rw [Pool.event_ask hp]
    have howner : (c.step h t).prog owner = c.prog owner := Pool.step_prog_of_ne ht.symm
    have hthread : window = true → v.Cautious (Prog.ask i k) := fun hw => hp ▸ hc.cautious hw t ht
    refine ⟨⟨fun hw => (hthread hw).1, trivial⟩, ?_⟩
    show v.Held isOpen owner ((v.sets i).getD window) (c.step h t)
    rw [hsets.1, Option.getD_none]
    refine ⟨howner ▸ hc.actsFirst, fun u hu => ?_, fun hw => ?_, howner ▸ hc.actsNone,
      fun hw u hu => ?_⟩
    · by_cases hut : u = t
      · rw [hut, Pool.step_prog_self hp]
        exact hsets.2 _
      · rw [Pool.step_prog_of_ne hut]
        exact hc.setsNone u hu
    · rw [Pool.step_state hp]
      exact hg.keeps i c.state hsets.1 (hc.isOpen hw)
    · by_cases hut : u = t
      · rw [hut, Pool.step_prog_self hp]
        refine ((hthread hw).2 _).resolve_left fun hpass => ?_
        rw [hg.check i c.state (hc.isOpen hw)] at hpass
        cases hpass
      · rw [Pool.step_prog_of_ne hut]
        exact hc.cautious hw u hu

end Step

/-- If no thread is past its check whenever the owner sets the flag, no schedule
has an act in the window. -/
theorem trace_clear (hg : v.Guards h isOpen) (ts : List τ) {window : Bool} {c : Pool τ ι ρ α σ}
    (hc : v.Held isOpen owner window c) (hsafe : v.SetsSafely h owner ts c) :
    v.Clear window ((c.trace h ts).map Prod.snd) := by
  induction ts generalizing window c with
  | nil => trivial
  | cons t ts ih =>
    have hstep : v.Clear window ((c.event h t).map Prod.snd) ∧
        v.Held isOpen owner (v.after window ((c.event h t).map Prod.snd)) (c.step h t) := by
      by_cases ht : t = owner
      · subst ht
        exact held_step_owner hg hc (hsafe.1 rfl)
      · exact held_step_other hg hc ht
    rw [Pool.trace, List.map_append, clear_append]
    exact ⟨hstep.1, ih hstep.2 hsafe.2⟩

/-- A flag set before any other thread has moved is set safely. -/
theorem setsSafely_ownerFirst {c : Pool τ ι ρ α σ} (hc : ∀ u, u ≠ owner → v.Cautious (c.prog u))
    (n : Nat) {ts : List τ} (hts : owner ∉ ts) :
    v.SetsSafely h owner (List.replicate n owner ++ ts) c := by
  induction n generalizing c with
  | zero =>
    clear hc
    induction ts generalizing c with
    | nil => trivial
    | cons t ts ih =>
      rw [List.mem_cons, not_or] at hts
      exact ⟨fun ht => absurd ht.symm hts.1, ih hts.2⟩
  | succ n ih =>
    refine ⟨fun _ _ => hc, ih fun u hu => ?_⟩
    rw [Pool.step_prog_of_ne hu]
    exact hc u hu

end Watch
end Effect
end BrThermal
