/-
Which handles are closed.

A ledger is what a log of calls says about device handles: those that were
closed, and for each printer the one `papplPrinterOpenDevice` gave last.  A log
is disciplined when no call in it writes to, reads, flushes or closes a handle
that an earlier one closed.
-/
import BrThermal.Pappl.World

namespace BrThermal
namespace Pappl

open Effect Effect.Prog

variable {δ : Type}

structure Ledger where
  opened : String → Option Handle := fun _ => none
  closed : List Handle := []

namespace Ledger

def Allows (l : Ledger) : Call δ → Prop
  | .deviceWrite device _ | .deviceFlush device | .deviceRead device | .deviceClose device =>
    device ∉ l.closed
  | .printerCloseDevice uri => ∀ device ∈ l.opened uri, device ∉ l.closed
  | _ => True

instance (l : Ledger) : (c : Call δ) → Decidable (l.Allows c)
  | .deviceWrite device _ | .deviceFlush device | .deviceRead device | .deviceClose device =>
    inferInstanceAs (Decidable (device ∉ l.closed))
  | .printerCloseDevice uri =>
    inferInstanceAs (Decidable (∀ device ∈ l.opened uri, device ∉ l.closed))
  | .deviceGetID _ | .printerOpenDevice _ | .printerSetReasons _ _ | .jobGetImpressions _
  | .jobGetData _ | .jobSetData _ _ | .storeStatus _ _ | .storePolling _ _ | .loadPolling _ =>
    isTrue trivial

def after (l : Ledger) : Event δ → Ledger
  | ⟨.deviceClose device, _⟩ => { l with closed := device :: l.closed }
  | ⟨.printerOpenDevice uri, serial⟩ =>
    match serial with
    | some serial => { l with opened := Function.update l.opened uri (some ⟨uri, serial⟩) }
    | none => l
  | ⟨.printerCloseDevice uri, _⟩ =>
    match l.opened uri with
    | some device => ⟨Function.update l.opened uri none, device :: l.closed⟩
    | none => l
  | _ => l

def afterAll (l : Ledger) (es : List (Event δ)) : Ledger := es.foldl after l

def Disciplined (l : Ledger) : List (Event δ) → Prop
  | [] => True
  | e :: es => l.Allows e.1 ∧ (l.after e).Disciplined es

instance decidableDisciplined (l : Ledger) : ∀ es : List (Event δ), Decidable (l.Disciplined es)
  | [] => isTrue trivial
  | e :: es =>
    have := decidableDisciplined (l.after e) es
    inferInstanceAs (Decidable (_ ∧ _))

@[simp] theorem afterAll_cons (l : Ledger) (e : Event δ) (es : List (Event δ)) :
    l.afterAll (e :: es) = (l.after e).afterAll es := rfl

theorem afterAll_append (l : Ledger) (es fs : List (Event δ)) :
    l.afterAll (es ++ fs) = (l.afterAll es).afterAll fs := List.foldl_append

theorem disciplined_append (l : Ledger) (es fs : List (Event δ)) :
    l.Disciplined (es ++ fs) ↔ l.Disciplined es ∧ (l.afterAll es).Disciplined fs := by
  induction es generalizing l with
  | nil => exact (and_iff_right trivial).symm
  | cons e es ih =>
    simp only [List.cons_append, Disciplined, afterAll_cons, ih, and_assoc]

theorem disciplined_iff (l : Ledger) (es : List (Event δ)) : l.Disciplined es ↔
    ∀ earlier e later, es = earlier ++ e :: later → (l.afterAll earlier).Allows e.1 := by
  constructor
  · rintro h earlier e later rfl
    exact ((disciplined_append l earlier _).mp h).2.1
  · intro h
    induction es generalizing l with
    | nil => trivial
    | cons e es ih =>
      refine ⟨h [] e es rfl, ih _ fun earlier e' later hes => ?_⟩
      exact h (e :: earlier) e' later (congrArg (e :: ·) hes)

/-- The calls that leave every ledger as it is, and use no handle but `device`. -/
def Plain (device : Option Handle) : Call δ → Prop
  | .deviceWrite d _ | .deviceFlush d | .deviceRead d => device = some d
  | .deviceClose _ | .printerOpenDevice _ | .printerCloseDevice _ => False
  | _ => True

theorem disciplined_of_plain {l : Ledger} {device : Option Handle}
    (hopen : ∀ d ∈ device, d ∉ l.closed) {es : List (Event δ)}
    (h : ∀ e ∈ es, Plain device e.1) : l.Disciplined es ∧ l.afterAll es = l := by
  induction es with
  | nil => exact ⟨trivial, rfl⟩
  | cons e es ih =>
    obtain ⟨hes, hafter⟩ := ih fun e he => h e (List.mem_cons_of_mem _ he)
    have he := h e List.mem_cons_self
    obtain ⟨c, r⟩ := e
    have hkeep : l.after ⟨c, r⟩ = l ∧ l.Allows c := by
      cases c with
      | deviceClose | printerOpenDevice | printerCloseDevice => exact he.elim
      | deviceWrite d | deviceFlush d | deviceRead d => exact ⟨rfl, hopen d he⟩
      | _ => exact ⟨rfl, trivial⟩
    rw [Disciplined, afterAll_cons, hkeep.1]
    exact ⟨⟨hkeep.2, hes⟩, hafter⟩

theorem trace_of_plain {α : Type} {l : Ledger} {device : Handle} (hopen : device ∉ l.closed)
    {p : Code δ α} (hp : p.Asks (Plain (some device))) (w : World δ) :
    l.Disciplined (p.trace w) ∧ l.afterAll (p.trace w) = l := by
  refine disciplined_of_plain (fun d hd => ?_) (events_of_asks hp w)
  rw [← Option.some.inj hd]
  exact hopen

theorem trace_of_plain_none {α : Type} (l : Ledger) {p : Code δ α} (hp : p.Asks (Plain none))
    (w : World δ) : l.Disciplined (p.trace w) ∧ l.afterAll (p.trace w) = l :=
  disciplined_of_plain (fun _ hd => by cases hd) (events_of_asks hp w)

end Ledger

end Pappl
end BrThermal
