/-
Holds that messages open and close.

A message may say that a hold of some kind begins or that it ends, and holds of
different kinds may overlap.  A listener that goes by the first message that ends a
hold is rid of all of them only if it heard of one kind: `held_eq_empty_iff`.
-/
import Mathlib.Data.Finset.Basic

namespace BrThermal
namespace Effect

/-- The hold that a message opens and the one it closes; no message does both. -/
structure HoldSignals (π κ : Type) where
  opens : π → Option κ
  closes : π → Option κ
  exclusive : ∀ p, opens p = none ∨ closes p = none

namespace HoldSignals

variable {π κ : Type} (v : HoldSignals π κ)

/-- The holds that the messages open, and those they close, in order. -/
def opened (ps : List π) : List κ := ps.filterMap v.opens

def closed (ps : List π) : List κ := ps.filterMap v.closes

/-- Every hold that the messages open is of the kind of every hold that they close. -/
def OneKind (ps : List π) : Prop := ∀ k ∈ v.opened ps, ∀ c ∈ v.closed ps, k = c

theorem mem_opened_cons {p : π} {ps : List π} {k : κ} :
    k ∈ v.opened (p :: ps) ↔ v.opens p = some k ∨ k ∈ v.opened ps := by
  simp only [opened, List.mem_filterMap, List.mem_cons, or_and_right, exists_or, exists_eq_left]

variable [DecidableEq κ]

/-- The holds open after a message: the one it opens is added, the one it closes removed. -/
def after (held : Finset κ) (p : π) : Finset κ :=
  match v.opens p with
  | some k => insert k held
  | none =>
    match v.closes p with
    | some k => held.erase k
    | none => held

def heldAfter (held : Finset κ) (ps : List π) : Finset κ := ps.foldl v.after held

/-- Messages that close no hold, or (`true`) one hold and that with the last of them. -/
def ClosesLast : Bool → List π → Prop
  | true, ps => ∃ c, v.closed ps = [c] ∧
      ∀ held k, k ∈ v.heldAfter held ps ↔ k ≠ c ∧ (k ∈ held ∨ k ∈ v.opened ps)
  | false, ps => v.closed ps = []

variable {v}

theorem heldAfter_append (held : Finset κ) (ps qs : List π) :
    v.heldAfter held (ps ++ qs) = v.heldAfter (v.heldAfter held ps) qs := List.foldl_append

theorem mem_after_of_closes {p : π} {c : κ} (h : v.closes p = some c) (held : Finset κ) (k : κ) :
    k ∈ v.after held p ↔ k ≠ c ∧ k ∈ held := by
  have hopens : v.opens p = none := (v.exclusive p).resolve_right (h ▸ Option.some_ne_none c)
  rw [after, hopens, h]
  exact Finset.mem_erase

theorem mem_after_of_not_closes {p : π} (h : v.closes p = none) (held : Finset κ) (k : κ) :
    k ∈ v.after held p ↔ k ∈ held ∨ v.opens p = some k := by
  rw [after, h]
  cases v.opens p with
  | none => exact (or_iff_left (Option.some_ne_none k).symm).symm
  | some k' =>
    dsimp only
    rw [Finset.mem_insert, or_comm, Option.some.injEq, eq_comm (a := k)]

/-- A message that opens nothing leaves nothing open where nothing was. -/
theorem heldAfter_of_not_opens {p : π} (h : v.opens p = none) : v.heldAfter ∅ [p] = ∅ := by
  show v.after ∅ p = ∅
  rw [after, h]
  cases v.closes p <;> rfl

theorem closesLast_singleton {p : π} {c : κ} (h : v.closes p = some c) : v.ClosesLast true [p] := by
  have hopens : v.opens p = none := (v.exclusive p).resolve_right (h ▸ Option.some_ne_none c)
  refine ⟨c, List.filterMap_cons_some h, fun held k => ?_⟩
  have hnone : k ∉ v.opened [p] := by
    rw [mem_opened_cons, hopens]
    rintro (hk | hk) <;> cases hk
  rw [or_iff_left hnone]
  exact mem_after_of_closes h held k

theorem closesLast_cons {p : π} (h : v.closes p = none) {last : Bool} {ps : List π}
    (hps : v.ClosesLast last ps) : v.ClosesLast last (p :: ps) := by
  have hclosed : v.closed (p :: ps) = v.closed ps := List.filterMap_cons_none h
  cases last with
  | false => exact hclosed.trans hps
  | true =>
    obtain ⟨c, hc, hheld⟩ := hps
    refine ⟨c, hclosed.trans hc, fun held k => ?_⟩
    show k ∈ v.heldAfter (v.after held p) ps ↔ _
    rw [hheld, mem_after_of_not_closes h, mem_opened_cons, or_assoc]

/-- After a last message that closes a hold nothing is held exactly where all the
holds heard of were of that kind. -/
theorem held_eq_empty_iff {last : Bool} {ps : List π} (h : v.ClosesLast last ps) :
    (last = true → v.heldAfter ∅ ps = ∅) ↔ v.OneKind ps := by
  cases last with
  | false =>
    refine iff_of_true (fun h => absurd h Bool.false_ne_true) (fun k _ c hc => ?_)
    rw [h] at hc
    cases hc
  | true =>
    obtain ⟨c, hclosed, hheld⟩ := h
    rw [forall_prop_of_true rfl, Finset.eq_empty_iff_forall_notMem, OneKind, hclosed]
    simp only [hheld, Finset.notMem_empty, false_or, List.mem_singleton, forall_eq]
    exact ⟨fun h k hk => by_contra fun hne => h k ⟨hne, hk⟩, fun h k hk => hk.1 (h k hk.2)⟩

end HoldSignals
end Effect
end BrThermal
