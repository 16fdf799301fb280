/-
The commands a log gives to a device.

A callback writes one command at a time and stops at the first that the device does
not take whole.  So the commands it wrote are the first of those it had to write,
and those taken whole are all of them but perhaps the last.
-/
import BrThermal.Drivers.Device

namespace BrThermal
namespace Pappl

variable {δ : Type}

/-- The commands written, in order. -/
def written (es : List (Event δ)) : List (List UInt8) :=
  es.filterMap fun
    | ⟨.deviceWrite _ data, _⟩ => some data
    | _ => none

/-- The command of a write that the device took whole. -/
def Event.taken : Event δ → Option (List UInt8)
  | ⟨.deviceWrite _ data, result⟩ => if result = (data.length : Int) then some data else none
  | _ => none

/-- The commands taken whole, in order. -/
def taken (es : List (Event δ)) : List (List UInt8) := es.filterMap Event.taken

theorem taken_write (device : Handle) (data : List UInt8) (result : Int) (es : List (Event δ)) :
    taken (⟨.deviceWrite device data, result⟩ :: es) =
      if result = (data.length : Int) then data :: taken es else taken es := by
  rw [taken, List.filterMap_cons]
  by_cases hwhole : result = (data.length : Int)
  · rw [Event.taken, if_pos hwhole, if_pos hwhole]
    rfl
  · rw [Event.taken, if_neg hwhole, if_neg hwhole]
    rfl

theorem written_append (es fs : List (Event δ)) : written (es ++ fs) = written es ++ written fs :=
  List.filterMap_append

theorem taken_append (es fs : List (Event δ)) : taken (es ++ fs) = taken es ++ taken fs :=
  List.filterMap_append

end Pappl

namespace Drivers

open Effect Effect.Prog Pappl

variable {δ : Type} {device : Handle}

/-- What code that is to write `commands`, and stops at the first refusal, leaves in
the log. -/
structure WritesUpTo (commands : List (List UInt8)) (ok : Bool) (es : List (Event δ)) : Prop where
  taken : Pappl.taken es <+: Pappl.written es
  written : Pappl.written es <+: commands
  whole : ok = true → Pappl.taken es = commands

/-- Where nothing is to be written, nothing is. -/
theorem writesUpTo_nil {ok : Bool} {es : List (Event δ)} (hwritten : Pappl.written es = [])
    (htaken : Pappl.taken es = []) : WritesUpTo [] ok es := by
  refine ⟨?_, ?_, fun _ => htaken⟩
  · rw [htaken]
    exact List.nil_prefix
  · rw [hwritten]

namespace WritesUpTo

variable {commands commands' : List (List UInt8)} {ok : Bool} {es es' : List (Event δ)}

theorem written_eq (h : WritesUpTo commands true es) : Pappl.written es = commands := by
  have hcommands : commands <+: Pappl.written es := h.whole rfl ▸ h.taken
  exact h.written.eq_of_length_le hcommands.length_le

theorem append (h : WritesUpTo commands true es) (h' : WritesUpTo commands' ok es') :
    WritesUpTo (commands ++ commands') ok (es ++ es') := by
  have htaken := h.whole rfl
  have hwritten := h.written_eq
  constructor
  · rw [written_append, taken_append, hwritten, htaken]
    exact (List.prefix_append_right_inj _).mpr h'.taken
  · rw [written_append, hwritten]
    exact (List.prefix_append_right_inj _).mpr h'.written
  · intro hok
    rw [taken_append, htaken, h'.whole hok]

theorem stop (h : WritesUpTo commands false es) (commands' : List (List UInt8)) :
    WritesUpTo (commands ++ commands') false es :=
  ⟨h.taken, h.written.trans (List.prefix_append _ _), fun hok => absurd hok Bool.false_ne_true⟩

end WritesUpTo

/-- `if (!p) return false;` in front of what writes the rest. -/
theorem writesUpTo_guard {p q : Code δ Bool} {commands commands' : List (List UInt8)} {w : World δ}
    (hp : p.wp World.env (fun ok es _ => WritesUpTo commands ok es) w)
    (hq : ∀ w', q.wp World.env (fun ok es _ => WritesUpTo commands' ok es) w') :
    (do if ← p then q else return false).wp World.env
      (fun ok es _ => WritesUpTo (commands ++ commands') ok es) w := by
  refine wp_seq hp (fun ok es w' h => ?_)
  cases ok with
  | true =>
    rw [if_pos rfl]
    exact wp_mono (hq w') (fun ok es' _ h' => h.append h')
  | false =>
    rw [if_neg Bool.false_ne_true, pure_eq, wp_ret, List.append_nil]
    exact h.stop commands'

theorem writeToDevice_writesUpTo (data : List UInt8) (w : World δ) :
    (writeToDevice data (some device)).wp World.env
      (fun ok es _ => WritesUpTo [data] ok es) w := by
  rw [writeToDevice, call_bind, wp_ask]
  split
  case isTrue hshort =>
    refine ⟨?_, List.prefix_refl _, fun hok => absurd hok Bool.false_ne_true⟩
    rw [taken_write, if_neg hshort]
    exact List.nil_prefix
  case isFalse hwhole =>
    have htaken : ∀ es : List (Event δ), taken (⟨.deviceWrite device data, (World.env
        (.deviceWrite device data) w).1⟩ :: es) = data :: taken es := fun es => by
      rw [taken_write, if_pos (not_not.mp hwhole)]
    refine ⟨?_, List.prefix_refl _, fun _ => htaken _⟩
    rw [htaken]
    exact List.prefix_refl _

theorem writeCommands_writesUpTo (commands : List (List UInt8)) (w : World δ) :
    (writeCommands commands device).wp World.env
      (fun ok es _ => WritesUpTo commands ok es) w := by
  induction commands generalizing w with
  | nil => exact ⟨List.prefix_refl _, List.prefix_refl _, fun _ => rfl⟩
  | cons command commands ih => exact writesUpTo_guard (writeToDevice_writesUpTo command w) ih

end Drivers
end BrThermal
