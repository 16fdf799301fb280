/-
The callbacks and the handles they use.

`util::writeToDevice` closes a device it does not own when a write falls short.
A job callback that stops at the first such failure is still disciplined by
itself, and a call after which no other on that handle follows does no harm.
`getStatus` is different: it owns the handle, and closes it again after
`writeToDevice` has.
-/
import BrThermal.Drivers.Session
import BrThermal.Pappl.Ledger

namespace BrThermal
namespace Drivers

open Effect Effect.Prog Pappl

variable {δ : Type}

/-- The device took the whole of what was written. -/
def Taken : Event δ → Prop
  | ⟨.deviceWrite _ data, written⟩ => written = (data.length : Int)
  | _ => True

def AllTaken (es : List (Event δ)) : Prop := ∀ e ∈ es, Taken e

instance : (e : Event δ) → Decidable (Taken e)
  | ⟨.deviceWrite _ data, written⟩ => inferInstanceAs (Decidable (written = (data.length : Int)))
  | ⟨.deviceGetID _, _⟩ | ⟨.deviceFlush _, _⟩ | ⟨.deviceRead _, _⟩ | ⟨.deviceClose _, _⟩
  | ⟨.printerOpenDevice _, _⟩ | ⟨.printerCloseDevice _, _⟩ | ⟨.printerSetReasons _ _, _⟩
  | ⟨.jobGetImpressions _, _⟩ | ⟨.jobGetData _, _⟩ | ⟨.jobSetData _ _, _⟩ | ⟨.storeStatus _ _, _⟩
  | ⟨.storePolling _ _, _⟩ | ⟨.loadPolling _, _⟩ => isTrue trivial

instance (es : List (Event δ)) : Decidable (AllTaken es) :=
  inferInstanceAs (Decidable (∀ e ∈ es, Taken e))

theorem allTaken_append {es fs : List (Event δ)} :
    AllTaken (es ++ fs) ↔ AllTaken es ∧ AllTaken fs := List.forall_mem_append

/-! ## On the handle of a job -/

/-- Code that uses `device` and no other handle.  It may close it, but then
returns false at once; and it closes it only after a write fell short. -/
def Careful (device : Handle) (p : Code δ Bool) : Prop :=
  ∀ w (l : Ledger), device ∉ l.closed → p.wp World.env (fun ok es _ =>
    l.Disciplined es ∧ (ok = true ∨ AllTaken es → l.afterAll es = l) ∧
      ∀ d ∈ (l.afterAll es).closed, d = device ∨ d ∈ l.closed) w

section Careful

variable {device : Handle}

theorem careful_ret (ok : Bool) : Careful device (ret ok : Code δ Bool) :=
  fun _ _ _ => ⟨trivial, fun _ => rfl, fun _ hd => .inr hd⟩

theorem careful_bind {α : Type} {p : Code δ α} {f : α → Code δ Bool}
    (hp : p.Asks (Ledger.Plain (some device))) (hf : ∀ a, Careful device (f a)) :
    Careful device (p >>= f) := by
  intro w l hl
  obtain ⟨hes, hafter⟩ := Ledger.trace_of_plain hl hp w
  obtain ⟨hes', hkeep, hclosed⟩ := hf (p.value w) (p.final w) l hl
  refine wp_bind.mpr ⟨?_, ?_, ?_⟩
  · rw [Ledger.disciplined_append, hafter]
    exact ⟨hes, hes'⟩
  · rw [Ledger.afterAll_append, hafter, allTaken_append]
    exact fun h => hkeep (h.imp_right And.right)
  · rw [Ledger.afterAll_append, hafter]
    exact hclosed

theorem careful_of_asks {p : Code δ Bool} (hp : p.Asks (Ledger.Plain (some device))) :
    Careful device p := by
  rw [← bind_ret p]
  exact careful_bind hp careful_ret

/-- `if (!p) return false;` in front of careful code. -/
theorem careful_guard {p q : Code δ Bool} (hp : Careful device p) (hq : Careful device q) :
    Careful device (do if ← p then q else return false) := by
  intro w l hl
  refine wp_seq (hp w l hl) (fun ok es w' h => ?_)
  obtain ⟨hes, hkeep, hclosed⟩ := h
  cases ok with
  | false =>
    rw [if_neg Bool.false_ne_true, pure_eq, wp_ret, List.append_nil]
    exact ⟨hes, fun h => hkeep (h.imp_left id), hclosed⟩
  | true =>
    have hafter := hkeep (.inl rfl)
    rw [if_pos rfl]
    refine wp_mono (hq w' l hl) (fun ok' es' _ h => ?_)
    obtain ⟨hes', hkeep', hclosed'⟩ := h
    rw [Ledger.disciplined_append, Ledger.afterAll_append, hafter, allTaken_append]
    exact ⟨⟨hes, hes'⟩, fun h => hkeep' (h.imp_right And.right), hclosed'⟩

theorem careful_writeToDevice (data : List UInt8) :
    Careful device (writeToDevice data (some device) : Code δ Bool) := by
  intro w l hl
  rw [writeToDevice, call_bind, wp_ask]
  split
  case isTrue hshort =>
    refine ⟨⟨hl, hl, trivial⟩, fun h => ?_, fun d hd => List.mem_cons.mp hd⟩
    rcases h with h | h
    · exact absurd h Bool.false_ne_true
    · exact absurd (h _ List.mem_cons_self) hshort
  case isFalse => exact ⟨⟨hl, hl, trivial⟩, fun _ => rfl, fun _ hd => .inr hd⟩

theorem careful_writeCommands (commands : List (List UInt8)) :
    Careful device (writeCommands commands device : Code δ Bool) := by
  induction commands with
  | nil => exact careful_ret true
  | cons command commands ih => exact careful_guard (careful_writeToDevice command) ih

end Careful

theorem statusStores_plain (device : Option Handle) (uri : String) :
    StatusStores (Ledger.Plain device : Call δ → Prop) uri := ⟨fun _ => trivial, fun _ => trivial⟩

theorem lineCalls_plain (device : Handle) :
    LineCalls (Ledger.Plain (some device) : Call δ → Prop) device :=
  ⟨fun _ _ => rfl, rfl, rfl⟩

section Job

variable (job : Job) (options : PrOptions) (device : Handle) (pageNumber : UInt32)

theorem careful_endPage (print : List UInt8) : Careful device
    (endPage print (some job) (some options) (some device) pageNumber : Code δ Bool) := by
  refine careful_bind (asks_call trivial) (fun count => ?_)
  dsimp only
  split
  · exact careful_guard (careful_writeToDevice print) (careful_ret true)
  · exact careful_ret true

theorem careful_endJob (printWithFeeding : List UInt8) : Careful device
    (endJob printWithFeeding (some job) (some options) (some device) : Code δ Bool) := by
  refine careful_guard (careful_writeToDevice printWithFeeding) (careful_of_asks ?_)
  refine asks_bind (asks_poll (asks_drainAttempt (P := Ledger.Plain (some device)) rfl) _)
    (fun _ => ?_)
  exact ⟨trivial, fun _ => ⟨trivial, fun _ => ⟨trivial, fun _ => trivial⟩⟩⟩

theorem Pte550w.careful_checkStatus (variant : Pte550w.ModelVariant) : Careful device
    (Pte550w.checkStatus variant device) := by
  rw [Pte550w.checkStatus]
  split
  · refine careful_guard (careful_writeToDevice _) (careful_bind (asks_readStatusPacket rfl) ?_)
    intro packet
    cases packet <;> exact careful_ret _
  · exact careful_ret true

theorem Driver.careful_checkStatus (d : Driver) (model : d.Model) :
    Careful device (d.checkStatus model device) := by
  cases d with
  | td2000 => exact careful_ret true
  | pte550w => exact Pte550w.careful_checkStatus device model

theorem Driver.careful_startJob (d : Driver) :
    Careful device (d.callbacks.startJob (some job) (some options) (some device)) := by
  rw [startJob_eq]
  refine careful_bind (asks_call trivial) (fun did => ?_)
  cases did with
  | none => exact careful_ret false
  | some did =>
    dsimp only
    split
    · exact careful_ret false
    · exact careful_guard (careful_writeCommands _)
        (careful_guard (careful_checkStatus device d _)
          (careful_of_asks ⟨trivial, fun _ => ⟨trivial, fun _ => trivial⟩⟩))

theorem Driver.careful_startPage (d : Driver) :
    Careful device (d.callbacks.startPage (some job) (some options) (some device) pageNumber) := by
  rw [startPage_eq]
  split
  · refine careful_bind (asks_call trivial) (fun jobData => ?_)
    cases jobData with
    | none => exact careful_ret false
    | some jobData =>
      dsimp only
      split
      · exact careful_ret false
      · exact careful_writeCommands _
  · exact careful_ret false

end Job

/-- A page callback, `startJob` and `endJob` are careful with the handle of the job. -/
theorem Driver.careful_code (d : Driver) (uri : String) (job device : Nat) {c : Callback}
    (hc : c ≠ .getStatus) : Careful ⟨uri, device⟩ (d.callbacks.code uri job device c) := by
  cases c with
  | startJob options => exact careful_startJob ⟨uri, job⟩ options ⟨uri, device⟩ d
  | startPage options pageNumber =>
    exact careful_startPage ⟨uri, job⟩ options ⟨uri, device⟩ pageNumber d
  | writeLine options y pixels =>
    exact careful_of_asks (Driver.asks_writeLine options trivial (lineCalls_plain _)
      (statusStores_plain _ _) y pixels)
  | endPage options pageNumber =>
    rw [Callbacks.code, endPage_eq]
    exact careful_endPage ⟨uri, job⟩ options ⟨uri, device⟩ pageNumber _
  | endJob options =>
    rw [Callbacks.code, endJob_eq]
    exact careful_endJob ⟨uri, job⟩ options ⟨uri, device⟩ _
  | getStatus => exact absurd rfl hc

/-! ## On a handle of its own -/

/-- Code that gives back `device`, which it holds, and uses no other handle, as long
as no write falls short. -/
def Returns {α : Type} (uri : String) (device : Handle) (p : Code δ α) : Prop :=
  ∀ w (l : Ledger), device ∉ l.closed → l.opened uri = some device →
    p.wp World.env (fun _ es _ => AllTaken es →
      l.Disciplined es ∧ (l.afterAll es).closed = device :: l.closed) w

section Returns

variable {uri : String} {device : Handle}

theorem returns_close {α : Type} {p : Code δ α} (hp : p.Asks (Ledger.Plain none)) :
    Returns uri device (papplPrinterCloseDevice uri >>= fun _ => p) := by
  intro w l hl hopened _
  obtain ⟨hes, hafter⟩ := Ledger.trace_of_plain_none (l.after ⟨.printerCloseDevice uri, ()⟩) hp w
  refine ⟨⟨fun d hd => ?_, hes⟩, ?_⟩
  · rw [hopened] at hd
    rw [← Option.some.inj hd]
    exact hl
  · refine (congrArg Ledger.closed hafter).trans ?_
    simp only [Ledger.after, hopened]

theorem returns_bind {α β : Type} {p : Code δ α} {f : α → Code δ β}
    (hp : p.Asks (Ledger.Plain (some device))) (hf : ∀ a, Returns uri device (f a)) :
    Returns uri device (p >>= f) := by
  intro w l hl hopened
  obtain ⟨hes, hafter⟩ := Ledger.trace_of_plain hl hp w
  refine wp_bind.mpr fun htaken => ?_
  rw [allTaken_append] at htaken
  rw [Ledger.disciplined_append, Ledger.afterAll_append, hafter]
  obtain ⟨hes', hclosed⟩ := hf (p.value w) (p.final w) l hl hopened htaken.2
  exact ⟨⟨hes, hes'⟩, hclosed⟩

theorem returns_write {α : Type} {data : List UInt8} {f : Bool → Code δ α}
    (hf : Returns uri device (f true)) :
    Returns uri device (writeToDevice data (some device) >>= f) := by
  intro w l hl hopened
  rw [wp_bind, writeToDevice, call_bind, wp_ask]
  split
  case isTrue hshort => exact fun htaken => absurd (htaken _ List.mem_cons_self) hshort
  case isFalse =>
    intro htaken
    obtain ⟨hes, hclosed⟩ := hf _ l hl hopened
      fun e he => htaken e (List.mem_cons_of_mem _ (List.mem_cons_of_mem _ he))
    exact ⟨⟨hl, hl, hes⟩, hclosed⟩

end Returns

/-- Every closed handle is one of those opened so far. -/
def Fresh (l : Ledger) (w : World δ) : Prop := ∀ d ∈ l.closed, d.serial < w.handles d.uri

/-- Code that closes only handles it opened itself, as long as no write falls
short. -/
def Visits {α : Type} (p : Code δ α) : Prop :=
  ∀ w (l : Ledger), Fresh l w → p.wp World.env (fun _ es w' => AllTaken es →
    l.Disciplined es ∧ Fresh (l.afterAll es) w' ∧
      ∀ d ∈ (l.afterAll es).closed, d ∈ l.closed ∨ w.handles d.uri ≤ d.serial) w

/-- Opening a device either fails or yields a serial number not used before. -/
theorem answer_openDevice (uri : String) (w : World δ) :
    (∃ w', World.env (.printerOpenDevice uri) w = (none, w') ∧ w'.handles = w.handles) ∨
      ∃ w', World.env (.printerOpenDevice uri) w = (some (w.handles uri), w') ∧
        w'.handles = Function.update w.handles uri (w.handles uri + 1) := by
  simp only [World.answer]
  split
  · exact .inr ⟨_, rfl, rfl⟩
  · exact .inl ⟨_, rfl, rfl⟩

theorem handles_le (c : Call δ) (w : World δ) (uri : String) :
    w.handles uri ≤ (World.env c w).2.handles uri := by
  cases c with
  | printerOpenDevice u =>
    rcases answer_openDevice u w with ⟨w', hw', hhandles⟩ | ⟨w', hw', hhandles⟩
    · rw [hw', hhandles]
    · rw [hw', hhandles]
      by_cases hu : uri = u
      · rw [hu, Function.update_self]
        omega
      · rw [Function.update_of_ne hu]
  | _ => exact Nat.le_refl _

theorem handles_le_final {α : Type} (p : Code δ α) (w : World δ) (uri : String) :
    w.handles uri ≤ (p.final w).handles uri :=
  run_of_asks (R := fun w w' : World δ => w.handles uri ≤ w'.handles uri) (fun _ => Nat.le_refl _)
    (fun _ _ _ => Nat.le_trans) (fun c w _ => handles_le c w uri) (asks_true p) w

theorem Fresh.mono {l : Ledger} {w w' : World δ} (h : Fresh l w)
    (hle : ∀ uri, w.handles uri ≤ w'.handles uri) : Fresh l w' := by
  intro d hd
  have hlt := h d hd
  have hgrow := hle d.uri
  omega

/-- Closing a handle that was opened in between keeps the ledger fresh, and adds no other
handle to it. -/
theorem Fresh.close {l l' : Ledger} {w w' : World δ} {opened : Handle} (hl : Fresh l w)
    (hclosed : l'.closed = opened :: l.closed) (hle : ∀ uri, w.handles uri ≤ w'.handles uri)
    (hnew : w.handles opened.uri ≤ opened.serial) (hlt : opened.serial < w'.handles opened.uri) :
    Fresh l' w' ∧ ∀ d ∈ l'.closed, d ∈ l.closed ∨ w.handles d.uri ≤ d.serial := by
  have hmem : ∀ d ∈ l'.closed, d = opened ∨ d ∈ l.closed := by
    intro d hd
    rw [hclosed] at hd
    exact List.mem_cons.mp hd
  refine ⟨fun d hd => ?_, fun d hd => ?_⟩
  · rcases hmem d hd with rfl | hd
    · exact hlt
    · exact hl.mono hle d hd
  · rcases hmem d hd with rfl | hd
    · exact .inr hnew
    · exact .inl hd

section Visits

variable {uri : String}

theorem visits_of_asks {α : Type} {p : Code δ α} (hp : p.Asks (Ledger.Plain none)) :
    Visits p := by
  intro w l hl _
  obtain ⟨hes, hafter⟩ := Ledger.trace_of_plain_none l hp w
  rw [hafter]
  exact ⟨hes, hl.mono (handles_le_final p w), fun _ hd => .inl hd⟩

theorem visits_bind {α β : Type} {p : Code δ α} {f : α → Code δ β} (hp : Visits p)
    (hf : ∀ a, Visits (f a)) : Visits (p >>= f) := by
  intro w l hl
  refine wp_bind.mpr fun htaken => ?_
  rw [allTaken_append] at htaken
  obtain ⟨hes, hfresh, hclosed⟩ := hp w l hl htaken.1
  obtain ⟨hes', hfresh', hclosed'⟩ := hf (p.value w) (p.final w) _ hfresh htaken.2
  rw [Ledger.disciplined_append, Ledger.afterAll_append]
  refine ⟨⟨hes, hes'⟩, hfresh', fun d hd => ?_⟩
  rcases hclosed' d hd with hd | hd
  · exact hclosed d hd
  · have hgrow := handles_le_final p w d.uri
    right
    omega

/-- Open, use and give back. -/
theorem visits_open {α : Type} {f : Option Handle → Code δ α}
    (hnone : (f none).Asks (Ledger.Plain none))
    (hsome : ∀ serial, Returns uri ⟨uri, serial⟩ (f (some ⟨uri, serial⟩))) :
    Visits (papplPrinterOpenDevice uri >>= f) := by
  intro w l hl
  rcases answer_openDevice uri w with ⟨w', hw', hhandles⟩ | ⟨w', hw', hhandles⟩
  · rw [ask_bind, wp_ask, hw']
    intro htaken
    have hl' : Fresh l w' := by
      intro d hd
      rw [hhandles]
      exact hl d hd
    obtain ⟨hes, hfresh, hclosed⟩ := visits_of_asks hnone w' l hl'
      fun e he => htaken e (List.mem_cons_of_mem _ he)
    rw [hhandles] at hclosed
    exact ⟨⟨trivial, hes⟩, hfresh, hclosed⟩
  · rw [ask_bind, wp_ask, hw']
    intro htaken
    have hnew : (⟨uri, w.handles uri⟩ : Handle) ∉ l.closed := by
      intro h
      have hlt : w.handles uri < w.handles uri := hl _ h
      omega
    let opened : Event δ := ⟨.printerOpenDevice uri, some (w.handles uri)⟩
    obtain ⟨hes, hclosed⟩ := hsome (w.handles uri) w' (l.after opened) hnew
      (Function.update_self _ _ _) fun e he => htaken e (List.mem_cons_of_mem _ he)
    have hfinal := handles_le_final (f (some ⟨uri, w.handles uri⟩)) w'
    have hgrown : w.handles uri < w'.handles uri := by
      rw [hhandles, Function.update_self]
      omega
    have hle : ∀ u, w.handles u ≤ w'.handles u := by
      intro u
      have h := handles_le (.printerOpenDevice uri) w u
      rw [hw'] at h
      exact h
    exact ⟨⟨trivial, hes⟩, hl.close hclosed (fun u => Nat.le_trans (hle u) (hfinal u))
      (Nat.le_refl _) (Nat.lt_of_lt_of_le hgrown (hfinal uri))⟩

end Visits

section Status

variable (uri : String)

theorem visits_pushedStatus (errorReasons : PrinterInfo → Reasons) :
    Visits (pushedStatus errorReasons uri : Code δ Bool) := by
  refine visits_open (asks_ret _) (fun serial => ?_)
  refine returns_bind (asks_readStatusPacket rfl) (fun packet => returns_bind ?_ (fun _ =>
    returns_close (asks_ret _)))
  cases packet with
  | none => exact asks_ret _
  | some packet => exact asks_applyPrinterStatus errorReasons (statusStores_plain _ uri) packet

theorem Td2000.visits_getStatus : Visits (Td2000.getStatus uri) := by
  refine visits_bind (visits_of_asks (asks_call trivial)) (fun polling => ?_)
  cases polling with
  | true => exact visits_pushedStatus uri _
  | false =>
    refine visits_open (asks_ret _) (fun serial => returns_write (returns_bind (asks_poll ?_ _)
      (fun status => ?_)))
    · refine asks_bind (asks_readStatusPacket rfl) (fun packet => ?_)
      cases packet with
      | some packet => exact asks_ret _
      | none =>
        refine asks_bind (asks_call rfl) (fun probe => ?_)
        split <;> exact asks_ret _
    · rcases status with _ | _ | received
      · exact returns_close (asks_ret _)
      · exact returns_close ⟨trivial, fun _ => trivial⟩
      · exact returns_close (asks_bind
          (asks_applyPrinterStatus _ (statusStores_plain none uri) received) (fun _ => asks_ret _))

theorem Pte550w.visits_getStatus : Visits (Pte550w.getStatus uri) := by
  refine visits_bind (visits_of_asks (asks_call trivial)) (fun polling => ?_)
  cases polling with
  | true => exact visits_pushedStatus uri _
  | false =>
    refine visits_bind (visits_open (asks_ret _) (fun serial => ?_)) (fun did => ?_)
    · exact returns_bind (asks_call trivial) (fun did => returns_close (asks_ret _))
    · split
      case isFalse => exact visits_of_asks (asks_ret _)
      case isTrue =>
        refine visits_open (asks_ret _) (fun serial => returns_write (returns_bind (asks_poll
          (asks_readStatusPacket (P := Ledger.Plain (some ⟨uri, serial⟩)) rfl) _)
          (fun packet => ?_)))
        cases packet with
        | none => exact returns_close (asks_ret _)
        | some received =>
          exact returns_close (asks_bind
            (asks_applyPrinterStatus _ (statusStores_plain none uri) received)
            (fun _ => asks_ret _))

theorem Driver.visits_getStatus (d : Driver) : Visits (d.callbacks.getStatus uri) := by
  cases d with
  | td2000 => exact Td2000.visits_getStatus uri
  | pte550w => exact Pte550w.visits_getStatus uri

end Status

/-! ## Over a session -/

/-- In `startPage`, `endPage` and `getStatus` the device takes all that is written. -/
def WritesTaken (d : Driver) (s : Session d.JobData) (x : Step) : Prop :=
  match x.callback with
  | .startPage _ _ | .endPage _ _ | .getStatus => ∀ r ∈ s.target x,
    AllTaken ((d.callbacks.code x.uri r.job r.device x.callback).trace (s.before x))
  | _ => True

/-- No call of the log is on a closed handle, and the handles of the running jobs
are open. -/
structure HandlesKept (s : Session δ) : Prop where
  disciplined : Ledger.Disciplined {} s.log
  fresh : Fresh (Ledger.afterAll {} s.log) s.world
  held : ∀ uri, ∀ r ∈ s.active uri, (⟨uri, r.device⟩ : Handle) ∉ (Ledger.afterAll {} s.log).closed ∧
    r.device < s.world.handles uri

theorem handles_before (s : Session δ) (x : Step) (uri : String) :
    s.world.handles uri ≤ (s.before x).handles uri := by
  cases hx : x.callback with
  | startJob options =>
    simp only [Session.before, hx]
    by_cases hu : uri = x.uri
    · rw [hu, Function.update_self]
      simp only [World.withScript]
      omega
    · rw [Function.update_of_ne hu]
      simp only [World.withScript, Nat.le_refl]
  | _ => simp only [Session.before, hx, World.withScript, Nat.le_refl]

/-- The handles of the running jobs are still open when the callback starts. -/
theorem HandlesKept.before {s : Session δ} (hs : HandlesKept s) (x : Step) (u : String) :
    ∀ r ∈ s.active u, (⟨u, r.device⟩ : Handle) ∉ (Ledger.afterAll {} s.log).closed ∧
      r.device < (s.before x).handles u := by
  intro r hr
  obtain ⟨hout, hlt⟩ := hs.held u r hr
  have hgrow := handles_before s x u
  exact ⟨hout, by omega⟩

/-- The handle a job callback runs on is open when it starts. -/
theorem target_open {s : Session δ} {x : Step} {r : Running} (hs : HandlesKept s)
    (ht : s.target x = some r) (hx : x.callback ≠ .getStatus) :
    (⟨x.uri, r.device⟩ : Handle) ∉ (Ledger.afterAll {} s.log).closed ∧
      r.device < (s.before x).handles x.uri := by
  have hrunning : s.active x.uri = some r →
      (⟨x.uri, r.device⟩ : Handle) ∉ (Ledger.afterAll {} s.log).closed ∧
        r.device < (s.before x).handles x.uri := hs.before x x.uri r
  obtain ⟨uri, callback, script⟩ := x
  cases callback with
  | startJob options =>
    obtain ⟨-, hr⟩ := Session.idle_of_target ht
    rw [hr]
    constructor
    · intro h
      have hlt : s.world.handles uri < s.world.handles uri := hs.fresh _ h
      omega
    · simp only [Session.before, World.withScript, Function.update_self]
      omega
  | getStatus => exact absurd rfl hx
  | _ => exact hrunning ht

/-- What remains to show of a callback, whatever it returned. -/
theorem handlesKept_after {s : Session δ} (hs : HandlesKept s) {x : Step} {r : Running} {ok : Bool}
    {es : List (Event δ)} {w : World δ} (hle : ∀ u, (s.before x).handles u ≤ w.handles u)
    (hes : (Ledger.afterAll {} s.log).Disciplined es)
    (hfresh : Fresh ((Ledger.afterAll {} s.log).afterAll es) w)
    (hheld : ∀ u, ∀ r' ∈ (s.after x r ok es w).active u,
      (⟨u, r'.device⟩ : Handle) ∉ ((Ledger.afterAll {} s.log).afterAll es).closed ∧
        r'.device < (s.before x).handles u) :
    HandlesKept (s.after x r ok es w) where
  disciplined := by
    rw [Session.after, Ledger.disciplined_append]
    exact ⟨hs.disciplined, hes⟩
  fresh := by
    rw [Session.after, Ledger.afterAll_append]
    exact hfresh
  held := by
    intro u r' hr'
    obtain ⟨hout, hlt⟩ := hheld u r' hr'
    have hgrow := hle u
    rw [Session.after, Ledger.afterAll_append]
    exact ⟨hout, Nat.lt_of_lt_of_le hlt hgrow⟩

/-- A job callback leaves the handle of its job open, if the job runs on. -/
theorem own_handle_open {d : Driver} {s : Session d.JobData} {x : Step} {r : Running}
    (hs : HandlesKept s) (hx : WritesTaken d s x) (ht : s.target x = some r)
    (hc : x.callback ≠ .getStatus) :
    (d.callbacks.code x.uri r.job r.device x.callback).wp World.env (fun ok es w =>
      ∀ r' ∈ (s.after x r ok es w).active x.uri,
        (⟨x.uri, r'.device⟩ : Handle) ∉ ((Ledger.afterAll {} s.log).afterAll es).closed ∧
          r'.device < (s.before x).handles x.uri) (s.before x) := by
  intro r' hr'
  obtain ⟨hout, hlt⟩ := target_open hs ht hc
  obtain ⟨-, hkeep, -⟩ := Driver.careful_code d x.uri r.job r.device hc (s.before x) _ hout
  have hheld := hs.before x x.uri
  obtain ⟨uri, callback, script⟩ := x
  cases callback with
  | startJob options =>
    obtain ⟨hidle, -⟩ := Session.idle_of_target ht
    simp only [Session.after] at hr'
    split at hr'
    case isTrue hok =>
      rw [Function.update_self] at hr'
      rw [hkeep (.inl hok), ← Option.some.inj hr']
      exact ⟨hout, hlt⟩
    case isFalse =>
      rw [hidle] at hr'
      cases hr'
  | startPage options pageNumber =>
    rw [hkeep (.inr (hx r ht))]
    exact hheld r' hr'
  | writeLine options y pixels =>
    have hasks : (d.callbacks.code uri r.job r.device (.writeLine options y pixels)).Asks
        (Ledger.Plain (some ⟨uri, r.device⟩)) :=
      Driver.asks_writeLine options trivial (lineCalls_plain _) (statusStores_plain _ uri) y pixels
    rw [(Ledger.trace_of_plain hout hasks _).2]
    exact hheld r' hr'
  | endPage options pageNumber =>
    rw [hkeep (.inr (hx r ht))]
    exact hheld r' hr'
  | endJob options =>
    simp only [Session.after, Function.update_self] at hr'
    cases hr'
  | getStatus => exact absurd rfl hc

theorem next_handlesKept {d : Driver} {s : Session d.JobData} {x : Step} (hs : HandlesKept s)
    (hx : WritesTaken d s x) : HandlesKept (s.next d.callbacks x) := by
  refine Session.next_rule hs (fun r ht => ?_)
  have hfresh := hs.fresh.mono (handles_before s x)
  have hle := handles_le_final (d.callbacks.code x.uri r.job r.device x.callback) (s.before x)
  by_cases hc : x.callback = .getStatus
  · obtain ⟨uri, callback, script⟩ := x
    subst hc
    obtain ⟨hes, hfresh', hclosed⟩ := Driver.visits_getStatus uri d _ _ hfresh (hx r ht)
    refine handlesKept_after hs hle hes hfresh' (fun u r' hr' => ?_)
    obtain ⟨hout, hlt⟩ := hs.before ⟨uri, .getStatus, script⟩ u r' hr'
    refine ⟨fun hin => ?_, hlt⟩
    rcases hclosed _ hin with hin | hge
    · exact hout hin
    · simp only at hge
      omega
  · obtain ⟨hout, hlt⟩ := target_open hs ht hc
    obtain ⟨hes, -, hclosed⟩ :=
      Driver.careful_code d x.uri r.job r.device hc (s.before x) _ hout
    refine handlesKept_after hs hle hes (fun h hh => ?_) (fun u r' hr' => ?_)
    · rcases hclosed h hh with rfl | hh
      · exact Nat.lt_of_lt_of_le hlt (hle x.uri)
      · exact (hfresh.mono hle) h hh
    · by_cases hu : u = x.uri
      · subst hu
        exact own_handle_open hs hx ht hc r' hr'
      · -- the job of another printer, whose handle no job callback can close
        rw [s.active_after_of_ne hu] at hr'
        obtain ⟨hout', hlt'⟩ := hs.before x u r' hr'
        refine ⟨fun hin => ?_, hlt'⟩
        rcases hclosed _ hin with heq | hin
        · exact hu (congrArg Handle.uri heq)
        · exact hout' hin

/-- Each call of the log is on handles that no earlier one closed. -/
def NoUseAfterClose (s : Session δ) : Prop :=
  ∀ earlier e later, s.log = earlier ++ e :: later →
    (Ledger.afterAll {} earlier).Allows e.1

/-- In every run in which no write of `startPage`, `endPage` or `getStatus` falls
short, no handle is used once it has been closed. -/
theorem reachable_noUseAfterClose {d : Driver} {impressions : Job → Int32}
    {s : Session d.JobData} (h : s.Reachable d.callbacks impressions (WritesTaken d)) :
    NoUseAfterClose s := by
  have hkept : HandlesKept s := by
    induction h with
    | init => exact ⟨trivial, fun _ hd => absurd hd List.not_mem_nil, fun _ _ hr => by cases hr⟩
    | next x h hx ih => exact next_handlesKept ih hx
  exact (Ledger.disciplined_iff {} s.log).mp hkept.disciplined

def startStep : Step :=
  ⟨"usb://TD-2020", .startJob oneLinePage, { ids := [some ⟨some "TD-2020"⟩] }⟩

def pageStep : Step := ⟨"usb://TD-2020", .startPage oneLinePage 0, {}⟩

theorem reachable_noUseAfterClose_page :
    NoUseAfterClose (((Session.init fun _ => 1).next Driver.td2000.callbacks startStep).next
      Driver.td2000.callbacks pageStep) := by
  have htaken : WritesTaken .td2000
      ((Session.init fun _ => 1).next Driver.td2000.callbacks startStep) pageStep := by
    rw [WritesTaken, pageStep]
    dsimp only
    decide +kernel
  exact reachable_noUseAfterClose (.next pageStep (.next startStep .init trivial) htaken)

/-- `getStatus` closes its handle twice after a refused status request. -/
theorem not_noUseAfterClose_getStatus :
    ¬∀ (d : Driver) (impressions : Job → Int32) (s : Session d.JobData),
      s.Reachable d.callbacks impressions Session.anyStep → NoUseAfterClose s := by
  intro h
  have hlog := h .td2000 _ _ (Session.reachable_run Driver.td2000.callbacks (fun _ => 1)
    (fun x (_ : x ∈ [⟨"usb://TD-2020", .getStatus, { writes := [.error] }⟩]) _ => trivial))
  rw [NoUseAfterClose, ← Ledger.disciplined_iff] at hlog
  revert hlog
  decide +kernel

end Drivers
end BrThermal
