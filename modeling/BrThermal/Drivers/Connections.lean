/-
The connections a thread takes from `papplPrinterOpenDevice`.

`getStatus` talks to the printer over connections of its own, through a request, a
hundred reads and an early exit for each of them.  `held` counts what a thread has had
from `papplPrinterOpenDevice` and not given back with `papplPrinterCloseDevice`.  A thread
of callbacks asks for a connection only when it holds none, to whatever printer, and gives
back only what it holds, so it never waits for one connection while it keeps another, and
none is left behind when it is done.

`papplDeviceClose` is not counted: `writeToDevice` calls it on the handle itself after a
failed write, and the connection still has to be given back.  The uses of a handle that
follow such a call are the business of the module on handles.
-/
import BrThermal.Drivers.Origin

namespace BrThermal
namespace Drivers

open Effect Effect.Prog Pappl

section Held

variable {δ : Type}

/-- What an event adds to the connections held to the printer at `uri`. -/
def connections (uri : String) : Event δ → Int
  | ⟨.printerOpenDevice u, some _⟩ => if u = uri then 1 else 0
  | ⟨.printerCloseDevice u, _⟩ => if u = uri then -1 else 0
  | _ => 0

/-- The connections to each printer that are held after some events. -/
def held : List (Event δ) → String → Int
  | [] => fun _ => 0
  | e :: es => fun uri => connections uri e + held es uri

def noConnection : String → Int := fun _ => 0

def oneTo (uri : String) : String → Int := fun u => if uri = u then 1 else 0

theorem held_snoc (past : List (Event δ)) (e : Event δ) (uri : String) :
    held (past ++ [e]) uri = held past uri + connections uri e := by
  induction past with
  | nil => exact Int.add_comm _ _
  | cons first past ih =>
    simp only [List.cons_append, held, ih]
    omega

/-- The calls that take no connection and give none back. -/
def Apart : Call δ → Prop
  | .printerOpenDevice _ | .printerCloseDevice _ => False
  | _ => True

/-- What a thread must hold to take a connection and to give one back. -/
def Orderly (past : List (Event δ)) : Call δ → Prop
  | .printerOpenDevice _ => held past = noConnection
  | .printerCloseDevice uri => held past = oneTo uri
  | _ => True

theorem connections_of_apart {c : Call δ} (hc : Apart c) (r : c.Reply) (uri : String) :
    connections uri (⟨c, r⟩ : Event δ) = 0 := by
  cases c with
  | printerOpenDevice | printerCloseDevice => exact hc.elim
  | _ => rfl

theorem orderly_of_apart {c : Call δ} (hc : Apart c) (past : List (Event δ)) :
    Orderly past c := by
  cases c with
  | printerOpenDevice | printerCloseDevice => exact hc.elim
  | _ => trivial

/-- Code that starts with the connections `n` and ends with `m`. -/
def Holds {α : Type} (n m : String → Int) (p : Code δ α) : Prop :=
  ∀ past, held past = n → p.Warranted Orderly (fun past _ => held past = m) past

/-- Code that gives back what it opens. -/
abbrev GivesBack {α : Type} (p : Code δ α) : Prop := Holds noConnection noConnection p

section Rules

variable {α β : Type} {n m k : String → Int} {uri : String}

theorem holds_ret (a : α) : Holds n n (ret a : Code δ α) := fun _ h => h

theorem holds_bind {p : Code δ α} {f : α → Code δ β} (hp : Holds n m p)
    (hf : ∀ a, Holds m k (f a)) : Holds n k (p >>= f) :=
  fun past h => warranted_bind (hp past h) fun past a ha => hf a past ha

theorem holds_of_apart {p : Code δ α} (hp : p.Asks Apart) : Holds n n p := by
  refine fun past h => warranted_of_asks hp (fun past c r hc h => ?_)
    (fun past c hc _ => orderly_of_apart hc past) h
  funext uri
  rw [held_snoc, connections_of_apart hc, Int.add_zero, h]

theorem holds_open {f : Option Handle → Code δ α} (hnone : Holds noConnection m (f none))
    (hsome : ∀ serial, Holds (oneTo uri) m (f (some ⟨uri, serial⟩))) :
    Holds noConnection m (papplPrinterOpenDevice uri >>= f) := by
  refine fun past h => warranted_ask h (fun serial => ?_)
  cases serial with
  | none =>
    refine hnone _ (funext fun u => ?_)
    rw [held_snoc, h]
    rfl
  | some serial =>
    refine hsome serial _ (funext fun u => ?_)
    rw [held_snoc, h]
    exact Int.zero_add _

theorem holds_close :
    Holds (oneTo uri) noConnection (papplPrinterCloseDevice uri : Code δ Unit) := by
  refine fun past h => warranted_ask h (fun r => ?_)
  show held _ = noConnection
  funext u
  rw [held_snoc, h]
  simp only [oneTo, connections, noConnection]
  split <;> rfl

/-- The exit of `getStatus` that has nothing to record. -/
theorem holds_close_ret (a : α) : Holds (oneTo uri) noConnection
    (papplPrinterCloseDevice uri >>= fun _ => (ret a : Code δ α)) :=
  holds_bind holds_close fun _ => holds_ret a

end Rules

/-! ## The callbacks -/

theorem statusStores_apart (uri : String) : StatusStores (Apart (δ := δ)) uri :=
  ⟨fun _ => trivial, fun _ => trivial⟩

theorem jobCalls_apart (job : Job) (device : Handle) : JobCalls (Apart (δ := δ)) job device where
  write _ _ := trivial
  flush := trivial
  close := trivial
  impressions := trivial
  data := trivial
  read := trivial
  id := trivial
  polling _ := trivial
  setData _ := trivial
  request := trivial

theorem holds_writeToDevice {n : String → Int} (data : List UInt8) (device : Handle) :
    Holds n n (writeToDevice data (some device) : Code δ Bool) :=
  holds_of_apart (asks_writeToDevice trivial trivial trivial)

theorem holds_pushedStatus (errorReasons : PrinterInfo → Reasons) (uri : String) :
    GivesBack (pushedStatus errorReasons uri : Code δ Bool) := by
  refine holds_open (holds_ret true) (fun serial => ?_)
  refine holds_bind (holds_of_apart (asks_readStatusPacket trivial)) (fun packet => ?_)
  refine holds_bind (holds_of_apart ?_) (fun _ => holds_close_ret true)
  cases packet with
  | none => exact asks_ret ()
  | some packet => exact asks_applyPrinterStatus errorReasons (statusStores_apart uri) packet

end Held

theorem Td2000.holds_pulledStatus (uri : String) : GivesBack (Td2000.pulledStatus uri) := by
  refine holds_open (holds_ret false) (fun serial => ?_)
  refine holds_bind (holds_writeToDevice _ _) (fun ok => ?_)
  cases ok with
  | false => exact holds_close_ret false
  | true =>
    refine holds_bind (holds_of_apart (asks_poll ?_ 100)) (fun status => ?_)
    · refine asks_bind (asks_readStatusPacket trivial) (fun packet => ?_)
      cases packet with
      | some packet => exact asks_ret _
      | none =>
        refine asks_bind (asks_call ?_) (fun probe => ?_)
        · trivial
        · split <;> exact asks_ret _
    · rcases status with _ | _ | received
      · exact holds_close_ret false
      · refine holds_bind holds_close (fun _ => holds_of_apart ?_)
        exact asks_bind (asks_call ((statusStores_apart uri).reasons _)) fun _ => asks_ret false
      · refine holds_bind holds_close (fun _ => holds_of_apart ?_)
        exact asks_bind (asks_applyPrinterStatus _ (statusStores_apart uri) received)
          fun _ => asks_ret true

theorem Pte550w.holds_pulledStatus (uri : String) : GivesBack (Pte550w.pulledStatus uri) := by
  refine holds_open (holds_ret false) (fun serial => ?_)
  refine holds_bind (holds_writeToDevice _ _) (fun ok => ?_)
  cases ok with
  | false => exact holds_close_ret false
  | true =>
    refine holds_bind (holds_of_apart (asks_poll (asks_readStatusPacket trivial) 100))
      (fun packet => ?_)
    cases packet with
    | none => exact holds_close_ret false
    | some received =>
      refine holds_bind holds_close (fun _ => holds_of_apart ?_)
      exact asks_bind (asks_applyPrinterStatus _ (statusStores_apart uri) received)
        fun _ => asks_ret true

theorem Pte550w.holds_statusDeviceID (uri : String) : GivesBack (Pte550w.statusDeviceID uri) := by
  refine holds_open (holds_ret _) (fun serial => ?_)
  exact holds_bind (holds_of_apart (asks_call (P := Apart) trivial)) fun did => holds_close_ret _

namespace Driver

variable {d : Driver}

theorem holds_getStatus (uri : String) : GivesBack (d.callbacks.getStatus uri) := by
  have hload : GivesBack (loadPrinterStatusPolling uri : Code d.JobData Bool) :=
    holds_of_apart (asks_call (P := Apart) trivial)
  cases d with
  | td2000 =>
    refine holds_bind hload (fun polling => ?_)
    cases polling with
    | true => exact holds_pushedStatus Td2000.errorReasons uri
    | false => exact Td2000.holds_pulledStatus uri
  | pte550w =>
    refine holds_bind hload (fun polling => ?_)
    cases polling with
    | true => exact holds_pushedStatus Pte550w.errorReasons uri
    | false =>
      refine holds_bind (Pte550w.holds_statusDeviceID uri) (fun did => ?_)
      split
      · exact Pte550w.holds_pulledStatus uri
      · exact holds_ret true

theorem holds_code (uri : String) (job device : Nat) (c : Callback) :
    GivesBack (d.callbacks.code uri job device c) := by
  have hjob : JobCalls (Apart (δ := d.JobData)) ⟨uri, job⟩ ⟨uri, device⟩ := jobCalls_apart _ _
  cases c with
  | startJob options => exact holds_of_apart (asks_startJob options hjob)
  | startPage options pageNumber =>
    exact holds_of_apart (asks_startPage options hjob.toPageCalls pageNumber)
  | writeLine options y pixels =>
    exact holds_of_apart (asks_writeLine options trivial ⟨fun _ _ => trivial, trivial, trivial⟩
      (statusStores_apart uri) y pixels)
  | endPage options pageNumber =>
    exact holds_of_apart (asks_endPage options hjob.toPageCalls pageNumber)
  | endJob options => exact holds_of_apart (asks_endJob options hjob.toEndCalls)
  | getStatus => exact holds_getStatus uri

end Driver

theorem holds_client {α : Type} {d : Driver} {p : Code d.JobData α}
    (hp : Client d.callbacks p) : GivesBack p := by
  induction hp with
  | ret a => exact holds_ret a
  | call uri job device c hk ih => exact holds_bind (Driver.holds_code uri job device c) ih

/-- Whatever the devices answer and however the threads are scheduled, a thread takes a
connection only while it holds none, gives back only the one it holds, and holds none once
it is done. -/
theorem connections_returned {τ α : Type} [DecidableEq τ] {d : Driver}
    {prog : τ → Code d.JobData α} (hprog : ∀ t, Client d.callbacks (prog t))
    (w : World d.JobData) (schedule : List τ) :
    let pool : Pool τ (Call d.JobData) Call.Reply α (World d.JobData) := ⟨w, prog⟩
    let trace := pool.trace World.env schedule
    (∀ xs t e ys, trace = xs ++ (t, e) :: ys → Orderly (Pool.eventsOf t xs) e.1) ∧
      ∀ t a, (pool.run World.env schedule).prog t = .ret a →
        held (Pool.eventsOf t trace) = noConnection := by
  intro pool trace
  have hholds : ∀ t, (pool.prog t).Warranted Orderly (fun past _ => held past = noConnection) [] :=
    fun t => holds_client (hprog t) [] rfl
  refine ⟨fun xs t e ys htrace => ?_, fun t a hdone => ?_⟩
  · exact Pool.trace_of_warranted schedule hholds htrace
  · have hlast := Pool.warranted_run (h := World.env) schedule hholds t
    rw [hdone] at hlast
    exact hlast

/-- Two status calls that cross each other. -/
theorem connections_returned_crossing :
    let trace := statusPool.trace World.env crossingSchedule
    (∀ xs t e ys, trace = xs ++ (t, e) :: ys → Orderly (Pool.eventsOf t xs) e.1) ∧
      ∀ t a, (statusPool.run World.env crossingSchedule).prog t = .ret a →
        held (Pool.eventsOf t trace) = noConnection :=
  connections_returned (d := .td2000) (fun _ => client_serve _ _ _) coverWorld crossingSchedule

end Drivers
end BrThermal
