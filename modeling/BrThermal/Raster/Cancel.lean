/-
A reader that goes on when a job breaks off.

`Reader` reads streams that are in order and has no reading for any other.  A printer
must do something with every command: NUL and ESC @ clear the page that is open, and
a command that has no place where it comes is passed over.  On a stream in order that
changes nothing.  A stream that breaks off leaves the pages that were finished, and
at most one more that is the beginning of the next.
-/
import BrThermal.Codec.Truncation
import BrThermal.Raster.Stream

namespace BrThermal
namespace Raster

open Codec

namespace Reader

/-- One command, wherever it comes. -/
def take (r : Reader) (c : Command) : Reader :=
  match c.opcode with
  | .invalidate | .initializeCommand => { r with current := none }
  | _ => (r.step c).getD r

def takeAll (r : Reader) (cs : List Command) : Reader := cs.foldl take r

@[simp] theorem takeAll_nil (r : Reader) : r.takeAll [] = r := rfl

@[simp] theorem takeAll_cons (r : Reader) (c : Command) (cs : List Command) :
    r.takeAll (c :: cs) = (r.take c).takeAll cs := rfl

theorem takeAll_append (r : Reader) (cs ds : List Command) :
    r.takeAll (cs ++ ds) = (r.takeAll cs).takeAll ds := List.foldl_append

/-- A command that only stands between pages finds none open. -/
theorem eq_of_step_between {r r' : Reader}
    (h : (if r.betweenPages then some r else none) = some r') :
    { r with current := none } = r' := by
  split at h
  case isTrue hbetween =>
    rw [← Option.some.inj h, ← Option.isNone_iff_eq_none.mp hbetween]
  case isFalse => cases h

/-- A command in its place is taken as it is read. -/
theorem take_of_step {r r' : Reader} {c : Command} (h : r.step c = some r') : r.take c = r' := by
  obtain ⟨opcode, data, fits⟩ := c
  cases opcode with
  | invalidate | initializeCommand => exact eq_of_step_between h
  | _ =>
    rw [take, h]
    rfl

theorem takeAll_of_readAll {r r' : Reader} {cs : List Command} (h : r.readAll cs = some r') :
    r.takeAll cs = r' := by
  induction cs generalizing r with
  | nil => exact Option.some.inj h
  | cons c cs ih =>
    rw [readAll_cons] at h
    obtain ⟨r₁, hstep, hrest⟩ := Option.bind_eq_some_iff.mp h
    rw [takeAll_cons, take_of_step hstep]
    exact ih hrest

/-! ## What is finished stays -/

/-- How a step that is in order changes the reader: it leaves the pages and what is
open of a page, or opens a page, or goes on with the one that is open, or ends it. -/
inductive Moves (r r' : Reader) : Prop
  | stays (hpages : r'.pages = r.pages) (hcurrent : r'.current = r.current)
  | opens (hpages : r'.pages = r.pages) (hclosed : r.current = none)
  | prints (hpages : r'.pages = r.pages) {info : List UInt8} {lines : List (List UInt8)}
      {line : List UInt8} (hcurrent : r.current = some (info, lines))
      (hnext : r'.current = some (info, lines ++ [line]))
  | ends {info : List UInt8} {lines : List (List UInt8)} {ending : Ending}
      (hcurrent : r.current = some (info, lines)) (hnext : r'.current = none)
      (hpages : r'.pages = r.pages ++ [⟨info, lines, ending⟩])

theorem moves_ite {b : Bool} {r r₁ r' : Reader} (h : (if b then some r₁ else none) = some r')
    (hmoves : b = true → Moves r r₁) : Moves r r' := by
  split at h
  case isTrue hb =>
    rw [← Option.some.inj h]
    exact hmoves hb
  case isFalse => cases h

theorem moves_addLine {r r' : Reader} {data : List UInt8} (h : r.addLine data = some r') :
    Moves r r' := by
  rw [addLine] at h
  split at h
  case h_1 info lines line hcurrent _ =>
    rw [← Option.some.inj h]
    exact .prints rfl hcurrent rfl
  case h_2 => cases h

theorem moves_close {r r' : Reader} {ending : Ending} (h : r.close ending = some r') :
    Moves r r' := by
  rw [close] at h
  split at h
  case h_1 => cases h
  case h_2 info lines hcurrent =>
    rw [← Option.some.inj h]
    exact .ends hcurrent rfl rfl

theorem moves_step {r r' : Reader} {c : Command} (h : r.step c = some r') : Moves r r' := by
  obtain ⟨opcode, data, fits⟩ := c
  cases opcode with
  | printInformation =>
    exact moves_ite h fun hbetween => .opens rfl (Option.isNone_iff_eq_none.mp hbetween)
  | rasterLine | rasterGraphicsTransfer => exact moves_addLine h
  | print | printWithFeeding => exact moves_close h
  | _ => exact moves_ite h fun _ => .stays rfl rfl

/-- What a reader has read is what it will have read, and the page that is open will
be finished with the lines it has. -/
structure Precedes (r r' : Reader) : Prop where
  pages : r.pages <+: r'.pages
  current : ∀ info lines, r.current = some (info, lines) →
    ∃ q : Page, r.pages ++ [q] <+: r'.pages ∧ q.info = info ∧ lines <+: q.lines

theorem precedes_of_moves {r r₁ r' : Reader} (h : Moves r r₁) (h' : Precedes r₁ r') :
    Precedes r r' := by
  obtain ⟨hdone, hopen⟩ := h'
  cases h with
  | stays hpages hcurrent =>
    rw [hpages] at hdone hopen
    rw [hcurrent] at hopen
    exact ⟨hdone, hopen⟩
  | opens hpages hclosed =>
    rw [hpages] at hdone
    refine ⟨hdone, fun info lines hcurrent => ?_⟩
    rw [hclosed] at hcurrent
    cases hcurrent
  | prints hpages hcurrent hnext =>
    obtain ⟨q, hq, hinfo, hlines⟩ := hopen _ _ hnext
    rw [hpages] at hdone hq
    refine ⟨hdone, fun info lines hcurrent' => ?_⟩
    rw [hcurrent] at hcurrent'
    cases hcurrent'
    exact ⟨q, hq, hinfo, (List.prefix_append _ _).trans hlines⟩
  | ends hcurrent _ hpages =>
    rw [hpages] at hdone
    refine ⟨(List.prefix_append _ _).trans hdone, fun info lines hcurrent' => ?_⟩
    rw [hcurrent] at hcurrent'
    cases hcurrent'
    exact ⟨_, hdone, rfl, List.prefix_refl _⟩

theorem precedes_of_readAll {r r' : Reader} {cs : List Command} (h : r.readAll cs = some r')
    (hclosed : r'.current = none) : Precedes r r' := by
  induction cs generalizing r with
  | nil =>
    rw [Option.some.inj h]
    refine ⟨List.prefix_refl _, fun info lines hcurrent => ?_⟩
    rw [hclosed] at hcurrent
    cases hcurrent
  | cons c cs ih =>
    rw [readAll_cons] at h
    obtain ⟨r₁, hstep, hrest⟩ := Option.bind_eq_some_iff.mp h
    exact precedes_of_moves (moves_step hstep) (ih hrest)

/-! ## Where it breaks off -/

theorem pages_of_ite {b : Bool} {r r₁ r' : Reader} (h : (if b then some r₁ else none) = some r')
    (hpages : r₁.pages = r.pages) : r'.pages = r.pages := by
  split at h
  case isTrue =>
    rw [← Option.some.inj h]
    exact hpages
  case isFalse => cases h

theorem pages_addLine {r r' : Reader} {data : List UInt8} (h : r.addLine data = some r') :
    r'.pages = r.pages := by
  rw [addLine] at h
  split at h
  case h_1 => rw [← Option.some.inj h]
  case h_2 => cases h

/-- Only commands without data end pages. -/
theorem pages_take_of_data {r : Reader} {c : Command} (hdata : c.data ≠ []) :
    (r.take c).pages = r.pages := by
  obtain ⟨opcode, data, fits⟩ := c
  have hpages : ∀ r', r.step ⟨opcode, data, fits⟩ = some r' → r'.pages = r.pages := by
    intro r' h
    cases opcode with
    | print | printWithFeeding => exact absurd (List.length_eq_zero_iff.mp fits) hdata
    | rasterLine | rasterGraphicsTransfer => exact pages_addLine h
    | _ => exact pages_of_ite h rfl
  cases opcode with
  | invalidate | initializeCommand => rfl
  | _ =>
    rw [take]
    dsimp only
    cases hstep : r.step _ with
    | none => rfl
    | some r' => exact hpages r' hstep

end Reader

/-- `ps` are the first of the pages `qs`, and perhaps the beginning of the next. -/
inductive BreaksOff (qs : List Page) : List Page → Prop
  | between {ps : List Page} (h : ps <+: qs) : BreaksOff qs ps
  | within {ps : List Page} {p q : Page} (h : ps ++ [q] <+: qs) (hinfo : q.info = p.info)
      (hlines : p.lines <+: q.lines) : BreaksOff qs (ps ++ [p])

/-- What may come where a stream breaks off: nothing, or Ctrl-Z, or a command that has
data. -/
inductive AtBreak : List Command → Prop
  | nothing : AtBreak []
  | feeds : AtBreak [⟨.printWithFeeding, [], rfl⟩]
  | command {c : Command} (h : c.data ≠ []) : AtBreak [c]

theorem Reader.take_of_closed {r : Reader} (hclosed : r.current = none) :
    r.take ⟨.printWithFeeding, [], rfl⟩ = r := by
  have hnone : r.step ⟨.printWithFeeding, [], rfl⟩ = none := by
    show r.close .printWithFeeding = none
    rw [Reader.close, hclosed]
  rw [Reader.take, hnone]
  rfl

/-- A stream in order that breaks off leaves the first of its pages, and perhaps the
beginning of the next. -/
theorem breaksOff_takeAll {r r' : Reader} {whole rest atBreak : List Command}
    (h : r.readAll (whole ++ rest) = some r') (hclosed : r'.current = none)
    (hbreak : AtBreak atBreak) :
    BreaksOff r'.pages (r.takeAll (whole ++ atBreak)).pages := by
  rw [Reader.readAll_append] at h
  obtain ⟨r₁, hwhole, hrest⟩ := Option.bind_eq_some_iff.mp h
  have hprecedes := Reader.precedes_of_readAll hrest hclosed
  rw [Reader.takeAll_append, Reader.takeAll_of_readAll hwhole]
  cases hbreak with
  | nothing => exact .between hprecedes.pages
  | feeds =>
    rw [Reader.takeAll_cons, Reader.takeAll_nil]
    cases hcurrent : r₁.current with
    | none =>
      -- Nothing is open, so Ctrl-Z has nothing to print.
      rw [Reader.take_of_closed hcurrent]
      exact .between hprecedes.pages
    | some page =>
      obtain ⟨q, hq, hinfo, hlines⟩ := hprecedes.current page.1 page.2 hcurrent
      have hstep : r₁.step ⟨.printWithFeeding, [], rfl⟩ =
          some { r₁ with
            pages := r₁.pages ++ [⟨page.1, page.2, .printWithFeeding⟩], current := none } := by
        show r₁.close .printWithFeeding = _
        rw [Reader.close, hcurrent]
      rw [Reader.take_of_step hstep]
      exact .within hq hinfo hlines
  | command hdata =>
    rw [Reader.takeAll_cons, Reader.takeAll_nil, Reader.pages_take_of_data hdata]
    exact .between hprecedes.pages

/-! ## One stream after another -/

/-- Commands that print the pages `qs`, wherever between pages they come. -/
def Reads (cs : List Command) (qs : List Page) : Prop :=
  ∀ r : Reader, r.current = none →
    ∃ r', r.readAll cs = some r' ∧ r'.current = none ∧ r'.pages = r.pages ++ qs

theorem Reads.append {cs ds : List Command} {ps qs : List Page} (h : Reads cs ps)
    (h' : Reads ds qs) : Reads (cs ++ ds) (ps ++ qs) := by
  intro r hr
  obtain ⟨r₁, hread, hcurrent, hpages⟩ := h r hr
  obtain ⟨r₂, hread', hcurrent', hpages'⟩ := h' r₁ hcurrent
  refine ⟨r₂, ?_, hcurrent', ?_⟩
  · rw [Reader.readAll_append, hread]
    exact hread'
  · rw [hpages', hpages, List.append_assoc]

namespace Reader

/-- The reader that had printed `ps` before. -/
def behind (r : Reader) (ps : List Page) : Reader := { r with pages := ps ++ r.pages }

theorem take_behind (r : Reader) (ps : List Page) (c : Command) :
    (r.behind ps).take c = (r.take c).behind ps := by
  obtain ⟨opcode, data, fits⟩ := c
  obtain ⟨pages, mode, current⟩ := r
  cases opcode with
  | invalidate | initializeCommand => rfl
  | rasterLine | rasterGraphicsTransfer =>
    simp only [take, step, addLine, behind]
    split <;> rfl
  | print | printWithFeeding =>
    cases current with
    | none => rfl
    | some page => simp only [take, step, close, behind, Option.getD_some, List.append_assoc]
  | _ =>
    cases current with
    | none => rfl
    | some page =>
      obtain ⟨info, lines⟩ := page
      cases lines <;> rfl

theorem takeAll_behind (r : Reader) (ps : List Page) (cs : List Command) :
    (r.behind ps).takeAll cs = (r.takeAll cs).behind ps := by
  induction cs generalizing r with
  | nil => rfl
  | cons c cs ih => rw [takeAll_cons, take_behind, ih, takeAll_cons]

end Reader

theorem fits_invalidate : (commandSet.operand .invalidate).Fits [] := rfl

/-- NUL. -/
def nul : Command := ⟨.invalidate, [], fits_invalidate⟩

theorem encode_nul : commandSet.encode nul = [0] := rfl

theorem encodeAll_nul (m : Nat) :
    commandSet.encodeAll (List.replicate m nul) = List.replicate m 0 :=
  CommandSet.encodeAll_replicate encode_nul m

theorem pages_takeAll_nul (r : Reader) (m : Nat) :
    (r.takeAll (List.replicate m nul)).pages = r.pages := by
  induction m generalizing r with
  | zero => rfl
  | succ m ih => exact ih _

/-- Once `n` NULs follow on `bs`, the pages `ps` are printed of it. -/
def Settles (n : Nat) (bs : List UInt8) (ps : List Page) : Prop :=
  ∃ cs, commandSet.decodeAll (bs ++ List.replicate n 0) = some cs ∧
    (Reader.takeAll {} cs).pages = ps

section Settles

variable {n : Nat} {bs : List UInt8} {ps qs : List Page} {cs more : List Command}

theorem settles_nil (n : Nat) : Settles n [] [] := by
  refine ⟨List.replicate n nul, CommandSet.decodeAll_eq_some_iff.mpr ?_, pages_takeAll_nul _ n⟩
  exact (encodeAll_nul n).symm

/-- Whole commands print what they settle to. -/
theorem pages_of_settles (h : Settles n (commandSet.encodeAll cs) ps) :
    (Reader.takeAll {} cs).pages = ps := by
  obtain ⟨all, hall, hps⟩ := h
  rw [CommandSet.decodeAll_eq_some_iff, ← encodeAll_nul, ← CommandSet.encodeAll_append] at hall
  rw [← CommandSet.encodeAll_injective hall, Reader.takeAll_append, pages_takeAll_nul] at hps
  exact hps

/-- More NULs print nothing. -/
theorem settles_nuls (h : Settles n bs ps) (k : Nat) :
    Settles n (bs ++ List.replicate k 0) ps := by
  obtain ⟨cs, hcs, hps⟩ := h
  refine ⟨cs ++ List.replicate k nul, ?_, ?_⟩
  · rw [CommandSet.decodeAll_eq_some_iff] at hcs ⊢
    rw [CommandSet.encodeAll_append, ← hcs, encodeAll_nul,
      List.append_assoc, List.append_assoc, List.replicate_append_replicate,
      List.replicate_append_replicate, Nat.add_comm]
  · rw [Reader.takeAll_append, pages_takeAll_nul, hps]

/-- What comes after the NULs and ESC @ is read as if nothing had come before. -/
theorem settles_append (h : Settles n bs ps) {bs' : List UInt8}
    (hcs : bs' ++ List.replicate n 0 = commandSet.encodeAll cs) {P : List Page → Prop}
    (hP : ∀ r : Reader, r.pages = [] → r.current = none → P (r.takeAll cs).pages) :
    ∃ printed, P printed ∧
      Settles n (bs ++ (List.replicate n 0 ++ ([0x1B, 0x40] ++ bs'))) (ps ++ printed) := by
  obtain ⟨before, hbefore, hps⟩ := h
  rw [CommandSet.decodeAll_eq_some_iff] at hbefore
  let r : Reader := { Reader.takeAll {} before with pages := [], current := none }
  refine ⟨(r.takeAll cs).pages, hP r rfl rfl, before ++ (⟨.initializeCommand, [], rfl⟩ :: cs), ?_,
    ?_⟩
  · rw [CommandSet.decodeAll_eq_some_iff, CommandSet.encodeAll_append, CommandSet.encodeAll_cons,
      ← hbefore, ← hcs]
    simp only [List.append_assoc]
    rfl
  · have hclear : (Reader.takeAll {} before).take ⟨.initializeCommand, [], rfl⟩ = r.behind ps := by
      simp only [r, Reader.behind, ← hps, List.append_nil]
      rfl
    rw [Reader.takeAll_append, Reader.takeAll_cons, hclear, Reader.takeAll_behind]
    rfl

/-- A stream that is cut settles to the first of its pages. -/
theorem settles_cut (h : Settles n bs ps) {whole : List Command} {part : List UInt8}
    (hcut : CommandSet.CutAt cs whole part) (hdata : ∀ c ∈ cs, c.data.length ≤ n)
    (hreads : Reads cs qs) (hmore : more = [] ∨ more = [⟨.printWithFeeding, [], rfl⟩]) :
    ∃ printed, BreaksOff qs printed ∧
      Settles n (bs ++ (List.replicate n 0 ++
        ([0x1B, 0x40] ++ (commandSet.encodeAll whole ++ part ++ commandSet.encodeAll more))))
        (ps ++ printed) := by
  have hlength : (commandSet.encodeAll more).length ≤ 1 := by
    rcases hmore with rfl | rfl <;> decide
  obtain ⟨rest, rfl⟩ := hcut.whole_prefix
  obtain ⟨here, m, hbytes, hhere⟩ :=
    CommandSet.resumes_of_cutAt encode_nul hcut hdata more hlength
  have hbreak : AtBreak here := by
    rcases hhere with ⟨-, rfl⟩ | ⟨c, hc, rfl⟩
    · rcases hmore with rfl | rfl
      · exact .nothing
      · exact .feeds
    · exact .command hc
  refine settles_append h hbytes (fun r hpages hcurrent => ?_)
  obtain ⟨r', hread, hclosed, hpages'⟩ := hreads r hcurrent
  rw [hpages, List.nil_append] at hpages'
  rw [Reader.takeAll_append, pages_takeAll_nul, ← hpages']
  exact breaksOff_takeAll hread hclosed hbreak

/-- A stream that came whole settles to all its pages. -/
theorem settles_whole (h : Settles n bs ps) (hreads : Reads cs qs)
    (hmore : more = [] ∨ more = [⟨.printWithFeeding, [], rfl⟩]) :
    Settles n (bs ++ (List.replicate n 0 ++
      ([0x1B, 0x40] ++ (commandSet.encodeAll cs ++ commandSet.encodeAll more)))) (ps ++ qs) := by
  have hbytes : commandSet.encodeAll cs ++ commandSet.encodeAll more ++ List.replicate n 0 =
      commandSet.encodeAll (cs ++ more ++ List.replicate n nul) := by
    rw [CommandSet.encodeAll_append, CommandSet.encodeAll_append,
      encodeAll_nul]
  obtain ⟨printed, rfl, hsettles⟩ := settles_append (P := (· = qs)) h hbytes
    (fun r hpages hcurrent => by
      obtain ⟨r', hread, hclosed, hpages'⟩ := hreads r hcurrent
      rw [hpages, List.nil_append] at hpages'
      rw [Reader.takeAll_append, pages_takeAll_nul, Reader.takeAll_append,
        Reader.takeAll_of_readAll hread]
      -- Ctrl-Z finds no page to print.
      rcases hmore with rfl | rfl
      · exact hpages'
      · rw [Reader.takeAll_cons, Reader.take_of_closed hclosed]
        exact hpages')
  exact hsettles

end Settles

end Raster
end BrThermal
