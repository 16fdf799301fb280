/-
The raster protocol, read the way the printer reads it.

This is the other end of the wire and shares nothing with the drivers: a table of
the commands, and a reader that sorts them into pages.  A page opens with ESC i z
and ends with FF or Ctrl-Z.  The job-wide commands stand between pages, settings
stand before the first raster line of a page, and a raster line is unpacked under
the compression mode selected last.  A stream out of this order has no reading.
-/
import BrThermal.Codec.CommandSet
import BrThermal.Codec.PackBits

namespace BrThermal
namespace Raster

open Codec

inductive Opcode where
  | invalidate
  | initializeCommand
  | statusInformationRequest
  | switchDynamicCommandMode
  | switchAutoStatusNotify
  | variousModeSettings
  | specifyPageNumber
  | advancedModeSettings
  | specifyMarginAmount
  | printInformation
  | additionalMediaInformation
  | selectCompressionMode
  /-- `g`: the line as it is. -/
  | rasterLine
  /-- `G`: the line with a two-byte count. -/
  | rasterGraphicsTransfer
  | print
  | printWithFeeding
deriving DecidableEq

namespace Opcode

def all : List Opcode :=
  [invalidate, initializeCommand, statusInformationRequest, switchDynamicCommandMode,
    switchAutoStatusNotify, variousModeSettings, specifyPageNumber, advancedModeSettings,
    specifyMarginAmount, printInformation, additionalMediaInformation, selectCompressionMode,
    rasterLine, rasterGraphicsTransfer, print, printWithFeeding]

def header : Opcode → List UInt8
  | invalidate => [0x00]
  | initializeCommand => [0x1B, 0x40]
  | statusInformationRequest => [0x1B, 0x69, 0x53]
  | switchDynamicCommandMode => [0x1B, 0x69, 0x61]
  | switchAutoStatusNotify => [0x1B, 0x69, 0x21]
  | variousModeSettings => [0x1B, 0x69, 0x4D]
  | specifyPageNumber => [0x1B, 0x69, 0x41]
  | advancedModeSettings => [0x1B, 0x69, 0x4B]
  | specifyMarginAmount => [0x1B, 0x69, 0x64]
  | printInformation => [0x1B, 0x69, 0x7A]
  | additionalMediaInformation => [0x1B, 0x69, 0x55, 0x77, 0x01]
  | selectCompressionMode => [0x4D]
  | rasterLine => [0x67, 0x00]
  | rasterGraphicsTransfer => [0x47]
  | print => [0x0C]
  | printWithFeeding => [0x1A]

def operand : Opcode → Operand
  | invalidate | initializeCommand | statusInformationRequest | print | printWithFeeding => .fixed 0
  | switchDynamicCommandMode | switchAutoStatusNotify | variousModeSettings | specifyPageNumber
  | advancedModeSettings | selectCompressionMode => .fixed 1
  | specifyMarginAmount => .fixed 2
  | printInformation => .fixed 10
  | additionalMediaInformation => .fixed 127
  | rasterLine => .counted 1
  | rasterGraphicsTransfer => .counted 2

end Opcode

def commandSet : CommandSet Opcode where
  opcodes := Opcode.all
  header := Opcode.header
  operand := Opcode.operand
  complete := by
    intro k
    cases k <;> decide
  header_ne_nil := by
    intro k
    cases k <;> exact List.cons_ne_nil _ _
  distinct := by
    have h : ∀ j ∈ Opcode.all, ∀ k ∈ Opcode.all, j.header.isPrefixOf k.header → j = k := by
      decide
    have hall : ∀ k, k ∈ Opcode.all := by
      intro k
      cases k <;> decide
    exact fun j k => h j (hall j) k (hall k)

abbrev Command := commandSet.Command

/-- How a page is printed. -/
inductive Ending where
  /-- FF. -/
  | print
  /-- Ctrl-Z, which also feeds the page out. -/
  | printWithFeeding
deriving DecidableEq

structure Page where
  /-- The operand of ESC i z. -/
  info : List UInt8
  /-- The raster lines, unpacked. -/
  lines : List (List UInt8)
  ending : Ending

namespace Page

/-- The number of raster lines ESC i z announces. -/
def lineCount (p : Page) : Nat := ofLittleEndian ((p.info.drop 4).take 4)

/-- The page type ESC i z announces. -/
def pageType (p : Page) : UInt8 := p.info.getD 8 0

end Page

/-- The finished pages, the compression mode, and the information and the lines of
the page that is open. -/
structure Reader where
  pages : List Page := []
  mode : UInt8 := 0x00
  current : Option (List UInt8 × List (List UInt8)) := none

/-- A line sent under compression mode `mode`. -/
def unpackLine (mode : UInt8) (data : List UInt8) : Option (List UInt8) :=
  if mode = 0x00 then some data
  else if mode = 0x02 then unpackBits data
  else none

namespace Reader

def betweenPages (r : Reader) : Bool := r.current.isNone

def beforeLines (r : Reader) : Bool :=
  match r.current with
  | none => true
  | some (_, lines) => lines.isEmpty

def close (r : Reader) (ending : Ending) : Option Reader :=
  match r.current with
  | none => none
  | some (info, lines) =>
    some { r with pages := r.pages ++ [⟨info, lines, ending⟩], current := none }

def addLine (r : Reader) (data : List UInt8) : Option Reader :=
  match r.current, unpackLine r.mode data with
  | some (info, lines), some line => some { r with current := some (info, lines ++ [line]) }
  | _, _ => none

def step (r : Reader) (c : Command) : Option Reader :=
  match c.opcode with
  | .invalidate | .initializeCommand | .statusInformationRequest =>
    if r.betweenPages then some r else none
  | .printInformation =>
    if r.betweenPages then some { r with current := some (c.data, []) } else none
  | .selectCompressionMode =>
    if r.beforeLines then some { r with mode := c.data.headD 0 } else none
  | .rasterLine | .rasterGraphicsTransfer => r.addLine c.data
  | .print => r.close .print
  | .printWithFeeding => r.close .printWithFeeding
  | _ => if r.beforeLines then some r else none

def readAll (r : Reader) (cs : List Command) : Option Reader := cs.foldlM step r

@[simp] theorem readAll_nil (r : Reader) : r.readAll [] = some r := rfl

@[simp] theorem readAll_cons (r : Reader) (c : Command) (cs : List Command) :
    r.readAll (c :: cs) = (r.step c).bind fun r' => r'.readAll cs := rfl

theorem readAll_append (r : Reader) (cs ds : List Command) :
    r.readAll (cs ++ ds) = (r.readAll cs).bind fun r' => r'.readAll ds := by
  induction cs generalizing r with
  | nil => rfl
  | cons c cs ih =>
    rw [List.cons_append, readAll_cons, readAll_cons, Option.bind_assoc]
    exact congrArg _ (funext fun r' => ih r')

end Reader

/-- The pages of a stream that ends with its last page. -/
def parse (bs : List UInt8) : Option (List Page) := do
  let cs ← commandSet.decodeAll bs
  let r ← Reader.readAll {} cs
  if r.betweenPages then some r.pages else none

theorem parse_eq_some {bs : List UInt8} {cs : List Command} {r : Reader}
    (hbs : bs = commandSet.encodeAll cs) (hr : Reader.readAll {} cs = some r)
    (hcurrent : r.current = none) : parse bs = some r.pages := by
  rw [parse, hbs, CommandSet.decodeAll_encodeAll]
  simp only [Option.bind_eq_bind, Option.bind_some, hr, Reader.betweenPages, hcurrent,
    Option.isNone_none, if_true]

/-! ## The outline of a stream -/

/-- What matters for pagination: where pages begin, their lines, and what is
printed. -/
inductive Mark where
  | page
  | line
  | print
  | printWithFeeding
deriving DecidableEq

def Opcode.mark : Opcode → Option Mark
  | printInformation => some .page
  | rasterLine | rasterGraphicsTransfer => some .line
  | print => some .print
  | printWithFeeding => some .printWithFeeding
  | _ => none

def outline (cs : List Command) : List Mark := cs.filterMap fun c => c.opcode.mark

theorem outline_cons (c : Command) (cs : List Command) :
    outline (c :: cs) = c.opcode.mark.toList ++ outline cs := by
  rw [outline, outline, List.filterMap_cons]
  cases c.opcode.mark <;> rfl

theorem outline_append (cs ds : List Command) : outline (cs ++ ds) = outline cs ++ outline ds :=
  List.filterMap_append

end Raster
end BrThermal
