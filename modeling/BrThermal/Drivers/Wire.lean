/-
What the drivers send, as commands of the protocol.

Each encoder of a driver is matched with the commands a reader finds in its bytes.
The bytes of a raster line are arbitrary, so nothing here looks at them: a line is
one command because of its count alone.
-/
import BrThermal.Drivers.PrintJob
import BrThermal.Raster.Stream

namespace BrThermal
namespace Drivers

open Codec Raster

/-! ## Bytes of integers -/

theorem ofInt_natCast (n : Nat) : UInt8.ofInt (n : Int) = UInt8.ofNat n := by
  rw [UInt8.ofInt, ← UInt8.toNat_inj, UInt8.toNat_ofNat', UInt8.toNat_ofNat']
  omega

theorem shiftRight_natCast (n : Nat) : (n : Int) >>> (8 : Nat) = ((n / 256 : Nat) : Int) := by
  rw [Int.shiftRight_eq_div_pow]
  omega

theorem ofLittleEndian_le32 (n : UInt32) : ofLittleEndian (le32 n) = n.toNat := by
  have hn := n.toNat_lt
  simp only [le32, ofLittleEndian, UInt32.toNat_toUInt8, UInt32.toNat_shiftRight,
    UInt32.toNat_ofNat, Nat.shiftRight_eq_div_pow, Nat.reducePow, Nat.reduceMod]
  omega

/-- The line count in front of a page is the height in its header. -/
theorem lineCount_raw (info : PrintInfoFields) (lines : List (List UInt8)) (ending : Ending) :
    (Raster.Page.mk info.raw lines ending).lineCount = info.rasterNumber.toNat :=
  ofLittleEndian_le32 info.rasterNumber

/-! ## Commands -/

theorem readAll_invalidate (n : Nat) {r : Reader} (hr : r.current = none) :
    r.readAll (List.replicate n ⟨.invalidate, [], rfl⟩) = some r := by
  have hstep : r.step ⟨.invalidate, [], rfl⟩ = some r := by
    rw [Reader.step, Reader.betweenPages, hr]
    rfl
  induction n with
  | zero => rfl
  | succ n ih =>
    rw [List.replicate_succ, Reader.readAll_cons, hstep]
    exact ih

theorem encodeAll_invalidate (n : Nat) :
    commandSet.encodeAll (List.replicate n ⟨.invalidate, [], rfl⟩) = List.replicate n 0 := by
  induction n with
  | zero => rfl
  | succ n ih =>
    rw [List.replicate_succ, CommandSet.encodeAll_cons, ih]
    rfl

theorem outline_invalidate (n : Nat) :
    outline (List.replicate n ⟨.invalidate, [], rfl⟩) = [] := by
  rw [outline, List.filterMap_replicate]
  rfl

/-- Bytes that a reader between pages takes as job-wide commands. -/
def Preamble (bs : List UInt8) : Prop :=
  ∃ cs, commandSet.encodeAll cs = bs ∧ outline cs = [] ∧
    ∀ r : Reader, r.current = none → r.readAll cs = some r

theorem preamble_append {bs bs' : List UInt8} (h : Preamble bs) (h' : Preamble bs') :
    Preamble (bs ++ bs') := by
  obtain ⟨cs, rfl, hcs, hread⟩ := h
  obtain ⟨cs', rfl, hcs', hread'⟩ := h'
  refine ⟨cs ++ cs', CommandSet.encodeAll_append cs cs', ?_, fun r hr => ?_⟩
  · rw [outline_append, hcs, hcs']
    rfl
  · rw [Reader.readAll_append, hread r hr]
    exact hread' r hr

theorem preamble_invalidate (n : Nat) : Preamble (List.replicate n 0) :=
  ⟨List.replicate n ⟨.invalidate, [], rfl⟩, encodeAll_invalidate n, outline_invalidate n,
    fun _ hr => readAll_invalidate n hr⟩

theorem preamble_initializeCommand : Preamble Commands.initializeCommand := by
  refine ⟨[⟨.initializeCommand, [], rfl⟩], rfl, rfl, fun r hr => ?_⟩
  rw [Reader.readAll_cons, Reader.step, Reader.betweenPages, hr]
  rfl

theorem preamble_statusInformationRequest : Preamble Commands.statusInformationRequest := by
  refine ⟨[⟨.statusInformationRequest, [], rfl⟩], rfl, rfl, fun r hr => ?_⟩
  rw [Reader.readAll_cons, Reader.step, Reader.betweenPages, hr]
  rfl

theorem preamble_switchDynamicCommandMode (mode : CommandMode) :
    Preamble (Commands.switchDynamicCommandMode mode) := by
  refine ⟨[⟨.switchDynamicCommandMode, [mode.toByte], rfl⟩], rfl, rfl, fun r hr => ?_⟩
  rw [Reader.readAll_cons, Reader.step]
  simp only [Reader.beforeLines, hr, if_true, Option.bind_some, Reader.readAll_nil]

/-- A job opens with commands that concern no page. -/
theorem preamble_startCommands (d : Driver) (model : d.Model) :
    Preamble (d.startCommands model).flatten := by
  cases d with
  | td2000 =>
    exact preamble_append (preamble_invalidate 200) (preamble_append preamble_initializeCommand
      (preamble_append (preamble_switchDynamicCommandMode .raster) (preamble_invalidate 0)))
  | pte550w =>
    have hstart : Preamble (Pte550w.startCommands).flatten :=
      preamble_append (preamble_invalidate 100) (preamble_append preamble_initializeCommand
        (preamble_invalidate 0))
    rw [Driver.startCommands, List.flatten_append]
    refine preamble_append hstart ?_
    split
    · exact preamble_append preamble_statusInformationRequest (preamble_invalidate 0)
    · exact preamble_invalidate 0

/-! ## Pages -/

namespace Driver

/-- The compression mode a driver selects. -/
def compressionMode : Driver → CompressionMode
  | td2000 => .noCompression
  | pte550w => .compression

/-- The dots of the print head. -/
def headDots : (d : Driver) → d.Model → Nat
  | td2000, family => (Td2000.lineWidth family).toNat * 8
  | pte550w, _ => 128

/-- A row of PAPPL's as the head prints it. -/
def headLine (d : Driver) (model : d.Model) (header : Pappl.Header) (row : List UInt8) :
    List UInt8 :=
  Util.buildHeadLine (row.take header.cupsBytesPerLine.toNat) header.cupsWidth.toNat
    (d.headDots model)

end Driver

/-- Bytes that open a page with the given number and select `mode`: the page
announces the lines of its header and whether it is the first. -/
def Opens (mode : CompressionMode) (options : Pappl.PrOptions) (pageNumber : UInt32)
    (bs : List UInt8) : Prop :=
  ∃ (cs : List Command) (info : PrintInfoFields),
    commandSet.encodeAll cs = bs ∧ outline cs = [.page] ∧
    info.rasterNumber = options.header.cupsHeight ∧ info.pageType = .ofNumber pageNumber ∧
    ∀ r : Reader, r.current = none → r.readAll cs =
      some { r with mode := mode.toByte, current := some (info.raw, []) }

theorem Td2000.opens_pageCommands (jobData : JobData) (options : Pappl.PrOptions)
    (mediaType : MediaType) (mediaInfo : MediaInfo) (pageNumber : UInt32) :
    Opens .noCompression options pageNumber
      (pageCommands jobData options mediaType mediaInfo pageNumber).flatten := by
  refine ⟨[⟨.additionalMediaInformation, mediaInfo.raw, mediaInfo.size_eq⟩,
    ⟨.printInformation, _, PrintInfoFields.length_raw _⟩,
    ⟨.variousModeSettings, [_], rfl⟩, ⟨.specifyMarginAmount, [_, _], rfl⟩,
    ⟨.selectCompressionMode, [_], rfl⟩],
    printInfo options mediaType mediaInfo (Util.Units.fromPwg options.media.sizeLength) pageNumber,
    rfl, rfl, rfl, rfl, fun r hr => ?_⟩
  simp only [Reader.readAll_cons, Reader.readAll_nil, Reader.step, Reader.betweenPages,
    Reader.beforeLines, hr, Option.isNone_none, if_true, Option.bind_some, List.isEmpty_nil]
  rfl

theorem Pte550w.opens_pageCommands (jobData : JobData) (options : Pappl.PrOptions)
    (pageNumber : UInt32) :
    Opens .compression options pageNumber (pageCommands jobData options pageNumber).flatten := by
  refine ⟨[⟨.switchDynamicCommandMode, [_], rfl⟩, ⟨.switchAutoStatusNotify, [_], rfl⟩,
    ⟨.printInformation, _, PrintInfoFields.length_raw _⟩,
    ⟨.variousModeSettings, [_], rfl⟩, ⟨.specifyPageNumber, [_], rfl⟩,
    ⟨.advancedModeSettings, [_], rfl⟩, ⟨.specifyMarginAmount, [_, _], rfl⟩,
    ⟨.selectCompressionMode, [_], rfl⟩],
    printInfo options pageNumber, rfl, rfl, rfl, rfl, fun r hr => ?_⟩
  simp only [Reader.readAll_cons, Reader.readAll_nil, Reader.step, Reader.betweenPages,
    Reader.beforeLines, hr, Option.isNone_none, if_true, Option.bind_some, List.isEmpty_nil]
  rfl

theorem opens_pageCommands {d : Driver} {jobData : d.JobData} {options : Pappl.PrOptions}
    {pageNumber : UInt32} {commands : List (List UInt8)}
    (h : d.pageCommands jobData options pageNumber = some commands) :
    Opens d.compressionMode options pageNumber commands.flatten := by
  cases d with
  | td2000 =>
    rw [Driver.pageCommands] at h
    split at h
    case h_1 => cases h
    case h_2 mediaType hmedia =>
      dsimp only at h
      split at h
      case isTrue => cases h
      case isFalse =>
        rw [← Option.some.inj h]
        exact Td2000.opens_pageCommands _ _ _ _ _
  | pte550w =>
    rw [Driver.pageCommands] at h
    split at h
    case isTrue => cases h
    case isFalse =>
      rw [← Option.some.inj h]
      exact Pte550w.opens_pageCommands _ _ _

/-! ## Raster lines -/

/-- One command that a reader under `mode` takes as the raster line `line`. -/
def IsLine (mode : CompressionMode) (line bs : List UInt8) : Prop :=
  ∃ c : Command, commandSet.encode c = bs ∧ c.opcode.mark = some .line ∧
    ∀ (r : Reader) (info : List UInt8) (lines : List (List UInt8)), r.mode = mode.toByte →
      r.current = some (info, lines) →
        r.step c = some { r with current := some (info, lines ++ [line]) }

theorem Td2000.rasterGraphicsTransfer_eq (n : Nat) (raster : List UInt8) :
    Commands.rasterGraphicsTransfer n raster = [0x67, 0x00] ++ littleEndian 1 n ++ raster := by
  rw [Commands.rasterGraphicsTransfer, ofInt_natCast]
  rfl

theorem Pte550w.rasterGraphicsTransfer_eq (n : Nat) (raster : List UInt8) :
    Commands.rasterGraphicsTransfer n raster = [0x47] ++ littleEndian 2 n ++ raster := by
  rw [Commands.rasterGraphicsTransfer, ofInt_natCast, shiftRight_natCast, ofInt_natCast]
  rfl

/-- Job data of a family, whichever way the lines are sent. -/
theorem Td2000.mirroredLine_eq (family : ModelFamily) (useCompression : Bool)
    (header : Pappl.Header) (row : List UInt8) :
    mirroredLine ⟨family, useCompression, (lineWidth family).toNat⟩ header row =
      Driver.td2000.headLine family header row := by
  have hdots : Util.sizeT (Int.toNat (((lineWidth family).toNat : Int) % 2 ^ 64) * 8) =
      (lineWidth family).toNat * 8 := by
    cases family <;> decide
  rw [mirroredLine, Driver.headLine, Driver.headDots]
  exact congrArg _ hdots

theorem Td2000.rasterCommand_plain (family : ModelFamily) (header : Pappl.Header)
    (row : List UInt8) :
    rasterCommand ⟨family, false, (lineWidth family).toNat⟩ header row =
      Commands.rasterGraphicsTransfer (lineWidth family).toNat
        (Driver.td2000.headLine family header row) := by
  rw [← mirroredLine_eq family false]
  rfl

/-- The count is that of the bytes delivered. -/
theorem Td2000.rasterCommand_compressed (family : ModelFamily) (header : Pappl.Header)
    (row : List UInt8) :
    rasterCommand ⟨family, true, (lineWidth family).toNat⟩ header row =
      Commands.rasterGraphicsTransfer (row.take header.cupsBytesPerLine.toNat).length
        (Util.compressLine (Driver.td2000.headLine family header row)) := by
  rw [← mirroredLine_eq family true]
  rfl

theorem Td2000.length_headLine (family : ModelFamily) (header : Pappl.Header)
    (row : List UInt8) :
    (Driver.td2000.headLine family header row).length = (lineWidth family).toNat := by
  rw [Driver.headLine, Driver.headDots, Util.length_buildHeadLine]
  cases family <;> decide

theorem Td2000.isLine_rasterCommand (family : ModelFamily) (header : Pappl.Header)
    (row : List UInt8) :
    IsLine .noCompression (Driver.td2000.headLine family header row)
      (rasterCommand (Driver.td2000.jobData family) header row) := by
  have hlength := length_headLine family header row
  have hfits : (Driver.td2000.headLine family header row).length < 256 ^ 1 := by
    rw [hlength]
    exact (lineWidth family).toNat_lt
  refine ⟨⟨.rasterLine, _, hfits⟩, ?_, rfl, fun r info lines hmode hcurrent => ?_⟩
  · show _ = rasterCommand ⟨family, false, (lineWidth family).toNat⟩ header row
    rw [rasterCommand_plain, rasterGraphicsTransfer_eq, ← hlength]
    rfl
  · have hunpack : unpackLine r.mode (Driver.td2000.headLine family header row) =
        some (Driver.td2000.headLine family header row) := by
      rw [hmode]
      rfl
    simp only [Reader.step, Reader.addLine, hcurrent, hunpack]

theorem Pte550w.isLine_rasterCommand (variant : ModelVariant) (header : Pappl.Header)
    (row : List UInt8) :
    IsLine .compression (Driver.pte550w.headLine variant header row)
      (rasterCommand header row) := by
  have hlength : (mirroredLine header row).length = 16 := by
    rw [mirroredLine, Util.length_buildHeadLine]
    rfl
  have hfits : (Util.compressLine (mirroredLine header row)).length < 256 ^ 2 := by
    have hle := Util.length_compressLine_le (mirroredLine header row)
    omega
  refine ⟨⟨.rasterGraphicsTransfer, _, hfits⟩, ?_, rfl, fun r info lines hmode hcurrent => ?_⟩
  · rw [rasterCommand, rasterGraphicsTransfer_eq]
    rfl
  · have hunpack : unpackLine r.mode (Util.compressLine (mirroredLine header row)) =
        some (mirroredLine header row) := by
      rw [hmode]
      exact Util.unpackBits_compressLine (mirroredLine header row)
    simp only [Reader.step, Reader.addLine, hcurrent, hunpack]
    rfl

theorem isLine_rasterCommand (d : Driver) (model : d.Model) (header : Pappl.Header)
    (row : List UInt8) :
    IsLine d.compressionMode (d.headLine model header row)
      (d.rasterCommand (d.jobData model) header row) := by
  cases d with
  | td2000 => exact Td2000.isLine_rasterCommand model header row
  | pte550w => exact Pte550w.isLine_rasterCommand model header row

/-- The rows of a page are read back in order, whatever bytes they hold. -/
theorem rows_read (d : Driver) (model : d.Model) (header : Pappl.Header)
    (rows : List (List UInt8)) :
    ∃ cs, commandSet.encodeAll cs = rows.flatMap (d.rasterCommand (d.jobData model) header) ∧
      outline cs = List.replicate rows.length .line ∧
      ∀ (r : Reader) (info : List UInt8) (lines : List (List UInt8)),
        r.mode = d.compressionMode.toByte → r.current = some (info, lines) →
          r.readAll cs =
            some { r with
              current := some (info, lines ++ rows.map (d.headLine model header)) } := by
  induction rows with
  | nil =>
    refine ⟨[], rfl, rfl, fun r info lines _ hcurrent => ?_⟩
    rw [List.map_nil, List.append_nil, ← hcurrent, Reader.readAll_nil]
  | cons row rows ih =>
    obtain ⟨c, hc, hmark, hstep⟩ := isLine_rasterCommand d model header row
    obtain ⟨cs, hcs, houtline, hread⟩ := ih
    refine ⟨c :: cs, ?_, ?_, fun r info lines hmode hcurrent => ?_⟩
    · rw [CommandSet.encodeAll_cons, hc, hcs, List.flatMap_cons]
    · rw [outline_cons, hmark, houtline, List.length_cons, List.replicate_succ]
      rfl
    · have hrest := hread { r with current := some (info, lines ++ [d.headLine model header row]) }
        info _ hmode rfl
      rw [Reader.readAll_cons, hstep r info lines hmode hcurrent, Option.bind_some, hrest,
        List.append_assoc, List.singleton_append, List.map_cons]

/-! ## Pages with their lines -/

/-- The media `startPage` accepts. -/
def Driver.AcceptsMedia : (d : Driver) → d.Model → Pappl.MediaCol → Prop
  | td2000, family, media =>
    ∃ mediaType, Td2000.mediaTypeOf media.type = some mediaType ∧
      Td2000.Media.getMediaInfoForMedia family (Util.Units.fromPwg media.sizeWidth)
        (Util.Units.fromPwg media.sizeLength) mediaType ≠ Td2000.Media.none
  | pte550w, _, media => media.type = "continuous" ∨ media.type = "labels-continuous"

theorem pageCommands_of_acceptsMedia {d : Driver} {model : d.Model} {options : Pappl.PrOptions}
    (h : d.AcceptsMedia model options.media) (pageNumber : UInt32) :
    ∃ commands, d.pageCommands (d.jobData model) options pageNumber = some commands := by
  cases d with
  | td2000 =>
    obtain ⟨mediaType, htype, hinfo⟩ := h
    simp only [Driver.pageCommands, htype]
    exact ⟨_, if_neg hinfo⟩
  | pte550w =>
    refine ⟨_, if_neg fun hne => ?_⟩
    rcases h with h | h
    · exact hne.1 h
    · exact hne.2 h

/-- What is sent of a page before `endPage`. -/
def Driver.pageBody (d : Driver) (model : d.Model) (page : JobPage) (k : Nat) : List UInt8 :=
  ((d.pageCommands (d.jobData model) page.options (.ofNat k)).getD []).flatten ++
    page.rows.flatMap (d.rasterCommand (d.jobData model) page.options.header)

theorem flatMap_lineCallbacks (d : Driver) (jobData : d.JobData) (pageCount : UInt32)
    (page : JobPage) :
    page.lineCallbacks.flatMap (d.sent jobData pageCount) =
      page.rows.flatMap (d.rasterCommand jobData page.options.header) := by
  rw [JobPage.lineCallbacks, List.flatMap_map]
  conv => rhs; rw [← List.zipIdx_map_fst 0 page.rows, List.flatMap_map]
  rfl

/-- A page is its body and, unless it is the last, FF. -/
theorem flatMap_callbacks (d : Driver) (model : d.Model) (pageCount : UInt32) (page : JobPage)
    (k : Nat) :
    (page.callbacks k).flatMap (d.sent (d.jobData model) pageCount) =
      d.pageBody model page k ++
        if UInt32.ofNat k < pageCount - 1 then Commands.print else [] := by
  rw [JobPage.callbacks, List.flatMap_cons, List.flatMap_append, flatMap_lineCallbacks,
    List.flatMap_singleton, Driver.pageBody, List.append_assoc]
  rfl

/-- The body of an accepted page reads as one open page with its rows. -/
theorem body_read {d : Driver} {model : d.Model} {page : JobPage}
    (h : d.AcceptsMedia model page.options.media) (k : Nat) :
    ∃ (cs : List Command) (info : PrintInfoFields),
      commandSet.encodeAll cs = d.pageBody model page k ∧
      outline cs = .page :: List.replicate page.rows.length .line ∧
      info.rasterNumber = page.options.header.cupsHeight ∧ info.pageType = .ofNumber (.ofNat k) ∧
      ∀ r : Reader, r.current = none → r.readAll cs =
        some { r with
          mode := d.compressionMode.toByte
          current := some (info.raw, page.rows.map (d.headLine model page.options.header)) } := by
  obtain ⟨commands, hcommands⟩ := pageCommands_of_acceptsMedia h (.ofNat k)
  obtain ⟨cs, info, hcs, houtline, hcount, htype, hread⟩ := opens_pageCommands hcommands
  obtain ⟨ds, hds, houtline', hread'⟩ := rows_read d model page.options.header page.rows
  refine ⟨cs ++ ds, info, ?_, ?_, hcount, htype, fun r hr => ?_⟩
  · rw [CommandSet.encodeAll_append, hcs, hds, Driver.pageBody, hcommands, Option.getD_some]
  · rw [outline_append, houtline, houtline']
    rfl
  · have hrows := hread' { r with
      mode := d.compressionMode.toByte
      current := some (info.raw, []) } info.raw [] rfl rfl
    rw [Reader.readAll_append, hread r hr, Option.bind_some, hrows, List.nil_append]

end Drivers
end BrThermal
