import AudioStudio.Core.CMemory
import AudioStudio.Core.Text

/-!
# The listing of a topology

The bounded output of `ac_topology_format_list`: appends that share a cursor and the bytes that
remain behind it.
-/

namespace AudioStudio.Controller

open LittleEndian (Bytes)

/-! ## Decimal texts -/

/-- The C string that an array holds. -/
def cString (array : Bytes) : Bytes := array.takeWhile (· ≠ 0)

/-- The loop of `ac_parser_copy`, with `dst` at `base` in its array. -/
def acParserCopyLoop (array : Bytes) (base dst_size : Nat) (src : Bytes) (src_size i : Nat) :
    Bytes × Nat :=
  if i < src_size ∧ i + 1 < dst_size ∧ src.getD i 0 ≠ 0 then
    acParserCopyLoop (array.set (base + i) (src.getD i 0)) base dst_size src src_size (i + 1)
  else (array, i)
termination_by src_size - i

def acParserCopy (array : Bytes) (base dst_size : Nat) (src : Bytes) (src_size : Nat) : Bytes :=
  if dst_size = 0 then array
  else
    let copied := acParserCopyLoop array base dst_size src src_size 0
    copied.1.set (base + copied.2) 0

def acParserAppend (dst : Bytes) (dst_size : Nat) (src : Bytes) : Bytes :=
  if dst_size = 0 then dst
  else
    let len := (cString dst).length
    if dst_size ≤ len then dst
    else acParserCopy dst len (dst_size - len) src src.length

/-- The loop of `ac_parser_append_uint`: the digits from the end of `tmp` on. -/
def acParserDigits (tmp : Bytes) (pos : Nat) (value : UInt32) : Bytes × Nat :=
  let digits := tmp.set (pos - 1) (0x30 + (value % 10).toUInt8)
  if value / 10 ≠ 0 ∧ 0 < pos - 1 then acParserDigits digits (pos - 1) (value / 10)
  else (digits, pos - 1)
termination_by pos

/-- What `tmp` holds before its bytes are written does not matter. -/
def acParserAppendUint (tmp dst : Bytes) (dst_size : Nat) (value : UInt32) : Bytes :=
  let digits := acParserDigits (tmp.set 15 0) 15 value
  acParserAppend dst dst_size (cString (digits.1.drop digits.2))

theorem decimalText_of_lt {number : Nat} (hnumber : number < 10) :
    decimalText number = [0x30 + number.toUInt8] := by
  by_cases hzero : number = 0
  · subst hzero
    rfl
  · rw [decimalText, if_neg hzero, Nat.digits_of_lt 10 number hzero hnumber]
    rfl

theorem decimalText_of_le {number : Nat} (hnumber : 10 ≤ number) :
    decimalText number = decimalText (number / 10) ++ [0x30 + (number % 10).toUInt8] := by
  have hrest : number / 10 ≠ 0 := by omega
  rw [decimalText, decimalText, if_neg (by omega), if_neg hrest,
    Nat.digits_def' (by decide) (by omega), List.reverse_cons, List.map_append]
  rfl

theorem zero_notMem_decimalText (number : Nat) : (0 : UInt8) ∉ decimalText number := by
  intro hmem
  exact absurd (isDigit_of_mem_decimalText hmem) (by decide)

theorem cString_append {text rest : Bytes} (hnul : (0 : UInt8) ∉ text) :
    cString (text ++ 0 :: rest) = text := by
  have hbytes : ∀ byte ∈ text, decide (byte ≠ 0) = true := by
    intro byte hmem
    exact decide_eq_true fun hzero => hnul (hzero ▸ hmem)
  rw [cString, List.takeWhile_append_of_pos hbytes]
  exact List.append_nil text

theorem digit_toNat (value : UInt32) :
    0x30 + (value % 10).toUInt8 = 0x30 + (value.toNat % 10).toUInt8 := rfl

theorem drop_set_pred {tmp : Bytes} {pos : Nat} (hpos : 0 < pos) (hlength : pos ≤ tmp.length)
    (byte : UInt8) : (tmp.set (pos - 1) byte).drop (pos - 1) = byte :: tmp.drop pos := by
  have hinside : pos - 1 < (tmp.set (pos - 1) byte).length := by
    rw [List.length_set]
    omega
  rw [List.drop_eq_getElem_cons hinside, List.getElem_set_self, Nat.sub_add_cancel hpos,
    List.drop_set_of_lt (by omega)]

theorem acParserDigits_length (tmp : Bytes) (pos : Nat) (value : UInt32) :
    (acParserDigits tmp pos value).1.length = tmp.length := by
  fun_induction acParserDigits tmp pos value with
  | case1 tmp pos value digits hmore ih => rw [ih, List.length_set]
  | case2 tmp pos value digits hlast => exact List.length_set

/-- The digits of a number that has no more than fit stand in front of what followed. -/
theorem acParserDigits_drop (tmp : Bytes) (pos : Nat) (value : UInt32) (hpos : 0 < pos)
    (hlength : pos ≤ tmp.length) (hvalue : value.toNat < 10 ^ pos) :
    (acParserDigits tmp pos value).1.drop (acParserDigits tmp pos value).2 =
      decimalText value.toNat ++ tmp.drop pos := by
  have hquotient : ∀ value : UInt32, (value / 10).toNat = value.toNat / 10 :=
    fun value => UInt32.toNat_div value 10
  fun_induction acParserDigits tmp pos value with
  | case1 tmp pos value digits hmore ih =>
      have hten : 10 ≤ value.toNat := by
        by_contra hless
        refine hmore.1 (UInt32.toNat_inj.mp ?_)
        rw [hquotient, Nat.div_eq_of_lt (not_le.mp hless)]
        rfl
      have hnext : (value / 10).toNat < 10 ^ (pos - 1) := by
        rw [hquotient, Nat.div_lt_iff_lt_mul (by decide), ← Nat.pow_succ]
        rwa [Nat.succ_eq_add_one, Nat.sub_add_cancel hpos]
      have hfits : pos - 1 ≤ digits.length := by
        rw [List.length_set]
        omega
      rw [ih hmore.2 hfits hnext, drop_set_pred hpos hlength, hquotient, digit_toNat,
        decimalText_of_le hten, List.append_assoc]
      rfl
  | case2 tmp pos value digits hlast =>
      have hten : value.toNat < 10 := by
        by_contra hmore
        refine hlast ⟨fun hzero => ?_, ?_⟩
        · have hrest := congrArg UInt32.toNat hzero
          rw [hquotient] at hrest
          have hrest : value.toNat / 10 = 0 := hrest
          omega
        · by_contra hone
          have hpos : pos = 1 := by omega
          subst hpos
          exact hmore (by simpa using hvalue)
      rw [drop_set_pred hpos hlength, digit_toNat, Nat.mod_eq_of_lt hten, decimalText_of_lt hten]
      rfl

theorem take_succ_set {array : Bytes} {i : Nat} (hi : i < array.length) (byte : UInt8) :
    (array.set i byte).take (i + 1) = array.take i ++ [byte] := by
  rw [List.take_succ_eq_append_getElem (by rwa [List.length_set]), List.getElem_set_self,
    List.take_set_of_le (le_refl i)]

/-- The loop copies a string that fits with its null byte. -/
theorem acParserCopyLoop_eq (array src : Bytes) (dst_size i : Nat) (hnul : (0 : UInt8) ∉ src)
    (hfits : src.length < dst_size) (hlength : src.length < array.length) (hi : i ≤ src.length) :
    acParserCopyLoop array 0 dst_size src src.length i =
      (array.take i ++ src.drop i ++ array.drop src.length, src.length) := by
  fun_induction acParserCopyLoop array 0 dst_size src src.length i with
  | case1 array i hmore ih =>
      have hbefore : i < src.length := hmore.1
      have hbyte : src.getD i 0 = src[i] := List.getD_eq_getElem src 0 hbefore
      have hinside : i < array.length := by omega
      rw [ih (by rwa [List.length_set]) hmore.1, Nat.zero_add, hbyte,
        take_succ_set hinside, List.drop_set_of_lt hmore.1, List.drop_eq_getElem_cons hmore.1,
        List.append_assoc (array.take i)]
      rfl
  | case2 array i hlast =>
      have hend : i = src.length := by
        by_contra hless
        have hi : i < src.length := by omega
        refine hlast ⟨hi, by omega, ?_⟩
        rw [List.getD_eq_getElem src 0 hi]
        exact fun hzero => hnul (hzero ▸ List.getElem_mem hi)
      rw [hend, List.drop_length, List.append_nil, List.take_append_drop]

theorem acParserAppendUint_eq (tmp dst : Bytes) (value : UInt32) (htmp : tmp.length = 16)
    (hdst : dst.length = 16) (hempty : cString dst = []) :
    cString (acParserAppendUint tmp dst 16 value) = decimalText value.toNat := by
  have hdigits := acParserDigits_drop (tmp.set 15 0) 15 value (by decide)
    (by rw [List.length_set]; omega) (value.toNat_lt.trans (by decide))
  have hnull : (tmp.set 15 0).drop 15 = [0] := by
    rw [List.drop_eq_getElem_cons (by rw [List.length_set]; omega), List.getElem_set_self,
      List.drop_of_length_le (by rw [List.length_set]; omega)]
  rw [hnull] at hdigits
  have hnul := zero_notMem_decimalText value.toNat
  have hlength : (decimalText value.toNat).length ≤ 15 := by
    have hbound := congrArg List.length hdigits
    rw [List.length_drop, List.length_append, acParserDigits_length, List.length_set, htmp,
      List.length_singleton] at hbound
    omega
  unfold acParserAppendUint
  simp only [hdigits, cString_append hnul]
  rw [acParserAppend, if_neg (by decide), hempty]
  simp only [List.length_nil, Nat.sub_zero]
  rw [if_neg (by decide), acParserCopy, if_neg (by decide),
    acParserCopyLoop_eq dst _ 16 0 hnul (by omega) (by omega) (Nat.zero_le _)]
  have hrest : 0 < (dst.drop (decimalText value.toNat).length).length := by
    rw [List.length_drop]
    omega
  obtain ⟨byte, rest, hdrop⟩ := List.exists_cons_of_length_pos hrest
  rw [hdrop, List.take_zero, List.nil_append, List.drop_zero]
  change cString ((decimalText value.toNat ++ byte :: rest).set
    (0 + (decimalText value.toNat).length) 0) = _
  rw [Nat.zero_add, List.set_append_right _ _ (le_refl _), Nat.sub_self, List.set_cons_zero, cString_append hnul]

/-! ## Appending to the output -/

/-- The memory, the cursor into it and the bytes that remain behind the cursor. -/
structure FormatOutput where
  memory : Memory
  cursor : Nat
  remaining : Nat

def acFormatAppend (output : FormatOutput) (text : Bytes) : Int32 × FormatOutput :=
  if output.remaining = 0 then (-1, output)
  else if output.remaining ≤ text.length then (-1, { output with remaining := 0 })
  else
    (0, { memory := (output.memory.memcpy output.cursor text).store (output.cursor + text.length) 0
          cursor := output.cursor + text.length
          remaining := output.remaining - text.length })

/-- The text of a number: `text[16]` starts as the empty string. -/
def uintText (value : UInt32) : Bytes :=
  cString (acParserAppendUint (List.replicate 16 0) (List.replicate 16 0) 16 value)

/-- Appends one after another, with the results united by `|=`. -/
def acFormatAppends (output : FormatOutput) (texts : List Bytes) : Int32 × FormatOutput :=
  texts.foldl (fun state text =>
    (state.1 ||| (acFormatAppend state.2 text).1, (acFormatAppend state.2 text).2)) (0, output)

/-! ## The listing -/

/-- The fields of `audio_controller_topology_summary_t` that the listing reads. -/
structure TopologySummary where
  abi : UInt32
  pcms : UInt32
  dais : UInt32
  links : UInt32
  widgets : UInt32
  routes : UInt32
  controls : UInt32
  pipelines : UInt32
  private_blocks : UInt32
  deriving DecidableEq, Repr

/-- The string in a `name[AC_MAX_NAME]`. -/
structure TopologyName where
  bytes : Bytes
  nulFree : (0 : UInt8) ∉ bytes
  fits : bytes.length < 64
  deriving DecidableEq, Repr

structure TopologyPipeline where
  name : TopologyName
  id : UInt32
  widget_count : UInt32
  route_count : UInt32
  has_scheduler : Bool
  deriving DecidableEq, Repr

structure Topology where
  summary : TopologySummary
  pipelines : List TopologyPipeline
  deriving DecidableEq, Repr

def acFormatPipeline (output : FormatOutput) (pipeline : TopologyPipeline) :
    Int32 × FormatOutput :=
  acFormatAppends output
    [asciiBytes "  - ", pipeline.name.bytes, asciiBytes " id:", uintText pipeline.id,
      asciiBytes " widgets:", uintText pipeline.widget_count, asciiBytes " routes:",
      uintText pipeline.route_count, asciiBytes " scheduler:",
      if pipeline.has_scheduler then asciiBytes "yes\n" else asciiBytes "no\n"]

/-- The loop over the pipelines, which ends with the first that does not fit. -/
def acFormatPipelines (output : FormatOutput) : List TopologyPipeline → Int32 × FormatOutput
  | [] => (0, output)
  | pipeline :: pipelines =>
      let formatted := acFormatPipeline output pipeline
      if formatted.1 ≠ 0 then (-1, formatted.2)
      else acFormatPipelines formatted.2 pipelines

def acFormatHeader (output : FormatOutput) (summary : TopologySummary) : Int32 × FormatOutput :=
  acFormatAppends output
    [asciiBytes "topology: abi ", uintText summary.abi, asciiBytes "\npipelines: ",
      uintText summary.pipelines, asciiBytes "\n"]

def acFormatTotals (output : FormatOutput) (summary : TopologySummary) : Int32 × FormatOutput :=
  acFormatAppends output
    [asciiBytes "pcms: ", uintText summary.pcms, asciiBytes "\ndais: ", uintText summary.dais,
      asciiBytes "\nlinks: ", uintText summary.links, asciiBytes "\nwidgets: ",
      uintText summary.widgets, asciiBytes "\nroutes: ", uintText summary.routes,
      asciiBytes "\ncontrols: ", uintText summary.controls, asciiBytes "\nprivate_blocks: ",
      uintText summary.private_blocks, asciiBytes "\n"]

/-- The result and the memory behind it. -/
def acTopologyFormatList (topology : Option Topology) (memory : Memory) (buffer : Option Nat)
    (buffer_size : Nat) : Int32 × Memory :=
  match topology, buffer with
  | some topology, some buffer =>
      if buffer_size = 0 then (-1, memory)
      else
        let output : FormatOutput :=
          { memory := memory.store buffer 0, cursor := buffer, remaining := buffer_size }
        let header := acFormatHeader output topology.summary
        if header.1 ≠ 0 then (-1, header.2.memory)
        else
          let pipelines := acFormatPipelines header.2 topology.pipelines
          if pipelines.1 ≠ 0 then (-1, pipelines.2.memory)
          else
            let totals := acFormatTotals pipelines.2 topology.summary
            (if totals.1 = 0 then 0 else -1, totals.2.memory)
  | _, _ => (-1, memory)

/-- The line of a pipeline. -/
def TopologyPipeline.line (pipeline : TopologyPipeline) : Bytes :=
  asciiBytes "  - " ++ pipeline.name.bytes ++
    asciiBytes " id:" ++ decimalText pipeline.id.toNat ++
    asciiBytes " widgets:" ++ decimalText pipeline.widget_count.toNat ++
    asciiBytes " routes:" ++ decimalText pipeline.route_count.toNat ++
    asciiBytes " scheduler:" ++
    (if pipeline.has_scheduler then asciiBytes "yes\n" else asciiBytes "no\n")

def TopologySummary.header (summary : TopologySummary) : Bytes :=
  asciiBytes "topology: abi " ++ decimalText summary.abi.toNat ++
    asciiBytes "\npipelines: " ++ decimalText summary.pipelines.toNat ++ asciiBytes "\n"

def TopologySummary.totals (summary : TopologySummary) : Bytes :=
  asciiBytes "pcms: " ++ decimalText summary.pcms.toNat ++
    asciiBytes "\ndais: " ++ decimalText summary.dais.toNat ++
    asciiBytes "\nlinks: " ++ decimalText summary.links.toNat ++
    asciiBytes "\nwidgets: " ++ decimalText summary.widgets.toNat ++
    asciiBytes "\nroutes: " ++ decimalText summary.routes.toNat ++
    asciiBytes "\ncontrols: " ++ decimalText summary.controls.toNat ++
    asciiBytes "\nprivate_blocks: " ++ decimalText summary.private_blocks.toNat ++
    asciiBytes "\n"

/-- The full text of a listing. -/
def Topology.listing (topology : Topology) : Bytes :=
  topology.summary.header ++ topology.pipelines.flatMap TopologyPipeline.line ++
    topology.summary.totals

/-! ## What has been written -/

/-- The text stands in the buffer and nothing else has changed. -/
structure Written (before : Memory) (buffer size : Nat) (text : Bytes) (memory : Memory) :
    Prop where
  string : memory.CStringAt buffer text
  fits : text.length < size
  outside : Memory.SameOutside buffer size before memory

/-- Behind appends: all has been written and the cursor stands behind it, or the text does not
fit, a prefix of it has been written and nothing remains. -/
inductive Appended (before : Memory) (buffer size : Nat) (text : Bytes) :
    Int32 × FormatOutput → Prop where
  | all {output : FormatOutput} (hwritten : Written before buffer size text output.memory)
      (hcursor : output.cursor = buffer + text.length)
      (hremaining : output.remaining = size - text.length) :
      Appended before buffer size text (0, output)
  | stopped {output : FormatOutput} {done : Bytes}
      (hwritten : Written before buffer size done output.memory) (hbegins : done <+: text)
      (hremaining : output.remaining = 0) (hfull : size ≤ text.length) :
      Appended before buffer size text (-1, output)

variable {before : Memory} {buffer size : Nat} {text more : Bytes} {state : Int32 × FormatOutput}

/-- The results of `|=`: a failure stays one. -/
theorem united : (0 : Int32) ||| 0 = 0 ∧ (0 : Int32) ||| -1 = -1 ∧ (-1 : Int32) ||| -1 = -1 := by
  decide

theorem Appended.append (happended : Appended before buffer size text state)
    (hmore : (0 : UInt8) ∉ more) :
    Appended before buffer size (text ++ more)
      (state.1 ||| (acFormatAppend state.2 more).1, (acFormatAppend state.2 more).2) := by
  cases happended with
  | @all output hwritten hcursor hremaining =>
      have hfits := hwritten.fits
      have hopen : output.remaining ≠ 0 := by omega
      by_cases hless : output.remaining ≤ more.length
      · rw [acFormatAppend, if_neg hopen, if_pos hless]
        simp only [united]
        have hpoisoned : Written before buffer size text
            ({ output with remaining := 0 } : FormatOutput).memory := hwritten
        refine .stopped hpoisoned (List.prefix_append text more) rfl ?_
        rw [List.length_append]
        omega
      · rw [acFormatAppend, if_neg hopen, if_neg hless, hcursor]
        simp only [united]
        have hlength : text.length + more.length < size := by omega
        have hboth : (text ++ more).length < size := by rwa [List.length_append]
        refine .all ⟨hwritten.string.append hmore, hboth, hwritten.outside.append hlength⟩ ?_ ?_
        · rw [List.length_append, Nat.add_assoc]
        · rw [List.length_append, hremaining, Nat.sub_sub]
  | @stopped output done hwritten hbegins hremaining hfull =>
      rw [acFormatAppend, if_pos hremaining]
      simp only [united]
      refine .stopped hwritten (hbegins.trans (List.prefix_append text more)) hremaining ?_
      rw [List.length_append]
      omega

/-- The induction is on the texts, over any state in which appends have left the output. -/
theorem Appended.foldl {texts : List Bytes} (happended : Appended before buffer size text state)
    (hnul : ∀ text ∈ texts, (0 : UInt8) ∉ text) :
    Appended before buffer size (text ++ texts.flatten)
      (texts.foldl (fun state text =>
        (state.1 ||| (acFormatAppend state.2 text).1, (acFormatAppend state.2 text).2)) state) := by
  induction texts generalizing text state with
  | nil => simpa using happended
  | cons more texts ih =>
      rw [List.flatten_cons, ← List.append_assoc]
      exact ih (happended.append (hnul more List.mem_cons_self)) fun text hmem =>
        hnul text (List.mem_cons_of_mem more hmem)

variable {output : FormatOutput}

/-- A group of appends begins where all has been written. -/
theorem Appended.appends {texts : List Bytes}
    (happended : Appended before buffer size text (0, output))
    (hnul : ∀ text ∈ texts, (0 : UInt8) ∉ text) :
    Appended before buffer size (text ++ texts.flatten) (acFormatAppends output texts) :=
  happended.foldl hnul

theorem Appended.result (happended : Appended before buffer size text state) :
    state.1 = 0 ∨ state.1 = -1 := by
  cases happended with
  | all hwritten hcursor hremaining => exact .inl rfl
  | stopped hwritten hbegins hremaining hfull => exact .inr rfl

/-- What has stopped has stopped for a longer text too. -/
theorem Appended.longer (happended : Appended before buffer size text (-1, output)) (more : Bytes) :
    Appended before buffer size (text ++ more) (-1, output) := by
  generalize hstate : ((-1 : Int32), output) = state at happended
  cases happended with
  | all hwritten hcursor hremaining =>
      have hresult : (-1 : Int32) = 0 := congrArg Prod.fst hstate
      exact absurd hresult (by decide)
  | stopped hwritten hbegins hremaining hfull =>
      obtain rfl := (Prod.mk.inj hstate).2
      refine .stopped hwritten (hbegins.trans (List.prefix_append text more)) hremaining ?_
      rw [List.length_append]
      omega

theorem uintText_eq (value : UInt32) : uintText value = decimalText value.toNat :=
  acParserAppendUint_eq _ _ value List.length_replicate List.length_replicate rfl

theorem Appended.pipeline (happended : Appended before buffer size text (0, output))
    (pipeline : TopologyPipeline) :
    Appended before buffer size (text ++ pipeline.line) (acFormatPipeline output pipeline) := by
  have hnul : ∀ number, (0 : UInt8) ∉ decimalText number := zero_notMem_decimalText
  have hscheduler : (0 : UInt8) ∉
      (if pipeline.has_scheduler then asciiBytes "yes\n" else asciiBytes "no\n") := by
    cases pipeline.has_scheduler
    · decide
    · decide
  rw [acFormatPipeline]
  simp only [uintText_eq]
  refine (?_ : pipeline.line = _) ▸ happended.appends ?_
  · simp only [TopologyPipeline.line, List.flatten_cons, List.flatten_nil, List.append_nil,
      List.append_assoc]
  · simp only [List.forall_mem_cons, hnul, hscheduler, pipeline.name.nulFree, not_false_eq_true,
      true_and, List.not_mem_nil, false_implies, implies_true, and_true]
    decide

/-- The induction is on the pipelines, over what has been written in front of them. -/
theorem Appended.pipelines (happended : Appended before buffer size text (0, output))
    (pipelines : List TopologyPipeline) :
    Appended before buffer size (text ++ pipelines.flatMap TopologyPipeline.line)
      (acFormatPipelines output pipelines) := by
  induction pipelines generalizing text output with
  | nil => simpa [acFormatPipelines] using happended
  | cons pipeline pipelines ih =>
      have hline := happended.pipeline pipeline
      rw [List.flatMap_cons, ← List.append_assoc, acFormatPipelines]
      generalize acFormatPipeline output pipeline = formatted at hline ⊢
      obtain ⟨result, output⟩ := formatted
      rcases hline.result with hzero | hfailed
      · obtain rfl : result = 0 := hzero
        exact ih hline
      · obtain rfl : result = -1 := hfailed
        exact hline.longer _

theorem Appended.header (happended : Appended before buffer size text (0, output))
    (summary : TopologySummary) :
    Appended before buffer size (text ++ summary.header) (acFormatHeader output summary) := by
  have hnul : ∀ number, (0 : UInt8) ∉ decimalText number := zero_notMem_decimalText
  rw [acFormatHeader]
  simp only [uintText_eq]
  refine (?_ : summary.header = _) ▸ happended.appends ?_
  · simp only [TopologySummary.header, List.flatten_cons, List.flatten_nil, List.append_nil,
      List.append_assoc]
  · simp only [List.forall_mem_cons, hnul, not_false_eq_true, true_and, List.not_mem_nil,
      false_implies, implies_true, and_true]
    decide

theorem Appended.totals (happended : Appended before buffer size text (0, output))
    (summary : TopologySummary) :
    Appended before buffer size (text ++ summary.totals) (acFormatTotals output summary) := by
  have hnul : ∀ number, (0 : UInt8) ∉ decimalText number := zero_notMem_decimalText
  rw [acFormatTotals]
  simp only [uintText_eq]
  refine (?_ : summary.totals = _) ▸ happended.appends ?_
  · simp only [TopologySummary.totals, List.flatten_cons, List.flatten_nil, List.append_nil,
      List.append_assoc]
  · simp only [List.forall_mem_cons, hnul, not_false_eq_true, true_and, List.not_mem_nil,
      false_implies, implies_true, and_true]
    decide

/-- The empty string that the listing starts from. -/
theorem Appended.start (memory : Memory) (buffer : Nat) (hsize : 0 < size) :
    Appended memory buffer size []
      (0, { memory := memory.store buffer 0, cursor := buffer, remaining := size }) := by
  refine .all ⟨⟨nofun, Memory.store_same 0, nofun⟩, hsize, ?_⟩ rfl rfl
  intro address houtside
  exact Memory.store_other 0 (by omega)

/-- The result and the memory of appends that have ended. -/
def Ended (before : Memory) (buffer size : Nat) (text : Bytes) (ended : Int32 × Memory) : Prop :=
  ∃ output, ended.2 = output.memory ∧ Appended before buffer size text (ended.1, output)

theorem Appended.ended (happended : Appended before buffer size text state) :
    Ended before buffer size text (if state.1 = 0 then 0 else -1, state.2.memory) := by
  obtain ⟨result, output⟩ := state
  rcases happended.result with hzero | hfailed
  · obtain rfl : result = 0 := hzero
    exact ⟨output, rfl, happended⟩
  · obtain rfl : result = -1 := hfailed
    exact ⟨output, rfl, happended⟩

/-- Appends that have stopped end the function, and the others go on to the next ones. -/
theorem Appended.ended_or (happended : Appended before buffer size text state) {more : Bytes}
    {next : Int32 × Memory}
    (hnext : Appended before buffer size text (0, state.2) →
      Ended before buffer size (text ++ more) next) :
    Ended before buffer size (text ++ more)
      (if state.1 ≠ 0 then (-1, state.2.memory) else next) := by
  obtain ⟨result, output⟩ := state
  rcases happended.result with hzero | hfailed
  · obtain rfl : result = 0 := hzero
    rw [if_neg (not_not.mpr rfl)]
    exact hnext happended
  · obtain rfl : result = -1 := hfailed
    exact ⟨output, rfl, happended.longer more⟩

theorem acTopologyFormatList_ended (topology : Topology) (memory : Memory) (buffer : Nat)
    (hsize : 0 < size) :
    Ended memory buffer size topology.listing
      (acTopologyFormatList (some topology) memory (some buffer) size) := by
  have hheader := (Appended.start memory buffer hsize).header topology.summary
  rw [List.nil_append] at hheader
  rw [acTopologyFormatList, if_neg (Nat.pos_iff_ne_zero.mp hsize), Topology.listing,
    List.append_assoc]
  refine hheader.ended_or fun hheader => ?_
  have hpipelines := hheader.pipelines topology.pipelines
  rw [← List.append_assoc]
  refine hpipelines.ended_or fun hpipelines => ?_
  exact (hpipelines.totals topology.summary).ended

/-- Nothing outside the buffer changes, the buffer holds a prefix of the listing as a string, and
the call succeeds exactly when the whole listing fits with its null byte, and has then written it. -/
theorem acTopologyFormatList_exact (topology : Topology) (memory : Memory) (buffer : Nat)
    (hsize : 0 < size) :
    Memory.SameOutside buffer size memory
        (acTopologyFormatList (some topology) memory (some buffer) size).2 ∧
      (∃ text, text <+: topology.listing ∧ text.length < size ∧
        (acTopologyFormatList (some topology) memory (some buffer) size).2.CStringAt buffer text) ∧
      ((acTopologyFormatList (some topology) memory (some buffer) size).1 = 0 ↔
        topology.listing.length + 1 ≤ size) ∧
      ((acTopologyFormatList (some topology) memory (some buffer) size).1 = 0 →
        (acTopologyFormatList (some topology) memory (some buffer) size).2.CStringAt buffer
          topology.listing) := by
  obtain ⟨output, hmemory, happended⟩ := acTopologyFormatList_ended topology memory buffer hsize
  rw [hmemory]
  generalize hstate : ((acTopologyFormatList (some topology) memory (some buffer) size).1, output) =
    state at happended
  cases happended with
  | all hwritten hcursor hremaining =>
      obtain ⟨hresult, rfl⟩ := Prod.mk.inj hstate
      refine ⟨hwritten.outside, ⟨_, List.prefix_refl _, hwritten.fits, hwritten.string⟩, ?_,
        fun _ => hwritten.string⟩
      exact iff_of_true hresult hwritten.fits
  | stopped hwritten hbegins hremaining hfull =>
      obtain ⟨hresult, rfl⟩ := Prod.mk.inj hstate
      have hfails : (acTopologyFormatList (some topology) memory (some buffer) size).1 ≠ 0 := by
        rw [hresult]
        decide
      refine ⟨hwritten.outside, ⟨_, hbegins, hwritten.fits, hwritten.string⟩, ?_,
        fun hzero => absurd hzero hfails⟩
      exact iff_of_false hfails (by omega)

/-- A listing of no pipeline into a buffer that holds it exactly. -/
theorem acTopologyFormatList_exact_fit :
    (acTopologyFormatList (some ⟨⟨1, 0, 0, 0, 0, 0, 0, 0, 0⟩, []⟩) (fun _ => 0) (some 16) 106).1 =
      0 :=
  (acTopologyFormatList_exact ⟨⟨1, 0, 0, 0, 0, 0, 0, 0, 0⟩, []⟩ (fun _ => 0) 16
    (by decide)).2.2.1.mpr (by decide)

end AudioStudio.Controller
