import AudioStudio.Config.Tables
import AudioStudio.Core.Csv

/-!
# The controls CSV

`generateControlsCsv` of `config_service.cpp`: a line of names, and a line for each runtime
control.  Read as comma-separated records the file has the controls in it, whatever is
written in their fields.
-/

namespace AudioStudio.Config

open AudioStudio.LittleEndian

/-- A field with a comma, a quote or a line break goes into quotes, its quotes doubled. -/
def csvEscape (value : Bytes) : Bytes :=
  let quote := value.any fun ch => ch = 0x2c ∨ ch = 0x22 ∨ ch = 0x0a ∨ ch = 0x0d
  if quote then
    [0x22] ++ (value.flatMap fun ch => if ch = 0x22 then [0x22, 0x22] else [ch]) ++ [0x22]
  else value

def controlsCsvHeader : Bytes :=
  asciiBytes "control_uid,pipe_id,node_id,inst_id,module_type,param_id,param_name,value_type,alsa_control_name\n"

def controlsCsvRow (c : ControlInfo) : Bytes :=
  hex32 c.controlUid ++ asciiBytes "," ++ csvEscape c.pipeId ++ asciiBytes "," ++
    csvEscape c.nodeId ++ asciiBytes "," ++ csvEscape c.instId ++ asciiBytes "," ++
    csvEscape c.moduleType ++ asciiBytes "," ++ csvEscape c.paramId ++ asciiBytes "," ++
    csvEscape c.paramName ++ asciiBytes "," ++ csvEscape c.valueType ++ asciiBytes "," ++
    csvEscape c.controlName ++ asciiBytes "\n"

def generateControlsCsv (ir : ProjectIr) : Bytes :=
  controlsCsvHeader ++ ir.controls.flatMap controlsCsvRow

/-! ## The number in the first field -/

/-- The value of a hexadecimal digit as `hex32` writes it. -/
def hexDigitValue (digit : UInt8) : Nat :=
  if digit < 0x41 then digit.toNat - 0x30 else digit.toNat - 0x37

/-- The number behind `0x`. -/
def hexValue (text : Bytes) : Nat :=
  (text.drop 2).foldl (fun value digit => 16 * value + hexDigitValue digit) 0

theorem hexDigitValue_hexDigit : ∀ value < 16, hexDigitValue (hexDigit value) = value := by
  decide

theorem hexValue_hex32 (value : UInt32) : hexValue (hex32 value) = value.toNat := by
  have hdigit : ∀ shift, hexDigitValue (hexDigit (value.toNat / 2 ^ shift % 16)) =
      value.toNat / 2 ^ shift % 16 :=
    fun shift => hexDigitValue_hexDigit _ (Nat.mod_lt _ (by decide))
  have hprefix : (hex32 value).drop 2 =
      [28, 24, 20, 16, 12, 8, 4, 0].map fun shift => hexDigit (value.toNat / 2 ^ shift % 16) := rfl
  have hfirst : value.toNat / 2 ^ 28 % 16 = value.toNat / 2 ^ 28 :=
    Nat.mod_eq_of_lt (Nat.div_lt_of_lt_mul value.toNat_lt)
  have hnext : ∀ shift, 16 * (value.toNat / 2 ^ (shift + 4)) + value.toNat / 2 ^ shift % 16 =
      value.toNat / 2 ^ shift := by
    intro shift
    rw [pow_add, ← Nat.div_div_eq_div_mul]
    exact Nat.div_add_mod _ 16
  rw [hexValue, hprefix]
  simp only [List.map_cons, List.map_nil, List.foldl_cons, List.foldl_nil, hdigit]
  rw [Nat.mul_zero, Nat.zero_add, hfirst, hnext 24, hnext 20, hnext 16, hnext 12, hnext 8, hnext 4,
    hnext 0, pow_zero, Nat.div_one]

/-! ## Reading the file -/

/-- The fields of a control that the file gives, in the order of the header. -/
def csvFields (c : ControlInfo) : List Bytes :=
  [hex32 c.controlUid, c.pipeId, c.nodeId, c.instId, c.moduleType, c.paramId, c.paramName,
    c.valueType, c.controlName]

def csvNames : List Bytes :=
  ["control_uid", "pipe_id", "node_id", "inst_id", "module_type", "param_id", "param_name",
    "value_type", "alsa_control_name"].map asciiBytes

/-- The hexadecimal number needs no quotes. -/
theorem escape_hex32 (value : UInt32) : Csv.escape (hex32 value) = hex32 value := by
  have hdigits : ∀ digit < 16, Csv.needsQuotes [hexDigit digit] = false := by decide
  have hplain : Csv.needsQuotes (hex32 value) = false := by
    rw [Csv.needsQuotes, hex32, List.any_append, Bool.or_eq_false_iff]
    refine ⟨by decide, ?_⟩
    rw [List.any_map, List.any_eq_false]
    intro shift _
    have hdigit := hdigits (value.toNat / 2 ^ shift % 16) (Nat.mod_lt _ (by decide))
    rw [Csv.needsQuotes, List.any_cons, List.any_nil, Bool.or_false] at hdigit
    exact Bool.eq_false_iff.mp hdigit
  rw [Csv.escape, if_neg (by rw [hplain]; exact Bool.false_ne_true)]

theorem controlsCsvHeader_eq : controlsCsvHeader = Csv.line csvNames ++ [Csv.lineFeed] := by
  decide +kernel

theorem controlsCsvRow_eq (c : ControlInfo) :
    controlsCsvRow c = Csv.line (csvFields c) ++ [Csv.lineFeed] := by
  have hcomma : asciiBytes "," = [Csv.comma] := rfl
  have hfeed : asciiBytes "\n" = [Csv.lineFeed] := rfl
  have hline : Csv.line (csvFields c) =
      hex32 c.controlUid ++ Csv.comma :: (csvEscape c.pipeId ++ Csv.comma :: (csvEscape c.nodeId ++
        Csv.comma :: (csvEscape c.instId ++ Csv.comma :: (csvEscape c.moduleType ++
          Csv.comma :: (csvEscape c.paramId ++ Csv.comma :: (csvEscape c.paramName ++
            Csv.comma :: (csvEscape c.valueType ++ Csv.comma :: csvEscape c.controlName))))))) := by
    conv_rhs => rw [← escape_hex32]
    rfl
  delta controlsCsvRow
  rw [hline, hcomma, hfeed]
  simp only [List.append_assoc, List.cons_append, List.nil_append]

/-- Every control is one record with its nine fields, behind the record of the names. -/
theorem controls_csv_lossless (ir : ProjectIr) :
    Csv.read (generateControlsCsv ir) = some (csvNames :: ir.controls.map csvFields) ∧
      ∀ c : ControlInfo, hexValue (hex32 c.controlUid) = c.controlUid.toNat := by
  refine ⟨?_, fun c => hexValue_hex32 c.controlUid⟩
  have htext : generateControlsCsv ir =
      (csvNames :: ir.controls.map csvFields).flatMap fun record =>
        Csv.line record ++ [Csv.lineFeed] := by
    rw [generateControlsCsv, List.flatMap_cons, controlsCsvHeader_eq, List.flatMap_map]
    exact congrArg (_ ++ ·) (List.flatMap_congr fun c _ => controlsCsvRow_eq c)
  rw [htext]
  apply Csv.read_lines _ (.inl rfl)
  intro record hmem
  obtain rfl | hmem := List.mem_cons.mp hmem
  · exact List.cons_ne_nil _ _
  · obtain ⟨c, _, rfl⟩ := List.mem_map.mp hmem
    exact List.cons_ne_nil _ _

end AudioStudio.Config
