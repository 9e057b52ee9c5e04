import AudioStudio.Config.References

/-!
# Unique ids

When the stable ids of a project are told apart.  The table of `buildParameterTables` knows
an object by its joined identity, and presets never enter it.
-/

namespace AudioStudio.Config

open AudioStudio.Common
open AudioStudio.LittleEndian
open AudioStudio.Rpc

/-! ## The table -/

/-- A uid and the identity it stands for. -/
abbrev UidEntry := UInt32 × Bytes

def Recorded (used : UidTable) (entry : UidEntry) : Prop :=
  used.lookup entry.1 = some entry.2

variable {used used' : UidTable}

variable {ir : ProjectIr} {moduleConfigs : ModuleConfigRegistry}

variable {beside : Beside} {root : JsonValue} {projectName : Bytes}
  {importedModuleTypes : List JsonValue}

def presetJson (presetId : String) : JsonValue :=
  .object [(asciiBytes "node_values", .array []), (asciiBytes "preset_id", .ofText presetId)]

end AudioStudio.Config
