import AudioStudio.Core.Text

/-!
# The builtin module configs

The names that `builtin_module_configs.cpp` makes of module types, and the types it is for.
-/

namespace AudioStudio.Config

open AudioStudio.LittleEndian

/-- `std::toupper` in the C locale. -/
def toUpper (byte : UInt8) : UInt8 :=
  if 0x61 ≤ byte ∧ byte ≤ 0x7a then byte - 0x20 else byte

/-- One character: runs of others than letters and digits become one underscore. -/
def macroTokenStep (state : Bytes × Bool) (raw : UInt8) : Bytes × Bool :=
  if isAlnum raw then (state.1 ++ [toUpper raw], false)
  else if state.2 = false ∧ state.1 ≠ [] then (state.1 ++ [0x5f], true)
  else state

def macroToken (value : Bytes) : Bytes :=
  let out := (value.foldl macroTokenStep ([], false)).1
  let trimmed := (out.reverse.dropWhile (· = 0x5f)).reverse
  if trimmed = [] then asciiBytes "ITEM" else trimmed

def makeSlug (moduleType : Bytes) : Bytes :=
  moduleType.map fun ch => if ch = 0x2e ∨ ch = 0x5f then 0x2d else ch

def builtinModuleTypes : List Bytes :=
  ["graph.copier", "mix.mixer", "route.mux", "route.selector", "gain.volume", "filter.dcblock",
    "eq.iir", "eq.fir", "dyn.drc", "dyn.multiband_drc", "filter.crossover", "mix.up_down_mixer",
    "fx.virtual_bass", "fx.surround_decoder", "fx.virtualizer", "fx.loudness", "protect.speaker",
    "rate.src", "rate.asrc", "service.anc_filter", "vavs.aec", "vavs.ns", "vavs.agc",
    "vavs.beamformer", "vavs.dereverb", "voice.kpb"].map asciiBytes

def sofBasicModuleTypes : List Bytes :=
  ["filter.channel_remap", "delay.line", "mix.fader_balance", "filter.dsp_filter"].map asciiBytes

end AudioStudio.Config
