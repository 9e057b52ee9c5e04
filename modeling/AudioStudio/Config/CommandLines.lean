import AudioStudio.Core.ShellWords

/-!
# The commands of the compiler

`shellQuote` of `config_service.cpp` and the two runs of `alsatplg` that it is for.
-/

namespace AudioStudio.Config

open AudioStudio.LittleEndian
open AudioStudio.Shell

def shellQuote (value : Bytes) : Bytes :=
  [0x27] ++ (value.flatMap fun ch => if ch = 0x27 then asciiBytes "'\\''" else [ch]) ++ [0x27]

theorem shellQuote_eq_quote (value : Bytes) : shellQuote value = quote value := rfl

/-- What `compile` runs to build the topology. -/
def buildCommand (alsatplg confPath tplgPath logPath : Bytes) : Bytes :=
  shellQuote alsatplg ++ asciiBytes " -c " ++ shellQuote confPath ++ asciiBytes " -o " ++
    shellQuote tplgPath ++ asciiBytes " > " ++ shellQuote logPath ++ asciiBytes " 2>&1"

/-- What it runs to decode it again. -/
def decodeCommand (alsatplg tplgPath decodeConfPath decodeLogPath : Bytes) : Bytes :=
  shellQuote alsatplg ++ asciiBytes " -d " ++ shellQuote tplgPath ++ asciiBytes " -o " ++
    shellQuote decodeConfPath ++ asciiBytes " > " ++ shellQuote decodeLogPath ++
    asciiBytes " 2>&1"

/-- Output and errors go to a file. -/
def logged (argv : List Bytes) (logPath : Bytes) : Command where
  argv := argv
  redirections := [.output 1 logPath, .duplicate 2 1]

theorem wordsOf_one : WordsOf (asciiBytes "1") [.word (asciiBytes "1") false] :=
  wordsOf_plain (by decide) (List.all_eq_true.mp (by decide))

theorem separates_errors : Separates (asciiBytes " 2>&") [.number (asciiBytes "2"), .greatAnd] :=
  fun _ _ => rfl

/-- The end of every command. -/
theorem wordsOf_errors {text : Bytes} {words : List Token} (htext : WordsOf text words) :
    WordsOf (text ++ asciiBytes " 2>&1")
      (words ++ [.number (asciiBytes "2"), .greatAnd] ++ [.word (asciiBytes "1") false]) := by
  have happend := htext.append separates_errors wordsOf_one
  rwa [List.append_assoc] at happend

theorem separates_log : Separates (asciiBytes " > ") [.great] := fun _ _ => rfl

theorem commands_buildCommand {alsatplg confPath tplgPath logPath : Bytes}
    (halsatplg : 0 ∉ alsatplg) (hconf : 0 ∉ confPath) (htplg : 0 ∉ tplgPath)
    (hlog : 0 ∉ logPath) :
    commands (buildCommand alsatplg confPath tplgPath logPath) =
      some [logged [alsatplg, asciiBytes "-c", confPath, asciiBytes "-o", tplgPath] logPath] := by
  have hconfOption : Separates (asciiBytes " -c ") [.word (asciiBytes "-c") false] :=
    fun _ _ => rfl
  have htplgOption : Separates (asciiBytes " -o ") [.word (asciiBytes "-o") false] :=
    fun _ _ => rfl
  have hwords := wordsOf_errors (((wordsOf_quote halsatplg).append hconfOption
    (wordsOf_quote hconf)).append htplgOption (wordsOf_quote htplg) |>.append separates_log
    (wordsOf_quote hlog))
  rw [commands, buildCommand, shellQuote_eq_quote, shellQuote_eq_quote, shellQuote_eq_quote,
    shellQuote_eq_quote, hwords.tokens_eq]
  rfl

theorem commands_decodeCommand {alsatplg tplgPath decodeConfPath decodeLogPath : Bytes}
    (halsatplg : 0 ∉ alsatplg) (htplg : 0 ∉ tplgPath) (hconf : 0 ∉ decodeConfPath)
    (hlog : 0 ∉ decodeLogPath) :
    commands (decodeCommand alsatplg tplgPath decodeConfPath decodeLogPath) =
      some [logged [alsatplg, asciiBytes "-d", tplgPath, asciiBytes "-o", decodeConfPath]
        decodeLogPath] := by
  have htplgOption : Separates (asciiBytes " -d ") [.word (asciiBytes "-d") false] :=
    fun _ _ => rfl
  have hconfOption : Separates (asciiBytes " -o ") [.word (asciiBytes "-o") false] :=
    fun _ _ => rfl
  have hwords := wordsOf_errors (((wordsOf_quote halsatplg).append htplgOption
    (wordsOf_quote htplg)).append hconfOption (wordsOf_quote hconf) |>.append separates_log
    (wordsOf_quote hlog))
  rw [commands, decodeCommand, shellQuote_eq_quote, shellQuote_eq_quote, shellQuote_eq_quote,
    shellQuote_eq_quote, hwords.tokens_eq]
  rfl

end AudioStudio.Config
