import AudioStudio.Config.CommandLines

/-!
# The commands of the backend

`shellQuote` of `project_orchestration.cpp`, the compile request that is handed to a server on
its command line, and the start of a validation session.  Together with the commands of the
compiler they are read by the shell as what they are meant to be.
-/

namespace AudioStudio.Gui

open AudioStudio.LittleEndian
open AudioStudio.Shell

def shellQuote (value : Bytes) : Bytes :=
  [0x27] ++ (value.flatMap fun c => if c = 0x27 then asciiBytes "'\\''" else [c]) ++
    asciiBytes "'"

theorem shellQuote_eq_quote (value : Bytes) : shellQuote value = quote value := rfl

/-- The command of `runConfigCompileRpcOnce`. -/
def rpcOnceCommand (asServer workingDir rpcRequest : Bytes) : Bytes :=
  (if workingDir = [] then [] else asciiBytes "cd " ++ shellQuote workingDir ++ asciiBytes " && ") ++
    shellQuote asServer ++ asciiBytes " --rpc-once " ++ shellQuote rpcRequest ++
    asciiBytes " 2>&1"

/-- What the command of a validation session is made of; a path may be missing. -/
structure ValidationCommand where
  scriptPath : Bytes
  testListPath : Bytes
  host : Bytes
  port : UInt16
  asServerPath : Bytes
  asLogPath : Bytes
  traceLdcPath : Bytes
  readyPath : Bytes
  logPath : Bytes
  deriving DecidableEq, Repr

namespace ValidationCommand

variable (request : ValidationCommand)

def text : Bytes :=
  asciiBytes "python3 " ++ shellQuote request.scriptPath ++ asciiBytes " -t " ++
    shellQuote request.testListPath ++ asciiBytes " --audio-controller-log --as-server-host " ++
    shellQuote request.host ++ asciiBytes " --as-server-port " ++
    decimalText request.port.toNat ++
    (if request.asServerPath = [] then []
      else asciiBytes " --as-server " ++ shellQuote request.asServerPath) ++
    (if request.asLogPath = [] then []
      else asciiBytes " --as-log " ++ shellQuote request.asLogPath) ++
    (if request.traceLdcPath = [] then []
      else asciiBytes " --trace-ldc " ++ shellQuote request.traceLdcPath) ++
    asciiBytes " --gui-keep-alive --gui-ready-marker " ++ shellQuote request.readyPath ++
    asciiBytes " --gui-ready-after-pipeinstall" ++ asciiBytes " > " ++
    shellQuote request.logPath ++ asciiBytes " 2>&1"

/-- The arguments of the script. -/
def argv : List Bytes :=
  [asciiBytes "python3", request.scriptPath, asciiBytes "-t", request.testListPath,
    asciiBytes "--audio-controller-log", asciiBytes "--as-server-host", request.host,
    asciiBytes "--as-server-port", decimalText request.port.toNat] ++
  optionWords (asciiBytes "--as-server") request.asServerPath ++
  optionWords (asciiBytes "--as-log") request.asLogPath ++
  optionWords (asciiBytes "--trace-ldc") request.traceLdcPath ++
  [asciiBytes "--gui-keep-alive", asciiBytes "--gui-ready-marker", request.readyPath,
    asciiBytes "--gui-ready-after-pipeinstall"]

/-- No part of it has a NUL in it. -/
structure Writable : Prop where
  scriptPath : 0 ∉ request.scriptPath
  testListPath : 0 ∉ request.testListPath
  host : 0 ∉ request.host
  asServerPath : 0 ∉ request.asServerPath
  asLogPath : 0 ∉ request.asLogPath
  traceLdcPath : 0 ∉ request.traceLdcPath
  readyPath : 0 ∉ request.readyPath
  logPath : 0 ∉ request.logPath

/-- Where the options end and the marker begins. -/
def optionsTokens : List Token :=
  [.word (asciiBytes "python3") false, .word request.scriptPath true,
    .word (asciiBytes "-t") false, .word request.testListPath true,
    .word (asciiBytes "--audio-controller-log") false,
    .word (asciiBytes "--as-server-host") false, .word request.host true,
    .word (asciiBytes "--as-server-port") false, .word (decimalText request.port.toNat) false]

def markerTokens : List Token :=
  [.word (asciiBytes "--gui-keep-alive") false, .word (asciiBytes "--gui-ready-marker") false,
    .word request.readyPath true, .word (asciiBytes "--gui-ready-after-pipeinstall") false,
    .great, .word request.logPath true, .number (asciiBytes "2"), .greatAnd,
    .word (asciiBytes "1") false]

def words : List Token :=
  request.optionsTokens ++ (optionTokens (asciiBytes "--as-server") request.asServerPath ++
    (optionTokens (asciiBytes "--as-log") request.asLogPath ++
      (optionTokens (asciiBytes "--trace-ldc") request.traceLdcPath ++ request.markerTokens)))

variable {request}

theorem wordsOf_text (hwritable : request.Writable) : WordsOf request.text request.words := by
  have hscript : Leads (asciiBytes "python3 ") [.word (asciiBytes "python3") false] := rfl
  have htests : Separates (asciiBytes " -t ") [.word (asciiBytes "-t") false] := fun _ _ => rfl
  have hhost : Separates (asciiBytes " --audio-controller-log --as-server-host ")
      [.word (asciiBytes "--audio-controller-log") false,
        .word (asciiBytes "--as-server-host") false] := fun _ _ => rfl
  have hport : Separates (asciiBytes " --as-server-port ")
      [.word (asciiBytes "--as-server-port") false] := fun _ _ => rfl
  have hserver : Separates (asciiBytes " --as-server ")
      [.word (asciiBytes "--as-server") false] := fun _ _ => rfl
  have hasLog : Separates (asciiBytes " --as-log ")
      [.word (asciiBytes "--as-log") false] := fun _ _ => rfl
  have htrace : Separates (asciiBytes " --trace-ldc ")
      [.word (asciiBytes "--trace-ldc") false] := fun _ _ => rfl
  have hmarker : Separates (asciiBytes " --gui-keep-alive --gui-ready-marker ")
      [.word (asciiBytes "--gui-keep-alive") false,
        .word (asciiBytes "--gui-ready-marker") false] := fun _ _ => rfl
  have hready : Separates (asciiBytes " --gui-ready-after-pipeinstall" ++ asciiBytes " > ")
      [.word (asciiBytes "--gui-ready-after-pipeinstall") false, .great] := fun _ _ => rfl
  have hrequired := (((hscript.wordsOf (wordsOf_quote hwritable.scriptPath)).append htests
    (wordsOf_quote hwritable.testListPath)).append hhost (wordsOf_quote hwritable.host)).append
    hport (wordsOf_decimalText request.port.toNat)
  have hoptional := ((hrequired.option hserver hwritable.asServerPath).option hasLog
    hwritable.asLogPath).option htrace hwritable.traceLdcPath
  have hwhole := Config.wordsOf_errors ((hoptional.append hmarker
    (wordsOf_quote hwritable.readyPath)).append hready (wordsOf_quote hwritable.logPath))
  unfold text words optionsTokens markerTokens
  simp only [List.append_assoc, List.cons_append, List.nil_append] at hwhole ⊢
  exact hwhole

theorem parse_markerTokens {argv : List Bytes} (hargv : argv ≠ []) :
    parse { argv } request.markerTokens = some [Config.logged (argv ++
      [asciiBytes "--gui-keep-alive", asciiBytes "--gui-ready-marker", request.readyPath,
        asciiBytes "--gui-ready-after-pipeinstall"]) request.logPath] := by
  rw [markerTokens, parse_word hargv, parse_word (by simp), parse_word (by simp),
    parse_word (by simp)]
  simp only [List.append_assoc, List.cons_append, List.nil_append]
  exact if_neg (List.append_ne_nil_of_left_ne_nil hargv _)

theorem parse_words : parse {} request.words = some [Config.logged request.argv request.logPath] := by
  have hfirst : ∀ rest, parse {} (request.optionsTokens ++ rest) =
      parse { argv := [asciiBytes "python3", request.scriptPath, asciiBytes "-t",
        request.testListPath, asciiBytes "--audio-controller-log", asciiBytes "--as-server-host",
        request.host, asciiBytes "--as-server-port", decimalText request.port.toNat] } rest :=
    fun _ => rfl
  rw [words, hfirst, parse_optionTokens (by simp), parse_optionTokens (by simp),
    parse_optionTokens (by simp), parse_markerTokens (by simp)]
  rfl

end ValidationCommand

theorem commands_rpcOnce {asServer workingDir rpcRequest : Bytes} (hserver : 0 ∉ asServer)
    (hdir : 0 ∉ workingDir) (hrequest : 0 ∉ rpcRequest) :
    commands (rpcOnceCommand asServer workingDir rpcRequest) =
      some ((if workingDir = [] then [] else [{ argv := [asciiBytes "cd", workingDir] }]) ++
        [{ argv := [asServer, asciiBytes "--rpc-once", rpcRequest]
           redirections := [.duplicate 2 1] }]) := by
  have honce : Separates (asciiBytes " --rpc-once ") [.word (asciiBytes "--rpc-once") false] :=
    fun _ _ => rfl
  have hcd : Leads (asciiBytes "cd ") [.word (asciiBytes "cd") false] := rfl
  have hand : Separates (asciiBytes " && ") [.andIf] := fun _ _ => rfl
  unfold rpcOnceCommand
  split
  · have hwords := Config.wordsOf_errors
      ((leads_nil.wordsOf (wordsOf_quote hserver)).append honce (wordsOf_quote hrequest))
    rw [commands, shellQuote_eq_quote, shellQuote_eq_quote, hwords.tokens_eq]
    rfl
  · have hwords := Config.wordsOf_errors
      ((((hcd.wordsOf (wordsOf_quote hdir)).leads hand).wordsOf (wordsOf_quote hserver)).append
        honce (wordsOf_quote hrequest))
    rw [commands, shellQuote_eq_quote, shellQuote_eq_quote, shellQuote_eq_quote,
      hwords.tokens_eq]
    rfl

/-- A writer of words: what it writes is that word for the shell, standing alone and where a
word may begin in a line. -/
def WritesWords (write : Bytes → Bytes) : Prop :=
  ∀ value, 0 ∉ value → tokens (write value) = some [.word value true] ∧
    ∀ rest, Mode.between.run (write value ++ rest) = (Mode.word value true).run rest

theorem writesWords_quote : WritesWords quote := by
  intro value hvalue
  constructor
  · exact (wordsOf_quote hvalue).tokens_eq
  · intro rest
    rw [Mode.run_append, Mode.run_quote hvalue, Option.bind_some]
    simp only [List.nil_append, Prod.mk.eta, Option.map_id']

/-- Both quoting functions write words, and each command line is the commands it is to be. -/
theorem command_lines_exact :
    WritesWords Config.shellQuote ∧ WritesWords shellQuote ∧
      (∀ alsatplg confPath tplgPath logPath, 0 ∉ alsatplg → 0 ∉ confPath → 0 ∉ tplgPath →
        0 ∉ logPath → commands (Config.buildCommand alsatplg confPath tplgPath logPath) =
          some [Config.logged [alsatplg, asciiBytes "-c", confPath, asciiBytes "-o", tplgPath]
            logPath]) ∧
      (∀ alsatplg tplgPath decodeConfPath decodeLogPath, 0 ∉ alsatplg → 0 ∉ tplgPath →
        0 ∉ decodeConfPath → 0 ∉ decodeLogPath →
        commands (Config.decodeCommand alsatplg tplgPath decodeConfPath decodeLogPath) =
          some [Config.logged [alsatplg, asciiBytes "-d", tplgPath, asciiBytes "-o",
            decodeConfPath] decodeLogPath]) ∧
      (∀ asServer workingDir rpcRequest, 0 ∉ asServer → 0 ∉ workingDir → 0 ∉ rpcRequest →
        commands (rpcOnceCommand asServer workingDir rpcRequest) =
          some ((if workingDir = [] then [] else [{ argv := [asciiBytes "cd", workingDir] }]) ++
            [{ argv := [asServer, asciiBytes "--rpc-once", rpcRequest]
               redirections := [.duplicate 2 1] }])) ∧
      ∀ request : ValidationCommand, request.Writable →
        commands request.text = some [Config.logged request.argv request.logPath] := by
  refine ⟨writesWords_quote, writesWords_quote, ?_, ?_, ?_, ?_⟩
  · intro alsatplg confPath tplgPath logPath
    exact Config.commands_buildCommand
  · intro alsatplg tplgPath decodeConfPath decodeLogPath
    exact Config.commands_decodeCommand
  · intro asServer workingDir rpcRequest
    exact commands_rpcOnce
  · intro request hwritable
    rw [commands, (ValidationCommand.wordsOf_text hwritable).tokens_eq]
    exact ValidationCommand.parse_words

theorem quote_read_back :
    tokens (shellQuote (asciiBytes "it's")) = some [.word (asciiBytes "it's") true] :=
  (command_lines_exact.2.1 (asciiBytes "it's") (by decide)).1

end AudioStudio.Gui
