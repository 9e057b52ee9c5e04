import AudioStudio.Core.Text

/-!
# Command lines of the shell

How the POSIX shell cuts a line into words and operators and what simple commands they are,
for lines without expansions: outside of quotes only bytes that stand for themselves are read,
all else is refused.  Quoted text is one word, whatever stands in it.
-/

namespace AudioStudio.Shell

open LittleEndian

def blank : UInt8 := 0x20
def tab : UInt8 := 0x09
def lineFeed : UInt8 := 0x0a
def doubleQuote : UInt8 := 0x22
def dollar : UInt8 := 0x24
def ampersand : UInt8 := 0x26
def singleQuote : UInt8 := 0x27
def greater : UInt8 := 0x3e
def backslash : UInt8 := 0x5c
def backquote : UInt8 := 0x60

/-- Outside of quotes these are never special. -/
def standsForItself (byte : UInt8) : Bool :=
  isAlnum byte || (asciiBytes "%+,-./:@_").contains byte

/-! ## Tokens -/

/-- A number is a word of digits right before a redirection. -/
inductive Token where
  | word (value : Bytes) (quoted : Bool)
  | number (digits : Bytes)
  | andIf
  | great
  | greatAnd
  deriving DecidableEq, Repr

/-- Where the reader stands, with what it has of the current word. -/
inductive Mode where
  | between
  | word (value : Bytes) (quoted : Bool)
  | escaped (value : Bytes)
  | single (value : Bytes)
  | double (value : Bytes)
  | doubleEscaped (value : Bytes)
  | great
  | ampersand
  deriving DecidableEq, Repr

namespace Mode

/-- A byte of a word outside of quotes. -/
def wordStep (value : Bytes) (quoted : Bool) (byte : UInt8) : Option Mode :=
  if byte = singleQuote then some (.single value)
  else if byte = doubleQuote then some (.double value)
  else if byte = backslash then some (.escaped value)
  else if standsForItself byte then some (.word (value ++ [byte]) quoted)
  else none

/-- A byte where a word may begin. -/
def betweenStep (byte : UInt8) : Option Mode :=
  if byte = blank ∨ byte = tab then some .between
  else if byte = greater then some .great
  else if byte = Shell.ampersand then some .ampersand
  else wordStep [] false byte

/-- The word before a redirection counts as a number if it is of plain digits. -/
def beforeGreat (value : Bytes) (quoted : Bool) : Token :=
  if quoted = false ∧ value.all isDigit = true then .number value else .word value quoted

/-- The next mode and the token that ends here; a single ampersand is refused. -/
def step (mode : Mode) (byte : UInt8) : Option (Mode × List Token) :=
  if byte = 0 then none
  else
    match mode with
    | .between => (betweenStep byte).map fun next => (next, [])
    | .word value quoted =>
        if byte = blank ∨ byte = tab then some (.between, [.word value quoted])
        else if byte = greater then some (.great, [beforeGreat value quoted])
        else if byte = Shell.ampersand then some (.ampersand, [.word value quoted])
        else (wordStep value quoted byte).map fun next => (next, [])
    | .escaped value =>
        if byte = lineFeed then none else some (.word (value ++ [byte]) true, [])
    | .single value =>
        if byte = singleQuote then some (.word value true, [])
        else some (.single (value ++ [byte]), [])
    | .double value =>
        if byte = doubleQuote then some (.word value true, [])
        else if byte = backslash then some (.doubleEscaped value, [])
        else if byte = dollar ∨ byte = backquote then none
        else some (.double (value ++ [byte]), [])
    | .doubleEscaped value =>
        if byte = lineFeed then some (.double value, [])
        else if byte = dollar ∨ byte = backquote ∨ byte = doubleQuote ∨ byte = backslash then
          some (.double (value ++ [byte]), [])
        else some (.double (value ++ [backslash, byte]), [])
    | .great =>
        if byte = Shell.ampersand then some (.between, [.greatAnd])
        else (betweenStep byte).map fun next => (next, [.great])
    | .ampersand => if byte = Shell.ampersand then some (.between, [.andIf]) else none

/-- The mode behind a text, and the tokens that have ended in it. -/
def run (mode : Mode) : Bytes → Option (Mode × List Token)
  | [] => some (mode, [])
  | byte :: text =>
      (mode.step byte).bind fun first =>
        (first.1.run text).map fun rest => (rest.1, first.2 ++ rest.2)

def finish : Mode → Option (List Token)
  | .between => some []
  | .word value quoted => some [.word value quoted]
  | _ => none

end Mode

def tokens (line : Bytes) : Option (List Token) :=
  (Mode.between.run line).bind fun read => read.1.finish.map fun last => read.2 ++ last

/-! ## Commands -/

inductive Redirection where
  | output (fd : Nat) (path : Bytes)
  | duplicate (fd target : Nat)
  deriving DecidableEq, Repr

/-- A simple command. -/
structure Command where
  argv : List Bytes := []
  redirections : List Redirection := []
  deriving DecidableEq, Repr

def reservedWords : List Bytes :=
  ["if", "then", "else", "elif", "fi", "do", "done", "case", "esac", "while", "until", "for",
    "in"].map asciiBytes

namespace Command

def addWord (command : Command) (value : Bytes) : Command :=
  { command with argv := command.argv ++ [value] }

def redirect (command : Command) (redirection : Redirection) : Command :=
  { command with redirections := command.redirections ++ [redirection] }

/-- The target of `>&` has to be a descriptor. -/
def joinTo (command : Command) (fd : Nat) (target : Bytes) : Option Command :=
  if target ≠ [] ∧ target.all isDigit = true then
    some (command.redirect (.duplicate fd (decimalValue target)))
  else none

end Command

/-- The commands of an and-list; the first word of a command must not be reserved. -/
def parse (command : Command) : List Token → Option (List Command)
  | [] => if command.argv = [] then none else some [command]
  | .word value quoted :: rest =>
      if command.argv = [] ∧ quoted = false ∧ value ∈ reservedWords then none
      else parse (command.addWord value) rest
  | .great :: .word path _ :: rest => parse (command.redirect (.output 1 path)) rest
  | .number fd :: .great :: .word path _ :: rest =>
      parse (command.redirect (.output (decimalValue fd) path)) rest
  | .greatAnd :: .word target _ :: rest =>
      (command.joinTo 1 target).bind fun command => parse command rest
  | .number fd :: .greatAnd :: .word target _ :: rest =>
      (command.joinTo (decimalValue fd) target).bind fun command => parse command rest
  | .andIf :: rest =>
      if command.argv = [] then none
      else (parse {} rest).map fun commands => command :: commands
  | _ => none

/-- What a line is read as. -/
def commands (line : Bytes) : Option (List Command) :=
  (tokens line).bind (parse {})

/-! ## The writer -/

/-- Inside single quotes: a quote ends them, stands escaped, and opens them again. -/
def quotedBody (value : Bytes) : Bytes :=
  value.flatMap fun byte =>
    if byte = singleQuote then [singleQuote, backslash, singleQuote, singleQuote] else [byte]

def quote (value : Bytes) : Bytes :=
  singleQuote :: quotedBody value ++ [singleQuote]

/-! ## Reading what was written -/

namespace Mode

variable {mode : Mode}

theorem run_cons (byte : UInt8) (text : Bytes) :
    mode.run (byte :: text) = (mode.step byte).bind fun first =>
      (first.1.run text).map fun rest => (rest.1, first.2 ++ rest.2) := rfl

theorem run_append (first second : Bytes) :
    mode.run (first ++ second) = (mode.run first).bind fun read =>
      (read.1.run second).map fun rest => (rest.1, read.2 ++ rest.2) := by
  induction first generalizing mode with
  | nil =>
      simp only [List.nil_append, run, Option.bind_some, Prod.mk.eta, Option.map_id']
  | cons byte first ih =>
      rw [List.cons_append, run_cons, run_cons]
      cases mode.step byte with
      | none => rfl
      | some next =>
          rw [Option.bind_some, Option.bind_some, ih]
          cases next.1.run first with
          | none => rfl
          | some read =>
              cases hrest : read.1.run second with
              | none => simp only [Option.bind_some, Option.map_some, hrest, Option.map_none]
              | some rest =>
                  simp only [Option.bind_some, Option.map_some, hrest, List.append_assoc]

variable {byte : UInt8}

/-- A quote that is written inside of quotes is taken like any other byte. -/
theorem run_quotedByte (hbyte : ¬ 0 = byte) (taken : Bytes) :
    run (.single taken)
      (if byte = singleQuote then [singleQuote, backslash, singleQuote, singleQuote] else [byte]) =
        some (.single (taken ++ [byte]), []) := by
  split
  · next hquote =>
      subst hquote
      rfl
  · next hplain =>
      have hstep : step (.single taken) byte = some (.single (taken ++ [byte]), []) := by
        unfold step
        rw [if_neg (Ne.symm hbyte)]
        exact if_neg hplain
      rw [run_cons, hstep]
      rfl

variable {value : Bytes}

theorem run_quotedBody (hvalue : 0 ∉ value) (taken : Bytes) :
    run (.single taken) (quotedBody value) = some (.single (taken ++ value), []) := by
  induction value generalizing taken with
  | nil =>
      rw [List.append_nil]
      rfl
  | cons byte value ih =>
      obtain ⟨hbyte, hvalue⟩ : ¬ 0 = byte ∧ 0 ∉ value := by rwa [List.mem_cons, not_or] at hvalue
      have hbody : quotedBody (byte :: value) =
          (if byte = singleQuote then [singleQuote, backslash, singleQuote, singleQuote]
            else [byte]) ++ quotedBody value := List.flatMap_cons
      rw [hbody, run_append, run_quotedByte hbyte, Option.bind_some, ih hvalue, Option.map_some,
        List.append_assoc, List.singleton_append, List.nil_append]

/-- Where a word may begin quoted text is that word, and the reader stands right behind it. -/
theorem run_quote (hvalue : 0 ∉ value) :
    run .between (quote value) = some (.word value true, []) := by
  have hopen : step .between singleQuote = some (.single [], []) := rfl
  have hclose : step (.single value) singleQuote = some (.word value true, []) := rfl
  rw [quote, List.cons_append, run_cons, hopen, Option.bind_some, run_append,
    run_quotedBody hvalue, Option.bind_some, List.nil_append, run_cons, hclose]
  rfl

theorem ne_of_standsForItself {special : UInt8} (hbyte : standsForItself byte = true)
    (hspecial : standsForItself special = false) : byte ≠ special := by
  rintro rfl
  rw [hbyte] at hspecial
  cases hspecial

theorem wordStep_plain (hbyte : standsForItself byte = true) (taken : Bytes) (quoted : Bool) :
    wordStep taken quoted byte = some (.word (taken ++ [byte]) quoted) := by
  rw [wordStep, if_neg (ne_of_standsForItself hbyte (by decide)),
    if_neg (ne_of_standsForItself hbyte (by decide)),
    if_neg (ne_of_standsForItself hbyte (by decide)), if_pos hbyte]

theorem not_blank_of_standsForItself (hbyte : standsForItself byte = true) :
    ¬ (byte = blank ∨ byte = tab) := by
  rintro (hblank | htab)
  · exact ne_of_standsForItself hbyte (by decide) hblank
  · exact ne_of_standsForItself hbyte (by decide) htab

/-- Bytes that stand for themselves are taken into the word. -/
theorem run_plain (hvalue : ∀ byte ∈ value, standsForItself byte = true) (taken : Bytes)
    (quoted : Bool) :
    run (.word taken quoted) value = some (.word (taken ++ value) quoted, []) := by
  induction value generalizing taken with
  | nil =>
      rw [List.append_nil]
      rfl
  | cons byte value ih =>
      have hbyte := hvalue byte List.mem_cons_self
      have hstep : step (.word taken quoted) byte = some (.word (taken ++ [byte]) quoted, []) := by
        unfold step
        rw [if_neg (ne_of_standsForItself hbyte (by decide))]
        dsimp only
        rw [if_neg (not_blank_of_standsForItself hbyte),
          if_neg (ne_of_standsForItself hbyte (by decide)),
          if_neg (ne_of_standsForItself hbyte (by decide)), wordStep_plain hbyte]
        rfl
      rw [run_cons, hstep, Option.bind_some,
        ih fun other hother => hvalue other (List.mem_cons_of_mem byte hother)]
      rw [Option.map_some, List.append_assoc, List.singleton_append, List.nil_append]

/-- At the start of a word the first of them begins it. -/
theorem run_plain_between (hvalue : value ≠ [])
    (hplain : ∀ byte ∈ value, standsForItself byte = true) :
    run .between value = some (.word value false, []) := by
  cases value with
  | nil => exact absurd rfl hvalue
  | cons byte value =>
      have hbyte := hplain byte List.mem_cons_self
      have hstep : step .between byte = some (.word [byte] false, []) := by
        unfold step
        rw [if_neg (ne_of_standsForItself hbyte (by decide))]
        dsimp only
        rw [betweenStep, if_neg (not_blank_of_standsForItself hbyte),
          if_neg (ne_of_standsForItself hbyte (by decide)),
          if_neg (ne_of_standsForItself hbyte (by decide)), wordStep_plain hbyte]
        rfl
      rw [run_cons, hstep, Option.bind_some,
        run_plain fun other hother => hplain other (List.mem_cons_of_mem byte hother)]
      rfl

end Mode

/-! ## Putting lines together -/

/-- A text that is read as these tokens where a word may begin, the last of them a word. -/
def WordsOf (text : Bytes) (words : List Token) : Prop :=
  ∃ front value quoted, words = front ++ [.word value quoted] ∧
    Mode.between.run text = some (.word value quoted, front)

/-- A text that ends the word before it and is read as these tokens behind it. -/
def Separates (text : Bytes) (words : List Token) : Prop :=
  ∀ value quoted, Mode.run (.word value quoted) text =
    some (.between, .word value quoted :: words)

/-- A text that is read as these tokens and ends where a word may begin. -/
def Leads (text : Bytes) (words : List Token) : Prop :=
  Mode.between.run text = some (.between, words)

variable {first second separator : Bytes} {words others middle : List Token}

variable {value : Bytes}

theorem wordsOf_quote (hvalue : 0 ∉ value) : WordsOf (quote value) [.word value true] :=
  ⟨[], value, true, rfl, Mode.run_quote hvalue⟩

theorem leads_nil : Leads [] [] := rfl

theorem WordsOf.leads (hfirst : WordsOf first words) (hseparator : Separates separator middle) :
    Leads (first ++ separator) (words ++ middle) := by
  obtain ⟨front, value, quoted, rfl, hrun⟩ := hfirst
  rw [Leads, Mode.run_append, hrun, Option.bind_some, hseparator, Option.map_some,
    List.append_assoc, List.singleton_append]

theorem Leads.wordsOf (hfirst : Leads first words) (hsecond : WordsOf second others) :
    WordsOf (first ++ second) (words ++ others) := by
  obtain ⟨front, value, quoted, rfl, hrun⟩ := hsecond
  refine ⟨words ++ front, value, quoted, (List.append_assoc _ _ _).symm, ?_⟩
  rw [Mode.run_append, hfirst, Option.bind_some, hrun, Option.map_some]

theorem WordsOf.append (hfirst : WordsOf first words) (hseparator : Separates separator middle)
    (hsecond : WordsOf second others) :
    WordsOf (first ++ separator ++ second) (words ++ middle ++ others) :=
  (hfirst.leads hseparator).wordsOf hsecond

theorem WordsOf.tokens_eq (hfirst : WordsOf first words) : tokens first = some words := by
  obtain ⟨front, value, quoted, rfl, hrun⟩ := hfirst
  rw [tokens, hrun]
  rfl

/-- Bytes that stand for themselves are a word that is not quoted. -/
theorem wordsOf_plain (hvalue : value ≠ []) (hplain : ∀ byte ∈ value, standsForItself byte = true) :
    WordsOf value [.word value false] :=
  ⟨[], value, false, rfl, Mode.run_plain_between hvalue hplain⟩

theorem wordsOf_decimalText (number : Nat) :
    WordsOf (decimalText number) [.word (decimalText number) false] := by
  refine wordsOf_plain (decimalText_ne_nil number) fun byte hbyte => ?_
  have hdigit := isDigit_of_mem_decimalText hbyte
  rw [isDigit, decide_eq_true_eq] at hdigit
  rw [standsForItself, isAlnum, decide_eq_true (.inr (.inr hdigit)), Bool.true_or]

/-! ## Optional arguments -/

def optionText (separator value : Bytes) : Bytes :=
  if value = [] then [] else separator ++ quote value

def optionTokens (flag value : Bytes) : List Token :=
  if value = [] then [] else [.word flag false, .word value true]

def optionWords (flag value : Bytes) : List Bytes :=
  if value = [] then [] else [flag, value]

theorem WordsOf.option {flag : Bytes} (hfirst : WordsOf first words)
    (hseparator : Separates separator [.word flag false]) (hvalue : 0 ∉ value) :
    WordsOf (first ++ optionText separator value) (words ++ optionTokens flag value) := by
  unfold optionText optionTokens
  split
  · rwa [List.append_nil, List.append_nil]
  · have happend := hfirst.append hseparator (wordsOf_quote hvalue)
    rwa [List.append_assoc, List.append_assoc, List.singleton_append] at happend

variable {argv : List Bytes} {redirections : List Redirection}

/-- Behind the first word of a command all words are arguments. -/
theorem parse_word (hargv : argv ≠ []) (value : Bytes) (quoted : Bool) (rest : List Token) :
    parse { argv, redirections } (.word value quoted :: rest) =
      parse { argv := argv ++ [value], redirections } rest :=
  if_neg fun hreserved => hargv hreserved.1

theorem parse_optionTokens (hargv : argv ≠ []) (flag value : Bytes) (rest : List Token) :
    parse { argv, redirections } (optionTokens flag value ++ rest) =
      parse { argv := argv ++ optionWords flag value, redirections } rest := by
  unfold optionTokens optionWords
  split
  · rw [List.append_nil, List.nil_append]
  · rw [List.cons_append, List.singleton_append, parse_word hargv, parse_word (by simp),
      List.append_assoc, List.singleton_append]

end AudioStudio.Shell
