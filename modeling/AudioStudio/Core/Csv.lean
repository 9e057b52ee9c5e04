import AudioStudio.Core.LittleEndian
import Mathlib.Data.List.Basic

/-!
# Comma-separated records

The reader of RFC 4180 over bytes: a field is plain or stands in quotes, a quote inside
quotes is doubled, and a record ends with a line feed or with a return and a line feed.
What is written with the escape rule of that format is read back as it was.
-/

namespace AudioStudio.Csv

open LittleEndian

def comma : UInt8 := 0x2c
def doubleQuote : UInt8 := 0x22
def lineFeed : UInt8 := 0x0a
def carriageReturn : UInt8 := 0x0d

/-! ## The reader -/

/-- What the reader has seen of the current field. -/
inductive Seen where
  | nothing
  | plain
  | quoted
  | quoteInQuotes
  | returnBehind
  deriving DecidableEq, Repr

/-- Behind these a field may end. -/
def Seen.AtEnd (seen : Seen) : Prop :=
  seen = .nothing ∨ seen = .plain ∨ seen = .quoteInQuotes

structure Reader where
  seen : Seen := .nothing
  field : Bytes := []
  record : List Bytes := []
  records : List (List Bytes) := []
  deriving DecidableEq, Repr

namespace Reader

def endField (reader : Reader) : Reader :=
  { reader with seen := .nothing, field := [], record := reader.record ++ [reader.field] }

def endRecord (reader : Reader) : Reader :=
  { records := reader.records ++ [reader.record ++ [reader.field]] }

/-- A byte behind the end of a field. -/
def separate (reader : Reader) (byte : UInt8) : Option Reader :=
  if byte = comma then some reader.endField
  else if byte = lineFeed then some reader.endRecord
  else if byte = carriageReturn then some { reader with seen := .returnBehind }
  else none

def take (reader : Reader) (seen : Seen) (byte : UInt8) : Reader :=
  { reader with seen := seen, field := reader.field ++ [byte] }

/-- A byte outside of quotes: text, or what ends the field; a quote is neither. -/
def plainStep (reader : Reader) (byte : UInt8) : Option Reader :=
  if byte = comma ∨ byte = lineFeed ∨ byte = carriageReturn then reader.separate byte
  else if byte = doubleQuote then none
  else some (reader.take .plain byte)

def step (reader : Reader) (byte : UInt8) : Option Reader :=
  match reader.seen with
  | .nothing =>
      if byte = doubleQuote then some { reader with seen := .quoted } else reader.plainStep byte
  | .plain => reader.plainStep byte
  | .quoted =>
      if byte = doubleQuote then some { reader with seen := .quoteInQuotes }
      else some (reader.take .quoted byte)
  | .quoteInQuotes =>
      if byte = doubleQuote then some (reader.take .quoted byte) else reader.separate byte
  | .returnBehind => if byte = lineFeed then some reader.endRecord else none

def run (reader : Reader) (text : Bytes) : Option Reader :=
  text.foldlM step reader

/-- The last record need not be ended. -/
def finish (reader : Reader) : Option (List (List Bytes)) :=
  match reader.seen with
  | .nothing => some (if reader.record = [] then reader.records else reader.endRecord.records)
  | .plain | .quoteInQuotes => some reader.endRecord.records
  | .quoted | .returnBehind => none

end Reader

def read (text : Bytes) : Option (List (List Bytes)) :=
  (Reader.run {} text).bind Reader.finish

/-! ## The writer -/

def needsQuotes (field : Bytes) : Bool :=
  field.any fun byte =>
    byte = comma ∨ byte = doubleQuote ∨ byte = lineFeed ∨ byte = carriageReturn

def doubled (field : Bytes) : Bytes :=
  field.flatMap fun byte => if byte = doubleQuote then [doubleQuote, doubleQuote] else [byte]

def escape (field : Bytes) : Bytes :=
  if needsQuotes field then doubleQuote :: doubled field ++ [doubleQuote] else field

/-- Fields with commas between them. -/
def line : List Bytes → Bytes
  | [] => []
  | [field] => escape field
  | field :: rest => escape field ++ comma :: line rest

/-! ## Reading what was written -/

namespace Reader

variable {reader : Reader}

theorem run_nil : reader.run [] = some reader := rfl

theorem run_cons (byte : UInt8) (text : Bytes) :
    reader.run (byte :: text) = (reader.step byte).bind (·.run text) := rfl

theorem run_append (first second : Bytes) :
    reader.run (first ++ second) = (reader.run first).bind (·.run second) := by
  unfold run
  rw [List.foldlM_append]
  rfl

/-- A field that stands plain in the text is taken byte by byte. -/
theorem run_plain {field : Bytes} (hplain : needsQuotes field = false)
    (hseen : reader.seen = .nothing ∨ reader.seen = .plain) :
    ∃ seen, (seen = .nothing ∨ seen = .plain) ∧
      reader.run field = some { reader with seen := seen, field := reader.field ++ field } := by
  induction field generalizing reader with
  | nil => exact ⟨reader.seen, hseen, by rw [run_nil, List.append_nil]⟩
  | cons byte field ih =>
      rw [needsQuotes, List.any_cons, Bool.or_eq_false_iff, decide_eq_false_iff_not] at hplain
      obtain ⟨hbyte, hfield⟩ := hplain
      rw [not_or, not_or, not_or] at hbyte
      obtain ⟨hcomma, hquote, hfeed, hreturn⟩ := hbyte
      have hstep : reader.step byte = some (reader.take .plain byte) := by
        have hplainStep : reader.plainStep byte = some (reader.take .plain byte) := by
          rw [plainStep, if_neg (by simp [hcomma, hfeed, hreturn]), if_neg hquote]
        unfold step
        rcases hseen with hseen | hseen
        · rw [hseen]
          dsimp only
          rw [if_neg hquote, hplainStep]
        · rw [hseen]
          exact hplainStep
      obtain ⟨seen, hsame, hrun⟩ := @ih (reader.take .plain byte) hfield (.inr rfl)
      refine ⟨seen, hsame, ?_⟩
      rw [run_cons, hstep, Option.bind_some, hrun]
      simp only [take, List.append_assoc, List.singleton_append]

/-- Inside quotes every byte is text, and a quote stands for itself when it is doubled. -/
theorem run_doubled (field : Bytes) (hseen : reader.seen = .quoted) :
    reader.run (doubled field) = some { reader with field := reader.field ++ field } := by
  induction field generalizing reader with
  | nil => simp [doubled, run_nil]
  | cons byte field ih =>
      have htaken : (reader.take .quoted byte).run (doubled field) =
          some { reader with field := reader.field ++ byte :: field } := by
        rw [ih rfl]
        simp only [take, List.append_assoc, List.singleton_append, hseen]
      have hdoubled : doubled (byte :: field) =
          (if byte = doubleQuote then [doubleQuote, doubleQuote] else [byte]) ++ doubled field :=
        List.flatMap_cons
      rw [hdoubled, run_append]
      split
      · next hquote =>
          subst hquote
          have hfirst : reader.step doubleQuote = some { reader with seen := .quoteInQuotes } := by
            unfold step
            rw [hseen]
            rfl
          rw [run_cons, hfirst, Option.bind_some]
          exact htaken
      · next hquote =>
          have hstep : reader.step byte = some (reader.take .quoted byte) := by
            unfold step
            rw [hseen]
            exact if_neg hquote
          rw [run_cons, hstep, Option.bind_some]
          exact htaken

/-- A written field is read up to its end, whatever ends it. -/
theorem run_escape (field : Bytes) (hseen : reader.seen = .nothing) (hfield : reader.field = []) :
    ∃ seen : Seen, seen.AtEnd ∧
      reader.run (escape field) = some { reader with seen := seen, field := field } := by
  unfold escape
  split
  · have hopen : reader.step doubleQuote = some { reader with seen := .quoted } := by
      unfold step
      rw [hseen]
      rfl
    refine ⟨.quoteInQuotes, .inr (.inr rfl), ?_⟩
    rw [List.cons_append, run_cons, hopen, Option.bind_some, run_append,
      run_doubled field rfl, hfield]
    rfl
  · next hplain =>
      obtain ⟨seen, hsame, hrun⟩ := run_plain (Bool.eq_false_of_not_eq_true hplain) (.inl hseen)
      refine ⟨seen, hsame.imp_right .inl, ?_⟩
      rw [hrun, hfield, List.nil_append]

theorem step_comma (hend : reader.seen.AtEnd) : reader.step comma = some reader.endField := by
  unfold step
  rcases hend with hseen | hseen | hseen <;> rw [hseen] <;> rfl

theorem step_lineFeed (hend : reader.seen.AtEnd) : reader.step lineFeed = some reader.endRecord := by
  unfold step
  rcases hend with hseen | hseen | hseen <;> rw [hseen] <;> rfl

theorem step_carriageReturn (hend : reader.seen.AtEnd) :
    reader.step carriageReturn = some { reader with seen := .returnBehind } := by
  unfold step
  rcases hend with hseen | hseen | hseen <;> rw [hseen] <;> rfl

/-- A written line is read as one record, ended by a line feed with or without a return. -/
theorem run_line {fields : List Bytes} (hfields : fields ≠ []) (hseen : reader.seen = .nothing)
    (hfield : reader.field = []) {ending : Bytes}
    (hending : ending = [lineFeed] ∨ ending = [carriageReturn, lineFeed]) :
    reader.run (line fields ++ ending) =
      some { records := reader.records ++ [reader.record ++ fields] } := by
  induction fields generalizing reader with
  | nil => exact absurd rfl hfields
  | cons field rest ih =>
      obtain ⟨seen, hend, hrun⟩ := run_escape field hseen hfield
      cases rest with
      | nil =>
          rw [line, run_append, hrun, Option.bind_some]
          rcases hending with rfl | rfl
          · rw [run_cons, step_lineFeed hend]
            rfl
          · rw [run_cons, step_carriageReturn hend]
            rfl
      | cons other rest =>
          have hline : line (field :: other :: rest) =
              escape field ++ comma :: line (other :: rest) := rfl
          rw [hline, List.append_assoc, run_append, hrun, Option.bind_some, List.cons_append,
            run_cons, step_comma hend, Option.bind_some, ih (List.cons_ne_nil _ _) rfl rfl]
          simp only [endField, List.append_assoc, List.singleton_append]

/-- Lines are read one by one. -/
theorem run_lines {records : List (List Bytes)} (hrecords : ∀ record ∈ records, record ≠ [])
    {ending : Bytes} (hending : ending = [lineFeed] ∨ ending = [carriageReturn, lineFeed])
    (before : List (List Bytes)) :
    run { records := before } (records.flatMap fun record => line record ++ ending) =
      some { records := before ++ records } := by
  induction records generalizing before with
  | nil => rw [List.flatMap_nil, run_nil, List.append_nil]
  | cons record records ih =>
      rw [List.flatMap_cons, run_append,
        run_line (hrecords record List.mem_cons_self) rfl rfl hending, Option.bind_some,
        List.nil_append, ih fun other hother => hrecords other (List.mem_cons_of_mem record hother)]
      rw [List.append_assoc, List.singleton_append]

end Reader

theorem read_lines {records : List (List Bytes)} (hrecords : ∀ record ∈ records, record ≠ [])
    {ending : Bytes} (hending : ending = [lineFeed] ∨ ending = [carriageReturn, lineFeed]) :
    read (records.flatMap fun record => line record ++ ending) = some records := by
  rw [read, Reader.run_lines hrecords hending]
  rfl

end AudioStudio.Csv
