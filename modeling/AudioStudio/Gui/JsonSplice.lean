import AudioStudio.Rpc.JsonValue
import Mathlib.Data.List.DropRight

/-!
# Splices in JSON texts

`upsertObjectMember` of `project_orchestration.cpp` with the scanners it rests on: a member
of a workspace file is replaced in its text, which is never parsed.
-/

namespace AudioStudio.Gui

open AudioStudio.LittleEndian
open AudioStudio.Rpc

/-! ## White space -/

def isBlank (c : UInt8) : Bool :=
  c = ascii ' ' ∨ c = ascii '\n' ∨ c = ascii '\r' ∨ c = ascii '\t'

def skipWhitespaceBack (text : Bytes) (pos : Nat) : Nat :=
  ((text.take pos).rdropWhile (isBlank ·)).length

def skipWhitespace (text : Bytes) (pos : Nat) : Nat :=
  pos + ((text.drop pos).takeWhile (isBlank ·)).length

/-! ## Ends of values -/

/-- Where a scanner stands: within a string, and there behind a backslash. -/
structure Scan where
  inString : Bool := false
  esc : Bool := false
  deriving DecidableEq, Repr

/-- One character within a string. -/
def Scan.read (scan : Scan) (c : UInt8) : Scan :=
  if scan.esc then { scan with esc := false }
  else if c = backslash then { scan with esc := true }
  else if c = quote then { scan with inString := false }
  else scan

/-- The loop over an object or an array: how many characters it takes to the bracket that
closes the first one. -/
def matchingBracketLength (first : UInt8) : Bytes → Int → Scan → Option Nat
  | [], _, _ => none
  | c :: rest, depth, scan =>
      if scan.inString then (matchingBracketLength first rest depth (scan.read c)).map (· + 1)
      else if c = quote then
        (matchingBracketLength first rest depth { scan with inString := true }).map (· + 1)
      else if c = first then (matchingBracketLength first rest (depth + 1) scan).map (· + 1)
      else if first = ascii '{' ∧ c = ascii '}' ∨ first = ascii '[' ∧ c = ascii ']' then
        if depth - 1 = 0 then some 1
        else (matchingBracketLength first rest (depth - 1) scan).map (· + 1)
      else (matchingBracketLength first rest depth scan).map (· + 1)

/-- The loop over a string, behind its opening quote. -/
def matchingQuoteLength : Bytes → Bool → Option Nat
  | [], _ => none
  | c :: rest, esc =>
      if esc then (matchingQuoteLength rest false).map (· + 1)
      else if c = backslash then (matchingQuoteLength rest true).map (· + 1)
      else if c = quote then some 1
      else (matchingQuoteLength rest false).map (· + 1)

/-- How long the value is that a text begins with. -/
def jsonValueLength : Bytes → Option Nat
  | [] => none
  | first :: rest =>
      if first = ascii '{' ∨ first = ascii '[' then matchingBracketLength first (first :: rest) 0 {}
      else if first = quote then (matchingQuoteLength rest false).map (· + 1)
      else some ((first :: rest).takeWhile fun c =>
        c ≠ ascii ',' ∧ c ≠ ascii '}' ∧ c ≠ ascii ']').length

def matchingJsonValueEnd (text : Bytes) (valueStart : Nat) : Option Nat :=
  (jsonValueLength (text.drop valueStart)).map (valueStart + ·)

/-! ## Members -/

/-- The end of the value behind the next colon from a position on. -/
def valueEndFrom (text : Bytes) (pos : Nat) : Option Nat :=
  match (text.drop pos).findIdx? (· = ascii ':') with
  | none => none
  | some offset => matchingJsonValueEnd text (skipWhitespace text (pos + offset + 1))

/-- The range of the member whose name is found at a position, with one of the commas
beside it. -/
def memberRange (text key : Bytes) (pos : Nat) : Option (Nat × Nat) :=
  match valueEndFrom text (pos + key.length) with
  | none => none
  | some valueEnd =>
      let before := skipWhitespaceBack text pos
      if 0 < before ∧ text[before - 1]? = some (ascii ',') then some (before - 1, valueEnd)
      else
        let after := skipWhitespace text valueEnd
        if text[after]? = some (ascii ',') then some (pos, after + 1) else some (pos, valueEnd)

/-- The loop of `topLevelMemberRange`. -/
def scanMembers (text key : Bytes) : Bytes → Nat → Int → Scan → Option (Nat × Nat)
  | [], _, _, _ => none
  | c :: rest, pos, depth, scan =>
      if scan.inString then scanMembers text key rest (pos + 1) depth (scan.read c)
      else if c = quote then
        if depth = 1 ∧ key.isPrefixOf (c :: rest) then memberRange text key pos
        else scanMembers text key rest (pos + 1) depth { scan with inString := true }
      else if c = ascii '{' ∨ c = ascii '[' then
        scanMembers text key rest (pos + 1) (depth + 1) scan
      else if c = ascii '}' ∨ c = ascii ']' then
        scanMembers text key rest (pos + 1) (depth - 1) scan
      else scanMembers text key rest (pos + 1) depth scan

/-- A string of a text, for what needs no escaping. -/
def quoted (body : Bytes) : Bytes :=
  quote :: (body ++ [quote])

def topLevelMemberRange (text field : Bytes) : Option (Nat × Nat) :=
  if text.head? ≠ some (ascii '{') then none
  else scanMembers text (quoted field) text 0 0 {}

def appendObjectFields (json fields : Bytes) : Bytes :=
  let last := skipWhitespaceBack json json.length
  if last = 0 ∨ json[last - 1]? ≠ some (ascii '}') then json
  else
    let out := json.take (last - 1)
    let beforeClose := skipWhitespaceBack out out.length
    let hasExistingFields := 0 < beforeClose ∧ ascii '{' ∈ out ∧
      out[beforeClose - 1]? ≠ some (ascii '{')
    out ++ ((if hasExistingFields then [ascii ','] else []) ++ (fields ++ json.drop (last - 1)))

def upsertObjectMember (text field value : Bytes) : Bytes :=
  match topLevelMemberRange text field with
  | some (first, last) =>
      let replacement := quoted field ++ ascii ':' :: value
      let needLeadingComma := 0 < first ∧ text[first]? = some (ascii ',')
      text.take first ++
        ((if needLeadingComma then ascii ',' :: replacement else replacement) ++ text.drop last)
  | none => appendObjectFields text (quoted field ++ ascii ':' :: value)

end AudioStudio.Gui
