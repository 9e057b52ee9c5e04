import AudioStudio.Core.ByteReader
import AudioStudio.Core.Text

/-!
# JSON values

`json_value.cpp`: a value tree whose numbers keep their text, the recursive parser
over bytes and the printer.  The members of an object are the entries of a
`std::map`, in the order of their keys.
-/

namespace AudioStudio.Rpc

open AudioStudio.LittleEndian

inductive JsonValue where
  | null
  | bool (value : Bool)
  | number (scalar : Bytes)
  | string (scalar : Bytes)
  | array (items : List JsonValue)
  | object (members : List (Bytes × JsonValue))
  deriving Inhabited, Repr

abbrev JsonMembers := List (Bytes × JsonValue)

/-- `std::map::emplace`: a key that is present keeps its value. -/
def emplace (key : Bytes) (value : JsonValue) : JsonMembers → JsonMembers
  | [] => [(key, value)]
  | (first, held) :: members =>
      if key < first then (key, value) :: (first, held) :: members
      else if key = first then (first, held) :: members
      else (first, held) :: emplace key value members

/-! ## Characters -/

def ascii (char : Char) : UInt8 := char.toNat.toUInt8

def quote : UInt8 := 0x22
def backslash : UInt8 := 0x5c

/-- The value of a hexadecimal digit. -/
def hexValue (ch : UInt8) : Option UInt32 :=
  if ascii '0' ≤ ch ∧ ch ≤ ascii '9' then some (ch - ascii '0').toUInt32
  else if ascii 'a' ≤ ch ∧ ch ≤ ascii 'f' then some (ch - ascii 'a' + 10).toUInt32
  else if ascii 'A' ≤ ch ∧ ch ≤ ascii 'F' then some (ch - ascii 'A' + 10).toUInt32
  else none

def hexCharacter (digit : UInt8) : UInt8 :=
  if digit < 10 then ascii '0' + digit else ascii 'a' + (digit - 10)

def encodeUtf8 (codepoint : UInt32) : Bytes :=
  if codepoint ≤ 0x7f then [codepoint.toUInt8]
  else if codepoint ≤ 0x7ff then
    [(0xc0 : UInt8) ||| (codepoint >>> 6).toUInt8, (0x80 : UInt8) ||| (codepoint &&& 0x3f).toUInt8]
  else
    [(0xe0 : UInt8) ||| (codepoint >>> 12).toUInt8, (0x80 : UInt8) ||| ((codepoint >>> 6) &&& 0x3f).toUInt8,
      (0x80 : UInt8) ||| (codepoint &&& 0x3f).toUInt8]

/-! ## The reader of the parser -/

/-- A `JsonParseError`: the message and how many bytes were left, from which `fail`
tells the position.  `spent` is the end of the bound on the recursion. -/
inductive JsonFault where
  | parse (message : String) (remaining : Nat)
  | spent
  deriving DecidableEq, Repr

abbrev JsonReader (α : Type) := ByteReader JsonFault α

namespace Parser

def fail {α : Type} (message : String) : JsonReader α :=
  fun input => .error (.parse message input.length)

def skipSpace : JsonReader Unit :=
  fun input => .ok ((), input.dropWhile (isSpace ·))

/-- The byte at the position; the parser does not move. -/
def current : JsonReader (Option UInt8) :=
  fun input => .ok (input.head?, input)

def peek : JsonReader UInt8 :=
  fun input => .ok (input.headD 0, input)

def consume (expected : UInt8) : JsonReader Bool := fun
  | [] => .ok (false, [])
  | byte :: rest => if byte = expected then .ok (true, rest) else .ok (false, byte :: rest)

def expect (expected : Char) : JsonReader Unit := do
  let consumed ← consume (ascii expected)
  if consumed then return ()
  else fail ("expected JSON character '" ++ String.singleton expected ++ "'")

def parseLiteral (literal : Bytes) (value : JsonValue) : JsonReader JsonValue :=
  fun input =>
    if literal.isPrefixOf input then .ok (value, input.drop literal.length)
    else .error (.parse "invalid JSON literal" input.length)

/-! ## Strings -/

def simpleEscape (escaped : UInt8) : Option UInt8 :=
  if escaped = quote then some quote
  else if escaped = backslash then some backslash
  else if escaped = ascii '/' then some (ascii '/')
  else if escaped = ascii 'b' then some 0x08
  else if escaped = ascii 'f' then some 0x0c
  else if escaped = ascii 'n' then some 0x0a
  else if escaped = ascii 'r' then some 0x0d
  else if escaped = ascii 't' then some 0x09
  else none

/-- The loop of `parseUnicodeEscape`, or how many digits are left behind a bad one. -/
def unicodeEscape : Bytes → UInt32 → Except Nat UInt32
  | [], codepoint => .ok codepoint
  | ch :: digits, codepoint =>
      match hexValue ch with
      | some digit => unicodeEscape digits ((codepoint <<< 4) + digit)
      | none => .error digits.length

/-- The loop of `parseString` behind the opening quote. -/
def parseStringLoop (out : Bytes) : Bytes → Except JsonFault (Bytes × Bytes)
  | [] => .error (.parse "unterminated JSON string" 0)
  | ch :: rest =>
      if ch = quote then .ok (out, rest)
      else if ch < 0x20 then .error (.parse "control character in JSON string" rest.length)
      else if ch ≠ backslash then parseStringLoop (out ++ [ch]) rest
      else
        match rest with
        | [] => .error (.parse "unterminated JSON escape" 0)
        | escaped :: rest =>
            match simpleEscape escaped with
            | some byte => parseStringLoop (out ++ [byte]) rest
            | none =>
                if escaped ≠ ascii 'u' then .error (.parse "invalid JSON escape" rest.length)
                else
                  match rest with
                  | d₀ :: d₁ :: d₂ :: d₃ :: rest =>
                      match unicodeEscape [d₀, d₁, d₂, d₃] 0 with
                      | .ok codepoint => parseStringLoop (out ++ encodeUtf8 codepoint) rest
                      | .error left =>
                          .error (.parse "invalid JSON unicode escape" (rest.length + left))
                  | _ => .error (.parse "short JSON unicode escape" rest.length)

def parseString : JsonReader Bytes := do
  expect '"'
  parseStringLoop []

/-! ## Numbers -/

def consumeDigits (message : String) : JsonReader Unit :=
  fun input =>
    if input.takeWhile (isDigit ·) = [] then .error (.parse message input.length)
    else .ok ((), input.dropWhile (isDigit ·))

def consumeEither (first second : UInt8) : JsonReader Bool := do
  let consumed ← consume first
  if consumed then return true else consume second

def skipExponent : JsonReader Unit := do
  let exponent ← consumeEither (ascii 'e') (ascii 'E')
  if exponent then do
    let _ ← consumeEither (ascii '+') (ascii '-')
    consumeDigits "missing JSON number exponent"
  else return ()

def skipFraction : JsonReader Unit := do
  let fraction ← consume (ascii '.')
  if fraction then do
    consumeDigits "missing JSON number fraction"
    skipExponent
  else skipExponent

def skipInteger : JsonReader Unit := do
  let zero ← consume (ascii '0')
  if zero then do
    let next ← peek
    if isDigit next then fail "leading zero in JSON number" else return ()
  else consumeDigits "missing JSON number integer part"

def skipNumber : JsonReader Unit := do
  let _ ← consume (ascii '-')
  skipInteger
  skipFraction

/-- `parseNumber`: the value keeps the text that the parser moved over. -/
def parseNumber : JsonReader JsonValue :=
  fun input => do
    let (_, rest) ← skipNumber input
    return (.number (input.take (input.length - rest.length)), rest)

/-! ## Values -/

mutual

def parseValue : Nat → JsonReader JsonValue
  | 0 => fun _ => .error .spent
  | fuel + 1 => do
      skipSpace
      let next ← current
      match next with
      | none => fail "unexpected end of JSON input"
      | some ch =>
          if ch = ascii 'n' then parseLiteral (asciiBytes "null") .null
          else if ch = ascii 't' then parseLiteral (asciiBytes "true") (.bool true)
          else if ch = ascii 'f' then parseLiteral (asciiBytes "false") (.bool false)
          else if ch = quote then do
            let text ← parseString
            return .string text
          else if ch = ascii '[' then do
            expect '['
            skipSpace
            let empty ← consume (ascii ']')
            if empty then return .array []
            else do
              let items ← parseElements fuel
              return .array items
          else if ch = ascii '{' then do
            expect '{'
            skipSpace
            let empty ← consume (ascii '}')
            if empty then return .object []
            else do
              let members ← parseMembers fuel []
              return .object members
          else if ch = ascii '-' ∨ isDigit ch then parseNumber
          else fail "unexpected JSON token"

/-- The loop of `parseArray` behind the opening bracket. -/
def parseElements : Nat → JsonReader (List JsonValue)
  | 0 => fun _ => .error .spent
  | fuel + 1 => do
      let item ← parseValue fuel
      skipSpace
      let close ← consume (ascii ']')
      if close then return [item]
      else do
        expect ','
        let items ← parseElements fuel
        return item :: items

/-- The loop of `parseObject` behind the opening brace. -/
def parseMembers : Nat → JsonMembers → JsonReader JsonMembers
  | 0, _ => fun _ => .error .spent
  | fuel + 1, members => do
      skipSpace
      let next ← peek
      if next ≠ quote then fail "JSON object key must be a string"
      else do
        let key ← parseString
        skipSpace
        expect ':'
        let value ← parseValue fuel
        skipSpace
        let close ← consume (ascii '}')
        if close then return emplace key value members
        else do
          expect ','
          parseMembers fuel (emplace key value members)

end

def parse (fuel : Nat) : JsonReader JsonValue := do
  let value ← parseValue fuel
  skipSpace
  let next ← current
  if next.isSome then fail "unexpected trailing data" else return value

end Parser

/-- Two nested calls take at least one byte, so the bound is never met. -/
def parseJson (text : Bytes) : Except JsonFault JsonValue := do
  let (value, _) ← Parser.parse (2 * text.length + 1) text
  return value

/-! ## The printer -/

def dumpCharacter (ch : UInt8) : Bytes :=
  if ch = quote then [backslash, quote]
  else if ch = backslash then [backslash, backslash]
  else if ch = 0x08 then asciiBytes "\\b"
  else if ch = 0x0c then asciiBytes "\\f"
  else if ch = 0x0a then asciiBytes "\\n"
  else if ch = 0x0d then asciiBytes "\\r"
  else if ch = 0x09 then asciiBytes "\\t"
  else if ch < 0x20 then
    asciiBytes "\\u00" ++ [hexCharacter (ch >>> 4), hexCharacter (ch &&& 0x0f)]
  else [ch]

def dumpString (value : Bytes) : Bytes :=
  [quote] ++ value.flatMap dumpCharacter ++ [quote]

mutual

def JsonValue.dump : JsonValue → Bytes
  | .null => asciiBytes "null"
  | .bool true => asciiBytes "true"
  | .bool false => asciiBytes "false"
  | .number scalar => scalar
  | .string scalar => dumpString scalar
  | .array [] => asciiBytes "[]"
  | .array (item :: items) => [ascii '['] ++ item.dump ++ dumpItems items ++ [ascii ']']
  | .object [] => asciiBytes "{}"
  | .object ((key, value) :: members) =>
      [ascii '{'] ++ dumpString key ++ [ascii ':'] ++ value.dump ++ dumpMembers members ++
        [ascii '}']

/-- The items behind the first one, each with its separator. -/
def dumpItems : List JsonValue → Bytes
  | [] => []
  | item :: items => [ascii ','] ++ item.dump ++ dumpItems items

/-- The members behind the first one, each with its separator. -/
def dumpMembers : List (Bytes × JsonValue) → Bytes
  | [] => []
  | (key, value) :: members =>
      [ascii ','] ++ dumpString key ++ [ascii ':'] ++ value.dump ++ dumpMembers members

end

end AudioStudio.Rpc
