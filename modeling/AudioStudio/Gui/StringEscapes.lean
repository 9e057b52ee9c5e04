import AudioStudio.Gui.Lookups
import AudioStudio.Rpc.UnicodeEscapes

/-!
# The three escapers of strings

What the `jsonEscape` of the GUI, the one of the command line and `dumpString` write is read by
`parseJson` and by `simpleJsonStringField`: by each exactly as long as no character is written
in a form that it reads as another one.
-/

namespace AudioStudio

open LittleEndian
open Rpc (quote backslash ascii)

/-! ## The escapers -/

def HttpServer.escapeCharacter (c : UInt8) : Bytes :=
  if c = quote then [backslash, quote]
  else if c = backslash then [backslash, backslash]
  else if c = 0x0a then asciiBytes "\\n"
  -- A carriage return is left out.
  else if c = 0x0d then []
  else if c = 0x09 then asciiBytes "\\t"
  else [c]

/-- `jsonEscape` of `http_server.cpp`. -/
def HttpServer.jsonEscape (s : Bytes) : Bytes := s.flatMap HttpServer.escapeCharacter

def Cli.escapeCharacter (c : UInt8) : Bytes :=
  if c = quote then [backslash, quote]
  else if c = backslash then [backslash, backslash]
  else if c = 0x0a then asciiBytes "\\n"
  else [c]

/-- `jsonEscape` of `cli_common.cpp`. -/
def Cli.jsonEscape (input : Bytes) : Bytes := input.flatMap Cli.escapeCharacter

namespace Gui

open AudioStudio.Rpc
open AudioStudio.Rpc.Parser

inductive Escaper where
  | gui
  | cli
  | dump
  deriving DecidableEq, Repr

namespace Escaper

def character : Escaper → UInt8 → Bytes
  | gui => HttpServer.escapeCharacter
  | cli => Cli.escapeCharacter
  | dump => dumpCharacter

def escape : Escaper → Bytes → Bytes
  | gui => HttpServer.jsonEscape
  | cli => Cli.jsonEscape
  | dump => fun value => value.flatMap dumpCharacter

theorem escape_eq (escaper : Escaper) (s : Bytes) :
    escaper.escape s = s.flatMap escaper.character := by
  cases escaper with
  | gui => rfl
  | cli => rfl
  | dump => rfl

/-- A character that `parseString` reads back. -/
def Parseable : Escaper → UInt8 → Prop
  | gui, c => 0x20 ≤ c ∨ c = 0x0a ∨ c = 0x09
  | cli, c => 0x20 ≤ c ∨ c = 0x0a
  | dump, _ => True

/-- A character that is still itself when only the backslashes are dropped. -/
def Droppable : Escaper → UInt8 → Prop
  | gui, c => c ≠ 0x0a ∧ c ≠ 0x0d ∧ c ≠ 0x09
  | cli, c => c ≠ 0x0a
  | dump, c => 0x20 ≤ c

end Escaper

/-! ## Strings character by character -/

/-- When every piece of an image is its own image, a list is its own image only as a list of
such elements. -/
theorem flatMap_eq_self_iff {α : Type} {f : α → List α}
    (hpieces : ∀ c, ∀ d ∈ f c, f d = [d]) (s : List α) :
    s.flatMap f = s ↔ ∀ c ∈ s, f c = [c] := by
  constructor
  · intro himage c hmem
    rw [← himage] at hmem
    obtain ⟨origin, -, hpiece⟩ := List.mem_flatMap.mp hmem
    exact hpieces origin c hpiece
  · intro hself
    induction s with
    | nil => rfl
    | cons c s ih =>
        obtain ⟨hfirst, hrest⟩ := List.forall_mem_cons.mp hself
        rw [List.flatMap_cons, hfirst, ih hrest, List.singleton_append]

theorem parseStringLoop_end (out rest : Bytes) :
    parseStringLoop out (quote :: rest) = .ok (out, rest) := by
  rw [parseStringLoop.eq_def]
  dsimp only
  rw [if_pos rfl]

theorem parseStringLoop_control {out rest : Bytes} {c : UInt8} (hquote : c ≠ quote)
    (hcontrol : c < 0x20) :
    parseStringLoop out (c :: rest) =
      .error (.parse "control character in JSON string" rest.length) := by
  rw [parseStringLoop.eq_def]
  dsimp only
  rw [if_neg hquote, if_pos hcontrol]

theorem parseStringLoop_self {out rest : Bytes} {c : UInt8} (hquote : c ≠ quote)
    (hbackslash : c ≠ backslash) (hlarge : 0x20 ≤ c) :
    parseStringLoop out (c :: rest) = parseStringLoop (out ++ [c]) rest := by
  rw [parseStringLoop.eq_def]
  dsimp only
  rw [if_neg hquote, if_neg (UInt8.not_lt.mpr hlarge), if_pos hbackslash]

theorem parseString_quoted (body : Bytes) :
    parseString (quoted body) = parseStringLoop [] (body ++ [quote]) := by
  unfold parseString quoted
  rw [Parser.bind_ok (show expect '"' (quote :: _) = _ from expect_cons '"')]

theorem parseValue_quoted (fuel : Nat) (body : Bytes) :
    parseValue (fuel + 1) (quoted body) =
      (parseString >>= fun text => pure (JsonValue.string text)) (quoted body) := rfl

theorem parseJson_of_loop {body s : Bytes}
    (hloop : parseStringLoop [] (body ++ [quote]) = .ok (s, [])) :
    parseJson (quoted body) = .ok (.string s) := by
  rw [← parseString_quoted] at hloop
  unfold parseJson Parser.parse
  rw [Parser.bind_ok ((parseValue_quoted _ body).trans (Parser.bind_ok hloop))]
  rfl

theorem loop_of_parseJson {body s : Bytes} (hparse : parseJson (quoted body) = .ok (.string s)) :
    ∃ rest, parseStringLoop [] (body ++ [quote]) = .ok (s, rest) := by
  unfold parseJson at hparse
  cases hread : Parser.parse (2 * (quoted body).length + 1) (quoted body) with
  | error fault =>
      rw [hread] at hparse
      cases hparse
  | ok read =>
      rw [hread] at hparse
      obtain ⟨result, tail⟩ := read
      obtain ⟨value, rest, hvalue, htail⟩ := Parser.of_bind_ok hread
      rw [parseValue_quoted] at hvalue
      obtain ⟨text, behind, hstring, hpure⟩ := Parser.of_bind_ok hvalue
      cases hpure
      obtain ⟨_, _, _, htail⟩ := Parser.of_bind_ok htail
      obtain ⟨_, _, _, htail⟩ := Parser.of_bind_ok htail
      split at htail
      · cases htail
      · cases htail
        cases hparse
        exact ⟨_, (parseString_quoted body).symm.trans hstring⟩

namespace Escaper

variable {escaper : Escaper} {c : UInt8}

/-! ## Reading by `parseJson` -/

theorem parseStringLoop_character (hparseable : escaper.Parseable c) (out rest : Bytes) :
    parseStringLoop out (escaper.character c ++ rest) = parseStringLoop (out ++ [c]) rest := by
  cases escaper with
  | gui =>
      rw [character, HttpServer.escapeCharacter]
      split
      · next hc => subst hc; rfl
      split
      · next hc => subst hc; rfl
      split
      · next hc => subst hc; rfl
      split
      · next hc =>
          subst hc
          exact absurd hparseable (by unfold Parseable; decide)
      split
      · next hc => subst hc; rfl
      · next hquote hbackslash hnewline _ htab =>
          have hlarge : 0x20 ≤ c := by
            rcases hparseable with hlarge | hc | hc
            · exact hlarge
            · exact absurd hc hnewline
            · exact absurd hc htab
          exact parseStringLoop_self hquote hbackslash hlarge
  | cli =>
      rw [character, Cli.escapeCharacter]
      split
      · next hc => subst hc; rfl
      split
      · next hc => subst hc; rfl
      split
      · next hc => subst hc; rfl
      · next hquote hbackslash hnewline =>
          have hlarge : 0x20 ≤ c := hparseable.resolve_right hnewline
          exact parseStringLoop_self hquote hbackslash hlarge
  | dump => exact parseStringLoop_dumpCharacter out c rest

/-- A character that is not read back is left out, or it is a control character in the string. -/
theorem character_of_not_parseable (hnot : ¬escaper.Parseable c) :
    escaper.character c = [] ∨ escaper.character c = [c] ∧ c ≠ quote ∧ c < 0x20 := by
  cases escaper with
  | gui =>
      obtain ⟨hsmall, hrest⟩ := not_or.mp hnot
      obtain ⟨hnewline, htab⟩ := not_or.mp hrest
      have hsmall := UInt8.not_le.mp hsmall
      have hquote : c ≠ quote := by rintro rfl; revert hsmall; decide
      have hbackslash : c ≠ backslash := by rintro rfl; revert hsmall; decide
      rw [character, HttpServer.escapeCharacter, if_neg hquote, if_neg hbackslash,
        if_neg hnewline, if_neg htab]
      split
      · exact .inl rfl
      · exact .inr ⟨rfl, hquote, hsmall⟩
  | cli =>
      obtain ⟨hsmall, hnewline⟩ := not_or.mp hnot
      have hsmall := UInt8.not_le.mp hsmall
      have hquote : c ≠ quote := by rintro rfl; revert hsmall; decide
      have hbackslash : c ≠ backslash := by rintro rfl; revert hsmall; decide
      rw [character, Cli.escapeCharacter, if_neg hquote, if_neg hbackslash, if_neg hnewline]
      exact .inr ⟨rfl, hquote, hsmall⟩
  | dump => exact absurd trivial hnot

theorem parseStringLoop_escape {s : Bytes} (hparseable : ∀ c ∈ s, escaper.Parseable c)
    (out rest : Bytes) :
    parseStringLoop out (s.flatMap escaper.character ++ quote :: rest) = .ok (out ++ s, rest) := by
  induction s generalizing out with
  | nil =>
      rw [List.flatMap_nil, List.nil_append, List.append_nil]
      exact parseStringLoop_end out rest
  | cons c s ih =>
      obtain ⟨hfirst, hothers⟩ := List.forall_mem_cons.mp hparseable
      rw [List.flatMap_cons, List.append_assoc, parseStringLoop_character hfirst, ih hothers,
        List.append_assoc, List.singleton_append]

/-- What is read is no longer than the string, and it is the string only when every character
is read back. -/
theorem of_parseStringLoop_escape {s out text rest : Bytes}
    (hloop : parseStringLoop out (s.flatMap escaper.character ++ [quote]) = .ok (text, rest)) :
    ∃ kept, text = out ++ kept ∧ kept.length ≤ s.length ∧
      (kept = s → ∀ c ∈ s, escaper.Parseable c) := by
  induction s generalizing out with
  | nil =>
      rw [List.flatMap_nil, List.nil_append, parseStringLoop_end] at hloop
      cases hloop
      exact ⟨[], (List.append_nil _).symm, le_rfl, fun _ => by rintro _ ⟨⟩⟩
  | cons c s ih =>
      rw [List.flatMap_cons, List.append_assoc] at hloop
      by_cases hparseable : escaper.Parseable c
      · rw [parseStringLoop_character hparseable] at hloop
        obtain ⟨kept, rfl, hlength, hall⟩ := ih hloop
        refine ⟨c :: kept, by simp, Nat.succ_le_succ hlength, fun hkept => ?_⟩
        exact List.forall_mem_cons.mpr ⟨hparseable, hall (List.cons.inj hkept).2⟩
      · rcases character_of_not_parseable hparseable with hnone | ⟨hself, hquote, hcontrol⟩
        · rw [hnone, List.nil_append] at hloop
          obtain ⟨kept, rfl, hlength, -⟩ := ih hloop
          refine ⟨kept, rfl, hlength.trans (Nat.le_succ _), fun hkept => ?_⟩
          rw [hkept, List.length_cons] at hlength
          exact absurd hlength (Nat.not_succ_le_self _)
        · rw [hself, List.singleton_append, parseStringLoop_control hquote hcontrol] at hloop
          cases hloop

theorem parseJson_escape_iff (escaper : Escaper) (s : Bytes) :
    parseJson (quoted (escaper.escape s)) = .ok (.string s) ↔
      ∀ c ∈ s, escaper.Parseable c := by
  rw [escape_eq]
  constructor
  · intro hparse
    obtain ⟨rest, hloop⟩ := loop_of_parseJson hparse
    obtain ⟨kept, hkept, -, hall⟩ := of_parseStringLoop_escape hloop
    exact hall hkept.symm
  · exact fun hall => parseJson_of_loop (parseStringLoop_escape hall [] [])

/-! ## Reading by `simpleJsonStringField` -/

/-- What is left of a character without the backslashes. -/
def dropped (escaper : Escaper) (c : UInt8) : Bytes := dropEscapes (escaper.character c) false

theorem dropEscapes_plain {c : UInt8} (hbackslash : c ≠ backslash) : dropEscapes [c] false = [c] := by
  rw [dropEscapes, if_neg Bool.false_ne_true, if_neg hbackslash]
  rfl

theorem dropped_gui (c : UInt8) : Escaper.gui.dropped c =
    if c = 0x0a then asciiBytes "n" else if c = 0x0d then []
    else if c = 0x09 then asciiBytes "t" else [c] := by
  rw [dropped, character, HttpServer.escapeCharacter]
  split
  · next hc => subst hc; rfl
  split
  · next hc => subst hc; rfl
  split
  · rfl
  split
  · rfl
  split
  · rfl
  · next hbackslash _ _ _ => exact dropEscapes_plain hbackslash

theorem dropped_cli (c : UInt8) :
    Escaper.cli.dropped c = if c = 0x0a then asciiBytes "n" else [c] := by
  rw [dropped, character, Cli.escapeCharacter]
  split
  · next hc => subst hc; rfl
  split
  · next hc => subst hc; rfl
  split
  · rfl
  · next hbackslash _ => exact dropEscapes_plain hbackslash

theorem dropped_control : ∀ code < 32,
    ∀ d ∈ dropEscapes (dumpCharacter (Nat.toUInt8 code)) false, 0x20 ≤ d := by
  decide +kernel

theorem dropped_dump {c : UInt8} (hlarge : 0x20 ≤ c) : Escaper.dump.dropped c = [c] := by
  have hsmall : ¬c < 0x20 := UInt8.not_lt.mpr hlarge
  have hne {code : UInt8} (hcode : code < 0x20) : c ≠ code := fun hc => hsmall (hc ▸ hcode)
  rw [dropped, character, dumpCharacter]
  split
  · next hc => subst hc; rfl
  split
  · next hc => subst hc; rfl
  · next hbackslash =>
      rw [if_neg (hne (by decide)), if_neg (hne (by decide)), if_neg (hne (by decide)),
        if_neg (hne (by decide)), if_neg (hne (by decide))]
      exact dropEscapes_plain hbackslash

theorem dropped_self (hdroppable : escaper.Droppable c) : escaper.dropped c = [c] := by
  cases escaper with
  | gui =>
      obtain ⟨hnewline, hreturn, htab⟩ := hdroppable
      rw [dropped_gui, if_neg hnewline, if_neg hreturn, if_neg htab]
  | cli => rw [dropped_cli, if_neg hdroppable]
  | dump => exact dropped_dump hdroppable

theorem droppable_of_mem : ∀ d ∈ escaper.dropped c, escaper.Droppable d := by
  intro d hmem
  cases escaper with
  | gui =>
      rw [dropped_gui] at hmem
      split at hmem
      · rw [List.mem_singleton.mp hmem]
        exact ⟨by decide, by decide, by decide⟩
      split at hmem
      · cases hmem
      split at hmem
      · rw [List.mem_singleton.mp hmem]
        exact ⟨by decide, by decide, by decide⟩
      · next hnewline hreturn htab =>
          rw [List.mem_singleton.mp hmem]
          exact ⟨hnewline, hreturn, htab⟩
  | cli =>
      rw [dropped_cli] at hmem
      split at hmem
      · rw [List.mem_singleton.mp hmem]
        change ascii 'n' ≠ 0x0a
        decide
      · next hnewline =>
          rw [List.mem_singleton.mp hmem]
          exact hnewline
  | dump =>
      by_cases hlarge : 0x20 ≤ c
      · rw [dropped_dump hlarge] at hmem
        rw [List.mem_singleton.mp hmem]
        exact hlarge
      · have hsmall : c.toNat < 32 := UInt8.not_le.mp hlarge
        have hcontrol := dropped_control c.toNat hsmall
        rw [show Nat.toUInt8 c.toNat = c from UInt8.ofNat_toNat] at hcontrol
        exact hcontrol d hmem

theorem control_digits : ∀ code < 32,
    ∀ digit ∈ [ascii '0', ascii '0', hexCharacter (Nat.toUInt8 code >>> 4),
      hexCharacter (Nat.toUInt8 code &&& 0x0f)], (Rpc.hexValue digit).isSome := by
  decide +kernel

theorem unquoted_dumpCharacter (c : UInt8) : Unquoted (dumpCharacter c) := by
  rw [dumpCharacter]
  split
  · exact .escape .nil
  split
  · exact .escape .nil
  split
  · exact .escape .nil
  split
  · exact .escape .nil
  split
  · exact .escape .nil
  split
  · exact .escape .nil
  split
  · exact .escape .nil
  split
  · next hsmall =>
      have hdigits := control_digits c.toNat (UInt8.lt_iff_toNat_lt.mp hsmall)
      rw [show Nat.toUInt8 c.toNat = c from UInt8.ofNat_toNat] at hdigits
      change Unquoted (backslash :: ascii 'u' :: ([ascii '0', ascii '0', hexCharacter (c >>> 4),
        hexCharacter (c &&& 0x0f)] ++ []))
      exact .escape (.append_digits hdigits .nil)
  · next hquote hbackslash _ _ _ _ _ _ => exact .plain hquote hbackslash .nil

theorem unquoted_character (escaper : Escaper) (c : UInt8) : Unquoted (escaper.character c) := by
  cases escaper with
  | gui =>
      rw [character, HttpServer.escapeCharacter]
      split
      · exact .escape .nil
      split
      · exact .escape .nil
      split
      · exact .escape .nil
      split
      · exact .nil
      split
      · exact .escape .nil
      · next hquote hbackslash _ _ _ => exact .plain hquote hbackslash .nil
  | cli =>
      rw [character, Cli.escapeCharacter]
      split
      · exact .escape .nil
      split
      · exact .escape .nil
      split
      · exact .escape .nil
      · next hquote hbackslash _ => exact .plain hquote hbackslash .nil
  | dump => exact unquoted_dumpCharacter c

theorem dropEscapes_append {front : Bytes} (hfront : Unquoted front) (rest : Bytes) :
    dropEscapes (front ++ rest) false = dropEscapes front false ++ dropEscapes rest false := by
  induction hfront with
  | nil => rfl
  | plain hquote hbackslash _ ih =>
      rw [List.cons_append, dropEscapes, if_neg Bool.false_ne_true, if_neg hbackslash, ih,
        dropEscapes, if_neg Bool.false_ne_true, if_neg hbackslash, List.cons_append]
  | escape _ ih =>
      rw [List.cons_append, List.cons_append, dropEscapes, if_neg Bool.false_ne_true, if_pos rfl,
        dropEscapes, if_pos rfl, ih, dropEscapes, if_neg Bool.false_ne_true, if_pos rfl,
        dropEscapes, if_pos rfl, List.cons_append]

theorem unquoted_append {front rest : Bytes} (hfront : Unquoted front) (hrest : Unquoted rest) :
    Unquoted (front ++ rest) := by
  induction hfront with
  | nil => exact hrest
  | plain hquote hbackslash _ ih => exact .plain hquote hbackslash ih
  | escape _ ih => exact .escape ih

/-- The escaped string as the scanners see it, and what they make of it. -/
theorem escape_unquoted (escaper : Escaper) (s : Bytes) :
    Unquoted (s.flatMap escaper.character) ∧
      dropEscapes (s.flatMap escaper.character) false = s.flatMap escaper.dropped := by
  induction s with
  | nil => exact ⟨.nil, rfl⟩
  | cons c s ih =>
      have hfirst := unquoted_character escaper c
      rw [List.flatMap_cons, List.flatMap_cons, dropEscapes_append hfirst, ih.2]
      exact ⟨unquoted_append hfirst ih.1, rfl⟩

/-- The object with one member `k`, whose value is the string. -/
def keyed (escaper : Escaper) (s : Bytes) : Bytes :=
  asciiBytes "\x7b\"k\":" ++ quoted (escaper.escape s) ++ asciiBytes "\x7d"

theorem readStringField_keyed (escaper : Escaper) (s : Bytes) :
    ProjectOrchestration.simpleJsonStringField (escaper.keyed s) (asciiBytes "k") [] =
      s.flatMap escaper.dropped := by
  obtain ⟨hunquoted, hdropped⟩ := escape_unquoted escaper s
  have hread : ProjectOrchestration.simpleJsonStringField (escaper.keyed s) (asciiBytes "k") [] =
      readStringField [] (s.flatMap escaper.character ++ quote :: asciiBytes "\x7d") false [] := by
    rw [keyed, escape_eq, quoted, List.append_assoc, List.cons_append, List.append_assoc]
    rfl
  rw [hread, readStringField_body hunquoted, hdropped, List.nil_append]
  split
  · next hnil => exact hnil.symm
  · rfl

/-- A string is left as it is without the backslashes when each of its characters is. -/
theorem flatMap_dropped_iff (escaper : Escaper) (s : Bytes) :
    s.flatMap escaper.dropped = s ↔ ∀ c ∈ s, escaper.Droppable c := by
  have hpieces : ∀ c, ∀ d ∈ escaper.dropped c, escaper.dropped d = [d] :=
    fun c d hmem => dropped_self (droppable_of_mem d hmem)
  have hself (c : UInt8) : escaper.dropped c = [c] ↔ escaper.Droppable c := by
    constructor
    · intro hdropped
      exact droppable_of_mem (c := c) c (hdropped ▸ List.mem_singleton_self c)
    · exact dropped_self
  rw [flatMap_eq_self_iff hpieces]
  exact forall₂_congr fun c _ => hself c

theorem readStringField_keyed_iff (escaper : Escaper) (s : Bytes) :
    (s ≠ [] → ProjectOrchestration.simpleJsonStringField (escaper.keyed s)
        (asciiBytes "k") [] = s) ↔ ∀ c ∈ s, escaper.Droppable c := by
  rw [readStringField_keyed, flatMap_dropped_iff]
  constructor
  · intro hread c hmem
    exact hread (List.ne_nil_of_mem hmem) c hmem
  · exact fun hall _ => hall

end Escaper

/-- What an escaper writes is read back by each of the two readers exactly when the string has
only characters that the reader takes for what the escaper means. -/
theorem escaped_read_iff (escaper : Escaper) (s : Bytes) :
    (parseJson (quoted (escaper.escape s)) = .ok (.string s) ↔ ∀ c ∈ s, escaper.Parseable c) ∧
      ((s ≠ [] → ProjectOrchestration.simpleJsonStringField (escaper.keyed s)
          (asciiBytes "k") [] = s) ↔ ∀ c ∈ s, escaper.Droppable c) :=
  ⟨escaper.parseJson_escape_iff s, escaper.readStringField_keyed_iff s⟩

/-- The GUI writes a carriage return as nothing, the command line a tab as itself, and the
other reader takes the escape of a line feed for the letter. -/
theorem escaped_read_apart :
    parseJson (quoted (HttpServer.jsonEscape [0x0d])) = .ok (.string []) ∧
      parseJson (quoted (Cli.jsonEscape [0x09])) ≠ .ok (.string [0x09]) ∧
      ProjectOrchestration.simpleJsonStringField (Escaper.dump.keyed [0x0a])
        (asciiBytes "k") [] = asciiBytes "n" := by
  refine ⟨parseJson_of_loop (parseStringLoop_end [] []), fun hparse => ?_, by decide⟩
  obtain ⟨rest, hloop⟩ := loop_of_parseJson hparse
  change parseStringLoop [] (0x09 :: [quote]) = _ at hloop
  rw [parseStringLoop_control (by decide) (by decide)] at hloop
  cases hloop

end Gui

end AudioStudio
