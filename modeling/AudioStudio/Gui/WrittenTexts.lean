import AudioStudio.Gui.MergedObjects
import AudioStudio.Gui.StringEscapes
import AudioStudio.Rpc.Endpoint

/-!
# Names in written texts

Where a quoted name stands in the text that `dump` writes of a value: only where a string of it is
the name, or ends with a quote and the name.  With no such string in front, a search for the name
of a member finds the member.
-/

namespace AudioStudio.Gui

open AudioStudio.LittleEndian
open AudioStudio.Rpc
open AudioStudio.Rpc.Parser

/-! ## Quoted names -/

/-- The quoted name with what follows it. -/
def Occurs (field after text : Bytes) : Prop := quoted field ++ after <:+: text

/-- The string is written as the quoted name, or with the quoted name at its end. -/
def Spells (field s : Bytes) : Prop := quoted field <:+ dumpString s

instance (field s : Bytes) : Decidable (Spells field s) :=
  inferInstanceAs (Decidable (quoted field <:+ dumpString s))

/-- A character that stands behind the values in an object or an array. -/
def IsDelimiter (c : UInt8) : Prop := c = ascii ',' ∨ c = ascii ']' ∨ c = ascii '}'

instance (c : UInt8) : Decidable (IsDelimiter c) :=
  inferInstanceAs (Decidable (_ ∨ _ ∨ _))

/-- A text that begins behind a value. -/
def Delimited (rest : Bytes) : Prop := ∀ c ∈ rest.head?, IsDelimiter c

/-- A name that is nothing of what stands between two strings. -/
structure IsKey (field : Bytes) : Prop where
  nonempty : field ≠ []
  plain : PlainName field
  apart : ∀ c ∈ field, c ≠ ascii ':' ∧ ¬IsDelimiter c

theorem isKey_letters (field : Bytes) (hne : field ≠ [])
    (hletters : ∀ c ∈ field,
      (c ≠ quote ∧ c ≠ backslash ∧ 0x20 ≤ c) ∧ c ≠ ascii ':' ∧ ¬IsDelimiter c) :
    IsKey field :=
  ⟨hne, fun c hc => (hletters c hc).1, fun c hc => (hletters c hc).2⟩

section Occurrences

variable {field after body rest : Bytes}

/-- The quoted name at the opening quote of a string. -/
theorem prefix_string (hplain : PlainName field) (hbody : Unquoted body)
    (hbegins : field ++ quote :: after <+: body ++ quote :: rest) :
    field = body ∧ after <+: rest := by
  induction hbody generalizing field with
  | nil =>
      cases field with
      | nil => exact ⟨rfl, (List.cons_prefix_cons.mp hbegins).2⟩
      | cons d field =>
          have hhead : d = quote := (List.cons_prefix_cons.mp hbegins).1
          exact absurd hhead (hplain d List.mem_cons_self).1
  | @plain c body hquote _ _ ih =>
      cases field with
      | nil => exact absurd (List.cons_prefix_cons.mp hbegins).1.symm hquote
      | cons d field =>
          obtain ⟨rfl, hnext⟩ := List.cons_prefix_cons.mp hbegins
          obtain ⟨rfl, hafter⟩ := ih (fun c hc => hplain c (List.mem_cons_of_mem d hc)) hnext
          exact ⟨rfl, hafter⟩
  | @escape c body _ _ =>
      cases field with
      | nil => exact absurd (List.cons_prefix_cons.mp hbegins).1 (by decide)
      | cons d field =>
          have hhead : d = backslash := (List.cons_prefix_cons.mp hbegins).1
          exact absurd hhead (hplain d List.mem_cons_self).2.1

theorem quoted_after (field after : Bytes) :
    quoted field ++ after = quote :: (field ++ quote :: after) := by
  rw [quoted, List.cons_append, List.append_assoc, List.singleton_append]

/-- The quoted name behind the opening quote of a string. -/
theorem Occurs.of_body (hkey : IsKey field) (hbody : Unquoted body)
    (hrest : ∀ c ∈ rest.head?, c ∉ field) (hoccurs : Occurs field after (body ++ quote :: rest)) :
    (quoted field <:+ body ++ [quote] ∧ after <+: rest) ∨ Occurs field after rest := by
  unfold Occurs at hoccurs ⊢
  rw [quoted_after] at hoccurs ⊢
  induction hbody with
  | nil =>
      rcases List.infix_cons_iff.mp hoccurs with hbegins | hinfix
      · -- The closing quote would begin the name with what follows the string.
        have hname := (List.cons_prefix_cons.mp hbegins).2
        cases field with
        | nil => exact absurd rfl hkey.nonempty
        | cons d field =>
            obtain ⟨back, rfl⟩ := hname
            exact absurd List.mem_cons_self (hrest d rfl)
      · exact .inr hinfix
  | @plain c body hquote _ _ ih =>
      rcases List.infix_cons_iff.mp hoccurs with hbegins | hinfix
      · exact absurd (List.cons_prefix_cons.mp hbegins).1.symm hquote
      · refine (ih hinfix).imp_left fun hspelled => ⟨?_, hspelled.2⟩
        exact hspelled.1.trans (List.suffix_cons c _)
  | @escape c body hbody ih =>
      rcases List.infix_cons_iff.mp hoccurs with hbegins | hinfix
      · exact absurd (List.cons_prefix_cons.mp hbegins).1 (by decide)
      rcases List.infix_cons_iff.mp hinfix with hbegins | hinfix
      · obtain ⟨rfl, hname⟩ := List.cons_prefix_cons.mp hbegins
        obtain ⟨rfl, hafter⟩ := prefix_string hkey.plain hbody hname
        exact .inl ⟨List.suffix_cons backslash _, hafter⟩
      · refine (ih hinfix).imp_left fun hspelled => ⟨?_, hspelled.2⟩
        exact hspelled.1.trans ((List.suffix_cons c _).trans (List.suffix_cons backslash _))

theorem dumpString_eq (s : Bytes) : dumpString s = quoted (s.flatMap dumpCharacter) := rfl

theorem unquoted_dump (s : Bytes) : Unquoted (s.flatMap dumpCharacter) :=
  (Escaper.dump.escape_unquoted s).1

theorem Occurs.of_string (hkey : IsKey field) {s : Bytes} (hrest : ∀ c ∈ rest.head?, c ∉ field)
    (hoccurs : Occurs field after (dumpString s ++ rest)) :
    (Spells field s ∧ after <+: rest) ∨ Occurs field after rest := by
  rw [Spells]
  rw [dumpString_eq] at hoccurs ⊢
  rw [Occurs, quoted_after, quoted_after] at hoccurs
  rcases List.infix_cons_iff.mp hoccurs with hbegins | hinfix
  · have hname := (List.cons_prefix_cons.mp hbegins).2
    obtain ⟨hsame, hafter⟩ := prefix_string hkey.plain (unquoted_dump s) hname
    rw [hsame]
    exact .inl ⟨List.suffix_refl _, hafter⟩
  · rw [← quoted_after] at hinfix
    refine (Occurs.of_body hkey (unquoted_dump s) hrest hinfix).imp_left fun hspelled => ?_
    exact ⟨hspelled.1.trans (List.suffix_cons quote _), hspelled.2⟩

theorem Occurs.of_plain {run : Bytes} (hplain : quote ∉ run)
    (hoccurs : Occurs field after (run ++ rest)) : Occurs field after rest := by
  rw [Occurs, quoted_after] at hoccurs ⊢
  induction run with
  | nil => exact hoccurs
  | cons c run ih =>
      rcases List.infix_cons_iff.mp hoccurs with hbegins | hinfix
      · have hhead : quote = c := (List.cons_prefix_cons.mp hbegins).1
        exact absurd (hhead ▸ List.mem_cons_self) hplain
      · exact ih (fun hmem => hplain (List.mem_cons_of_mem c hmem)) hinfix

theorem not_occurs_nil : ¬Occurs field after [] := by
  intro hoccurs
  rw [Occurs, quoted_after] at hoccurs
  exact absurd (List.infix_nil.mp hoccurs) (List.cons_ne_nil _ _)

end Occurrences

/-! ## Texts without the name -/

/-- The name with what follows it is nowhere in the text of a value, whatever stands behind. -/
def Silent (field after text : Bytes) : Prop :=
  ∀ rest, Delimited rest → Occurs field after (text ++ rest) → Occurs field after rest

section Silence

variable {field after text : Bytes} {parts : List Bytes}

theorem Silent.absent (hsilent : Silent field after text) : ¬Occurs field after text := by
  intro hoccurs
  refine not_occurs_nil (hsilent [] (fun c hc => by cases hc) ?_)
  rwa [List.append_nil]

theorem silent_plain (hplain : quote ∉ text) : Silent field after text :=
  fun _ _ hoccurs => hoccurs.of_plain hplain

theorem Delimited.apart {rest : Bytes} (hkey : IsKey field) (hrest : Delimited rest) :
    ∀ c ∈ rest.head?, c ∉ field :=
  fun c hc hmem => (hkey.apart c hmem).2 (hrest c hc)

theorem silent_string (hkey : IsKey field) {s : Bytes}
    (hleft : Spells field s → ∀ rest, Delimited rest → ¬after <+: rest) :
    Silent field after (dumpString s) := by
  intro rest hrest hoccurs
  refine (hoccurs.of_string hkey (hrest.apart hkey)).resolve_left fun hspelled => ?_
  exact hleft hspelled.1 rest hrest hspelled.2

theorem silent_member (hkey : IsKey field) {name value : Bytes}
    (hname : Spells field name → ∀ rest, ¬after <+: ascii ':' :: (value ++ rest))
    (hvalue : Silent field after value) :
    Silent field after (dumpString name ++ ascii ':' :: value) := by
  intro rest hrest hoccurs
  rw [List.append_assoc, List.cons_append] at hoccurs
  have hcolon : ∀ c ∈ (ascii ':' :: (value ++ rest)).head?, c ∉ field := by
    intro c hc hmem
    exact (hkey.apart c hmem).1 (Option.some.inj hc).symm
  rcases hoccurs.of_string hkey hcolon with hspelled | hbehind
  · exact absurd hspelled.2 (hname hspelled.1 rest)
  · have hbehind : Occurs field after ([ascii ':'] ++ (value ++ rest)) := hbehind
    exact hvalue rest hrest (hbehind.of_plain (by decide))

theorem delimited_following {rest : Bytes} (hrest : Delimited rest) (parts : List Bytes) :
    Delimited (following parts ++ rest) := by
  cases parts with
  | nil => exact hrest
  | cons part parts =>
      intro c hc
      exact .inl (Option.some.inj hc).symm

theorem silent_following (hparts : ∀ part ∈ parts, Silent field after part) :
    Silent field after (following parts) := by
  induction parts with
  | nil => exact silent_plain List.not_mem_nil
  | cons part parts ih =>
      obtain ⟨hpart, hparts⟩ := List.forall_mem_cons.mp hparts
      intro rest hrest hoccurs
      rw [following_cons_append] at hoccurs
      have hoccurs : Occurs field after ([ascii ','] ++ (part ++ (following parts ++ rest))) :=
        hoccurs
      refine ih hparts rest hrest (hpart _ (delimited_following hrest parts) ?_)
      exact hoccurs.of_plain (by decide)

theorem silent_commaJoined (hparts : ∀ part ∈ parts, Silent field after part) :
    Silent field after (commaJoined parts) := by
  cases parts with
  | nil => exact silent_plain List.not_mem_nil
  | cons part parts =>
      obtain ⟨hpart, hparts⟩ := List.forall_mem_cons.mp hparts
      intro rest hrest hoccurs
      rw [commaJoined, List.append_assoc] at hoccurs
      exact silent_following hparts rest hrest (hpart _ (delimited_following hrest parts) hoccurs)

theorem silent_bracketed {first last : UInt8} (hfirst : first ≠ quote) (hlast : IsDelimiter last)
    (hparts : ∀ part ∈ parts, Silent field after part) :
    Silent field after (first :: (commaJoined parts ++ [last])) := by
  intro rest _ hoccurs
  have hoccurs : Occurs field after ([first] ++ (commaJoined parts ++ ([last] ++ rest))) := by
    rwa [List.cons_append, List.append_assoc] at hoccurs
  have hplain : quote ∉ [last] := by
    rw [List.mem_singleton]
    rintro rfl
    exact absurd hlast (by decide)
  have hinside := hoccurs.of_plain fun hmem => hfirst (List.mem_singleton.mp hmem).symm
  refine (silent_commaJoined hparts _ ?_ hinside).of_plain hplain
  intro c hc
  rwa [← Option.some.inj hc]

theorem occurs_leading (hparts : ∀ part ∈ parts, Silent field after part) {rest : Bytes}
    (hoccurs : Occurs field after (leading parts ++ rest)) : Occurs field after rest := by
  induction parts with
  | nil => exact hoccurs
  | cons part parts ih =>
      obtain ⟨hpart, hparts⟩ := List.forall_mem_cons.mp hparts
      rw [leading_cons_append] at hoccurs
      have hcomma : Delimited (ascii ',' :: (leading parts ++ rest)) :=
        fun c hc => .inl (Option.some.inj hc).symm
      have hbehind : Occurs field after ([ascii ','] ++ (leading parts ++ rest)) :=
        hpart _ hcomma hoccurs
      exact ih hparts (hbehind.of_plain (by decide))

end Silence

/-! ## Written values -/

/-- The text of a member. -/
def writtenMember (member : Bytes × JsonValue) : Bytes :=
  dumpString member.1 ++ ascii ':' :: member.2.dump

theorem dumpMembers_eq (members : JsonMembers) :
    dumpMembers members = following (members.map writtenMember) := by
  induction members with
  | nil => rfl
  | cons member members ih =>
      obtain ⟨key, value⟩ := member
      rw [dumpMembers, ih, List.map_cons]
      change _ = (ascii ',' :: (dumpString key ++ ascii ':' :: value.dump)) ++
        following (members.map writtenMember)
      simp only [List.append_assoc, List.cons_append, List.nil_append]

theorem dump_object (members : JsonMembers) :
    (JsonValue.object members).dump =
      ascii '{' :: (commaJoined (members.map writtenMember) ++ [ascii '}']) := by
  cases members with
  | nil => rfl
  | cons member members =>
      obtain ⟨key, value⟩ := member
      rw [JsonValue.dump, dumpMembers_eq, List.map_cons, commaJoined, writtenMember]
      simp only [List.append_assoc, List.cons_append, List.nil_append]

theorem dumpItems_eq (items : List JsonValue) :
    dumpItems items = following (items.map JsonValue.dump) := by
  induction items with
  | nil => rfl
  | cons item items ih =>
      rw [dumpItems, ih, List.map_cons]
      rfl

theorem dump_array (items : List JsonValue) :
    (JsonValue.array items).dump = jsonArrayFromObjects (items.map JsonValue.dump) := by
  cases items with
  | nil => rfl
  | cons item items =>
      rw [JsonValue.dump, dumpItems_eq, jsonArrayFromObjects, List.map_cons, commaJoined]
      simp only [List.append_assoc, List.cons_append, List.nil_append]

theorem isBody_dumpCharacter (c : UInt8) {rest : Bytes} (hrest : IsBody rest) :
    IsBody (dumpCharacter c ++ rest) := by
  rw [dumpCharacter]
  split
  · exact .escape (by decide) hrest
  split
  · exact .escape (by decide) hrest
  split
  · exact .escape (by decide) hrest
  split
  · exact .escape (by decide) hrest
  split
  · exact .escape (by decide) hrest
  split
  · exact .escape (by decide) hrest
  split
  · exact .escape (by decide) hrest
  split
  · next hsmall =>
      have hdigits := Escaper.control_digits c.toNat (UInt8.lt_iff_toNat_lt.mp hsmall)
      rw [show Nat.toUInt8 c.toNat = c from UInt8.ofNat_toNat] at hdigits
      exact .unicode rfl hdigits hrest
  · next hquote hbackslash _ _ _ _ _ hlarge =>
      exact .plain hquote hbackslash (UInt8.not_lt.mp hlarge) hrest

theorem isBody_dump (s : Bytes) : IsBody (s.flatMap dumpCharacter) := by
  induction s with
  | nil => exact .nil
  | cons c s ih =>
      rw [List.flatMap_cons]
      exact isBody_dumpCharacter c ih

theorem isValue_written {members : JsonMembers}
    (hvalues : ∀ member ∈ members, IsValue member.2.dump) :
    IsValue (JsonValue.object members).dump := by
  rw [dump_object]
  have hblanks : Blanks [] := fun _ hc => absurd hc List.not_mem_nil
  cases members with
  | nil => exact .emptyObject hblanks
  | cons first members =>
      have htexts : ((first :: members).map fun member =>
          ({ name := member.1.flatMap dumpCharacter, value := member.2.dump } : JsonMember)).map
            JsonMember.text = (first :: members).map writtenMember := by
        rw [List.map_map]
        refine List.map_congr_left fun member _ => ?_
        change [] ++ (dumpString member.1 ++ ([] ++ ascii ':' :: ([] ++ (member.2.dump ++ [])))) = _
        rw [List.append_nil]
        rfl
      rw [← htexts]
      refine .object (List.cons_ne_nil _ _) (List.forall_mem_map.mpr fun member _ => ?_)
        (List.forall_mem_map.mpr hvalues)
      exact ⟨hblanks, isBody_dump member.1, hblanks, hblanks, hblanks⟩

mutual

/-- What is written of a value is the text of one. -/
theorem isValue_dump : ∀ value : JsonValue, value.Spelled → IsValue value.dump
  | .null, _ => .literal (by decide)
  | .bool true, _ => .literal (by decide)
  | .bool false, _ => .literal (by decide)
  | .number _, hspelled => .number hspelled
  | .string s, _ => .string (isBody_dump s)
  | .array items, hspelled => by
      rw [dump_array]
      exact (isArray_jsonArrayFromObjects
        (List.forall_mem_map.mpr (isValue_dumpItems items hspelled))).isValue
  | .object members, hspelled => isValue_written (isValue_dumpMembers members hspelled)

theorem isValue_dumpItems : ∀ items : List JsonValue, SpelledItems items →
    ∀ item ∈ items, IsValue item.dump
  | [], _ => List.forall_mem_nil _
  | item :: items, hspelled => List.forall_mem_cons.mpr
      ⟨isValue_dump item hspelled.1, isValue_dumpItems items hspelled.2⟩

theorem isValue_dumpMembers : ∀ members : List (Bytes × JsonValue), SpelledMembers members →
    ∀ member ∈ members, IsValue member.2.dump
  | [], _ => List.forall_mem_nil _
  | (_, value) :: members, hspelled => List.forall_mem_cons.mpr
      ⟨isValue_dump value hspelled.1, isValue_dumpMembers members hspelled.2⟩

end

/-! ## The member of a name -/

section Members

variable {field : Bytes} {before after : JsonMembers} {value : JsonValue}

theorem dumpCharacter_plain {c : UInt8} (hplain : c ≠ quote ∧ c ≠ backslash ∧ 0x20 ≤ c) :
    dumpCharacter c = [c] := by
  obtain ⟨hquote, hbackslash, hlarge⟩ := hplain
  have hsmall : ¬c < 0x20 := UInt8.not_lt.mpr hlarge
  have hne {code : UInt8} (hcode : code < 0x20) : c ≠ code := fun hc => hsmall (hc ▸ hcode)
  rw [dumpCharacter, if_neg hquote, if_neg hbackslash, if_neg (hne (by decide)),
    if_neg (hne (by decide)), if_neg (hne (by decide)), if_neg (hne (by decide)),
    if_neg (hne (by decide)), if_neg hsmall]

theorem dumpString_plain (hplain : PlainName field) : dumpString field = quoted field := by
  rw [dumpString_eq]
  congr 1
  induction field with
  | nil => rfl
  | cons c field ih =>
      obtain ⟨hfirst, hrest⟩ := List.forall_mem_cons.mp hplain
      rw [List.flatMap_cons, dumpCharacter_plain hfirst, ih hrest, List.singleton_append]

/-- The text in front of a member. -/
def writtenFront (before : JsonMembers) : Bytes := ascii '{' :: leading (before.map writtenMember)

/-- The text behind the value of a member. -/
def writtenRest (after : JsonMembers) : Bytes := following (after.map writtenMember) ++ [ascii '}']

theorem writtenRest_head (after : JsonMembers) :
    ∀ c ∈ (writtenRest after).head?, c = ascii ',' ∨ c = ascii '}' := by
  intro c hc
  cases after with
  | nil => exact .inr (Option.some.inj hc).symm
  | cons member after => exact .inl (Option.some.inj hc).symm

theorem dump_split (hplain : PlainName field) :
    (JsonValue.object (before ++ (field, value) :: after)).dump =
      writtenFront before ++ (quoted field ++ ascii ':' :: (value.dump ++ writtenRest after)) := by
  rw [dump_object, List.map_append, List.map_cons, commaJoined_append, writtenMember,
    dumpString_plain hplain, writtenFront, writtenRest]
  simp only [List.append_assoc, List.cons_append]

/-- No member is written with the name. -/
def AllSilent (field : Bytes) (members : JsonMembers) : Prop :=
  ∀ member ∈ members, Silent field [] (writtenMember member)

theorem not_infix_front (hbefore : AllSilent field before) :
    ¬quoted field <:+: writtenFront before ++ (quoted field).dropLast := by
  intro hinfix
  have hdrop : (quoted field).dropLast = quote :: field := by
    rw [quoted, ← List.cons_append, List.dropLast_concat]
  have hoccurs : Occurs field [] ([ascii '{'] ++ (leading (before.map writtenMember) ++
      quote :: field)) := by
    rw [Occurs, List.append_nil]
    rwa [hdrop] at hinfix
  have hlast := occurs_leading (List.forall_mem_map.mpr hbefore) (hoccurs.of_plain (by decide))
  have hlength := hlast.length_le
  simp only [quoted, List.length_append, List.length_cons, List.length_nil] at hlength
  omega

theorem findText_written (hplain : PlainName field) (hbefore : AllSilent field before) :
    findText (quoted field) (JsonValue.object (before ++ (field, value) :: after)).dump =
      some (writtenFront before).length := by
  rw [dump_split hplain]
  exact findText_append (quoted_ne_nil field) (not_infix_front hbefore)

/-- The text up to the colon of a member. -/
def writtenOpened (before : JsonMembers) (field : Bytes) : Bytes :=
  writtenFront before ++ (quoted field ++ ([] ++ [ascii ':']))

theorem behindColon_written (hplain : PlainName field) (hbefore : AllSilent field before) :
    behindColon (JsonValue.object (before ++ (field, value) :: after)).dump field =
      some (writtenOpened before field).length := by
  have htext : (JsonValue.object (before ++ (field, value) :: after)).dump =
      writtenFront before ++ (quoted field ++ ([] ++ ascii ':' ::
        (value.dump ++ writtenRest after))) := dump_split hplain
  exact behindColon_found (findText_written hplain hbefore) (fun _ hc => by cases hc) htext

theorem dump_opened (hplain : PlainName field) :
    (JsonValue.object (before ++ (field, value) :: after)).dump =
      writtenOpened before field ++ (value.dump ++ writtenRest after) := by
  rw [dump_split hplain, writtenOpened]
  simp only [List.append_assoc, List.cons_append, List.nil_append]

/-- With no white space behind it, the value is read as it stands. -/
theorem jsonMemberValue_tight {text opened tail : Bytes} {value : Bytes}
    (hcolon : behindColon text field = some opened.length)
    (htext : text = opened ++ (value ++ tail)) (hvalue : IsValue value)
    (htail : ∀ c ∈ tail.head?, c = ascii ',' ∨ c = ascii '}') :
    jsonMemberValue text field = value := by
  have hblanks : Blanks [] := fun _ hc => absurd hc List.not_mem_nil
  obtain ⟨cut, kept, hcut, hlength⟩ := jsonValueLength_value hvalue hblanks htail
  obtain ⟨rfl, rfl⟩ := List.append_eq_nil_iff.mp hcut.symm
  rw [List.append_nil, List.nil_append] at hlength
  have hskip : skipWhitespace text opened.length = opened.length := by
    have hstay := skipWhitespace_blanks hblanks opened (value_head hvalue tail)
    rwa [List.nil_append, ← htext, List.length_nil, Nat.add_zero] at hstay
  have hdrop : text.drop opened.length = value ++ tail := by
    rw [htext, List.drop_left]
  have hlong : ¬opened.length + value.length ≤ opened.length := by
    have hpos := List.length_pos_iff.mpr (value_ne_nil hvalue)
    omega
  rw [jsonMemberValue, hcolon]
  dsimp only
  rw [hskip, matchingJsonValueEnd, hdrop, hlength]
  dsimp only [Option.map_some]
  rw [if_neg hlong, Nat.add_sub_cancel_left, List.take_left]

theorem jsonMemberValue_written (hplain : PlainName field) (hbefore : AllSilent field before)
    (hspelled : value.Spelled) :
    jsonMemberValue (JsonValue.object (before ++ (field, value) :: after)).dump field =
      value.dump :=
  jsonMemberValue_tight (behindColon_written hplain hbefore) (dump_opened hplain)
    (isValue_dump value hspelled) (writtenRest_head after)

theorem jsonMemberValue_silent {members : JsonMembers} (hmembers : AllSilent field members) :
    jsonMemberValue (JsonValue.object members).dump field = [] := by
  have hsilent : Silent field [] (JsonValue.object members).dump := by
    rw [dump_object]
    exact silent_bracketed (by decide) (by decide) (List.forall_mem_map.mpr hmembers)
  have habsent := hsilent.absent
  rw [Occurs, List.append_nil] at habsent
  refine jsonMemberValue_none (behindColon_none fun pos hfound => ?_)
  rw [findText_eq_none habsent] at hfound
  cases hfound

/-! ## Strings of a member -/

/-- A string as it is left without backslashes. -/
def dropped (s : Bytes) : Bytes := s.flatMap Escaper.dump.dropped

theorem dropEscapes_dump (s : Bytes) : dropEscapes (s.flatMap dumpCharacter) false = dropped s :=
  (Escaper.dump.escape_unquoted s).2

theorem dropped_eq_iff (s : Bytes) : dropped s = s ↔ ∀ c ∈ s, 0x20 ≤ c :=
  Escaper.dump.flatMap_dropped_iff s

theorem stringField_written (hplain : PlainName field) (hbefore : AllSilent field before)
    (s fallback : Bytes) :
    ProjectOrchestration.simpleJsonStringField
        (JsonValue.object (before ++ (field, .string s) :: after)).dump field fallback =
      if dropped s = [] then fallback else dropped s := by
  have htext : (JsonValue.object (before ++ (field, .string s) :: after)).dump =
      writtenOpened before field ++ ([] ++ (quoted (s.flatMap dumpCharacter) ++
        writtenRest after)) := dump_opened hplain
  rw [simpleJsonStringField_string (behindColon_written hplain hbefore) (fun _ hc => by cases hc)
    (isBody_dump s) htext, dropEscapes_dump]

theorem collectStrings_written (texts : List Bytes) (rest : Bytes) :
    collectStrings (following (texts.map dumpString) ++ ascii ']' :: rest) {} [] =
      texts.map dropped := by
  induction texts with
  | nil => rfl
  | cons s texts ih =>
      rw [List.map_cons, following_cons_append, dumpString_eq]
      have hcomma (behind : Bytes) :
          collectStrings (ascii ',' :: behind) {} [] = collectStrings behind {} [] := by
        rw [collectStrings, if_pos rfl, if_neg (by decide), if_neg (by decide)]
      rw [hcomma, collectStrings_quoted (isBody_dump s), ih, dropEscapes_dump, List.map_cons]

theorem stringArrayField_written (hplain : PlainName field) (hbefore : AllSilent field before)
    (texts : List Bytes) :
    simpleJsonStringArrayField
        (JsonValue.object (before ++ (field, .array (texts.map .string)) :: after)).dump field =
      texts.map dropped := by
  have hspelled : (JsonValue.array (texts.map .string)).Spelled := by
    rw [JsonValue.Spelled, spelledItems_iff]
    exact List.forall_mem_map.mpr fun _ _ => trivial
  have hmember : jsonMemberValue
      (JsonValue.object (before ++ (field, .array (texts.map .string)) :: after)).dump field = _ :=
    jsonMemberValue_written hplain hbefore hspelled
  have hdump : (JsonValue.array (texts.map .string)).dump =
      ascii '[' :: (commaJoined (texts.map dumpString) ++ [ascii ']']) := by
    rw [dump_array, List.map_map]
    rfl
  rw [simpleJsonStringArrayField, hmember, hdump, List.head?_cons, if_pos rfl, List.tail_cons]
  cases texts with
  | nil => rfl
  | cons s texts =>
      rw [List.map_cons, commaJoined, List.append_assoc, dumpString_eq,
        collectStrings_quoted (isBody_dump s), collectStrings_written texts [], dropEscapes_dump,
        List.map_cons]

end Members

end AudioStudio.Gui
