import AudioStudio.Gui.MemberScan

/-!
# Lookups of members

The reading helpers of `project_orchestration.cpp`: a member is looked for as a string of the
text, and its value as what follows the next colon.
-/

namespace AudioStudio.Gui

open AudioStudio.LittleEndian
open AudioStudio.Rpc
open AudioStudio.Rpc.Parser

/-! ## The helpers -/

/-- Behind the next colon from the first string of the field on. -/
def behindColon (text field : Bytes) : Option Nat :=
  match findText (quoted field) text with
  | none => none
  | some pos =>
      let pos := pos + (quoted field).length
      ((text.drop pos).findIdx? (· = ascii ':')).map (pos + · + 1)

def jsonMemberValue (objectJson field : Bytes) : Bytes :=
  match behindColon objectJson field with
  | none => []
  | some pos =>
      let pos := skipWhitespace objectJson pos
      match matchingJsonValueEnd objectJson pos with
      | none => []
      | some last => if last ≤ pos then [] else (objectJson.drop pos).take (last - pos)

/-- The loop over a string, behind its opening quote. -/
def readStringField (fallback : Bytes) : Bytes → Bool → Bytes → Bytes
  | [], _, _ => fallback
  | c :: rest, esc, out =>
      if esc then readStringField fallback rest false (out ++ [c])
      else if c = backslash then readStringField fallback rest true out
      else if c = quote then if out = [] then fallback else out
      else readStringField fallback rest false (out ++ [c])

def ProjectOrchestration.simpleJsonStringField (body field fallback : Bytes) : Bytes :=
  match behindColon body field with
  | none => fallback
  | some pos =>
      match (body.drop pos).findIdx? (· = quote) with
      | none => fallback
      | some offset => readStringField fallback (body.drop (pos + offset + 1)) false []

/-- The loop over an array, behind its bracket. -/
def collectStrings : Bytes → Scan → Bytes → List Bytes
  | [], _, _ => []
  | c :: rest, scan, current =>
      if scan.inString = false then
        if c = quote then collectStrings rest { scan with inString := true } []
        else if c = ascii ']' then []
        else collectStrings rest scan current
      else if scan.esc then collectStrings rest { scan with esc := false } (current ++ [c])
      else if c = backslash then collectStrings rest { scan with esc := true } current
      else if c = quote then current :: collectStrings rest { scan with inString := false } []
      else collectStrings rest scan (current ++ [c])

def simpleJsonStringArrayField (body field : Bytes) : List Bytes :=
  let array := jsonMemberValue body field
  if array.head? = some (ascii '[') then collectStrings array.tail {} [] else []

def topLevelJsonMemberValue (objectJson field : Bytes) : Bytes :=
  match topLevelMemberRange objectJson field with
  | none => []
  | some (first, last) => jsonMemberValue ((objectJson.drop first).take (last - first)) field

/-- The loop over an array, of which every round takes one object. -/
def collectObjects : Nat → Bytes → List Bytes
  | 0, _ => []
  | rounds + 1, text =>
      let text := text.dropWhile fun c => c ≠ ascii '{' ∧ c ≠ ascii ']'
      if text.head? = some (ascii '{') then
        match jsonValueLength text with
        | none => []
        | some length => text.take length :: collectObjects rounds (text.drop length)
      else []

def jsonObjectArrayItems (arrayJson : Bytes) : List Bytes :=
  if arrayJson.head? = some (ascii '[') then collectObjects arrayJson.length arrayJson.tail else []

/-! ## What they are for -/

/-- The text of the value of a name. -/
def ObjectText.value (object : ObjectText) (field : Bytes) : Option Bytes :=
  (object.members.find? fun member => unescape member.name = field).map fun member => member.value

/-- The value, up to white space behind it, or nothing. -/
def ReadsAs (value : Option Bytes) (text : Bytes) : Prop :=
  match value with
  | none => text = []
  | some value => ∃ blanks, Blanks blanks ∧ text = value ++ blanks

/-- What the text of a string decodes to. -/
def decodedText (value : Bytes) : Option Bytes :=
  if value.head? = some quote then some (unescape value.tail.dropLast) else none

/-- The string, if it is there and not empty. -/
def stringOr (fallback : Bytes) (value : Option Bytes) : Bytes :=
  match value.bind decodedText with
  | none => fallback
  | some text => if text = [] then fallback else text

/-- The text of an array, with its items. -/
inductive IsArray : Bytes → List JsonItem → Prop
  | empty {blanks : Bytes} (hblanks : Blanks blanks) :
      IsArray (ascii '[' :: (blanks ++ [ascii ']'])) []
  | items {items : List JsonItem} (hne : items ≠ []) (hspaced : ∀ item ∈ items, item.Spaced)
      (hvalues : ∀ item ∈ items, IsValue item.value) :
      IsArray (ascii '[' :: (commaJoined (items.map JsonItem.text) ++ [ascii ']'])) items

def objectOf (value : Bytes) : Option Bytes :=
  if value.head? = some (ascii '{') then some value else none

/-- Every helper gives of the member of a name what it is for. -/
structure LooksUp (object : ObjectText) (field : Bytes) : Prop where
  member : ReadsAs (object.value field) (jsonMemberValue object.text field)
  topLevel : ReadsAs (object.value field) (topLevelJsonMemberValue object.text field)
  string : ∀ fallback, ProjectOrchestration.simpleJsonStringField object.text field fallback =
    stringOr fallback (object.value field)
  strings : ∀ value items, object.value field = some value → IsArray value items →
    simpleJsonStringArrayField object.text field = items.filterMap fun item => decodedText item.value
  objects : ∀ value items, object.value field = some value → IsArray value items →
    jsonObjectArrayItems (jsonMemberValue object.text field) =
      items.filterMap fun item => objectOf item.value
  noArray : (∀ value ∈ object.value field, value.head? ≠ some (ascii '[')) →
    simpleJsonStringArrayField object.text field = [] ∧
      jsonObjectArrayItems (jsonMemberValue object.text field) = []

/-! ## Reading behind the colon -/

section Reading

variable {text field front opened before behind value after tail : Bytes}

theorem behindColon_found (hfind : findText (quoted field) text = some front.length)
    {rest : Bytes} (hbehind : Blanks behind)
    (htext : text = front ++ (quoted field ++ (behind ++ ascii ':' :: rest))) :
    behindColon text field = some (front ++ (quoted field ++ (behind ++ [ascii ':']))).length := by
  have hdrop : text.drop (front.length + (quoted field).length) = behind ++ ascii ':' :: rest := by
    rw [htext, ← List.append_assoc, ← List.length_append, List.drop_left]
  rw [behindColon, hfind]
  dsimp only
  rw [hdrop, findIdx?_colon hbehind]
  apply congrArg some
  simp only [List.length_append, List.length_cons, List.length_nil]
  omega

theorem value_ne_nil (hvalue : IsValue value) : value ≠ [] := by
  rcases hvalue.scalar_or_closed with hscalar | hclosed
  · exact hscalar.ne_nil
  · obtain ⟨front, last, rfl, _⟩ := hclosed.closed
    exact List.append_ne_nil_of_right_ne_nil _ (List.cons_ne_nil _ _)

/-- The value behind the colon is read, with white space behind it if it is a scalar. -/
theorem jsonMemberValue_of_colon (hcolon : behindColon text field = some opened.length)
    (htext : text = opened ++ (before ++ (value ++ (after ++ tail)))) (hbefore : Blanks before)
    (hvalue : IsValue value) (hafter : Blanks after)
    (htail : ∀ c ∈ tail.head?, c = ascii ',' ∨ c = ascii '}') :
    ReadsAs (some value) (jsonMemberValue text field) := by
  obtain ⟨cut, kept, hcut, hlength⟩ := jsonValueLength_value hvalue hafter htail
  have hskip : skipWhitespace text opened.length = (opened ++ before).length := by
    rw [htext, skipWhitespace_blanks hbefore _ (value_head hvalue _), List.length_append]
  have hdrop : text.drop (opened ++ before).length = value ++ (after ++ tail) := by
    rw [htext, ← List.append_assoc, List.drop_left]
  have hlong : ¬ (opened ++ before).length + (value ++ cut).length ≤ (opened ++ before).length := by
    have hpos := List.length_pos_iff.mpr (value_ne_nil hvalue)
    simp only [List.length_append]
    omega
  have htake : (value ++ (after ++ tail)).take (value ++ cut).length = value ++ cut := by
    rw [hcut, List.append_assoc cut, ← List.append_assoc value, List.take_left]
  have hread : jsonMemberValue text field = value ++ cut := by
    rw [jsonMemberValue, hcolon]
    dsimp only
    rw [hskip, matchingJsonValueEnd, hdrop, hlength]
    dsimp only [Option.map_some]
    rw [if_neg hlong, Nat.add_sub_cancel_left, htake]
  refine ⟨cut, fun c hc => hafter c ?_, hread⟩
  rw [hcut]
  exact List.mem_append_left kept hc

/-- A member behind the first string of its name. -/
theorem jsonMemberValue_found (hfind : findText (quoted field) text = some front.length)
    (hbehind : Blanks behind) (hbefore : Blanks before) (hvalue : IsValue value)
    (hafter : Blanks after) (htail : ∀ c ∈ tail.head?, c = ascii ',' ∨ c = ascii '}')
    (htext : text = front ++ (quoted field ++
      (behind ++ ascii ':' :: (before ++ (value ++ (after ++ tail)))))) :
    ReadsAs (some value) (jsonMemberValue text field) := by
  refine jsonMemberValue_of_colon (behindColon_found hfind hbehind htext) ?_ hbefore hvalue
    hafter htail
  rw [htext]
  simp only [List.append_assoc, List.cons_append, List.nil_append]

/-- Nothing is read where there is no colon behind the name, or no name. -/
theorem behindColon_none
    (hnone : ∀ pos, findText (quoted field) text = some pos →
      ascii ':' ∉ text.drop (pos + (quoted field).length)) :
    behindColon text field = none := by
  rw [behindColon]
  cases hfind : findText (quoted field) text with
  | none => rfl
  | some pos =>
      dsimp only
      have habsent := hnone pos hfind
      rw [List.findIdx?_eq_none_iff.mpr, Option.map_none]
      intro c hc
      rw [decide_eq_false_iff_not]
      rintro rfl
      exact habsent hc

end Reading

/-! ## Strings -/

/-- A string body without the backslashes of its escapes. -/
def dropEscapes : Bytes → Bool → Bytes
  | [], _ => []
  | c :: rest, esc =>
      if esc then c :: dropEscapes rest false
      else if c = backslash then dropEscapes rest true
      else c :: dropEscapes rest false

theorem readStringField_body {body : Bytes} (hbody : Unquoted body) (fallback rest : Bytes)
    (out : Bytes) :
    readStringField fallback (body ++ quote :: rest) false out =
      if out ++ dropEscapes body false = [] then fallback else out ++ dropEscapes body false := by
  induction hbody generalizing out with
  | nil =>
      rw [List.nil_append, dropEscapes, List.append_nil, readStringField,
        if_neg Bool.false_ne_true, if_neg (by decide), if_pos rfl]
  | plain hquote hbackslash _ ih =>
      rw [List.cons_append, readStringField, if_neg Bool.false_ne_true, if_neg hbackslash,
        if_neg hquote, ih, dropEscapes, if_neg Bool.false_ne_true, if_neg hbackslash,
        List.append_assoc, List.singleton_append]
  | escape _ ih =>
      rw [List.cons_append, List.cons_append, readStringField, if_neg Bool.false_ne_true,
        if_pos rfl, readStringField, if_pos rfl, ih, dropEscapes, if_neg Bool.false_ne_true,
        if_pos rfl, dropEscapes, if_pos rfl, List.append_assoc, List.singleton_append]

theorem collectStrings_body {body : Bytes} (hbody : Unquoted body) (rest current : Bytes) :
    collectStrings (body ++ quote :: rest) { inString := true } current =
      (current ++ dropEscapes body false) :: collectStrings rest {} [] := by
  induction hbody generalizing current with
  | nil =>
      rw [List.nil_append, dropEscapes, List.append_nil, collectStrings, if_neg (by decide),
        if_neg Bool.false_ne_true, if_neg (by decide), if_pos rfl]
  | plain hquote hbackslash _ ih =>
      rw [List.cons_append, collectStrings, if_neg (by decide), if_neg Bool.false_ne_true,
        if_neg hbackslash, if_neg hquote, ih, dropEscapes, if_neg Bool.false_ne_true,
        if_neg hbackslash, List.append_assoc, List.singleton_append]
  | escape _ ih =>
      rw [List.cons_append, List.cons_append, collectStrings, if_neg (by decide),
        if_neg Bool.false_ne_true, if_pos rfl, collectStrings, if_neg (by decide), if_pos rfl, ih,
        dropEscapes, if_neg Bool.false_ne_true, if_pos rfl, dropEscapes, if_pos rfl,
        List.append_assoc, List.singleton_append]

theorem collectStrings_skip {run : Bytes} (hrun : ∀ c ∈ run, c ≠ quote ∧ c ≠ ascii ']')
    (rest : Bytes) : collectStrings (run ++ rest) {} [] = collectStrings rest {} [] := by
  induction run with
  | nil => rfl
  | cons c run ih =>
      obtain ⟨hquote, hbracket⟩ := hrun c List.mem_cons_self
      rw [List.cons_append, collectStrings, if_pos rfl, if_neg hquote, if_neg hbracket,
        ih fun other hother => hrun other (List.mem_cons_of_mem c hother)]

theorem collectStrings_quoted {body : Bytes} (hbody : IsBody body) (rest : Bytes) :
    collectStrings (quoted body ++ rest) {} [] =
      dropEscapes body false :: collectStrings rest {} [] := by
  rw [quoted_append, collectStrings, if_pos rfl, if_pos rfl]
  exact collectStrings_body hbody.unquoted rest []

/-- An item that is a string is decoded by leaving backslashes out, and another one has no
strings and no end of an array in it. -/
def StringItem (value : Bytes) : Prop :=
  (∀ c ∈ value, c ≠ quote ∧ c ≠ ascii ']') ∨
    ∃ body, IsBody body ∧ value = quoted body ∧ unescape body = dropEscapes body false

theorem decodedText_quoted (body : Bytes) : decodedText (quoted body) = some (unescape body) := by
  rw [decodedText, quoted, List.head?_cons, if_pos rfl, List.tail_cons, List.dropLast_concat]

theorem decodedText_of_ne {value : Bytes} (hhead : value.head? ≠ some quote) :
    decodedText value = none :=
  if_neg hhead

theorem isBlank_skipped {blanks : Bytes} (hblanks : Blanks blanks) {c : UInt8} (hc : c ∈ blanks) :
    c ≠ quote ∧ c ≠ ascii ']' :=
  ⟨ne_of_isBlank (hblanks c hc) (by decide), ne_of_isBlank (hblanks c hc) (by decide)⟩

theorem collectStrings_item {item : JsonItem} (hspaced : item.Spaced)
    (hitem : StringItem item.value) (rest : Bytes) :
    collectStrings (item.text ++ rest) {} [] =
      (decodedText item.value).toList ++ collectStrings rest {} [] := by
  rw [JsonItem.text, List.append_assoc, List.append_assoc,
    collectStrings_skip fun c hc => isBlank_skipped hspaced.before hc]
  rcases hitem with hplain | ⟨body, hbody, hvalue, hdecoded⟩
  · have hhead : item.value.head? ≠ some quote := by
      intro hhead
      exact (hplain quote (List.mem_of_mem_head? hhead)).1 rfl
    rw [collectStrings_skip hplain, decodedText_of_ne hhead,
      collectStrings_skip fun c hc => isBlank_skipped hspaced.after hc]
    rfl
  · rw [hvalue, collectStrings_quoted hbody, decodedText_quoted, hdecoded,
      collectStrings_skip fun c hc => isBlank_skipped hspaced.after hc]
    rfl

theorem collectStrings_following {items : List JsonItem} (hspaced : ∀ item ∈ items, item.Spaced)
    (hitems : ∀ item ∈ items, StringItem item.value) (rest : Bytes) :
    collectStrings (following (items.map JsonItem.text) ++ ascii ']' :: rest) {} [] =
      items.filterMap fun item => decodedText item.value := by
  induction items with
  | nil => rfl
  | cons item items ih =>
      have hcomma : collectStrings (ascii ',' :: (item.text ++
          (following (items.map JsonItem.text) ++ ascii ']' :: rest))) {} [] =
          collectStrings (item.text ++ (following (items.map JsonItem.text) ++
            ascii ']' :: rest)) {} [] := by
        rw [collectStrings, if_pos rfl, if_neg (by decide), if_neg (by decide)]
      rw [List.map_cons, following_cons_append, hcomma,
        collectStrings_item (hspaced item List.mem_cons_self) (hitems item List.mem_cons_self),
        ih (fun other hother => hspaced other (List.mem_cons_of_mem item hother))
          fun other hother => hitems other (List.mem_cons_of_mem item hother),
        List.filterMap_cons]
      cases decodedText item.value with
      | none => rfl
      | some text => rfl

/-- The strings of an array are collected, whatever follows it. -/
theorem collectStrings_array {value : Bytes} {items : List JsonItem} (harray : IsArray value items)
    (hitems : ∀ item ∈ items, StringItem item.value) (rest : Bytes) :
    collectStrings (value ++ rest).tail {} [] = items.filterMap fun item => decodedText item.value := by
  cases harray with
  | empty hblanks =>
      rw [List.cons_append, List.tail_cons, List.append_assoc,
        collectStrings_skip fun c hc => isBlank_skipped hblanks hc]
      rfl
  | items hne hspaced _ =>
      cases items with
      | nil => exact absurd rfl hne
      | cons item items =>
          rw [List.cons_append, List.tail_cons, List.append_assoc, List.map_cons, commaJoined,
            List.append_assoc, List.singleton_append,
            collectStrings_item (hspaced item List.mem_cons_self) (hitems item List.mem_cons_self),
            collectStrings_following
              (fun other hother => hspaced other (List.mem_cons_of_mem item hother))
              fun other hother => hitems other (List.mem_cons_of_mem item hother),
            List.filterMap_cons]
          cases decodedText item.value with
          | none => rfl
          | some text => rfl

/-! ## Objects -/

/-- An item that is no object has no beginning of one and no end of an array in it. -/
def ObjectItem (value : Bytes) : Prop :=
  value.head? = some (ascii '{') ∨ ∀ c ∈ value, c ≠ ascii '{' ∧ c ≠ ascii ']'

theorem collectObjects_skip {run : Bytes} (hrun : ∀ c ∈ run, c ≠ ascii '{' ∧ c ≠ ascii ']')
    (rounds : Nat) (rest : Bytes) :
    collectObjects (rounds + 1) (run ++ rest) = collectObjects (rounds + 1) rest := by
  have hskip : (run ++ rest).dropWhile (fun c => decide (c ≠ ascii '{' ∧ c ≠ ascii ']')) =
      rest.dropWhile fun c => decide (c ≠ ascii '{' ∧ c ≠ ascii ']') :=
    List.dropWhile_append_of_pos fun c hc => decide_eq_true (hrun c hc)
  rw [collectObjects, collectObjects, hskip]

theorem collectObjects_end (rounds : Nat) (rest : Bytes) :
    collectObjects (rounds + 1) (ascii ']' :: rest) = [] := by
  rw [collectObjects]
  rfl

theorem collectObjects_object {value : Bytes} (hvalue : IsValue value)
    (hhead : value.head? = some (ascii '{')) (rounds : Nat) (rest : Bytes) :
    collectObjects (rounds + 1) (value ++ rest) = value :: collectObjects rounds rest := by
  have hclosed : IsClosed value := by
    rcases hvalue.scalar_or_closed with hscalar | hclosed
    · exact absurd (hscalar.chars _ (List.mem_of_mem_head? hhead)) (by decide)
    · exact hclosed
  have hfirst : (value ++ rest).head? = some (ascii '{') := by
    rw [List.head?_append, hhead]
    rfl
  have hstay : (value ++ rest).dropWhile (fun c => decide (c ≠ ascii '{' ∧ c ≠ ascii ']')) =
      value ++ rest := by
    cases htext : value ++ rest with
    | nil => rfl
    | cons c text =>
        rw [htext] at hfirst
        cases hfirst
        exact List.dropWhile_cons_of_neg (by decide)
  rw [collectObjects, hstay, if_pos hfirst, hclosed.ends]
  dsimp only
  rw [List.take_left, List.drop_left]

theorem objectOf_of_ne {value : Bytes} (hskipped : ∀ c ∈ value, c ≠ ascii '{' ∧ c ≠ ascii ']') :
    objectOf value = none := by
  apply if_neg
  intro hhead
  exact (hskipped _ (List.mem_of_mem_head? hhead)).1 rfl

theorem collectObjects_following {items : List JsonItem} (hspaced : ∀ item ∈ items, item.Spaced)
    (hvalues : ∀ item ∈ items, IsValue item.value)
    (hitems : ∀ item ∈ items, ObjectItem item.value) (rest : Bytes) {run : Bytes}
    (hrun : ∀ c ∈ run, c ≠ ascii '{' ∧ c ≠ ascii ']') {rounds : Nat}
    (hrounds : items.length ≤ rounds) :
    collectObjects (rounds + 1)
        (run ++ (following (items.map JsonItem.text) ++ ascii ']' :: rest)) =
      items.filterMap fun item => objectOf item.value := by
  induction items generalizing run rounds with
  | nil => rw [collectObjects_skip hrun]; exact collectObjects_end rounds rest
  | cons item items ih =>
      have hitem := hspaced item List.mem_cons_self
      have hblank : ∀ {blanks : Bytes}, Blanks blanks →
          ∀ c ∈ blanks, c ≠ ascii '{' ∧ c ≠ ascii ']' := by
        intro blanks hblanks c hc
        exact ⟨ne_of_isBlank (hblanks c hc) (by decide), ne_of_isBlank (hblanks c hc) (by decide)⟩
      have hfront : ∀ c ∈ run ++ ascii ',' :: item.before, c ≠ ascii '{' ∧ c ≠ ascii ']' := by
        intro c hc
        rcases List.mem_append.mp hc with hc | hc
        · exact hrun c hc
        · rcases List.mem_cons.mp hc with rfl | hc
          · decide
          · exact hblank hitem.before c hc
      have htext : run ++ (following ((item :: items).map JsonItem.text) ++ ascii ']' :: rest) =
          (run ++ ascii ',' :: item.before) ++ (item.value ++ (item.after ++
            (following (items.map JsonItem.text) ++ ascii ']' :: rest))) := by
        rw [List.map_cons, following_cons_append]
        simp only [JsonItem.text, List.append_assoc, List.cons_append]
      have hlater := @ih (fun other hother => hspaced other (List.mem_cons_of_mem item hother))
        (fun other hother => hvalues other (List.mem_cons_of_mem item hother))
        (fun other hother => hitems other (List.mem_cons_of_mem item hother)) item.after
        (hblank hitem.after)
      rw [htext, collectObjects_skip hfront, List.filterMap_cons]
      rw [List.length_cons] at hrounds
      rcases hitems item List.mem_cons_self with hhead | hskipped
      · obtain ⟨fewer, rfl⟩ : ∃ fewer, rounds = fewer + 1 := ⟨rounds - 1, by omega⟩
        rw [collectObjects_object (hvalues item List.mem_cons_self) hhead, hlater (by omega),
          objectOf, if_pos hhead]
      · rw [collectObjects_skip hskipped, hlater (by omega), objectOf_of_ne hskipped]

theorem length_le_commaJoined {items : List JsonItem}
    (hvalues : ∀ item ∈ items, IsValue item.value) :
    items.length ≤ (following (items.map JsonItem.text)).length := by
  induction items with
  | nil => exact Nat.zero_le _
  | cons item items ih =>
      have hrest := ih fun other hother => hvalues other (List.mem_cons_of_mem item hother)
      rw [List.map_cons, following, List.flatMap_cons, List.length_append, List.length_cons,
        List.length_cons]
      rw [following] at hrest
      omega

/-- The objects of an array are taken, whatever follows it. -/
theorem jsonObjectArrayItems_array {value : Bytes} {items : List JsonItem}
    (harray : IsArray value items) (hitems : ∀ item ∈ items, ObjectItem item.value)
    (rest : Bytes) :
    jsonObjectArrayItems (value ++ rest) = items.filterMap fun item => objectOf item.value := by
  cases harray with
  | @empty blanks hblanks =>
      have hblank : ∀ c ∈ blanks, c ≠ ascii '{' ∧ c ≠ ascii ']' := by
        intro c hc
        exact ⟨ne_of_isBlank (hblanks c hc) (by decide), ne_of_isBlank (hblanks c hc) (by decide)⟩
      rw [jsonObjectArrayItems, List.cons_append, List.head?_cons, if_pos rfl, List.length_cons,
        List.tail_cons, List.append_assoc, collectObjects_skip hblank]
      exact collectObjects_end _ rest
  | items hne hspaced hvalues =>
      cases items with
      | nil => exact absurd rfl hne
      | cons item items =>
          have hcomma : ∀ c ∈ [ascii ','], c ≠ ascii '{' ∧ c ≠ ascii ']' := by
            intro c hc
            rw [List.mem_singleton.mp hc]
            decide
          have htail : ∀ c ∈ ([] : Bytes), c ≠ ascii '{' ∧ c ≠ ascii ']' :=
            fun c hc => absurd hc List.not_mem_nil
          have hcount := length_le_commaJoined hvalues
          rw [List.map_cons, following_eq (List.cons_ne_nil _ _), List.length_cons,
            List.length_cons] at hcount
          rw [jsonObjectArrayItems, List.cons_append, List.head?_cons, if_pos rfl,
            List.length_cons, List.tail_cons, List.append_assoc, List.singleton_append,
            ← collectObjects_skip hcomma, List.singleton_append, ← List.cons_append,
            List.map_cons, ← following_eq (List.cons_ne_nil _ _), ← List.map_cons]
          refine collectObjects_following hspaced hvalues hitems rest htail ?_
          simp only [List.length_cons, List.length_append, List.map_cons]
          omega

end AudioStudio.Gui
