import AudioStudio.Gui.Lookups
import AudioStudio.Gui.Upsert

/-!
# Lookups in the texts of objects

Where a lookup begins with the member that it is for, it gives what it is asked for.
-/

namespace AudioStudio.Gui

open AudioStudio.LittleEndian
open AudioStudio.Rpc
open AudioStudio.Rpc.Parser

variable {field : Bytes} {object : ObjectText} {before after : List JsonMember}
variable {member : JsonMember}

/-! ## The member that is asked for -/

theorem earlier_names (hfield : PlainName field) (hnames : object.names.Nodup)
    (hmembers : object.members = before ++ member :: after) (hname : member.name = field) :
    ∀ other ∈ before, unescape other.name ≠ field := by
  intro other hother hsame
  rw [ObjectText.names, hmembers, List.map_append, List.map_cons] at hnames
  have hmem : unescape other.name ∈ before.map fun member => unescape member.name :=
    List.mem_map_of_mem hother
  rw [hsame, ← unescape_plain hfield, ← hname] at hmem
  exact (List.nodup_append.mp hnames).2.2 _ hmem _ List.mem_cons_self rfl

theorem value_present (hfield : PlainName field) (hnames : object.names.Nodup)
    (hmembers : object.members = before ++ member :: after) (hname : member.name = field) :
    object.value field = some member.value := by
  have hearlier := earlier_names hfield hnames hmembers hname
  have hfind : object.members.find? (fun member => unescape member.name = field) = some member := by
    rw [hmembers, List.find?_append, List.find?_eq_none.mpr]
    · rw [Option.none_or, List.find?_cons_of_pos]
      rw [decide_eq_true_eq, hname, unescape_plain hfield]
    · intro other hother
      rw [decide_eq_true_eq]
      exact hearlier other hother
  rw [ObjectText.value, hfind]
  rfl

theorem value_absent (habsent : field ∉ object.names) : object.value field = none := by
  rw [ObjectText.value, List.find?_eq_none.mpr, Option.map_none]
  intro member hmember
  rw [decide_eq_true_eq]
  rintro rfl
  exact habsent (List.mem_map_of_mem hmember)

theorem earlier_misses (hfield : PlainName field) (hnames : object.names.Nodup)
    (hmembers : object.members = before ++ member :: after) (hname : member.name = field)
    (hbefore : ∀ other ∈ before, other.value ≠ quoted field) :
    ∀ other ∈ before, Misses field other := by
  intro other hother
  refine ⟨fun hsame => ?_, hbefore other hother⟩
  refine earlier_names hfield hnames hmembers hname other hother ?_
  rw [hsame, unescape_plain hfield]

/-! ## The first string of the name -/

/-- The name is not to be found in front of the member of it, and where there is no such member
no colon follows it. -/
inductive Sought (object : ObjectText) (field : Bytes) : Prop
  | absent (habsent : field ∉ object.names)
      (hunread : ∀ pos, findText (quoted field) object.text = some pos →
        ascii ':' ∉ object.text.drop (pos + (quoted field).length))
  | present {before after : List JsonMember} {member : JsonMember}
      (hmembers : object.members = before ++ member :: after) (hname : member.name = field)
      (hfirst : ¬ quoted field <:+:
        (object.lead ++ nameFront before member) ++ (quoted field).dropLast)

theorem lead_text (object : ObjectText) :
    object.text = object.lead ++ { object with lead := [] }.text := rfl

theorem ObjectText.Valid.unled (hvalid : object.Valid) :
    ({ object with lead := [] } : ObjectText).Valid :=
  ⟨fun _ hc => absurd hc List.not_mem_nil, hvalid.blanks, hvalid.trail, hvalid.inner,
    hvalid.spaced, hvalid.values⟩

/-- The text of an object around one of its members. -/
theorem member_split (hvalid : object.Valid)
    (hmembers : object.members = before ++ member :: after) (hname : member.name = field) :
    object.text = (object.lead ++ nameFront before member) ++ (quoted field ++
      (member.behind ++ ascii ':' :: (member.before ++ (member.value ++
        (member.after ++ object.behind after))))) := by
  have hsplit : ({ object with lead := [] } : ObjectText).members = before ++ member :: after :=
    hmembers
  have htext := name_text hvalid.unled rfl hsplit
  rw [lead_text, htext, hname]
  simp only [JsonItem.text, ObjectText.behind, List.append_assoc]

theorem quoted_ne_nil (field : Bytes) : quoted field ≠ [] :=
  List.cons_ne_nil _ _

theorem findText_member (hvalid : object.Valid)
    (hmembers : object.members = before ++ member :: after) (hname : member.name = field)
    (hfirst : ¬ quoted field <:+:
      (object.lead ++ nameFront before member) ++ (quoted field).dropLast) :
    findText (quoted field) object.text = some (object.lead ++ nameFront before member).length := by
  rw [member_split hvalid hmembers hname]
  exact findText_append (quoted_ne_nil field) hfirst

theorem behindColon_member (hvalid : object.Valid)
    (hmembers : object.members = before ++ member :: after) (hname : member.name = field)
    (hfirst : ¬ quoted field <:+:
      (object.lead ++ nameFront before member) ++ (quoted field).dropLast) :
    behindColon object.text field = some ((object.lead ++ nameFront before member) ++
      (quoted field ++ (member.behind ++ [ascii ':']))).length := by
  obtain ⟨_, ⟨hspaced, _⟩, _⟩ := hvalid.of_split hmembers
  exact behindColon_found (findText_member hvalid hmembers hname hfirst) hspaced.behind
    (member_split hvalid hmembers hname)

theorem jsonMemberValue_none {text : Bytes} (hcolon : behindColon text field = none) :
    jsonMemberValue text field = [] := by
  rw [jsonMemberValue, hcolon]

theorem jsonMemberValue_reads (hsought : Sought object field) (hvalid : object.Valid)
    (hnames : object.names.Nodup) (hfield : PlainName field) :
    ReadsAs (object.value field) (jsonMemberValue object.text field) := by
  cases hsought with
  | absent habsent hunread =>
      rw [value_absent habsent]
      exact jsonMemberValue_none (behindColon_none hunread)
  | @present before after member hmembers hname hfirst =>
      obtain ⟨_, ⟨hspaced, hvalue⟩, _⟩ := hvalid.of_split hmembers
      rw [value_present hfield hnames hmembers hname]
      exact jsonMemberValue_found (findText_member hvalid hmembers hname hfirst) hspaced.behind
        hspaced.item.before hvalue hspaced.item.after (behind_head object after)
        (member_split hvalid hmembers hname)

/-! ## The scan at the top level -/

/-- The scan meets the name of the member before a value that is spelled as it. -/
inductive TopLevelSought (object : ObjectText) (field : Bytes) : Prop
  | absent (habsent : field ∉ object.names)
      (hvalues : ∀ other ∈ object.members.dropLast, other.value ≠ quoted field)
  | present (hlead : object.lead = []) {before after : List JsonMember} {member : JsonMember}
      (hmembers : object.members = before ++ member :: after) (hname : member.name = field)
      (hbefore : ∀ other ∈ before, other.value ≠ quoted field)

theorem ne_quote_of_plain (hfield : PlainName field) : quote ∉ field :=
  fun hmem => (hfield quote hmem).1 rfl

/-- A quoted name does not begin in front of itself where there are no quotes. -/
theorem not_infix_quoted (hfield : PlainName field) {front : Bytes} (hfront : quote ∉ front) :
    ¬ quoted field <:+: front ++ (quoted field).dropLast := by
  intro hinfix
  have hcount := hinfix.sublist.count_le quote
  have hdrop : (quoted field).dropLast = quote :: field := by
    rw [quoted, ← List.cons_append, List.dropLast_concat]
  rw [hdrop, quoted, List.count_append, List.count_cons_self, List.count_cons_self,
    List.count_append, List.count_eq_zero.mpr hfront,
    List.count_eq_zero.mpr (ne_quote_of_plain hfield)] at hcount
  exact absurd hcount (by decide)

variable {blanks : Bytes}

theorem blanks_no_quote (hblanks : Blanks blanks) : quote ∉ blanks :=
  fun hmem => ne_of_isBlank (hblanks quote hmem) (by decide) rfl

theorem take_between (front part rest : Bytes) :
    ((front ++ (part ++ rest)).drop front.length).take (front.length + part.length - front.length) =
      part := by
  rw [List.drop_left, Nat.add_sub_cancel_left, List.take_left]

/-- A text that begins with the member, or with white space and a comma in front of it. -/
theorem jsonMemberValue_begin (hfield : PlainName field) (hspaced : member.Spaced)
    (hvalue : IsValue member.value) {front cut tail text : Bytes} (hfront : quote ∉ front)
    (hcut : Blanks cut) (htail : ∀ c ∈ tail.head?, c = ascii ',' ∨ c = ascii '}')
    (htext : text = front ++ (quoted field ++ (member.behind ++ ascii ':' ::
      (member.before ++ (member.value ++ (cut ++ tail)))))) :
    ReadsAs (some member.value) (jsonMemberValue text field) := by
  have hfind : findText (quoted field) text = some front.length := by
    rw [htext]
    exact findText_append (quoted_ne_nil field) (not_infix_quoted hfield hfront)
  exact jsonMemberValue_found hfind hspaced.behind hspaced.item.before hvalue hcut htail htext

theorem topLevel_later (hvalid : object.Valid) (hfield : PlainName field)
    (hlead : object.lead = []) (hmembers : object.members = before ++ member :: after)
    (hbefore : ∀ other ∈ before, Misses field other) (hname : member.name = field)
    (hne : before ≠ []) :
    ReadsAs (some member.value) (topLevelJsonMemberValue object.text field) := by
  obtain ⟨_, ⟨hspaced, hvalue⟩, _⟩ := hvalid.of_split hmembers
  obtain ⟨cut, kept, hafter, hend⟩ := valueEndFrom_cut hspaced hvalue (behind_head object after)
  have hrange := topLevelMemberRange_name hvalid hfield hlead hmembers hbefore hname
  have htext := name_text hvalid hlead hmembers
  obtain ⟨earlier, last, rfl⟩ := (List.eq_nil_or_concat before).resolve_left hne
  rw [List.concat_eq_append] at hmembers htext hrange
  obtain ⟨front, hfront⟩ : ∃ front, front =
      ascii '{' :: (leading (earlier.map JsonMember.text) ++ last.text) := ⟨_, rfl⟩
  have hnameFront : nameFront (earlier ++ [last]) member = front ++ ascii ',' :: member.lead := by
    rw [nameFront, List.map_append, List.map_singleton, leading_concat, hfront]
    simp only [List.append_assoc, List.cons_append, List.nil_append]
  rw [hnameFront, hname] at htext
  rw [hnameFront, htext, memberRange_comma _ hspaced.lead hend, ← htext] at hrange
  have hpart : object.text = front ++ ((ascii ',' :: member.lead ++ (quoted field ++
      (member.behind ++ ascii ':' :: (member.before ++ (member.value ++ cut))))) ++
        (kept ++ object.behind after)) := by
    rw [htext]
    simp only [JsonItem.text, hafter, List.append_assoc, List.cons_append]
  have hlast : (front ++ ascii ',' :: member.lead).length + (quoted field).length +
      (member.behind ++ ascii ':' :: (member.before ++ (member.value ++ cut))).length =
        front.length + (ascii ',' :: member.lead ++ (quoted field ++
          (member.behind ++ ascii ':' :: (member.before ++ (member.value ++ cut))))).length := by
    simp only [List.length_append]
    omega
  rw [topLevelJsonMemberValue, hrange]
  dsimp only
  rw [hlast]
  nth_rewrite 1 [hpart]
  rw [take_between]
  have hquote : quote ∉ ascii ',' :: member.lead := by
    intro hmem
    rcases List.mem_cons.mp hmem with hcomma | hmem
    · exact absurd hcomma (by decide)
    · exact blanks_no_quote hspaced.lead hmem
  have hcut : Blanks cut := fun c hc => hspaced.item.after c (by
    rw [hafter]
    exact List.mem_append_left kept hc)
  refine @jsonMemberValue_begin field member hfield hspaced hvalue _ cut [] _ hquote hcut ?_ ?_
  · intro c hc
    cases hc
  · rw [List.append_nil]

theorem topLevel_first (hvalid : object.Valid) (hfield : PlainName field)
    (hlead : object.lead = []) (hmembers : object.members = member :: after)
    (hname : member.name = field) :
    ReadsAs (some member.value) (topLevelJsonMemberValue object.text field) := by
  have hsplit : object.members = [] ++ member :: after := hmembers
  obtain ⟨_, ⟨hspaced, hvalue⟩, _⟩ := hvalid.of_split hsplit
  obtain ⟨cut, kept, hafter, hend⟩ := valueEndFrom_cut hspaced hvalue (behind_head object after)
  have hrange := topLevelMemberRange_name hvalid hfield hlead hsplit
    (fun other hother => absurd hother List.not_mem_nil) hname
  have htext := name_text hvalid hlead hsplit
  have hnameFront : nameFront [] member = [] ++ ascii '{' :: member.lead := rfl
  rw [hnameFront, hname] at htext
  rw [hnameFront, htext, memberRange_first _ hspaced.lead (by decide) (by decide) hend, ← htext]
    at hrange
  dsimp only at hrange
  have hkept : Blanks kept := fun c hc => hspaced.item.after c (by
    rw [hafter]
    exact List.mem_append_right cut hc)
  have hcut : Blanks cut := fun c hc => hspaced.item.after c (by
    rw [hafter]
    exact List.mem_append_left kept hc)
  obtain ⟨front, hfront⟩ : ∃ front, front = [] ++ ascii '{' :: member.lead := ⟨_, rfl⟩
  obtain ⟨part, hpart⟩ : ∃ part, part = quoted field ++ (member.behind ++
      ascii ':' :: (member.before ++ (member.value ++ cut))) := ⟨_, rfl⟩
  have hsplit : object.text = front ++ (part ++ (kept ++ object.behind after)) := by
    rw [htext, hfront, hpart]
    simp only [JsonItem.text, hafter, List.append_assoc, List.cons_append]
  have hlength : ([] ++ ascii '{' :: member.lead).length + (quoted field).length +
      (member.behind ++ ascii ':' :: (member.before ++ (member.value ++ cut))).length =
        (front ++ part).length := by
    rw [hfront, hpart]
    simp only [List.length_append]
    omega
  have hblank : ∀ c ∈ (object.behind after).head?, isBlank c = false := by
    intro c hc
    rcases behind_head object after c hc with rfl | rfl <;> decide
  have hskip : skipWhitespace object.text (front ++ part).length =
      (front ++ part).length + kept.length := by
    rw [hsplit, ← List.append_assoc, skipWhitespace_blanks hkept _ hblank]
  have hbehind : object.text[(front ++ part).length + kept.length]? =
      (object.behind after).head? := by
    have hkeptSplit : object.text = (front ++ part ++ kept) ++ object.behind after := by
      rw [hsplit]
      simp only [List.append_assoc]
    rw [hkeptSplit, ← List.length_append, List.getElem?_append_right (Nat.le_refl _), Nat.sub_self,
      List.head?_eq_getElem?]
  rw [hlength, hskip, hbehind, ← hfront] at hrange
  rw [topLevelJsonMemberValue, hrange]
  cases after with
  | nil =>
      have hclose : ¬ (object.behind []).head? = some (ascii ',') := by
        intro hcomma
        exact absurd (Option.some.inj hcomma) (by decide)
      rw [if_neg hclose]
      dsimp only
      rw [hsplit, List.length_append, take_between]
      refine @jsonMemberValue_begin field member hfield hspaced hvalue [] cut [] _
        List.not_mem_nil hcut ?_ ?_
      · intro c hc
        cases hc
      · rw [hpart, List.append_nil, List.nil_append]
  | cons other after =>
      have hcomma : (object.behind (other :: after)).head? = some (ascii ',') := rfl
      obtain ⟨more, hmore⟩ : ∃ more, object.behind (other :: after) = ascii ',' :: more :=
        ⟨_, rfl⟩
      rw [if_pos hcomma]
      dsimp only
      have hwhole : object.text = front ++ ((part ++ (kept ++ [ascii ','])) ++ more) := by
        rw [hsplit, hmore]
        simp only [List.append_assoc, List.cons_append, List.nil_append]
      have hlast : (front ++ part).length + kept.length + 1 =
          front.length + (part ++ (kept ++ [ascii ','])).length := by
        simp only [List.length_append, List.length_cons, List.length_nil]
        omega
      rw [hwhole, hlast, take_between]
      refine @jsonMemberValue_begin field member hfield hspaced hvalue [] member.after [ascii ','] _
        List.not_mem_nil hspaced.item.after ?_ ?_
      · intro c hc
        exact .inl (Option.some.inj hc).symm
      · rw [hpart, hafter]
        simp only [List.append_assoc, List.cons_append, List.nil_append]

theorem topLevelJsonMemberValue_none {text : Bytes}
    (hrange : topLevelMemberRange text field = none) : topLevelJsonMemberValue text field = [] := by
  rw [topLevelJsonMemberValue, hrange]

theorem blanks_no_colon (hblanks : Blanks blanks) : ascii ':' ∉ blanks :=
  fun hmem => ne_of_isBlank (hblanks (ascii ':') hmem) (by decide) rfl

/-- Behind the value of the last member there is no colon. -/
theorem valueEndFrom_last (hvalid : object.Valid) (hspaced : member.Spaced) :
    valueEndFrom (member.after ++ object.behind []) 0 = none := by
  have habsent : ∀ c ∈ member.after ++ object.behind [], ¬ c = ascii ':' := by
    rintro c hc rfl
    rcases List.mem_append.mp hc with hc | hc
    · exact blanks_no_colon hspaced.item.after hc
    · rcases List.mem_cons.mp hc with hclose | hc
      · exact absurd hclose (by decide)
      · exact blanks_no_colon hvalid.trail hc
  rw [valueEndFrom, List.drop_zero, List.findIdx?_eq_none_iff.mpr]
  intro c hc
  exact decide_eq_false (habsent c hc)

theorem topLevelMemberRange_absent (hvalid : object.Valid) (hfield : PlainName field)
    (habsent : field ∉ object.names)
    (hvalues : ∀ other ∈ object.members.dropLast, other.value ≠ quoted field) :
    topLevelMemberRange object.text field = none := by
  rcases first_hit field object.members with hmiss | ⟨before, member, after, hmembers, hbefore, hhit⟩
  · exact topLevelMemberRange_miss hvalid hfield hmiss
  · have hmember : member ∈ object.members := by simp [hmembers]
    have hname : member.name ≠ field := fun hname => habsent (name_mem hfield hmember hname)
    have hvalue : member.value = quoted field := by
      by_contra hvalue
      exact hhit ⟨hname, hvalue⟩
    have hlast : after = [] := by
      by_contra hne
      refine hvalues member ?_ hvalue
      rw [hmembers, List.dropLast_append_of_ne_nil (List.cons_ne_nil _ _),
        List.dropLast_cons_of_ne_nil hne]
      exact List.mem_append_right _ List.mem_cons_self
    subst hlast
    exact topLevelMemberRange_unended hvalid hfield hmembers hbefore hname hvalue
      (valueEndFrom_last hvalid (hvalid.spaced member hmember))

theorem topLevelJsonMemberValue_reads (hsought : TopLevelSought object field)
    (hvalid : object.Valid) (hnames : object.names.Nodup) (hfield : PlainName field) :
    ReadsAs (object.value field) (topLevelJsonMemberValue object.text field) := by
  cases hsought with
  | absent habsent hvalues =>
      rw [value_absent habsent]
      exact topLevelJsonMemberValue_none
        (topLevelMemberRange_absent hvalid hfield habsent hvalues)
  | @present hlead before after member hmembers hname hbefore =>
      have hmisses := earlier_misses hfield hnames hmembers hname hbefore
      rw [value_present hfield hnames hmembers hname]
      by_cases hne : before = []
      · subst hne
        exact topLevel_first hvalid hfield hlead hmembers hname
      · exact topLevel_later hvalid hfield hlead hmembers hmisses hname hne

/-! ## Strings -/

/-- The member is a string that is decoded by leaving backslashes out, or from its colon on there
is no string at all. -/
def StringReadable (object : ObjectText) (field : Bytes) : Prop :=
  ∀ before member after, object.members = before ++ member :: after → member.name = field →
    (∃ body, IsBody body ∧ member.value = quoted body ∧ unescape body = dropEscapes body false) ∨
      quote ∉ member.toJsonItem.text ++ object.behind after

theorem findIdx?_first {c : UInt8} {run : Bytes} (hrun : c ∉ run) (rest : Bytes) :
    (run ++ c :: rest).findIdx? (· = c) = some run.length := by
  induction run with
  | nil =>
      rw [List.nil_append, List.findIdx?_cons, if_pos (decide_eq_true rfl)]
      rfl
  | cons first run ih =>
      have hne : ¬ decide (first = c) = true := by
        rw [decide_eq_true_eq]
        rintro rfl
        exact hrun List.mem_cons_self
      rw [List.cons_append, List.findIdx?_cons, if_neg hne,
        ih fun hmem => hrun (List.mem_cons_of_mem first hmem)]
      rfl

theorem findIdx?_absent {c : UInt8} {text : Bytes} (habsent : c ∉ text) :
    text.findIdx? (· = c) = none := by
  rw [List.findIdx?_eq_none_iff]
  intro other hother
  refine decide_eq_false ?_
  rintro rfl
  exact habsent hother

theorem simpleJsonStringField_none {text : Bytes} (hcolon : behindColon text field = none)
    (fallback : Bytes) : ProjectOrchestration.simpleJsonStringField text field fallback = fallback := by
  rw [ProjectOrchestration.simpleJsonStringField, hcolon]

section Fields

variable {text opened rest : Bytes}

theorem simpleJsonStringField_string (hcolon : behindColon text field = some opened.length)
    {body : Bytes} (hblanks : Blanks blanks) (hbody : IsBody body)
    (htext : text = opened ++ (blanks ++ (quoted body ++ rest))) (fallback : Bytes) :
    ProjectOrchestration.simpleJsonStringField text field fallback =
      if dropEscapes body false = [] then fallback else dropEscapes body false := by
  have hdrop : text.drop opened.length = blanks ++ quote :: (body ++ quote :: rest) := by
    rw [htext, List.drop_left, quoted_append]
  have hbehind : text.drop (opened.length + blanks.length + 1) = body ++ quote :: rest := by
    rw [← List.drop_drop, ← List.drop_drop, hdrop, List.drop_left, List.drop_one, List.tail_cons]
  rw [ProjectOrchestration.simpleJsonStringField, hcolon]
  dsimp only
  rw [hdrop, findIdx?_first (blanks_no_quote hblanks)]
  dsimp only
  rw [hbehind, readStringField_body hbody.unquoted, List.nil_append]

theorem simpleJsonStringField_other (hcolon : behindColon text field = some opened.length)
    (htext : text = opened ++ rest) (hrest : quote ∉ rest) (fallback : Bytes) :
    ProjectOrchestration.simpleJsonStringField text field fallback = fallback := by
  rw [ProjectOrchestration.simpleJsonStringField, hcolon]
  dsimp only
  rw [htext, List.drop_left, findIdx?_absent hrest]

end Fields

theorem stringOr_quoted (fallback body : Bytes) :
    stringOr fallback (some (quoted body)) =
      if unescape body = [] then fallback else unescape body := by
  rw [stringOr, Option.bind_some, decodedText_quoted]

theorem simpleJsonStringField_reads (hsought : Sought object field)
    (hreadable : StringReadable object field) (hvalid : object.Valid)
    (hnames : object.names.Nodup) (hfield : PlainName field) (fallback : Bytes) :
    ProjectOrchestration.simpleJsonStringField object.text field fallback =
      stringOr fallback (object.value field) := by
  cases hsought with
  | absent habsent hunread =>
      rw [value_absent habsent]
      exact simpleJsonStringField_none (behindColon_none hunread) fallback
  | @present before after member hmembers hname hfirst =>
      obtain ⟨_, ⟨hspaced, _⟩, _⟩ := hvalid.of_split hmembers
      have hcolon := behindColon_member hvalid hmembers hname hfirst
      have htext : object.text = ((object.lead ++ nameFront before member) ++
          (quoted field ++ (member.behind ++ [ascii ':']))) ++
            (member.before ++ (member.value ++ (member.after ++ object.behind after))) := by
        rw [member_split hvalid hmembers hname]
        simp only [List.append_assoc, List.cons_append, List.nil_append]
      rw [value_present hfield hnames hmembers hname]
      rcases hreadable before member after hmembers hname with ⟨body, hbody, hvalue, hdecoded⟩ | hquote
      · rw [hvalue] at htext ⊢
        rw [simpleJsonStringField_string hcolon hspaced.item.before hbody htext, stringOr_quoted,
          hdecoded]
      · have hrest : quote ∉ member.before ++ (member.value ++
            (member.after ++ object.behind after)) := by
          intro hmem
          refine hquote ?_
          rw [JsonItem.text, List.append_assoc, List.append_assoc]
          exact hmem
        have hhead : member.value.head? ≠ some quote := by
          intro hhead
          refine hrest (List.mem_append_right _ (List.mem_append_left _ ?_))
          exact List.mem_of_mem_head? hhead
        rw [simpleJsonStringField_other hcolon htext hrest, stringOr, Option.bind_some,
          decodedText_of_ne hhead]

/-! ## Arrays -/

variable {value : Bytes} {items : List JsonItem}

theorem array_head (harray : IsArray value items) (rest : Bytes) :
    (value ++ rest).head? = some (ascii '[') := by
  cases harray with
  | empty _ => rfl
  | items _ _ _ => rfl

theorem simpleJsonStringArrayField_reads
    (hreads : ReadsAs (some value) (jsonMemberValue object.text field))
    (harray : IsArray value items) (hitems : ∀ item ∈ items, StringItem item.value) :
    simpleJsonStringArrayField object.text field =
      items.filterMap fun item => decodedText item.value := by
  obtain ⟨blanks, _, hread⟩ := hreads
  rw [simpleJsonStringArrayField, hread, if_pos (array_head harray blanks)]
  exact collectStrings_array harray hitems blanks

theorem jsonObjectArrayItems_reads
    (hreads : ReadsAs (some value) (jsonMemberValue object.text field))
    (harray : IsArray value items) (hitems : ∀ item ∈ items, ObjectItem item.value) :
    jsonObjectArrayItems (jsonMemberValue object.text field) =
      items.filterMap fun item => objectOf item.value := by
  obtain ⟨blanks, _, hread⟩ := hreads
  rw [hread]
  exact jsonObjectArrayItems_array harray hitems blanks

/-- What is no array has no items. -/
theorem noArray_reads (hreads : ReadsAs (object.value field) (jsonMemberValue object.text field))
    (hvalues : ∀ value ∈ object.value field, value ≠ [] ∧ value.head? ≠ some (ascii '[')) :
    simpleJsonStringArrayField object.text field = [] ∧
      jsonObjectArrayItems (jsonMemberValue object.text field) = [] := by
  have hhead : (jsonMemberValue object.text field).head? ≠ some (ascii '[') := by
    cases hvalue : object.value field with
    | none =>
        rw [hvalue] at hreads
        rw [show jsonMemberValue object.text field = [] from hreads]
        rintro ⟨⟩
    | some value =>
        rw [hvalue] at hreads
        obtain ⟨blanks, _, hread⟩ := hreads
        obtain ⟨hne, hother⟩ := hvalues value hvalue
        rw [hread, List.head?_append_of_ne_nil _ hne]
        exact hother
  exact ⟨if_neg hhead, if_neg hhead⟩

theorem value_of_mem (hvalid : object.Valid) (hvalue : object.value field = some value) :
    IsValue value := by
  obtain ⟨member, hfind, rfl⟩ := Option.map_eq_some_iff.mp hvalue
  exact hvalid.values member (List.mem_of_find?_eq_some hfind)

/-- Every lookup gives what it is for, where its scan meets nothing that it takes for what it
looks for. -/
theorem lookups_read (object : ObjectText) (field : Bytes) (hvalid : object.Valid)
    (hnames : object.names.Nodup) (hfield : PlainName field) :
    (Sought object field → ReadsAs (object.value field) (jsonMemberValue object.text field)) ∧
    (TopLevelSought object field →
      ReadsAs (object.value field) (topLevelJsonMemberValue object.text field)) ∧
    (Sought object field → StringReadable object field → ∀ fallback,
      ProjectOrchestration.simpleJsonStringField object.text field fallback =
        stringOr fallback (object.value field)) ∧
    (Sought object field → ∀ value items, object.value field = some value →
      IsArray value items → (∀ item ∈ items, StringItem item.value) →
        simpleJsonStringArrayField object.text field =
          items.filterMap fun item => decodedText item.value) ∧
    (Sought object field → ∀ value items, object.value field = some value →
      IsArray value items → (∀ item ∈ items, ObjectItem item.value) →
        jsonObjectArrayItems (jsonMemberValue object.text field) =
          items.filterMap fun item => objectOf item.value) ∧
    (Sought object field →
      (∀ value ∈ object.value field, value.head? ≠ some (ascii '[')) →
        simpleJsonStringArrayField object.text field = [] ∧
          jsonObjectArrayItems (jsonMemberValue object.text field) = []) := by
  have hmember : Sought object field →
      ReadsAs (object.value field) (jsonMemberValue object.text field) :=
    fun hsought => jsonMemberValue_reads hsought hvalid hnames hfield
  refine ⟨hmember, fun hsought => topLevelJsonMemberValue_reads hsought hvalid hnames hfield,
    fun hsought hreadable fallback => simpleJsonStringField_reads hsought hreadable hvalid hnames
      hfield fallback, fun hsought value items hvalue harray hitems => ?_,
    fun hsought value items hvalue harray hitems => ?_, fun hsought hother => ?_⟩
  · exact simpleJsonStringArrayField_reads (hvalue ▸ hmember hsought) harray hitems
  · exact jsonObjectArrayItems_reads (hvalue ▸ hmember hsought) harray hitems
  · refine noArray_reads (hmember hsought) fun value hvalue => ⟨?_, hother value hvalue⟩
    exact value_ne_nil (value_of_mem hvalid hvalue)

theorem twoMembers_sought (second : String)
    (hfirst : ¬ quoted (asciiBytes "b") <:+:
      nameFront [{ name := asciiBytes "a", value := asciiBytes "true" }]
        { name := asciiBytes "b", value := asciiBytes second } ++
          (quoted (asciiBytes "b")).dropLast) :
    Sought (twoMembers second) (asciiBytes "b") :=
  @Sought.present (twoMembers second) (asciiBytes "b")
    [{ name := asciiBytes "a", value := asciiBytes "true" }] []
    { name := asciiBytes "b", value := asciiBytes second } rfl rfl hfirst

/-- A member that is null, and one that is an array of one string. -/
theorem twoMembers_read :
    (ReadsAs (some (asciiBytes "null"))
        (topLevelJsonMemberValue (twoMembers "null").text (asciiBytes "b")) ∧
      ProjectOrchestration.simpleJsonStringField (twoMembers "null").text (asciiBytes "b") (asciiBytes "c") =
        asciiBytes "c" ∧
      simpleJsonStringArrayField (twoMembers "null").text (asciiBytes "b") = []) ∧
    ReadsAs (some (asciiBytes "[\"c\"]"))
        (jsonMemberValue (twoMembers "[\"c\"]").text (asciiBytes "b")) ∧
      simpleJsonStringArrayField (twoMembers "[\"c\"]").text (asciiBytes "b") =
        [asciiBytes "c"] ∧
      jsonObjectArrayItems (jsonMemberValue (twoMembers "[\"c\"]").text (asciiBytes "b")) =
        [] := by
  have hvalid := twoMembers_valid (.literal (by decide) : IsValue (asciiBytes "null"))
  have hsought := twoMembers_sought "null" (by decide)
  have hvalue : (twoMembers "null").value (asciiBytes "b") = some (asciiBytes "null") := by
    decide
  obtain ⟨_, htop, hstring, _, _, hnone⟩ := lookups_read (twoMembers "null") (asciiBytes "b")
    hvalid (by decide) (plainName_letters _ (by decide))
  rw [hvalue] at htop hstring hnone
  have hletter : PlainName (asciiBytes "c") := plainName_letters _ (by decide)
  have hlist : asciiBytes "[\"c\"]" = ascii '[' :: (commaJoined
      ([{ value := quoted (asciiBytes "c") }].map JsonItem.text) ++ [ascii ']']) := by
    decide
  have hblanks : Blanks [] := fun _ hc => absurd hc List.not_mem_nil
  have harray : IsArray (asciiBytes "[\"c\"]") [{ value := quoted (asciiBytes "c") }] := by
    rw [hlist]
    exact .items (List.cons_ne_nil _ _) (List.forall_mem_singleton.mpr ⟨hblanks, hblanks⟩)
      (List.forall_mem_singleton.mpr (.string hletter.isBody))
  have hlisted : IsValue (asciiBytes "[\"c\"]") := by
    rw [hlist]
    exact .array (List.cons_ne_nil _ _) (List.forall_mem_singleton.mpr ⟨hblanks, hblanks⟩)
      (List.forall_mem_singleton.mpr (.string hletter.isBody))
  have hsecond := twoMembers_sought "[\"c\"]" (by decide)
  have hheld : (twoMembers "[\"c\"]").value (asciiBytes "b") = some (asciiBytes "[\"c\"]") := by
    decide
  obtain ⟨hmember, _, _, hstrings, hobjects, _⟩ := lookups_read (twoMembers "[\"c\"]")
    (asciiBytes "b") (twoMembers_valid hlisted) (by decide) (plainName_letters _ (by decide))
  rw [hheld] at hmember
  refine ⟨⟨htop ?_, (hstring hsought ?_ (asciiBytes "c")).trans (by decide), ?_⟩,
    hmember hsecond, (hstrings hsecond _ _ hheld harray ?_).trans (by decide),
    (hobjects hsecond _ _ hheld harray ?_).trans (by decide)⟩
  · exact @TopLevelSought.present (twoMembers "null") (asciiBytes "b") rfl
      [{ name := asciiBytes "a", value := asciiBytes "true" }] [] _ rfl rfl (by decide)
  · intro before member after hmembers hname
    have hlast : after = [] ∧ member.toJsonItem = { value := asciiBytes "null" } := by
      match before, hmembers with
      | [], hmembers =>
          obtain ⟨rfl, _⟩ := List.cons.inj hmembers
          exact absurd hname (by decide)
      | [_], hmembers =>
          obtain ⟨_, hrest⟩ := List.cons.inj hmembers
          obtain ⟨rfl, rfl⟩ := List.cons.inj hrest
          exact ⟨rfl, rfl⟩
      | _ :: _ :: before, hmembers =>
          obtain ⟨_, hrest⟩ := List.cons.inj hmembers
          obtain ⟨_, hrest⟩ := List.cons.inj hrest
          cases before <;> cases hrest
    rw [hlast.1, hlast.2]
    exact .inr (by decide)
  · refine (hnone hsought ?_).1
    intro value hvalue
    cases hvalue
    decide
  · refine List.forall_mem_singleton.mpr (.inr ⟨asciiBytes "c", hletter.isBody, rfl, ?_⟩)
    decide
  · exact List.forall_mem_singleton.mpr (.inr (by decide +kernel))

/-- The name of a member of a member, in front of the one at the top. -/
def nestedFirst : ObjectText where
  members :=
    [{ name := asciiBytes "a"
       value := ascii '{' ::
        (commaJoined ([{ name := asciiBytes "b", value := asciiBytes "true" }].map
          JsonMember.text) ++ [ascii '}']) },
      { name := asciiBytes "b", value := asciiBytes "null" }]

theorem plainMember_spaced {name : Bytes} (hname : PlainName name) (value : Bytes) :
    ({ name, value } : JsonMember).Spaced :=
  ⟨fun _ hc => absurd hc List.not_mem_nil, hname.isBody,
    fun _ hc => absurd hc List.not_mem_nil,
    fun _ hc => absurd hc List.not_mem_nil, fun _ hc => absurd hc List.not_mem_nil⟩

theorem nestedFirst_valid : nestedFirst.Valid := by
  have hletters : PlainName (asciiBytes "a") ∧ PlainName (asciiBytes "b") :=
    ⟨plainName_letters _ (by decide), plainName_letters _ (by decide)⟩
  have hnested : IsValue (asciiBytes "true") := .literal (by decide)
  have hobject : IsValue (ascii '{' ::
      (commaJoined ([{ name := asciiBytes "b", value := asciiBytes "true" }].map
        JsonMember.text) ++ [ascii '}'])) := by
    refine .object (List.cons_ne_nil _ _) ?_ ?_
    · exact List.forall_mem_singleton.mpr (plainMember_spaced hletters.2 _)
    · exact List.forall_mem_singleton.mpr hnested
  have hblanks : Blanks [] := fun _ hc => absurd hc List.not_mem_nil
  refine ⟨hblanks, hblanks, hblanks, fun _ => rfl, ?_, ?_⟩
  · refine List.forall_mem_cons.mpr ⟨plainMember_spaced hletters.1 _, ?_⟩
    exact List.forall_mem_singleton.mpr (plainMember_spaced hletters.2 _)
  · refine List.forall_mem_cons.mpr ⟨hobject, ?_⟩
    exact List.forall_mem_singleton.mpr (.literal (by decide))

theorem nested_member_read : ¬ ∀ (object : ObjectText) (field : Bytes), object.Valid →
    object.names.Nodup → PlainName field → LooksUp object field := by
  intro hlooks
  have hlookup := hlooks nestedFirst (asciiBytes "b") nestedFirst_valid (by decide)
    (plainName_letters _ (by decide))
  have hvalue : nestedFirst.value (asciiBytes "b") = some (asciiBytes "null") := by decide
  have hread : jsonMemberValue nestedFirst.text (asciiBytes "b") = asciiBytes "true" := by
    decide
  have hreads := hlookup.member
  rw [hvalue, hread] at hreads
  obtain ⟨blanks, _, hsame⟩ := hreads
  have hhead := congrArg List.head? hsame
  rw [List.head?_append_of_ne_nil _ (by decide)] at hhead
  exact absurd hhead (by decide)

end AudioStudio.Gui
