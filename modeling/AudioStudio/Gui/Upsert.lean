import AudioStudio.Gui.MemberScan

/-!
# Members set in a text

When the text that `upsertObjectMember` returns is the text of the object with the member
set, and what becomes of a workspace file over a chain of such splices.
-/

namespace AudioStudio.Gui

open AudioStudio.LittleEndian
open AudioStudio.Rpc
open AudioStudio.Rpc.Parser

/-! ## Splices in a range -/

variable {text field : Bytes} {object : ObjectText} {before after : List JsonMember}
variable {member : JsonMember}

theorem upsertObjectMember_none (hrange : topLevelMemberRange text field = none) (value : Bytes) :
    upsertObjectMember text field value =
      appendObjectFields text (quoted field ++ ascii ':' :: value) := by
  rw [upsertObjectMember, hrange]

/-- The name and the value that are written. -/
def replacement (field value : Bytes) : Bytes :=
  quoted field ++ ascii ':' :: value

theorem upsertObjectMember_comma {front rest : Bytes} (hfront : front ≠ []) {last : Nat}
    (hrange : topLevelMemberRange (front ++ ascii ',' :: rest) field = some (front.length, last))
    (value : Bytes) :
    upsertObjectMember (front ++ ascii ',' :: rest) field value =
      front ++ ascii ',' :: (replacement field value ++
        (front ++ ascii ',' :: rest).drop last) := by
  have hleading : 0 < front.length ∧ (front ++ ascii ',' :: rest)[front.length]? =
      some (ascii ',') := ⟨List.length_pos_iff.mpr hfront, getElem?_front _ _ _⟩
  rw [upsertObjectMember, hrange]
  dsimp only
  rw [if_pos (by simpa using hleading), List.take_left]
  rfl

theorem upsertObjectMember_name {front rest : Bytes} {last : Nat}
    (hrange : topLevelMemberRange (front ++ (quoted field ++ rest)) field =
      some (front.length, last)) (value : Bytes) :
    upsertObjectMember (front ++ (quoted field ++ rest)) field value =
      front ++ (replacement field value ++ (front ++ (quoted field ++ rest)).drop last) := by
  have hother : ¬ (0 < front.length ∧ (front ++ (quoted field ++ rest))[front.length]? =
      some (ascii ',')) := by
    rintro ⟨_, hcomma⟩
    rw [quoted_append, getElem?_front] at hcomma
    exact absurd (Option.some.inj hcomma) (by decide)
  rw [upsertObjectMember, hrange]
  dsimp only
  rw [if_neg (by simpa using hother), List.take_left]
  rfl

/-! ## Members appended -/

variable {value : Bytes}

theorem value_last (hvalue : IsValue value) :
    ∃ front last, value = front ++ [last] ∧ isBlank last = false ∧ last ≠ ascii '{' := by
  rcases hvalue.scalar_or_closed with hscalar | hclosed
  · rcases List.eq_nil_or_concat value with hnil | ⟨front, last, hvalue⟩
    · exact absurd hnil hscalar.ne_nil
    · rw [List.concat_eq_append] at hvalue
      have hlast := hscalar.chars last (by simp [hvalue])
      exact ⟨front, last, hvalue, not_blank_of_scalar hlast,
        (isPlain_of_isScalarChar hlast).openBrace⟩
  · obtain ⟨front, last, hvalue, hlast⟩ := hclosed.closed
    refine ⟨front, last, hvalue, ?_⟩
    rcases hlast with rfl | rfl | rfl <;> decide

theorem opened_append (object : ObjectText) (rest : Bytes) :
    object.opened rest = object.opened [] ++ rest := by
  simp only [ObjectText.opened, List.append_assoc, List.cons_append, List.append_nil]

/-- Behind the last member stands no brace. -/
theorem opened_last (hvalid : object.Valid) (hne : object.members ≠ []) :
    ∃ front last blanks, object.opened [] = front ++ last :: blanks ∧ Blanks blanks ∧
      isBlank last = false ∧ last ≠ ascii '{' := by
  rcases List.eq_nil_or_concat object.members with hnil | ⟨before, member, hmembers⟩
  · exact absurd hnil hne
  · rw [List.concat_eq_append] at hmembers
    have hmember : member ∈ object.members := by simp [hmembers]
    obtain ⟨front, last, hvalue, hblank, hlast⟩ := value_last (hvalid.values member hmember)
    have hafter := (hvalid.spaced member hmember).item.after
    refine ⟨object.lead ++ ascii '{' :: (object.blanks ++ (leading (before.map JsonMember.text) ++
      (member.front ++ front))), last, member.after, ?_, hafter, hblank, hlast⟩
    have htext := member_text member []
    rw [hvalue] at htext
    rw [ObjectText.opened, hmembers, List.map_append, List.map_singleton, commaJoined_append,
      List.append_assoc, List.append_assoc, ← List.append_nil member.text, List.append_assoc]
    simp only [following, List.flatMap_nil, List.nil_append, htext, List.append_assoc,
      List.cons_append, List.append_nil]

/-- What is appended stands behind the members, with a comma where there are some. -/
theorem appendObjectFields_text (hvalid : object.Valid) (fields : Bytes) :
    appendObjectFields object.text fields =
      object.opened ((if object.members = [] then [] else [ascii ',']) ++
        (fields ++ ascii '}' :: object.trail)) := by
  have htext : object.text = object.opened [] ++ ascii '}' :: object.trail :=
    opened_append object _
  have hbrace : ascii '{' ∈ object.opened [] :=
    List.mem_append_right _ List.mem_cons_self
  have hlast : skipWhitespaceBack object.text object.text.length =
      (object.opened []).length + 1 := by
    have hfront := skipWhitespaceBack_front object.text []
    rw [List.append_nil] at hfront
    rw [hfront, htext, rdropWhile_blanks hvalid.trail _ (by decide), List.length_append]
    rfl
  have hclose : object.text[(object.opened []).length]? = some (ascii '}') := by
    rw [htext]
    exact getElem?_front _ _ _
  have hout : object.text.take (object.opened []).length = object.opened [] := by
    rw [htext, List.take_left]
  have hrest : object.text.drop (object.opened []).length = ascii '}' :: object.trail := by
    rw [htext, List.drop_left]
  have hbefore : skipWhitespaceBack (object.opened []) (object.opened []).length =
      ((object.opened []).rdropWhile (isBlank ·)).length := by
    have hfront := skipWhitespaceBack_front (object.opened []) []
    rwa [List.append_nil] at hfront
  rw [opened_append, appendObjectFields, hlast]
  dsimp only
  rw [Nat.add_sub_cancel, hout, hrest, hbefore, if_neg]
  · by_cases hmembers : object.members = []
    · have hopened : object.opened [] = object.lead ++ ascii '{' :: object.blanks := by
        rw [ObjectText.opened, hmembers]
        simp only [List.map_nil, commaJoined, List.append_nil]
      rw [if_pos hmembers, if_neg]
      rintro ⟨_, _, hother⟩
      rw [hopened, rdropWhile_blanks hvalid.blanks _ (by decide)] at hother
      rw [List.length_append, List.length_singleton, Nat.add_sub_cancel, getElem?_front] at hother
      exact hother rfl
    · obtain ⟨front, last, blanks, hopened, hblanks, hblank, hne⟩ := opened_last hvalid hmembers
      rw [if_neg hmembers, if_pos]
      have hlength : ((object.opened []).rdropWhile (isBlank ·)).length = front.length + 1 := by
        rw [hopened, rdropWhile_blanks hblanks _ hblank, List.length_append]
        rfl
      refine ⟨by rw [hlength]; exact Nat.succ_pos _, hbrace, ?_⟩
      rw [hlength, Nat.add_sub_cancel]
      nth_rewrite 1 [hopened]
      rw [getElem?_front]
      exact fun hsame => hne (Option.some.inj hsame)
  · rintro (hzero | hother)
    · exact absurd hzero (Nat.succ_ne_zero _)
    · exact hother hclose

/-! ## Objects with a member set -/

/-- The members of an object with one of them set, or added behind them. -/
def setEntry (entries : List (Bytes × Bytes)) (name value : Bytes) : List (Bytes × Bytes) :=
  if name ∈ entries.map Prod.fst then
    entries.map fun entry => if entry.1 = name then (name, value) else entry
  else entries ++ [(name, value)]

/-- The text of an object that has the members of another one, with a member set. -/
def SetsMember (object : ObjectText) (field value out : Bytes) : Prop :=
  ∃ object' : ObjectText, object'.Valid ∧ object'.text = out ∧
    object'.entries.Perm (setEntry object.entries field value)

theorem names_eq (object : ObjectText) : object.names = object.entries.map Prod.fst := by
  rw [ObjectText.names, ObjectText.entries, List.map_map]
  rfl

/-- A member as it is written by a splice. -/
def newMember (lead field value after : Bytes) : JsonMember :=
  { lead, name := field, value, after }

theorem newMember_text (lead field value after : Bytes) :
    (newMember lead field value after).text = lead ++ (replacement field value ++ after) := by
  simp only [newMember, JsonMember.text, JsonItem.text, replacement, List.nil_append,
    List.append_assoc, List.cons_append]

theorem newMember_spaced {lead after : Bytes} (hlead : Blanks lead) (hfield : PlainName field)
    (hafter : Blanks after) :
    (newMember lead field value after).Spaced where
  lead := hlead
  name := hfield.isBody
  behind := fun _ hc => absurd hc List.not_mem_nil
  item := ⟨fun _ hc => absurd hc List.not_mem_nil, hafter⟩

theorem newMember_entry (hfield : PlainName field) (lead value after : Bytes) :
    (newMember lead field value after).entry = (field, value) := by
  rw [JsonMember.entry, newMember]
  exact congrArg (·, value) (unescape_plain hfield)

/-! ### Without a range -/

/-- The object with a member behind the others. -/
def ObjectText.appended (object : ObjectText) (field value : Bytes) : ObjectText :=
  { object with
    blanks := []
    members := object.members ++ [newMember object.blanks field value []] }

theorem commaJoined_concat (parts : List Bytes) (part : Bytes) :
    commaJoined (parts ++ [part]) =
      commaJoined parts ++ ((if parts = [] then [] else [ascii ',']) ++ part) := by
  cases parts with
  | nil => simp only [List.nil_append, commaJoined, following, List.flatMap_nil, List.append_nil,
      if_true]
  | cons first parts =>
      rw [if_neg (List.cons_ne_nil _ _)]
      simp only [List.cons_append, commaJoined, following, List.flatMap_append, List.flatMap_cons,
        List.flatMap_nil, List.append_nil, List.append_assoc, List.nil_append]

theorem appended_text (hvalid : object.Valid) (field value : Bytes) :
    (object.appended field value).text =
      appendObjectFields object.text (replacement field value) := by
  rw [appendObjectFields_text hvalid, ObjectText.appended, ObjectText.text, ObjectText.opened,
    List.map_append, List.map_singleton, commaJoined_concat, newMember_text]
  by_cases hmembers : object.members = []
  · simp only [hmembers, List.map_nil, if_true, commaJoined, List.nil_append, List.append_nil,
      List.append_assoc]
  · have hne : object.members.map JsonMember.text ≠ [] := List.map_eq_nil_iff.not.mpr hmembers
    rw [if_neg hmembers, if_neg hne, hvalid.inner hmembers]
    simp only [List.nil_append, List.append_nil, List.append_assoc]

theorem appended_valid (hvalid : object.Valid) (hfield : PlainName field) (hvalue : IsValue value) :
    (object.appended field value).Valid := by
  have hnew : (newMember object.blanks field value []).Spaced :=
    newMember_spaced hvalid.blanks hfield fun _ hc => absurd hc List.not_mem_nil
  constructor
  · exact hvalid.lead
  · exact fun _ hc => absurd hc List.not_mem_nil
  · exact hvalid.trail
  · exact fun _ => rfl
  · intro member hmember
    rcases List.mem_append.mp hmember with hmember | hmember
    · exact hvalid.spaced member hmember
    · rw [List.mem_singleton.mp hmember]
      exact hnew
  · intro member hmember
    rcases List.mem_append.mp hmember with hmember | hmember
    · exact hvalid.values member hmember
    · rw [List.mem_singleton.mp hmember]
      exact hvalue

theorem appended_entries (hfield : PlainName field) (value : Bytes) :
    (object.appended field value).entries = object.entries ++ [(field, value)] := by
  rw [ObjectText.entries, ObjectText.appended, List.map_append, List.map_singleton,
    newMember_entry hfield, ObjectText.entries]

theorem upsertObjectMember_appended (hvalid : object.Valid)
    (hrange : topLevelMemberRange object.text field = none) (value : Bytes) :
    upsertObjectMember object.text field value = (object.appended field value).text :=
  (upsertObjectMember_none hrange value).trans (appended_text hvalid field value).symm

/-- Where nothing is found, the member is set if no member has its name. -/
theorem setsMember_appended_iff (hvalid : object.Valid) (hfield : PlainName field)
    (hvalue : IsValue value) (hrange : topLevelMemberRange object.text field = none) :
    SetsMember object field value (upsertObjectMember object.text field value) ↔
      field ∉ object.names := by
  have happended := appended_valid hvalid hfield hvalue
  rw [upsertObjectMember_appended hvalid hrange, names_eq]
  constructor
  · rintro ⟨object', hvalid', htext, hentries⟩ hname
    have hclose : Stops (ascii '}' :: (object.appended field value).trail) :=
      stops_cons (by decide) _
    obtain ⟨hmembers, _⟩ := opened_unique happended hvalid' hclose (by decide) (Or.inl rfl)
      htext.symm
    have hsame : object'.entries = object.entries ++ [(field, value)] := by
      rw [← appended_entries hfield, ObjectText.entries, ObjectText.entries, hmembers]
    have hlength := hentries.length_eq
    rw [hsame, setEntry, if_pos hname, List.length_append, List.length_map] at hlength
    exact absurd hlength (Nat.succ_ne_self _)
  · intro hname
    refine ⟨_, happended, rfl, ?_⟩
    rw [appended_entries hfield, setEntry, if_neg hname]

/-! ### With a range -/

/-- The object with another member in the place of one. -/
def ObjectText.replaced (object : ObjectText) (before : List JsonMember) (member : JsonMember)
    (after : List JsonMember) : ObjectText :=
  { object with members := before ++ member :: after }

theorem members_valid (hvalid : object.Valid) (hne : object.members ≠ [])
    {members : List JsonMember} (hall : ∀ member ∈ members, member.Spaced ∧ IsValue member.value) :
    ({ object with members := members } : ObjectText).Valid where
  lead := hvalid.lead
  blanks := hvalid.blanks
  trail := hvalid.trail
  inner := fun _ => hvalid.inner hne
  spaced := fun member hmember => (hall member hmember).1
  values := fun member hmember => (hall member hmember).2

theorem replaced_valid (hvalid : object.Valid)
    (hmembers : object.members = before ++ member :: after) {other : JsonMember}
    (hspaced : other.Spaced) (hvalue : IsValue other.value) :
    (object.replaced before other after).Valid := by
  obtain ⟨hbefore, _, hafter⟩ := hvalid.of_split hmembers
  apply members_valid hvalid (ne_nil_of_split hmembers)
  intro member hmember
  rcases List.mem_append.mp hmember with hmember | hmember
  · exact hbefore member hmember
  · rcases List.mem_cons.mp hmember with rfl | hmember
    · exact ⟨hspaced, hvalue⟩
    · exact hafter member hmember

/-- With names that are distinct, only the member of the name is set. -/
theorem setEntry_split (hnames : object.names.Nodup)
    (hmembers : object.members = before ++ member :: after) (hname : unescape member.name = field)
    (value : Bytes) : setEntry object.entries field value =
      before.map JsonMember.entry ++ (field, value) :: after.map JsonMember.entry := by
  have hsplit : object.names = before.map (fun member => unescape member.name) ++
      field :: after.map (fun member => unescape member.name) := by
    rw [ObjectText.names, hmembers, List.map_append, List.map_cons, hname]
  have hdistinct := List.nodup_middle.mp (hsplit ▸ hnames)
  rw [List.nodup_cons, List.mem_append] at hdistinct
  have hkept : ∀ members : List JsonMember,
      field ∉ members.map (fun member => unescape member.name) →
      (members.map JsonMember.entry).map
        (fun entry => if entry.1 = field then (field, value) else entry) =
          members.map JsonMember.entry := by
    intro members habsent
    rw [List.map_map]
    apply List.map_congr_left
    intro other hother
    apply if_neg
    intro hsame
    exact habsent (List.mem_map.mpr ⟨other, hother, hsame⟩)
  have hpresent : field ∈ object.entries.map Prod.fst := by
    rw [← names_eq, hsplit]
    exact List.mem_append_right _ List.mem_cons_self
  have hset : (if member.entry.1 = field then (field, value) else member.entry) = (field, value) :=
    if_pos hname
  rw [setEntry, if_pos hpresent, ObjectText.entries, hmembers, List.map_append, List.map_cons,
    List.map_append, List.map_cons, hset, hkept before fun h => hdistinct.1 (Or.inl h),
    hkept after fun h => hdistinct.1 (Or.inr h)]

theorem setsMember_replaced (hvalid : object.Valid) (hnames : object.names.Nodup)
    (hmembers : object.members = before ++ member :: after) (hfield : PlainName field)
    (hname : member.name = field) {lead kept : Bytes} (hlead : Blanks lead) (hkept : Blanks kept)
    (hvalue : IsValue value) :
    SetsMember object field value
      (object.replaced before (newMember lead field value kept) after).text := by
  refine ⟨_, replaced_valid hvalid hmembers (newMember_spaced hlead hfield hkept) hvalue, rfl, ?_⟩
  have hunescaped : unescape member.name = field := by rw [hname, unescape_plain hfield]
  rw [setEntry_split hnames hmembers hunescaped, ObjectText.entries, ObjectText.replaced,
    List.map_append, List.map_cons, newMember_entry hfield]

theorem leading_concat (parts : List Bytes) (part : Bytes) :
    leading (parts ++ [part]) = leading parts ++ part ++ [ascii ','] := by
  simp only [leading, List.flatMap_append, List.flatMap_cons, List.flatMap_nil, List.append_nil,
    List.append_assoc]

/-- A member that is not the first one is replaced with the comma in front of it. -/
theorem upsertObjectMember_later (hvalid : object.Valid) (hfield : PlainName field)
    (hlead : object.lead = []) (hmembers : object.members = before ++ member :: after)
    (hbefore : ∀ other ∈ before, Misses field other) (hname : member.name = field)
    (hne : before ≠ []) (hvalue : IsValue value) : ∃ kept, Blanks kept ∧
      upsertObjectMember object.text field value =
        (object.replaced before (newMember [] field value kept) after).text := by
  obtain ⟨_, ⟨hspaced, hheld⟩, _⟩ := hvalid.of_split hmembers
  obtain ⟨taken, kept, hkept, hrest, hend⟩ := valueEndFrom_member hspaced hheld
    (behind_head object after)
  have hrange := topLevelMemberRange_name hvalid hfield hlead hmembers hbefore hname
  have htext := name_text hvalid hlead hmembers
  rw [hrest, hname] at htext
  obtain ⟨earlier, last, rfl⟩ := (List.eq_nil_or_concat before).resolve_left hne
  rw [List.concat_eq_append] at hmembers htext hrange ⊢
  have hleading : leading ((earlier ++ [last]).map JsonMember.text) =
      leading (earlier.map JsonMember.text) ++ last.text ++ [ascii ','] := by
    rw [List.map_append, List.map_singleton, leading_concat]
  obtain ⟨front, hfront⟩ : ∃ front, front =
      ascii '{' :: (leading (earlier.map JsonMember.text) ++ last.text) := ⟨_, rfl⟩
  have hnameFront : nameFront (earlier ++ [last]) member = front ++ ascii ',' :: member.lead := by
    rw [nameFront, hleading, hfront]
    simp only [List.append_assoc, List.cons_append, List.nil_append]
  rw [hnameFront] at htext hrange
  rw [htext, memberRange_comma _ hspaced.lead hend, ← htext] at hrange
  have hsplit : object.text = front ++ ascii ',' :: (member.lead ++ (quoted field ++ (taken ++
      (kept ++ object.behind after)))) := by
    rw [htext]
    simp only [List.append_assoc, List.cons_append]
  have hcut : object.text = ((front ++ ascii ',' :: member.lead) ++ quoted field ++ taken) ++
      (kept ++ object.behind after) := by
    rw [htext]
    simp only [List.append_assoc, List.cons_append]
  have hlength : (front ++ ascii ',' :: member.lead).length + (quoted field).length +
      taken.length = ((front ++ ascii ',' :: member.lead) ++ quoted field ++ taken).length := by
    simp only [List.length_append]
  have hdrop : object.text.drop ((front ++ ascii ',' :: member.lead).length +
      (quoted field).length + taken.length) = kept ++ object.behind after := by
    rw [hlength, hcut, List.drop_left]
  have hout := @upsertObjectMember_comma field front _ (by rw [hfront]; exact List.cons_ne_nil _ _)
    _ (hsplit ▸ hrange) value
  rw [← hsplit, hdrop] at hout
  refine ⟨kept, hkept, hout.trans ?_⟩
  have hnew := replaced_valid hvalid hmembers
    (newMember_spaced (fun _ hc => absurd hc List.not_mem_nil) hfield hkept :
      (newMember [] field value kept).Spaced) hvalue
  rw [text_split hnew hlead rfl, hleading, newMember_text, hfront]
  simp only [List.append_assoc, List.cons_append, List.nil_append]
  rfl

/-- The first member is cut out from its name on, to the comma behind it if there is one. -/
theorem upsertObjectMember_first (hvalid : object.Valid) (hfield : PlainName field)
    (hlead : object.lead = []) (hmembers : object.members = member :: after)
    (hname : member.name = field) (value : Bytes) : ∃ kept, Blanks kept ∧
      upsertObjectMember object.text field value =
        ascii '{' :: (member.lead ++ (replacement field value ++
          if after = [] then kept ++ object.behind [] else (object.behind after).drop 1)) := by
  have hfirst : object.members = [] ++ member :: after := hmembers
  obtain ⟨_, ⟨hspaced, hheld⟩, _⟩ := hvalid.of_split hfirst
  obtain ⟨taken, kept, hkept, hrest, hend⟩ := valueEndFrom_member hspaced hheld
    (behind_head object after)
  have hrange := topLevelMemberRange_name hvalid hfield hlead hfirst
    (fun _ hother => absurd hother List.not_mem_nil) hname
  have htext := name_text hvalid hlead hfirst
  rw [hrest, hname] at htext
  have hfront : nameFront [] member = [] ++ ascii '{' :: member.lead := rfl
  rw [hfront] at htext hrange
  rw [htext, memberRange_first _ hspaced.lead (by decide) (by decide) hend, ← htext] at hrange
  dsimp only at hrange
  obtain ⟨cut, hcut⟩ : ∃ cut, cut = ([] ++ ascii '{' :: member.lead) ++ quoted field ++ taken :=
    ⟨_, rfl⟩
  have hsplit : object.text = cut ++ (kept ++ object.behind after) := by
    rw [htext, hcut]
    simp only [List.append_assoc]
  have hkeptSplit : object.text = (cut ++ kept) ++ object.behind after := by
    rw [hsplit, List.append_assoc]
  have hlength : ([] ++ ascii '{' :: member.lead).length + (quoted field).length +
      taken.length = cut.length := by
    rw [hcut]
    simp only [List.length_append]
  have hblank : ∀ c ∈ (object.behind after).head?, isBlank c = false := by
    intro c hc
    rcases behind_head object after c hc with rfl | rfl <;> decide
  have hskip : skipWhitespace object.text cut.length = (cut ++ kept).length := by
    rw [hsplit, skipWhitespace_blanks hkept _ hblank]
    exact List.length_append.symm
  rw [hlength, hskip] at hrange
  refine ⟨kept, hkept, ?_⟩
  cases after with
  | nil =>
      have hclose : object.text[(cut ++ kept).length]? = some (ascii '}') := by
        rw [hkeptSplit]
        exact getElem?_front _ _ _
      rw [hclose, if_neg (by decide)] at hrange
      have hout := upsertObjectMember_name (htext ▸ hrange) value
      rw [← htext] at hout
      rw [hout, if_pos rfl, hsplit, List.drop_left]
      rfl
  | cons other after =>
      have hcomma : object.text[(cut ++ kept).length]? = some (ascii ',') := by
        rw [hkeptSplit]
        exact getElem?_front _ _ _
      rw [hcomma, if_pos rfl] at hrange
      have hout := upsertObjectMember_name (htext ▸ hrange) value
      rw [← htext] at hout
      rw [hout, if_neg (List.cons_ne_nil _ _), hkeptSplit, List.drop_length_add_append]
      rfl

/-- A value that is taken for a name is cut out from there on. -/
theorem upsertObjectMember_value (hvalid : object.Valid) (hfield : PlainName field)
    (hlead : object.lead = []) (hmembers : object.members = before ++ member :: after)
    (hbefore : ∀ other ∈ before, Misses field other) (hname : member.name ≠ field)
    (hheld : member.value = quoted field)
    (hfound : valueEndFrom (member.after ++ object.behind after) 0 ≠ none) (value : Bytes) :
    ∃ tail, upsertObjectMember object.text field value =
      valueFront before member ++ (replacement field value ++ tail) := by
  obtain ⟨_, ⟨hspaced, _⟩, _⟩ := hvalid.of_split hmembers
  obtain ⟨taken, hend⟩ := Option.ne_none_iff_exists'.mp hfound
  have hrange := topLevelMemberRange_value hvalid hfield hlead hmembers hbefore hname hheld
  have htext := value_text hvalid hlead hmembers
  rw [hheld] at htext
  have hfront : valueFront before member =
      (ascii '{' :: (leading (before.map JsonMember.text) ++ (member.lead ++ (quoted member.name ++
        member.behind)))) ++ ascii ':' :: member.before := by
    simp only [valueFront, JsonMember.front, List.append_assoc, List.cons_append]
  have hfirst : ∃ last, topLevelMemberRange object.text field =
      some ((valueFront before member).length, last) := by
    rw [hrange, htext, hfront,
      memberRange_first _ hspaced.item.before (by decide) (by decide) hend]
    dsimp only
    split
    · exact ⟨_, rfl⟩
    · exact ⟨_, rfl⟩
  obtain ⟨last, hlast⟩ := hfirst
  exact ⟨_, htext ▸ upsertObjectMember_name (htext ▸ hlast) value⟩

/-- No object has a text that goes on behind its members with a name or a colon. -/
theorem not_setsMember_opened {stray : ObjectText} (hvalid : stray.Valid)
    (hne : stray.members ≠ []) {c : UInt8} (hc : c = quote ∨ c = ascii ':') (rest : Bytes)
    (field value : Bytes) : ¬ SetsMember object field value (stray.opened (c :: rest)) := by
  rintro ⟨object', hvalid', htext, _⟩
  have hstops : Stops (c :: rest) := stops_cons (by rcases hc with rfl | rfl <;> decide) rest
  have hcomma : c ≠ ascii ',' := by rcases hc with rfl | rfl <;> decide
  obtain ⟨_, hbrace⟩ := opened_unique hvalid hvalid' hstops hcomma (Or.inr hne) htext.symm
  rcases hc with rfl | rfl <;> exact absurd hbrace (by decide)

/-! ## When a member is set -/

/-- The objects and the names for which a splice sets the member. -/
inductive Upsertable (object : ObjectText) (field : Bytes) : Prop
  /-- The name is neither that of a member nor the value of one. -/
  | absent (hname : field ∉ object.names)
      (hvalues : ∀ member ∈ object.members, member.value ≠ quoted field)
  /-- White space in front of the object hides it from the scan. -/
  | indented (hname : field ∉ object.names) (hlead : object.lead ≠ [])
  /-- Behind the first value that is the name there is no colon with a value that ends. -/
  | unended (hname : field ∉ object.names) {before after : List JsonMember} {member : JsonMember}
      (hmembers : object.members = before ++ member :: after)
      (hbefore : ∀ other ∈ before, other.value ≠ quoted field)
      (hvalue : member.value = quoted field)
      (hend : valueEndFrom (member.after ++ object.behind after) 0 = none)
  /-- The member is there, it is not the first of several, and no value in front of it is
  its name. -/
  | present (hlead : object.lead = []) {before after : List JsonMember} {member : JsonMember}
      (hmembers : object.members = before ++ member :: after) (hname : member.name = field)
      (hbefore : ∀ other ∈ before, other.value ≠ quoted field)
      (halone : before = [] → after = [])

theorem first_hit (field : Bytes) (members : List JsonMember) :
    (∀ member ∈ members, Misses field member) ∨ ∃ before member after,
      members = before ++ member :: after ∧ (∀ other ∈ before, Misses field other) ∧
        ¬ Misses field member := by
  induction members with
  | nil => exact Or.inl fun _ hmember => absurd hmember List.not_mem_nil
  | cons first members ih =>
      by_cases hfirst : Misses field first
      · rcases ih with hall | ⟨before, member, after, rfl, hbefore, hhit⟩
        · exact Or.inl (List.forall_mem_cons.mpr ⟨hfirst, hall⟩)
        · exact Or.inr ⟨first :: before, member, after, rfl,
            List.forall_mem_cons.mpr ⟨hfirst, hbefore⟩, hhit⟩
      · exact Or.inr ⟨[], first, members, rfl, fun _ hother => absurd hother List.not_mem_nil,
          hfirst⟩

theorem name_mem (hfield : PlainName field) (hmember : member ∈ object.members)
    (hname : member.name = field) : field ∈ object.names :=
  List.mem_map.mpr ⟨member, hmember, by rw [hname, unescape_plain hfield]⟩

theorem topLevelMemberRange_unended (hvalid : object.Valid) (hfield : PlainName field)
    (hmembers : object.members = before ++ member :: after)
    (hbefore : ∀ other ∈ before, Misses field other) (hname : member.name ≠ field)
    (hvalue : member.value = quoted field)
    (hend : valueEndFrom (member.after ++ object.behind after) 0 = none) :
    topLevelMemberRange object.text field = none := by
  by_cases hlead : object.lead = []
  · have htext := value_text hvalid hlead hmembers
    rw [hvalue] at htext
    rw [topLevelMemberRange_value hvalid hfield hlead hmembers hbefore hname hvalue, htext,
      memberRange_none _ _ hend]
  · exact topLevelMemberRange_lead hvalid hlead

/-- The comma behind a first member is cut and not written again. -/
theorem not_setsMember_first (hvalid : object.Valid) (hfield : PlainName field)
    (hlead : object.lead = []) (hmembers : object.members = member :: after)
    (hname : member.name = field) (hne : after ≠ []) {value : Bytes} (hvalue : IsValue value) :
    ¬ SetsMember object field value (upsertObjectMember object.text field value) := by
  have hfirst : object.members = [] ++ member :: after := hmembers
  obtain ⟨_, ⟨hspaced, _⟩, hafter⟩ := hvalid.of_split hfirst
  obtain ⟨kept, _, hout⟩ := upsertObjectMember_first hvalid hfield hlead hmembers hname value
  cases after with
  | nil => exact absurd rfl hne
  | cons other after =>
      have hother := (hafter other List.mem_cons_self).1
      have hnew : (newMember member.lead field value other.lead).Spaced :=
        newMember_spaced hspaced.lead hfield hother.lead
      have hstray : ({ object with members := [newMember member.lead field value other.lead] } :
          ObjectText).Valid := by
        apply members_valid hvalid (by rw [hmembers]; exact List.cons_ne_nil _ _)
        intro member hmember
        rw [List.mem_singleton.mp hmember]
        exact ⟨hnew, hvalue⟩
      have hblanks := hvalid.inner (by rw [hmembers]; exact List.cons_ne_nil _ _)
      have hopened : ({ object with members := [newMember member.lead field value other.lead] } :
          ObjectText).opened (quote :: (other.name ++ quote :: (other.behind ++ ascii ':' ::
            (other.toJsonItem.text ++ object.behind after)))) =
          upsertObjectMember object.text field value := by
        rw [hout, if_neg hne, ObjectText.opened, List.map_singleton, newMember_text, hlead, hblanks]
        simp only [commaJoined, following, List.flatMap_nil, ObjectText.behind, List.map_cons,
          List.flatMap_cons, JsonMember.text, quoted, List.nil_append, List.append_nil,
          List.append_assoc, List.cons_append, List.drop_succ_cons, List.drop_zero]
      rw [← hopened]
      exact not_setsMember_opened hstray (List.cons_ne_nil _ _) (Or.inl rfl) _ field value

/-- A value that is taken for a name gets a second value behind it. -/
theorem not_setsMember_value (hvalid : object.Valid) (hfield : PlainName field)
    (hlead : object.lead = []) (hmembers : object.members = before ++ member :: after)
    (hbefore : ∀ other ∈ before, Misses field other) (hname : member.name ≠ field)
    (hheld : member.value = quoted field)
    (hfound : valueEndFrom (member.after ++ object.behind after) 0 ≠ none) (value : Bytes) :
    ¬ SetsMember object field value (upsertObjectMember object.text field value) := by
  obtain ⟨hearlier, ⟨hspaced, hvalue⟩, _⟩ := hvalid.of_split hmembers
  obtain ⟨tail, hout⟩ := upsertObjectMember_value hvalid hfield hlead hmembers hbefore hname hheld
    hfound value
  obtain ⟨cut, hcut⟩ : ∃ cut : JsonMember, cut = { member with after := [] } := ⟨_, rfl⟩
  have hcutText : cut.text = member.front ++ quoted field := by
    have htext := member_text cut []
    rw [List.append_nil] at htext
    rw [htext, hcut]
    simp only [hheld, List.append_nil]
    rfl
  have hcutSpaced : cut.Spaced := by
    rw [hcut]
    exact ⟨hspaced.lead, hspaced.name, hspaced.behind,
      ⟨hspaced.item.before, fun _ hc => absurd hc List.not_mem_nil⟩⟩
  have hcutValue : IsValue cut.value := by
    rw [hcut]
    exact hvalue
  have hstray : ({ object with members := before ++ [cut] } : ObjectText).Valid := by
    apply members_valid hvalid (ne_nil_of_split hmembers)
    intro other hother
    rcases List.mem_append.mp hother with hother | hother
    · exact hearlier other hother
    · rw [List.mem_singleton.mp hother]
      exact ⟨hcutSpaced, hcutValue⟩
  have hopened : ({ object with members := before ++ [cut] } : ObjectText).opened
      (ascii ':' :: (value ++ tail)) = upsertObjectMember object.text field value := by
    rw [hout, ObjectText.opened, List.map_append, List.map_singleton, commaJoined_append, hcutText,
      hlead, hvalid.inner (ne_nil_of_split hmembers), valueFront, replacement]
    simp only [following, List.flatMap_nil, List.nil_append, List.append_nil, List.append_assoc,
      List.cons_append]
  rw [← hopened]
  exact not_setsMember_opened hstray (List.append_ne_nil_of_right_ne_nil _ (List.cons_ne_nil _ _))
    (Or.inr rfl) _ field value

theorem SetsMember.upsertable (hvalid : object.Valid) (hfield : PlainName field)
    (hvalue : IsValue value)
    (hsets : SetsMember object field value (upsertObjectMember object.text field value)) :
    Upsertable object field := by
  have habsent := fun hrange =>
    (setsMember_appended_iff hvalid hfield hvalue hrange).mp hsets
  by_cases hlead : object.lead = []
  · rcases first_hit field object.members with
      hmiss | ⟨before, member, after, hmembers, hbefore, hhit⟩
    · exact .absent (habsent (topLevelMemberRange_miss hvalid hfield hmiss))
        fun member hmember => (hmiss member hmember).2
    · by_cases hname : member.name = field
      · apply Upsertable.present hlead hmembers hname fun other hother => (hbefore other hother).2
        rintro rfl
        by_contra hne
        exact not_setsMember_first hvalid hfield hlead hmembers hname hne hvalue hsets
      · have hheld : member.value = quoted field := by
          by_contra hother
          exact hhit ⟨hname, hother⟩
        by_cases hend : valueEndFrom (member.after ++ object.behind after) 0 = none
        · exact .unended (habsent (topLevelMemberRange_unended hvalid hfield hmembers hbefore hname
            hheld hend)) hmembers (fun other hother => (hbefore other hother).2) hheld hend
        · exact absurd hsets
            (not_setsMember_value hvalid hfield hlead hmembers hbefore hname hheld hend value)
  · exact .indented (habsent (topLevelMemberRange_lead hvalid hlead)) hlead

theorem Upsertable.setsMember (hupsertable : Upsertable object field) (hvalid : object.Valid)
    (hnames : object.names.Nodup) (hfield : PlainName field) (hvalue : IsValue value) :
    SetsMember object field value (upsertObjectMember object.text field value) := by
  cases hupsertable with
  | absent hname hvalues =>
      have hmiss : ∀ member ∈ object.members, Misses field member :=
        fun member hmember => ⟨fun hsame => hname (name_mem hfield hmember hsame),
          hvalues member hmember⟩
      exact (setsMember_appended_iff hvalid hfield hvalue
        (topLevelMemberRange_miss hvalid hfield hmiss)).mpr hname
  | indented hname hlead =>
      exact (setsMember_appended_iff hvalid hfield hvalue
        (topLevelMemberRange_lead hvalid hlead)).mpr hname
  | @unended hname before after member hmembers hbefore hheld hend =>
      have hother : ∀ other ∈ object.members, other.name ≠ field :=
        fun other hother hsame => hname (name_mem hfield hother hsame)
      have hmiss : ∀ other ∈ before, Misses field other := fun other hmem =>
        ⟨hother other (by rw [hmembers]; exact List.mem_append_left _ hmem), hbefore other hmem⟩
      have hmember : member.name ≠ field := hother member (by
        rw [hmembers]
        exact List.mem_append_right _ List.mem_cons_self)
      exact (setsMember_appended_iff hvalid hfield hvalue
        (topLevelMemberRange_unended hvalid hfield hmembers hmiss hmember hheld hend)).mpr hname
  | @present hlead before after member hmembers hname hbefore halone =>
      have hsplit : object.names = before.map (fun member => unescape member.name) ++
          field :: after.map (fun member => unescape member.name) := by
        rw [ObjectText.names, hmembers, List.map_append, List.map_cons, hname,
          unescape_plain hfield]
      have hdistinct := List.nodup_middle.mp (hsplit ▸ hnames)
      have hmiss : ∀ other ∈ before, Misses field other := by
        refine fun other hother => ⟨fun hsame => ?_, hbefore other hother⟩
        apply (List.nodup_cons.mp hdistinct).1
        apply List.mem_append_left
        exact List.mem_map.mpr ⟨other, hother, by rw [hsame, unescape_plain hfield]⟩
      cases before with
      | nil =>
          have hafter := halone rfl
          subst hafter
          have hspaced := hvalid.spaced member (by rw [hmembers]; exact List.mem_cons_self)
          obtain ⟨kept, hkept, hout⟩ :=
            upsertObjectMember_first hvalid hfield hlead hmembers hname value
          have hfirst : object.members = [] ++ [member] := hmembers
          have hsets := setsMember_replaced hvalid hnames hfirst hfield hname
            hspaced.lead hkept hvalue
          have hnew := replaced_valid hvalid hfirst
            (newMember_spaced hspaced.lead hfield hkept) hvalue
          have hbehind :
              (object.replaced [] (newMember member.lead field value kept) []).behind [] =
                object.behind [] := rfl
          rw [text_split hnew hlead rfl, newMember_text, hbehind] at hsets
          rw [hout, if_pos rfl]
          simpa only [leading, List.map_nil, List.flatMap_nil, List.nil_append,
            List.append_assoc] using hsets
      | cons first before =>
          obtain ⟨kept, hkept, hout⟩ := upsertObjectMember_later hvalid hfield hlead hmembers hmiss
            hname (List.cons_ne_nil _ _) hvalue
          rw [hout]
          exact setsMember_replaced hvalid hnames hmembers hfield hname
            (fun _ hc => absurd hc List.not_mem_nil) hkept hvalue

/-- For a valid value a splice sets the member exactly where it can. -/
theorem setsMember_iff (hvalid : object.Valid) (hnames : object.names.Nodup)
    (hfield : PlainName field) (hvalue : IsValue value) :
    SetsMember object field value (upsertObjectMember object.text field value) ↔
      Upsertable object field :=
  ⟨fun hsets => hsets.upsertable hvalid hfield hvalue,
    fun hupsertable => hupsertable.setsMember hvalid hnames hfield hvalue⟩

/-! ## Chains of splices -/

def upsertAll (text : Bytes) (chain : List (Bytes × Bytes)) : Bytes :=
  chain.foldl (fun text entry => upsertObjectMember text entry.1 entry.2) text

def setEntries (entries chain : List (Bytes × Bytes)) : List (Bytes × Bytes) :=
  chain.foldl (fun entries entry => setEntry entries entry.1 entry.2) entries

/-- Each splice of a chain meets the text of an object in which it sets the member. -/
def ChainUpsertable : Bytes → List (Bytes × Bytes) → Prop
  | _, [] => True
  | text, entry :: chain =>
      (∃ object : ObjectText, object.Valid ∧ object.text = text ∧ Upsertable object entry.1) ∧
        ChainUpsertable (upsertObjectMember text entry.1 entry.2) chain

/-- The text of an object that has the members of another one, with those of a chain set. -/
def SetsMembers (object : ObjectText) (chain : List (Bytes × Bytes)) (out : Bytes) : Prop :=
  ∃ object' : ObjectText, object'.Valid ∧ object'.text = out ∧
    object'.entries.Perm (setEntries object.entries chain)

variable {entries : List (Bytes × Bytes)}

theorem setEntry_perm {entries' : List (Bytes × Bytes)} (hperm : entries.Perm entries')
    (name value : Bytes) : (setEntry entries name value).Perm (setEntry entries' name value) := by
  have hnames : name ∈ entries.map Prod.fst ↔ name ∈ entries'.map Prod.fst :=
    (hperm.map Prod.fst).mem_iff
  by_cases hname : name ∈ entries.map Prod.fst
  · rw [setEntry, setEntry, if_pos hname, if_pos (hnames.mp hname)]
    exact hperm.map _
  · rw [setEntry, setEntry, if_neg hname, if_neg fun hmem => hname (hnames.mpr hmem)]
    exact hperm.append_right _

theorem setEntries_perm {entries' : List (Bytes × Bytes)} (hperm : entries.Perm entries')
    (chain : List (Bytes × Bytes)) :
    (setEntries entries chain).Perm (setEntries entries' chain) := by
  induction chain generalizing entries entries' with
  | nil => exact hperm
  | cons entry chain ih => exact ih (setEntry_perm hperm entry.1 entry.2)

theorem setEntry_names (entries : List (Bytes × Bytes)) (name value : Bytes) :
    (setEntry entries name value).map Prod.fst =
      if name ∈ entries.map Prod.fst then entries.map Prod.fst
      else entries.map Prod.fst ++ [name] := by
  by_cases hname : name ∈ entries.map Prod.fst
  · rw [setEntry, if_pos hname, if_pos hname, List.map_map]
    apply List.map_congr_left
    intro entry _
    by_cases hsame : entry.1 = name
    · simp only [Function.comp_apply, if_pos hsame]
      exact hsame.symm
    · simp only [Function.comp_apply, if_neg hsame]
  · rw [setEntry, if_neg hname, if_neg hname, List.map_append, List.map_singleton]

theorem setEntry_nodup (hnodup : (entries.map Prod.fst).Nodup) (name value : Bytes) :
    ((setEntry entries name value).map Prod.fst).Nodup := by
  rw [setEntry_names]
  by_cases hname : name ∈ entries.map Prod.fst
  · rwa [if_pos hname]
  · rw [if_neg hname]
    exact List.nodup_append.mpr ⟨hnodup, List.nodup_singleton _, fun other hother last hlast =>
      fun hsame => hname (by rwa [← List.mem_singleton.mp hlast, ← hsame])⟩

/-- An object is read off its text in one way. -/
theorem members_of_text {object' : ObjectText} (hvalid : object.Valid) (hvalid' : object'.Valid)
    (htext : object'.text = object.text) : object'.members = object.members :=
  (opened_unique hvalid' hvalid (stops_cons (by decide) _) (by decide) (Or.inl rfl) htext).1

/-- A chain of splices that each set their member leaves all other members as they were. -/
theorem chain_setsMembers (hvalid : object.Valid) (hnames : object.names.Nodup)
    {chain : List (Bytes × Bytes)}
    (hchain : ∀ entry ∈ chain, PlainName entry.1 ∧ IsValue entry.2)
    (hupsertable : ChainUpsertable object.text chain) :
    SetsMembers object chain (upsertAll object.text chain) := by
  induction chain generalizing object with
  | nil => exact ⟨object, hvalid, rfl, List.Perm.refl _⟩
  | cons entry chain ih =>
      obtain ⟨⟨found, hfound, hsame, hstep⟩, hrest⟩ := hupsertable
      obtain ⟨hfield, hvalue⟩ := hchain entry List.mem_cons_self
      have hmembers := members_of_text hvalid hfound hsame
      have hfoundNames : found.names.Nodup := by
        rw [ObjectText.names, hmembers]
        exact hnames
      obtain ⟨object', hvalid', htext, hentries⟩ :=
        hstep.setsMember hfound hfoundNames hfield hvalue
      have hfoundEntries : found.entries = object.entries := by
        rw [ObjectText.entries, ObjectText.entries, hmembers]
      rw [hfoundEntries] at hentries
      rw [hsame] at htext
      have hnames' : object'.names.Nodup := by
        rw [names_eq]
        apply ((hentries.map Prod.fst).nodup_iff).mpr
        apply setEntry_nodup
        have hdistinct := hnames
        rwa [names_eq] at hdistinct
      obtain ⟨last, hlast, hout, hperm⟩ := ih hvalid' hnames'
        (fun other hother => hchain other (List.mem_cons_of_mem entry hother)) (htext ▸ hrest)
      refine ⟨last, hlast, ?_, hperm.trans (setEntries_perm hentries chain)⟩
      rw [hout, htext]
      rfl

/-- A splice into the text of any object sets the member exactly where it can, and so does
every splice of a chain. -/
theorem splices_set_members (object : ObjectText) (hvalid : object.Valid)
    (hnames : object.names.Nodup) :
    (∀ field value, PlainName field → IsValue value →
      (SetsMember object field value (upsertObjectMember object.text field value) ↔
        Upsertable object field)) ∧
    ∀ chain, (∀ entry ∈ chain, PlainName entry.1 ∧ IsValue entry.2) →
      ChainUpsertable object.text chain →
        SetsMembers object chain (upsertAll object.text chain) := by
  constructor
  · intro field value hfield hvalue
    exact setsMember_iff hvalid hnames hfield hvalue
  · intro chain hchain hupsertable
    exact chain_setsMembers hvalid hnames hchain hupsertable

/-- The text of `{"a":true,"b":...}`. -/
def twoMembers (second : String) : ObjectText where
  members := [{ name := asciiBytes "a", value := asciiBytes "true" },
    { name := asciiBytes "b", value := asciiBytes second }]

theorem plainName_letters :
    ∀ name ∈ [asciiBytes "a", asciiBytes "b", asciiBytes "c"], PlainName name := by
  unfold PlainName
  decide +kernel

theorem twoMembers_valid {second : String} (hsecond : IsValue (asciiBytes second)) :
    (twoMembers second).Valid := by
  have hblanks : Blanks [] := fun _ hc => absurd hc List.not_mem_nil
  have hfirst : PlainName (asciiBytes "a") := plainName_letters _ (by decide)
  have hnext : PlainName (asciiBytes "b") := plainName_letters _ (by decide)
  constructor
  · exact hblanks
  · exact hblanks
  · exact hblanks
  · exact fun _ => rfl
  · exact List.forall_mem_cons.mpr ⟨⟨hblanks, hfirst.isBody, hblanks, ⟨hblanks, hblanks⟩⟩,
      List.forall_mem_singleton.mpr ⟨hblanks, hnext.isBody, hblanks, ⟨hblanks, hblanks⟩⟩⟩
  · exact List.forall_mem_cons.mpr ⟨.literal (by decide), List.forall_mem_singleton.mpr hsecond⟩

theorem twoMembers_set :
    (SetsMember (twoMembers "null") (asciiBytes "b") (asciiBytes "false")
      (upsertObjectMember (twoMembers "null").text (asciiBytes "b") (asciiBytes "false")) ↔
        Upsertable (twoMembers "null") (asciiBytes "b")) ∧
    SetsMembers (twoMembers "null")
      [(asciiBytes "b", asciiBytes "false"), (asciiBytes "c", asciiBytes "true")]
      (upsertAll (twoMembers "null").text
        [(asciiBytes "b", asciiBytes "false"), (asciiBytes "c", asciiBytes "true")]) := by
  obtain ⟨hiff, hchain⟩ := splices_set_members (twoMembers "null")
    (twoMembers_valid (.literal (by decide))) (by decide)
  refine ⟨hiff _ _ (plainName_letters _ (by decide)) (.literal (by decide)), hchain _ ?_ ?_⟩
  · exact List.forall_mem_cons.mpr ⟨⟨plainName_letters _ (by decide), .literal (by decide)⟩,
      List.forall_mem_singleton.mpr ⟨plainName_letters _ (by decide), .literal (by decide)⟩⟩
  · refine ⟨⟨twoMembers "null", twoMembers_valid (.literal (by decide)), rfl, ?_⟩,
      ⟨twoMembers "false", twoMembers_valid (.literal (by decide)), by decide +kernel, ?_⟩, trivial⟩
    · exact @Upsertable.present (twoMembers "null") (asciiBytes "b") rfl
        [{ name := asciiBytes "a", value := asciiBytes "true" }] [] _ rfl rfl (by decide) nofun
    · exact .absent (by decide) (by decide)

/-- The first of two members cannot be replaced: the comma between them is lost. -/
theorem first_member_broken : ¬ ∀ (object : ObjectText) (field value : Bytes),
    object.Valid → object.names.Nodup → PlainName field → IsValue value →
      SetsMember object field value (upsertObjectMember object.text field value) := by
  intro hsets
  have hvalid := twoMembers_valid (.literal (by decide) : IsValue (asciiBytes "null"))
  have hfield : PlainName (asciiBytes "a") := plainName_letters _ (by decide)
  have hvalue : IsValue (asciiBytes "false") := .literal (by decide)
  have hbroken := @not_setsMember_first (asciiBytes "a") (twoMembers "null") _ _ hvalid hfield rfl
    rfl rfl (List.cons_ne_nil _ _) (asciiBytes "false") hvalue
  exact hbroken (hsets _ _ _ hvalid (by decide) hfield hvalue)

end AudioStudio.Gui
