import AudioStudio.Gui.ValueEnds

/-!
# The scan for a member

What `topLevelMemberRange` finds in the text of an object: the first string of the name
among its names and values, and the range of what begins there.
-/

namespace AudioStudio.Gui

open AudioStudio.LittleEndian
open AudioStudio.Rpc
open AudioStudio.Rpc.Parser

/-! ## White space around a position -/

theorem skipWhitespaceBack_front (front rest : Bytes) :
    skipWhitespaceBack (front ++ rest) front.length = (front.rdropWhile (isBlank ·)).length := by
  rw [skipWhitespaceBack, List.take_left]

variable {blanks : Bytes} {c : UInt8}

theorem rdropWhile_blanks (hblanks : Blanks blanks) (front : Bytes) (hc : isBlank c = false) :
    (front ++ c :: blanks).rdropWhile (isBlank ·) = front ++ [c] := by
  have hall : ∀ c ∈ blanks.reverse, isBlank c = true :=
    fun c hc => hblanks c (List.mem_reverse.mp hc)
  have hne : ¬ isBlank c = true := by rw [hc]; exact Bool.false_ne_true
  rw [List.rdropWhile, List.reverse_append, List.reverse_cons, List.append_assoc,
    List.dropWhile_append_of_pos hall, List.singleton_append, List.dropWhile_cons_of_neg hne,
    List.reverse_cons, List.reverse_reverse]

theorem skipWhitespace_append (front rest : Bytes) (pos : Nat) :
    skipWhitespace (front ++ rest) (front.length + pos) =
      front.length + skipWhitespace rest pos := by
  rw [skipWhitespace, skipWhitespace, List.drop_length_add_append, Nat.add_assoc]

variable {rest : Bytes}

theorem skipWhitespace_blanks (hblanks : Blanks blanks) (front : Bytes)
    (hrest : ∀ c ∈ rest.head?, isBlank c = false) :
    skipWhitespace (front ++ (blanks ++ rest)) front.length = front.length + blanks.length := by
  have hstop : rest.takeWhile (isBlank ·) = [] := by
    cases rest with
    | nil => rfl
    | cons c rest =>
        have hc : ¬ isBlank c = true := by rw [hrest c rfl]; exact Bool.false_ne_true
        exact List.takeWhile_cons_of_neg hc
  rw [skipWhitespace, List.drop_left, List.takeWhile_append_of_pos hblanks, hstop,
    List.append_nil]

/-! ## The ends of members -/

theorem matchingJsonValueEnd_append (front rest : Bytes) (pos : Nat) :
    matchingJsonValueEnd (front ++ rest) (front.length + pos) =
      behind front.length (matchingJsonValueEnd rest pos) := by
  rw [matchingJsonValueEnd, matchingJsonValueEnd, List.drop_length_add_append]
  cases jsonValueLength (rest.drop pos) with
  | none => rfl
  | some length => exact congrArg some (Nat.add_assoc _ _ _)

theorem valueEndFrom_append (front rest : Bytes) :
    valueEndFrom (front ++ rest) front.length = behind front.length (valueEndFrom rest 0) := by
  rw [valueEndFrom, valueEndFrom, List.drop_left, List.drop_zero]
  cases rest.findIdx? (· = ascii ':') with
  | none => rfl
  | some offset =>
      dsimp only
      rw [Nat.add_assoc, skipWhitespace_append, matchingJsonValueEnd_append, Nat.zero_add]

variable {tail : Bytes}

/-- The value ends where the next comma or bracket stands, or in front of white space there. -/
theorem jsonValueLength_value {value : Bytes} (hvalue : IsValue value) {after : Bytes}
    (hafter : Blanks after) (htail : ∀ c ∈ tail.head?, c = ascii ',' ∨ c = ascii '}') :
    ∃ cut kept, after = cut ++ kept ∧
      jsonValueLength (value ++ (after ++ tail)) = some (value ++ cut).length := by
  rcases hvalue.scalar_or_closed with hscalar | hclosed
  · refine ⟨after, [], (List.append_nil after).symm, ?_⟩
    have hrun : ∀ c ∈ after, decide (c ≠ ascii ',' ∧ c ≠ ascii '}' ∧ c ≠ ascii ']') = true :=
      fun c hc => decide_eq_true ⟨ne_of_isBlank (hafter c hc) (by decide),
        ne_of_isBlank (hafter c hc) (by decide), ne_of_isBlank (hafter c hc) (by decide)⟩
    have hstop : tail.takeWhile (fun c => decide (c ≠ ascii ',' ∧ c ≠ ascii '}' ∧ c ≠ ascii ']')) =
        [] := by
      cases tail with
      | nil => rfl
      | cons c tail =>
          apply List.takeWhile_cons_of_neg
          rcases htail c rfl with rfl | rfl <;> decide
    rw [jsonValueLength_scalar hscalar, List.takeWhile_append_of_pos hrun, hstop, List.append_nil,
      List.length_append]
  · exact ⟨[], after, rfl, by rw [hclosed.ends, List.append_nil]⟩

theorem findIdx?_colon (hblanks : Blanks blanks) (rest : Bytes) :
    (blanks ++ ascii ':' :: rest).findIdx? (· = ascii ':') = some blanks.length := by
  induction blanks with
  | nil => rfl
  | cons c blanks ih =>
      have hc : ¬ decide (c = ascii ':') = true := by
        rw [decide_eq_true_eq]
        exact ne_of_isBlank (hblanks c List.mem_cons_self) (by decide)
      rw [List.cons_append, List.findIdx?_cons, if_neg hc,
        ih fun other hother => hblanks other (List.mem_cons_of_mem c hother)]
      rfl

/-- Where the value of a member ends: behind it, or behind some of the white space there. -/
theorem valueEndFrom_cut {member : JsonMember} (hspaced : member.Spaced)
    (hvalue : IsValue member.value)
    (htail : ∀ c ∈ tail.head?, c = ascii ',' ∨ c = ascii '}') :
    ∃ cut kept, member.after = cut ++ kept ∧
      valueEndFrom (member.behind ++ ascii ':' :: (member.toJsonItem.text ++ tail)) 0 =
        some (member.behind ++ ascii ':' :: (member.before ++ (member.value ++ cut))).length := by
  obtain ⟨cut, kept, hafter, hlength⟩ := jsonValueLength_value hvalue hspaced.item.after htail
  refine ⟨cut, kept, hafter, ?_⟩
  rw [valueEndFrom, List.drop_zero, findIdx?_colon hspaced.behind]
  dsimp only
  have hfront : member.behind ++ ascii ':' :: (member.toJsonItem.text ++ tail) =
      (member.behind ++ [ascii ':']) ++
        (member.before ++ (member.value ++ (member.after ++ tail))) := by
    simp only [JsonItem.text, List.append_assoc, List.cons_append, List.nil_append]
  have hpos : 0 + member.behind.length + 1 = (member.behind ++ [ascii ':']).length := by
    rw [List.length_append, Nat.zero_add]
    rfl
  have hskip : skipWhitespace ((member.behind ++ [ascii ':']) ++
      (member.before ++ (member.value ++ (member.after ++ tail))))
      (member.behind ++ [ascii ':']).length =
        ((member.behind ++ [ascii ':']) ++ member.before).length := by
    rw [skipWhitespace_blanks hspaced.item.before _ (value_head hvalue _), ← List.length_append]
  rw [hfront, hpos, hskip, ← List.append_assoc, matchingJsonValueEnd, List.drop_left, hlength]
  apply congrArg some
  simp only [List.length_append, List.length_cons, List.length_nil]
  omega

/-- The text of a member behind its name, as the splice cuts it. -/
theorem valueEndFrom_member {member : JsonMember} (hspaced : member.Spaced)
    (hvalue : IsValue member.value)
    (htail : ∀ c ∈ tail.head?, c = ascii ',' ∨ c = ascii '}') :
    ∃ taken kept, Blanks kept ∧
      member.behind ++ ascii ':' :: (member.toJsonItem.text ++ tail) = taken ++ (kept ++ tail) ∧
      valueEndFrom (taken ++ (kept ++ tail)) 0 = some taken.length := by
  obtain ⟨cut, kept, hafter, hend⟩ := valueEndFrom_cut hspaced hvalue htail
  have hkept : Blanks kept := fun c hc => hspaced.item.after c (by
    rw [hafter]
    exact List.mem_append_right cut hc)
  have htext : member.behind ++ ascii ':' :: (member.toJsonItem.text ++ tail) =
      (member.behind ++ ascii ':' :: (member.before ++ (member.value ++ cut))) ++
        (kept ++ tail) := by
    simp only [JsonItem.text, hafter, List.append_assoc, List.cons_append]
  exact ⟨_, kept, hkept, htext, htext ▸ hend⟩

/-! ## The scan for a name -/

variable {text key : Bytes}

variable {body : Bytes}

theorem scanMembers_body (hbody : Unquoted body) (rest : Bytes) (pos : Nat) (depth : Int) :
    scanMembers text key (body ++ quote :: rest) pos depth ⟨true, false⟩ =
      scanMembers text key rest (pos + (body.length + 1)) depth {} := by
  induction hbody generalizing pos with
  | nil => rw [List.nil_append, scanMembers, if_pos rfl]; rfl
  | @plain c tail hquote hbackslash _ ih =>
      have hread : Scan.read ⟨true, false⟩ c = ⟨true, false⟩ := by
        rw [Scan.read, if_neg Bool.false_ne_true, if_neg hbackslash, if_neg hquote]
      rw [List.cons_append, scanMembers, if_pos rfl, hread, ih]
      exact congrArg (scanMembers text key rest · depth {}) (by rw [List.length_cons]; omega)
  | @escape c tail _ ih =>
      have hread : Scan.read ⟨true, true⟩ c = ⟨true, false⟩ := rfl
      have hescape : Scan.read ⟨true, false⟩ backslash = ⟨true, true⟩ := rfl
      rw [List.cons_append, List.cons_append, scanMembers, if_pos rfl, hescape, scanMembers,
        if_pos rfl, hread, ih]
      exact congrArg (scanMembers text key rest · depth {})
        (by rw [List.length_cons, List.length_cons]; omega)

theorem scanMembers_char (hplain : IsPlain c) (rest : Bytes) (pos : Nat) (depth : Int) :
    scanMembers text key (c :: rest) pos depth {} =
      scanMembers text key rest (pos + 1) depth {} := by
  rw [scanMembers, if_neg Bool.false_ne_true, if_neg hplain.quote, if_neg, if_neg]
  · rintro (hclose | hclose)
    · exact hplain.closeBrace hclose
    · exact hplain.closeBracket hclose
  · rintro (hopen | hopen)
    · exact hplain.openBrace hopen
    · exact hplain.openBracket hopen

theorem scanMembers_plain {run : Bytes} (hplain : ∀ c ∈ run, IsPlain c) (rest : Bytes) (pos : Nat)
    (depth : Int) : scanMembers text key (run ++ rest) pos depth {} =
      scanMembers text key rest (pos + run.length) depth {} := by
  induction run generalizing pos with
  | nil => rfl
  | cons c run ih =>
      rw [List.cons_append, scanMembers_char (hplain c List.mem_cons_self),
        ih fun other hother => hplain other (List.mem_cons_of_mem c hother)]
      exact congrArg (scanMembers text key rest · depth {}) (by rw [List.length_cons]; omega)

theorem scanMembers_blanks {blanks : Bytes} (hblanks : Blanks blanks) (rest : Bytes) (pos : Nat)
    (depth : Int) : scanMembers text key (blanks ++ rest) pos depth {} =
      scanMembers text key rest (pos + blanks.length) depth {} :=
  scanMembers_plain (fun c hc => isPlain_of_isBlank (hblanks c hc)) rest pos depth

/-- A string that is not taken for the name. -/
theorem scanMembers_quoted (hbody : Unquoted body) {pos : Nat} {depth : Int}
    (hmiss : ¬ (depth = 1 ∧ key.isPrefixOf (quoted body ++ rest))) :
    scanMembers text key (quoted body ++ rest) pos depth {} =
      scanMembers text key rest (pos + (quoted body).length) depth {} := by
  rw [quoted_append] at hmiss ⊢
  rw [scanMembers, if_neg Bool.false_ne_true, if_pos rfl, if_neg hmiss, scanMembers_body hbody,
    length_quoted]
  exact congrArg (scanMembers text key rest · depth {}) (by omega)

theorem scanMembers_opening {opening : UInt8} (hopening : IsOpening opening) (rest : Bytes)
    (pos : Nat) (depth : Int) : scanMembers text key (opening :: rest) pos depth {} =
      scanMembers text key rest (pos + 1) (depth + 1) {} := by
  have hopen : opening = ascii '{' ∨ opening = ascii '[' := hopening
  rw [scanMembers, if_neg Bool.false_ne_true, if_neg, if_pos hopen]
  rcases hopening with rfl | rfl <;> decide

theorem scanMembers_closing {opening : UInt8} (hopening : IsOpening opening) (rest : Bytes)
    (pos : Nat) (depth : Int) : scanMembers text key (closing opening :: rest) pos depth {} =
      scanMembers text key rest (pos + 1) (depth - 1) {} := by
  rw [scanMembers, if_neg Bool.false_ne_true, if_neg, if_neg, if_pos]
  all_goals rcases hopening with rfl | rfl <;> decide

/-- A pair of brackets, with what is scanned within it at the depth below. -/
theorem scanMembers_pair {opening : UInt8} (hopening : IsOpening opening) {inner : Bytes}
    {depth : Int} (hinner : ∀ (rest : Bytes) (pos : Nat),
      scanMembers text key (inner ++ rest) pos (depth + 1) {} =
        scanMembers text key rest (pos + inner.length) (depth + 1) {}) (rest : Bytes) (pos : Nat) :
    scanMembers text key (opening :: (inner ++ closing opening :: rest)) pos depth {} =
      scanMembers text key rest (pos + (inner.length + 2)) depth {} := by
  have hback : depth + 1 - 1 = depth := by omega
  rw [scanMembers_opening hopening, hinner, scanMembers_closing hopening, hback]
  exact congrArg (scanMembers text key rest · depth {}) (by omega)

/-- Below the members of the object nothing is taken for the name. -/
theorem scanMembers_balanced {inner : Bytes} (hbalanced : Balanced inner) :
    ∀ (rest : Bytes) (pos : Nat) (depth : Int), 2 ≤ depth →
      scanMembers text key (inner ++ rest) pos depth {} =
        scanMembers text key rest (pos + inner.length) depth {} := by
  induction hbalanced with
  | nil => exact fun _ _ _ _ => rfl
  | plain hplain _ ih =>
      intro rest pos depth hdepth
      rw [List.cons_append, scanMembers_char hplain, ih _ _ _ hdepth]
      exact congrArg (scanMembers text key rest · depth {}) (by rw [List.length_cons]; omega)
  | @string body tail hbody _ ih =>
      intro rest pos depth hdepth
      have hmiss : ¬ (depth = 1 ∧ key.isPrefixOf (quoted body ++ (tail ++ rest))) :=
        fun htaken => absurd htaken.1 (by omega)
      rw [List.append_assoc, scanMembers_quoted hbody hmiss, ih _ _ _ hdepth]
      exact congrArg (scanMembers text key rest · depth {}) (by rw [List.length_append]; omega)
  | @braces inner tail _ _ ihInner ih =>
      intro rest pos depth hdepth
      have hpair := @scanMembers_pair text key (ascii '{') (Or.inl rfl) inner depth
        (fun rest pos => ihInner rest pos _ (by omega)) (tail ++ rest) pos
      rw [show closing (ascii '{') = ascii '}' from rfl] at hpair
      rw [List.cons_append, List.append_assoc, List.cons_append, hpair, ih _ _ _ hdepth]
      exact congrArg (scanMembers text key rest · depth {})
        (by rw [List.length_cons, List.length_append, List.length_cons]; omega)
  | @brackets inner tail _ _ ihInner ih =>
      intro rest pos depth hdepth
      have hpair := @scanMembers_pair text key (ascii '[') (Or.inr rfl) inner depth
        (fun rest pos => ihInner rest pos _ (by omega)) (tail ++ rest) pos
      rw [show closing (ascii '[') = ascii ']' from rfl] at hpair
      rw [List.cons_append, List.append_assoc, List.cons_append, hpair, ih _ _ _ hdepth]
      exact congrArg (scanMembers text key rest · depth {})
        (by rw [List.length_cons, List.length_append, List.length_cons]; omega)

/-- The value of a member: an array or an object, or what is no string of the name. -/
theorem scanMembers_value {value : Bytes} (hvalue : IsValue value) {pos : Nat}
    (hmiss : ∀ body, IsBody body → value = quoted body →
      key.isPrefixOf (quoted body ++ rest) = false) :
    scanMembers text key (value ++ rest) pos 1 {} =
      scanMembers text key rest (pos + value.length) 1 {} := by
  have hscalar : ∀ {value : Bytes}, IsScalar value → scanMembers text key (value ++ rest) pos 1 {} =
      scanMembers text key rest (pos + value.length) 1 {} :=
    fun hscalar => scanMembers_plain
      (fun c hc => isPlain_of_isScalarChar (hscalar.chars c hc)) rest pos 1
  have hpair : ∀ {opening : UInt8} {inner : Bytes}, IsOpening opening → Balanced inner →
      scanMembers text key (opening :: (inner ++ [closing opening]) ++ rest) pos 1 {} =
        scanMembers text key rest
          (pos + (opening :: (inner ++ [closing opening])).length) 1 {} := by
    intro opening inner hopening hinner
    rw [List.cons_append, List.append_assoc, List.singleton_append,
      @scanMembers_pair text key opening hopening inner 1
        fun rest pos => scanMembers_balanced hinner rest pos _ (by decide)]
    rw [List.length_cons, List.length_append, List.length_singleton]
  cases hvalue with
  | literal hliteral => exact hscalar (isScalar_literal hliteral)
  | number hnumber => exact hscalar (isScalar_number hnumber)
  | string hbody =>
      apply scanMembers_quoted hbody.unquoted
      rintro ⟨_, htaken⟩
      rw [hmiss _ hbody rfl] at htaken
      exact Bool.false_ne_true htaken
  | emptyArray hblanks => exact hpair (Or.inr rfl) hblanks.balanced
  | array _ hspaced hvalues =>
      exact hpair (Or.inr rfl)
        (balanced_items hspaced fun item hitem => (hvalues item hitem).balanced)
  | emptyObject hblanks => exact hpair (Or.inl rfl) hblanks.balanced
  | object _ hspaced hvalues =>
      exact hpair (Or.inl rfl)
        (balanced_members hspaced fun member hmember => (hvalues member hmember).balanced)

/-! ## The first string of the name -/

variable {field : Bytes} {object : ObjectText} {before after : List JsonMember}
variable {member : JsonMember}

theorem quoted_inj {other : Bytes} (heq : quoted body = quoted other) : body = other :=
  List.append_cancel_right (List.cons.inj heq).2

theorem isPrefixOf_quoted (hfield : PlainName field) (hbody : IsBody body) (hne : body ≠ field)
    (rest : Bytes) : (quoted field).isPrefixOf (quoted body ++ rest) = false := by
  cases htaken : (quoted field).isPrefixOf (quoted body ++ rest) with
  | false => rfl
  | true =>
      obtain ⟨tail, heq⟩ := List.isPrefixOf_iff_prefix.mp htaken
      obtain ⟨hsame, _⟩ := closed_unique (isClosed_quoted hfield.isBody) (isClosed_quoted hbody) heq
      exact absurd (quoted_inj hsame).symm hne

/-- Neither the name nor the value of a member is the string of the field. -/
def Misses (field : Bytes) (member : JsonMember) : Prop :=
  member.name ≠ field ∧ member.value ≠ quoted field

/-- A member up to its value. -/
def JsonMember.front (member : JsonMember) : Bytes :=
  member.lead ++ (quoted member.name ++ (member.behind ++ ascii ':' :: member.before))

theorem member_text (member : JsonMember) (rest : Bytes) :
    member.text ++ rest = member.front ++ (member.value ++ (member.after ++ rest)) := by
  simp only [JsonMember.text, JsonMember.front, JsonItem.text, List.append_assoc,
    List.cons_append]

theorem scanMembers_front (hfield : PlainName field) (hspaced : member.Spaced)
    (hname : member.name ≠ field) (rest : Bytes) (pos : Nat) :
    scanMembers text (quoted field) (member.front ++ rest) pos 1 {} =
      scanMembers text (quoted field) rest (pos + member.front.length) 1 {} := by
  have hmiss : ∀ rest : Bytes,
      ¬ ((1 : Int) = 1 ∧ (quoted field).isPrefixOf (quoted member.name ++ rest)) := by
    rintro rest ⟨_, htaken⟩
    rw [isPrefixOf_quoted hfield hspaced.name hname] at htaken
    exact Bool.false_ne_true htaken
  simp only [JsonMember.front, List.append_assoc, List.cons_append]
  rw [scanMembers_blanks hspaced.lead, scanMembers_quoted hspaced.name.unquoted (hmiss _),
    scanMembers_blanks hspaced.behind, scanMembers_char isPlain_colon,
    scanMembers_blanks hspaced.item.before]
  apply congrArg (scanMembers text (quoted field) rest · 1 {})
  simp only [List.length_append, List.length_cons]
  omega

theorem scanMembers_member (hfield : PlainName field) (hspaced : member.Spaced)
    (hvalue : IsValue member.value) (hmiss : Misses field member) (rest : Bytes) (pos : Nat) :
    scanMembers text (quoted field) (member.text ++ rest) pos 1 {} =
      scanMembers text (quoted field) rest (pos + member.text.length) 1 {} := by
  have hbody : ∀ body, IsBody body → member.value = quoted body →
      (quoted field).isPrefixOf (quoted body ++ (member.after ++ rest)) = false := by
    intro body hbody hquoted
    apply isPrefixOf_quoted hfield hbody
    rintro rfl
    exact hmiss.2 hquoted
  have hlength := congrArg List.length (member_text member [])
  rw [member_text, scanMembers_front hfield hspaced hmiss.1, scanMembers_value hvalue hbody,
    scanMembers_blanks hspaced.item.after]
  apply congrArg (scanMembers text (quoted field) rest · 1 {})
  simp only [List.length_append, List.length_nil] at hlength
  omega

theorem leading_cons_append (part : Bytes) (parts : List Bytes) (rest : Bytes) :
    leading (part :: parts) ++ rest = part ++ ascii ',' :: (leading parts ++ rest) := by
  change ((part ++ [ascii ',']) ++ leading parts) ++ rest = _
  rw [List.append_assoc, List.append_assoc, List.singleton_append]

theorem scanMembers_leading (hfield : PlainName field)
    (hbefore : ∀ member ∈ before, member.Spaced ∧ IsValue member.value ∧ Misses field member)
    (rest : Bytes) (pos : Nat) :
    scanMembers text (quoted field) (leading (before.map JsonMember.text) ++ rest) pos 1 {} =
      scanMembers text (quoted field) rest
        (pos + (leading (before.map JsonMember.text)).length) 1 {} := by
  induction before generalizing pos with
  | nil => rfl
  | cons member before ih =>
      obtain ⟨hspaced, hvalue, hmiss⟩ := hbefore member List.mem_cons_self
      have hlength := congrArg List.length
        (leading_cons_append member.text (before.map JsonMember.text) [])
      rw [List.map_cons, leading_cons_append, scanMembers_member hfield hspaced hvalue hmiss,
        scanMembers_char isPlain_comma,
        ih fun other hother => hbefore other (List.mem_cons_of_mem member hother)]
      apply congrArg (scanMembers text (quoted field) rest · 1 {})
      simp only [List.length_append, List.length_cons, List.length_nil] at hlength
      omega

/-- What stands behind a member. -/
def ObjectText.behind (object : ObjectText) (after : List JsonMember) : Bytes :=
  following (after.map JsonMember.text) ++ ascii '}' :: object.trail

theorem behind_head (object : ObjectText) (after : List JsonMember) :
    ∀ c ∈ (object.behind after).head?, c = ascii ',' ∨ c = ascii '}' := by
  intro c hc
  cases after with
  | nil => exact Or.inr (Option.some.inj hc).symm
  | cons member after => exact Or.inl (Option.some.inj hc).symm

theorem ne_nil_of_split (hmembers : object.members = before ++ member :: after) :
    object.members ≠ [] := by
  rw [hmembers]
  exact List.append_ne_nil_of_right_ne_nil _ (List.cons_ne_nil _ _)

theorem text_split (hvalid : object.Valid) (hlead : object.lead = [])
    (hmembers : object.members = before ++ member :: after) :
    object.text = ascii '{' :: (leading (before.map JsonMember.text) ++
      (member.text ++ object.behind after)) := by
  have hne := ne_nil_of_split hmembers
  rw [ObjectText.text, hlead, hvalid.inner hne, hmembers, List.map_append, List.map_cons,
    commaJoined_append, ObjectText.behind]
  simp only [List.append_assoc, List.nil_append]

theorem topLevelMemberRange_scan (hhead : text.head? = some (ascii '{')) :
    topLevelMemberRange text field = scanMembers text (quoted field) text 0 0 {} :=
  if_neg (not_not.mpr hhead)

theorem topLevelMemberRange_lead (hvalid : object.Valid) (hlead : object.lead ≠ []) :
    topLevelMemberRange object.text field = none := by
  apply if_pos
  rw [ObjectText.text]
  cases hblanks : object.lead with
  | nil => exact absurd hblanks hlead
  | cons c blanks =>
      intro hhead
      have hc : isBlank c = true := hvalid.lead c (by rw [hblanks]; exact List.mem_cons_self)
      exact ne_of_isBlank hc (by decide) (Option.some.inj hhead)

theorem topLevelMemberRange_miss (hvalid : object.Valid) (hfield : PlainName field)
    (hmiss : ∀ member ∈ object.members, Misses field member) :
    topLevelMemberRange object.text field = none := by
  by_cases hlead : object.lead = []
  · have hend : ∀ pos, scanMembers object.text (quoted field) (ascii '}' :: object.trail) pos 1 {} =
        none := by
      intro pos
      have hclosing := @scanMembers_closing object.text (quoted field) (ascii '{') (Or.inl rfl)
        object.trail pos 1
      have htrail := @scanMembers_blanks object.text (quoted field) _ hvalid.trail [] (pos + 1) 0
      rw [List.append_nil] at htrail
      exact hclosing.trans htrail
    have hopening := @scanMembers_opening object.text (quoted field) (ascii '{') (Or.inl rfl)
    rcases List.eq_nil_or_concat object.members with hnone | ⟨before, member, hmembers⟩
    · have htext : object.text = ascii '{' :: (object.blanks ++ ascii '}' :: object.trail) := by
        rw [ObjectText.text, hlead, hnone]
        rfl
      rw [topLevelMemberRange_scan (by rw [htext]; rfl)]
      nth_rewrite 2 [htext]
      rw [hopening, scanMembers_blanks hvalid.blanks]
      exact hend _
    · rw [List.concat_eq_append] at hmembers
      have htext := text_split hvalid hlead hmembers
      have hmember : member ∈ object.members := by simp [hmembers]
      have hbefore : ∀ other ∈ before, other ∈ object.members := by
        intro other hother
        rw [hmembers]
        exact List.mem_append_left _ hother
      rw [topLevelMemberRange_scan (by rw [htext]; rfl)]
      nth_rewrite 2 [htext]
      rw [hopening, zero_add, zero_add, scanMembers_leading hfield fun other hother =>
          ⟨hvalid.spaced other (hbefore other hother), hvalid.values other (hbefore other hother),
            hmiss other (hbefore other hother)⟩,
        scanMembers_member hfield (hvalid.spaced member hmember) (hvalid.values member hmember)
          (hmiss member hmember)]
      exact hend _
  · exact topLevelMemberRange_lead hvalid hlead

/-- Up to the name of a member. -/
def nameFront (before : List JsonMember) (member : JsonMember) : Bytes :=
  ascii '{' :: (leading (before.map JsonMember.text) ++ member.lead)

/-- Up to the value of a member. -/
def valueFront (before : List JsonMember) (member : JsonMember) : Bytes :=
  ascii '{' :: (leading (before.map JsonMember.text) ++ member.front)

theorem scanMembers_hit (rest : Bytes) (pos : Nat) :
    scanMembers text (quoted field) (quoted field ++ rest) pos 1 {} =
      memberRange text (quoted field) pos := by
  have htaken : (quoted field).isPrefixOf (quoted field ++ rest) = true :=
    List.isPrefixOf_iff_prefix.mpr (List.prefix_append _ _)
  rw [quoted_append] at htaken ⊢
  rw [scanMembers, if_neg Bool.false_ne_true, if_pos rfl, if_pos ⟨rfl, htaken⟩]

theorem name_text (hvalid : object.Valid) (hlead : object.lead = [])
    (hmembers : object.members = before ++ member :: after) :
    object.text = nameFront before member ++ (quoted member.name ++
      (member.behind ++ ascii ':' :: (member.toJsonItem.text ++ object.behind after))) := by
  rw [text_split hvalid hlead hmembers, nameFront]
  simp only [JsonMember.text, List.append_assoc, List.cons_append]

theorem value_text (hvalid : object.Valid) (hlead : object.lead = [])
    (hmembers : object.members = before ++ member :: after) :
    object.text = valueFront before member ++ (member.value ++
      (member.after ++ object.behind after)) := by
  rw [text_split hvalid hlead hmembers, valueFront, member_text]
  simp only [List.append_assoc, List.cons_append]

theorem ObjectText.Valid.of_split (hvalid : object.Valid)
    (hmembers : object.members = before ++ member :: after) :
    (∀ other ∈ before, other.Spaced ∧ IsValue other.value) ∧
      (member.Spaced ∧ IsValue member.value) ∧
        ∀ other ∈ after, other.Spaced ∧ IsValue other.value := by
  have hall : ∀ other ∈ before ++ member :: after, other.Spaced ∧ IsValue other.value := by
    rw [← hmembers]
    exact fun other hother => ⟨hvalid.spaced other hother, hvalid.values other hother⟩
  refine ⟨fun other hother => hall other (List.mem_append_left _ hother), hall member ?_,
    fun other hother => hall other ?_⟩
  · exact List.mem_append_right _ List.mem_cons_self
  · exact List.mem_append_right _ (List.mem_cons_of_mem _ hother)

/-- The scan ends at the first member that is named so. -/
theorem topLevelMemberRange_name (hvalid : object.Valid) (hfield : PlainName field)
    (hlead : object.lead = []) (hmembers : object.members = before ++ member :: after)
    (hbefore : ∀ other ∈ before, Misses field other) (hname : member.name = field) :
    topLevelMemberRange object.text field =
      memberRange object.text (quoted field) (nameFront before member).length := by
  obtain ⟨hearlier, ⟨hspaced, _⟩, _⟩ := hvalid.of_split hmembers
  have htext := name_text hvalid hlead hmembers
  have hopening := @scanMembers_opening object.text (quoted field) (ascii '{') (Or.inl rfl)
  rw [topLevelMemberRange_scan (by rw [htext]; rfl)]
  nth_rewrite 2 [htext]
  rw [nameFront, List.cons_append, List.append_assoc, hopening, zero_add, zero_add,
    scanMembers_leading hfield fun other hother =>
      ⟨(hearlier other hother).1, (hearlier other hother).2, hbefore other hother⟩,
    scanMembers_blanks hspaced.lead, hname, scanMembers_hit]
  apply congrArg (memberRange object.text (quoted field))
  simp only [List.length_append, List.length_cons]
  omega

/-- The scan ends at the first value that is the string of the field. -/
theorem topLevelMemberRange_value (hvalid : object.Valid) (hfield : PlainName field)
    (hlead : object.lead = []) (hmembers : object.members = before ++ member :: after)
    (hbefore : ∀ other ∈ before, Misses field other) (hname : member.name ≠ field)
    (hvalue : member.value = quoted field) :
    topLevelMemberRange object.text field =
      memberRange object.text (quoted field) (valueFront before member).length := by
  obtain ⟨hearlier, ⟨hspaced, _⟩, _⟩ := hvalid.of_split hmembers
  have htext := value_text hvalid hlead hmembers
  have hopening := @scanMembers_opening object.text (quoted field) (ascii '{') (Or.inl rfl)
  rw [topLevelMemberRange_scan (by rw [htext]; rfl)]
  nth_rewrite 2 [htext]
  rw [valueFront, List.cons_append, List.append_assoc, hopening, zero_add, zero_add,
    scanMembers_leading hfield fun other hother =>
      ⟨(hearlier other hother).1, (hearlier other hother).2, hbefore other hother⟩,
    scanMembers_front hfield hspaced hname, hvalue, scanMembers_hit]
  apply congrArg (memberRange object.text (quoted field))
  simp only [List.length_append, List.length_cons]
  omega

/-! ## Ranges of members -/

theorem valueEndFrom_key (front key rest : Bytes) :
    valueEndFrom (front ++ (key ++ rest)) (front.length + key.length) =
      behind (front.length + key.length) (valueEndFrom rest 0) := by
  rw [← List.append_assoc, ← List.length_append, valueEndFrom_append]

theorem memberRange_none (front key : Bytes) (hend : valueEndFrom rest 0 = none) :
    memberRange (front ++ (key ++ rest)) key front.length = none := by
  rw [memberRange, valueEndFrom_key, hend]
  rfl

theorem getElem?_front (front : Bytes) (c : UInt8) (rest : Bytes) :
    (front ++ c :: rest)[front.length]? = some c := by
  rw [List.getElem?_append_right (Nat.le_refl _), Nat.sub_self]
  rfl

/-- With a comma in front, that comma goes with the member. -/
theorem memberRange_comma {front : Bytes} (key : Bytes) {taken : Nat} (hblanks : Blanks blanks)
    (hend : valueEndFrom rest 0 = some taken) :
    memberRange ((front ++ ascii ',' :: blanks) ++ (key ++ rest)) key
      (front ++ ascii ',' :: blanks).length =
        some (front.length, (front ++ ascii ',' :: blanks).length + key.length + taken) := by
  have hbefore : (front ++ [ascii ',']).length = front.length + 1 := List.length_append
  have hcomma : ((front ++ ascii ',' :: blanks) ++ (key ++ rest))[front.length]? =
      some (ascii ',') := by
    rw [List.append_assoc, List.cons_append]
    exact getElem?_front _ _ _
  rw [memberRange, valueEndFrom_key, hend]
  dsimp only [behind, Option.map]
  rw [skipWhitespaceBack_front, rdropWhile_blanks hblanks front (by decide), hbefore,
    Nat.add_sub_cancel, if_pos ⟨Nat.succ_pos _, hcomma⟩]

/-- With anything else in front, a comma behind the member goes with it. -/
theorem memberRange_first {front : Bytes} (key : Bytes) {taken : Nat} (hblanks : Blanks blanks)
    (hblank : isBlank c = false) (hc : c ≠ ascii ',') (hend : valueEndFrom rest 0 = some taken) :
    memberRange ((front ++ c :: blanks) ++ (key ++ rest)) key (front ++ c :: blanks).length =
      let text := (front ++ c :: blanks) ++ (key ++ rest)
      let valueEnd := (front ++ c :: blanks).length + key.length + taken
      let after := skipWhitespace text valueEnd
      if text[after]? = some (ascii ',') then some ((front ++ c :: blanks).length, after + 1)
      else some ((front ++ c :: blanks).length, valueEnd) := by
  have hbefore : (front ++ [c]).length = front.length + 1 := List.length_append
  have hother : ¬ (0 < front.length + 1 ∧
      ((front ++ c :: blanks) ++ (key ++ rest))[front.length]? = some (ascii ',')) := by
    rintro ⟨_, hcomma⟩
    rw [List.append_assoc, List.cons_append, getElem?_front] at hcomma
    exact hc (Option.some.inj hcomma)
  rw [memberRange, valueEndFrom_key, hend]
  dsimp only [behind, Option.map]
  rw [skipWhitespaceBack_front, rdropWhile_blanks hblanks front hblank, hbefore,
    Nat.add_sub_cancel, if_neg hother]

end AudioStudio.Gui
