import AudioStudio.Rpc.Endpoint
import AudioStudio.Rpc.JsonAccepted

/-!
# JSON that is written by hand

Texts that are put together from records and lists, their members in any order: they are the
print of a document, and what is read of them has the members of that document.
-/

namespace AudioStudio.Rpc

open AudioStudio.LittleEndian

/-! ## Members of what is read -/

variable {key : Bytes} {members : JsonMembers}

theorem lookup_eq_none_of_lt (hbehind : ∀ member ∈ members, key < member.1) :
    lookup key members = none := by
  induction members with
  | nil => rfl
  | cons first members ih =>
      obtain ⟨name, held⟩ := first
      have hfirst : key ≠ name := fun hsame =>
        List.lt_irrefl name (hsame ▸ hbehind (name, held) List.mem_cons_self)
      rw [lookup, if_neg hfirst]
      exact ih fun other hother => hbehind other (List.mem_cons_of_mem _ hother)

/-- A member that is there already stays. -/
theorem lookup_emplace_self (key : Bytes) (value : JsonValue) (hascending : Ascending members) :
    lookup key (emplace key value members) = (lookup key members).or (some value) := by
  induction members with
  | nil => exact if_pos rfl
  | cons first members ih =>
      obtain ⟨name, held⟩ := first
      obtain ⟨hfirst, hmembers⟩ := List.pairwise_cons.mp hascending
      unfold emplace
      split
      · next hlt =>
          have hne : key ≠ name := fun hsame => List.lt_irrefl name (hsame ▸ hlt)
          have hnone : lookup key members = none :=
            lookup_eq_none_of_lt fun other hother => List.lt_trans hlt (hfirst other hother)
          rw [lookup, if_pos rfl, lookup, if_neg hne, hnone, Option.none_or]
      · split
        · next hsame => rw [lookup, if_pos hsame, Option.some_or]
        · next hne => rw [lookup, if_neg hne, lookup, if_neg hne, ih hmembers]

theorem lookup_emplace_of_ne {other : Bytes} (hne : key ≠ other) (value : JsonValue)
    (members : JsonMembers) : lookup key (emplace other value members) = lookup key members := by
  induction members with
  | nil => exact if_neg hne
  | cons first members ih =>
      obtain ⟨name, held⟩ := first
      unfold emplace
      split
      · rw [lookup, if_neg hne]
      · split
        · rfl
        · rw [lookup, lookup, ih]

/-- The first member of a name is the one that is read. -/
theorem lookup_membersAsRead (key : Bytes) {before members : JsonMembers}
    (hascending : Ascending before) :
    lookup key (membersAsRead before members) =
      (lookup key before).or ((lookup key members).map JsonValue.asRead) := by
  induction members generalizing before with
  | nil => rw [membersAsRead, lookup, Option.map_none, Option.or_none]
  | cons first members ih =>
      obtain ⟨name, value⟩ := first
      rw [membersAsRead, ih (ascending_emplace name value.asRead hascending), lookup]
      split
      · next hsame =>
          subst hsame
          rw [lookup_emplace_self key value.asRead hascending, Option.map_some]
          cases lookup key before with
          | some held => rfl
          | none => rfl
      · next hne => rw [lookup_emplace_of_ne hne]

theorem member_asRead (members : JsonMembers) (key : Bytes) :
    (JsonValue.object members).asRead.member key =
      (lookup key members).map JsonValue.asRead := by
  have hlookup := @lookup_membersAsRead key [] members List.Pairwise.nil
  rwa [lookup, Option.none_or] at hlookup

theorem lookup_of_mem {value : JsonValue} (hdistinct : (members.map Prod.fst).Nodup)
    (hmem : (key, value) ∈ members) : lookup key members = some value := by
  induction members with
  | nil => cases hmem
  | cons first members ih =>
      obtain ⟨name, held⟩ := first
      obtain ⟨hnew, hdistinct⟩ := List.nodup_cons.mp hdistinct
      unfold lookup
      split
      · next hsame =>
          rcases List.mem_cons.mp hmem with heq | hmem
          · rw [(Prod.mk.inj heq).2]
          · exact absurd (List.mem_map_of_mem hmem) (hsame ▸ hnew)
      · next hne =>
          rcases List.mem_cons.mp hmem with heq | hmem
          · exact absurd (Prod.mk.inj heq).1 hne
          · exact ih hdistinct hmem

/-! ## Lists and records -/

/-- Texts with commas between them. -/
def separated (texts : List Bytes) : Bytes :=
  (texts.intersperse (asciiBytes ",")).flatten

def listText (texts : List Bytes) : Bytes :=
  asciiBytes "[" ++ separated texts ++ asciiBytes "]"

/-- A member whose name needs no escape. -/
def memberText (member : String × Bytes) : Bytes :=
  asciiBytes "\"" ++ asciiBytes member.1 ++ asciiBytes "\":" ++ member.2

def recordText (members : List (String × Bytes)) : Bytes :=
  asciiBytes "\x7b" ++ separated (members.map memberText) ++ asciiBytes "\x7d"

theorem separated_cons (text : Bytes) (texts : List Bytes) :
    separated (text :: texts) = text ++ texts.flatMap fun other => asciiBytes "," ++ other := by
  induction texts generalizing text with
  | nil =>
      rw [separated, List.intersperse_singleton, List.flatten_singleton, List.flatMap_nil,
        List.append_nil]
  | cons other texts ih =>
      have hnext := ih other
      rw [separated] at hnext ⊢
      rw [List.intersperse_cons_cons, List.flatten_cons, List.flatten_cons, hnext, List.flatMap_cons,
        List.append_assoc]

theorem listText_dump (items : List JsonValue) :
    listText (items.map JsonValue.dump) = (JsonValue.array items).dump := by
  cases items with
  | nil => rfl
  | cons item items =>
      have hitems : dumpItems items = (items.map JsonValue.dump).flatMap fun text =>
          asciiBytes "," ++ text := by
        induction items with
        | nil => rfl
        | cons other items ih =>
            rw [dumpItems, ih, List.map_cons, List.flatMap_cons]
            rfl
      rw [listText, List.map_cons, separated_cons, JsonValue.dump, hitems]
      simp only [List.append_assoc]
      rfl

/-- The document of a record. -/
def recordValue (members : List (String × JsonValue)) : JsonValue :=
  .object (members.map fun member => (asciiBytes member.1, member.2))

/-- A name that is written as it stands. -/
def Plain (name : String) : Prop :=
  dumpString (asciiBytes name) = asciiBytes "\"" ++ asciiBytes name ++ asciiBytes "\""

theorem memberText_dump {name : String} (hname : Plain name) (value : JsonValue) :
    memberText (name, value.dump) = dumpString (asciiBytes name) ++ [ascii ':'] ++ value.dump := by
  rw [memberText, hname, List.append_assoc, List.append_assoc, List.append_assoc,
    List.append_assoc]
  rfl

instance (name : String) : Decidable (Plain name) :=
  inferInstanceAs (Decidable (_ = _))

theorem recordText_dump {members : List (String × JsonValue)}
    (hnames : ∀ name ∈ members.map Prod.fst, Plain name) :
    recordText (members.map fun member => (member.1, member.2.dump)) =
      (recordValue members).dump := by
  cases members with
  | nil => rfl
  | cons member members =>
      have hmembers : dumpMembers (members.map fun other => (asciiBytes other.1, other.2)) =
          (members.map fun other => memberText (other.1, other.2.dump)).flatMap fun text =>
            asciiBytes "," ++ text := by
        have hrest := (List.forall_mem_cons.mp hnames).2
        clear hnames
        induction members with
        | nil => rfl
        | cons other members ih =>
            obtain ⟨hother, hrest⟩ := List.forall_mem_cons.mp hrest
            rw [List.map_cons, dumpMembers, ih hrest, List.map_cons, List.flatMap_cons,
              memberText_dump hother]
            simp only [List.append_assoc]
            rfl
      rw [recordText, List.map_map, List.map_cons, separated_cons, recordValue, List.map_cons,
        JsonValue.dump, hmembers, Function.comp_apply,
        memberText_dump (List.forall_mem_cons.mp hnames).1]
      simp only [List.append_assoc]
      rfl

theorem member_recordValue (members : List (String × JsonValue)) (key : Bytes) :
    (recordValue members).asRead.member key =
      (lookup key (members.map fun member => (asciiBytes member.1, member.2))).map
        JsonValue.asRead :=
  member_asRead _ key

def Distinct (names : List String) : Prop :=
  (names.map asciiBytes).Nodup

instance (names : List String) : Decidable (Distinct names) :=
  inferInstanceAs (Decidable (List.Nodup _))

theorem member_at {members : List (String × JsonValue)}
    (hdistinct : Distinct (members.map Prod.fst)) {name : String} {value : JsonValue}
    (position : Nat) (hat : members[position]? = some (name, value)) :
    (recordValue members).asRead.member (asciiBytes name) = some value.asRead := by
  have hmem : (asciiBytes name, value) ∈
      members.map fun member => (asciiBytes member.1, member.2) :=
    List.mem_map.mpr ⟨(name, value), List.mem_of_getElem? hat, rfl⟩
  rw [Distinct, List.map_map] at hdistinct
  rw [member_recordValue, lookup_of_mem _ hmem, Option.map_some]
  rwa [List.map_map]

theorem recordValue_spelled {members : List (String × JsonValue)}
    (hmembers : ∀ member ∈ members, member.2.Spelled) : (recordValue members).Spelled := by
  rw [recordValue, JsonValue.Spelled, spelledMembers_iff]
  intro member hmember
  obtain ⟨other, hother, rfl⟩ := List.mem_map.mp hmember
  exact hmembers other hother

/-! ## Members that are no values -/

namespace Parser

theorem bind_error {α β : Type} {reader : JsonReader α} {next : α → JsonReader β} {input : Bytes}
    {fault : JsonFault} (hreader : reader input = .error fault) :
    (reader >>= next) input = .error fault := by
  change (reader input >>= fun read => next read.1 read.2) = .error fault
  rw [hreader]
  rfl

/-- No bound and no end lets the parser read the text. -/
def Unreadable (text : Bytes) : Prop :=
  ∀ fuel rest, ∃ fault, parseValue fuel (text ++ rest) = .error fault

theorem unreadable_of_succ {text : Bytes}
    (hsucc : ∀ fuel rest, ∃ fault, parseValue (fuel + 1) (text ++ rest) = .error fault) :
    Unreadable text := by
  intro fuel rest
  cases fuel with
  | zero => exact ⟨_, rfl⟩
  | succ fuel => exact hsucc fuel rest

/-- What a stream writes for a double that is no number. -/
theorem unreadable_nonFinite {text : Bytes}
    (htext : text ∈ ["inf", "-inf", "nan", "-nan"].map asciiBytes) : Unreadable text := by
  apply unreadable_of_succ
  intro fuel rest
  simp only [List.map_cons, List.map_nil, List.mem_cons, List.not_mem_nil, or_false] at htext
  rcases htext with rfl | rfl | rfl | rfl
  · exact ⟨_, rfl⟩
  · exact ⟨_, rfl⟩
  · exact ⟨_, rfl⟩
  · exact ⟨_, rfl⟩

theorem unreadable_array {item : JsonValue} (items : List JsonValue)
    (hhead : ∃ ch tail, item.dump = ch :: tail ∧ isSpace ch = false ∧ ch ≠ ascii ']')
    (hitem : Unreadable item.dump) : Unreadable (JsonValue.array (item :: items)).dump := by
  apply unreadable_of_succ
  intro fuel rest
  obtain ⟨ch, tail, hhead, hspace, hclose⟩ := hhead
  have hskip : ∀ rest, skipSpace (item.dump ++ rest) = .ok ((), item.dump ++ rest) := by
    intro rest
    rw [hhead]
    exact skipSpace_cons hspace
  have hopen : ∀ rest, consume (ascii ']') (item.dump ++ rest) =
      .ok (false, item.dump ++ rest) := by
    intro rest
    rw [hhead]
    exact consume_cons_of_ne hclose
  have helements : ∀ rest, ∃ fault, parseElements fuel (item.dump ++ rest) = .error fault := by
    intro rest
    cases fuel with
    | zero => exact ⟨_, rfl⟩
    | succ fuel =>
        obtain ⟨fault, hfault⟩ := hitem fuel rest
        exact ⟨fault, by rw [parseElements, bind_error hfault]⟩
  rw [JsonValue.dump]
  simp only [List.append_assoc, List.cons_append, List.nil_append]
  obtain ⟨fault, hfault⟩ := helements (dumpItems items ++ ascii ']' :: rest)
  refine ⟨fault, ?_⟩
  change (expect '[' >>= fun _ => skipSpace >>= fun _ => consume (ascii ']') >>= fun empty =>
    if empty then return JsonValue.array []
    else do
      let items ← parseElements fuel
      return JsonValue.array items) (ascii '[' :: _) = _
  rw [bind_ok (expect_cons '['), bind_ok (hskip _), bind_ok (hopen _), if_neg Bool.false_ne_true,
    bind_error hfault]

theorem parseMembers_head {key : Bytes} {value : JsonValue} {before : JsonMembers}
    (hvalue : Unreadable value.dump) (fuel : Nat) (tail : Bytes) :
    ∃ fault, parseMembers fuel before (dumpString key ++ ascii ':' :: (value.dump ++ tail)) =
      .error fault := by
  cases fuel with
  | zero => exact ⟨_, rfl⟩
  | succ fuel =>
      obtain ⟨fault, hfault⟩ := hvalue fuel tail
      refine ⟨fault, ?_⟩
      rw [parseMembers, bind_ok (show skipSpace (dumpString key ++ _) = .ok ((), dumpString key ++ _)
          from skipSpace_cons (by decide)),
        bind_ok (show peek (dumpString key ++ _) = .ok (quote, dumpString key ++ _) from rfl),
        if_neg (not_not.mpr rfl), bind_ok (parseString_dumpString key _),
        bind_ok (skipSpace_cons (by decide)), bind_ok (expect_cons ':'), bind_error hfault]

theorem parseMembers_unreadable {key : Bytes} {value : JsonValue} {before members : JsonMembers}
    {rest : Bytes}
    (heach : ∀ member ∈ (key, value) :: members, member.2.Spelled ∨ Unreadable member.2.dump)
    (hsome : ∃ member ∈ (key, value) :: members, Unreadable member.2.dump) {fuel : Nat}
    (hfuel : value.dump.length + (dumpMembers members).length + 1 < fuel) :
    ∃ fault, parseMembers fuel before (dumpString key ++ ascii ':' ::
      (value.dump ++ (dumpMembers members ++ ascii '}' :: rest))) = .error fault := by
  induction members generalizing key value before fuel with
  | nil =>
      obtain ⟨member, hmember, hunreadable⟩ := hsome
      rw [List.mem_singleton.mp hmember] at hunreadable
      exact parseMembers_head hunreadable fuel _
  | cons next members ih =>
      obtain ⟨nextKey, nextValue⟩ := next
      by_cases hfirst : Unreadable value.dump
      · exact parseMembers_head hfirst fuel _
      · have hspelled : value.Spelled :=
          (heach (key, value) List.mem_cons_self).resolve_right hfirst
        have hothers : ∃ member ∈ (nextKey, nextValue) :: members, Unreadable member.2.dump := by
          obtain ⟨member, hmember, hunreadable⟩ := hsome
          rcases List.mem_cons.mp hmember with rfl | hmember
          · exact absurd hunreadable hfirst
          · exact ⟨member, hmember, hunreadable⟩
        rw [dumpMembers] at hfuel ⊢
        simp only [List.length_append, List.length_singleton] at hfuel
        cases fuel with
        | zero => exact absurd hfuel (Nat.not_lt_zero _)
        | succ fuel =>
            simp only [List.append_assoc, List.cons_append, List.nil_append]
            rw [parseMembers_succ (readsBack value) hspelled (by omega) (by decide) (by decide),
              bind_ok (consume_cons_of_ne (by decide)), if_neg Bool.false_ne_true,
              bind_ok (expect_cons ',')]
            exact ih (fun member hmember => heach member (List.mem_cons_of_mem _ hmember)) hothers
              (by omega)

theorem parseValue_unreadable {members : JsonMembers}
    (heach : ∀ member ∈ members, member.2.Spelled ∨ Unreadable member.2.dump)
    (hsome : ∃ member ∈ members, Unreadable member.2.dump) {fuel : Nat}
    (hfuel : (JsonValue.object members).dump.length < fuel) (rest : Bytes) :
    ∃ fault, parseValue fuel ((JsonValue.object members).dump ++ rest) = .error fault := by
  cases members with
  | nil =>
      obtain ⟨member, hmember, -⟩ := hsome
      cases hmember
  | cons member members =>
      obtain ⟨key, value⟩ := member
      cases fuel with
      | zero => exact ⟨_, rfl⟩
      | succ fuel =>
          rw [JsonValue.dump] at hfuel ⊢
          simp only [List.length_append, List.length_singleton] at hfuel
          simp only [List.append_assoc, List.cons_append, List.nil_append]
          obtain ⟨fault, hfault⟩ := @parseMembers_unreadable key value [] members rest heach hsome
            fuel (by omega)
          refine ⟨fault, ?_⟩
          change (expect '{' >>= fun _ => skipSpace >>= fun _ => consume (ascii '}') >>= fun empty =>
            if empty then return JsonValue.object []
            else do
              let members ← parseMembers fuel []
              return JsonValue.object members) (ascii '{' :: (dumpString key ++ _)) = _
          rw [bind_ok (expect_cons '{'),
            bind_ok (show skipSpace (dumpString key ++ _) = .ok ((), dumpString key ++ _) from
              skipSpace_cons (by decide)),
            bind_ok (show consume (ascii '}') (dumpString key ++ _) =
              .ok (false, dumpString key ++ _) from consume_cons_of_ne (by decide)),
            if_neg Bool.false_ne_true, bind_error hfault]

end Parser

/-- A record with a member that is no value is not read. -/
theorem parseJson_unreadable {members : List (String × JsonValue)}
    (heach : ∀ member ∈ members, member.2.Spelled ∨ Parser.Unreadable member.2.dump)
    (hsome : ∃ member ∈ members, Parser.Unreadable member.2.dump) :
    ∃ fault, parseJson (recordValue members).dump = .error fault := by
  have hrecord : ∀ other ∈ members.map fun member => (asciiBytes member.1, member.2),
      other.2.Spelled ∨ Parser.Unreadable other.2.dump := by
    intro other hother
    obtain ⟨member, hmember, rfl⟩ := List.mem_map.mp hother
    exact heach member hmember
  obtain ⟨member, hmember, hunreadable⟩ := hsome
  obtain ⟨fault, hfault⟩ : ∃ fault, Parser.parseValue (2 * (recordValue members).dump.length + 1)
      ((recordValue members).dump ++ []) = .error fault :=
    Parser.parseValue_unreadable hrecord ⟨_, List.mem_map_of_mem hmember, hunreadable⟩
      (show (recordValue members).dump.length < _ by omega) []
  rw [List.append_nil] at hfault
  refine ⟨fault, ?_⟩
  unfold parseJson Parser.parse
  rw [Parser.bind_error hfault]
  rfl

end AudioStudio.Rpc
