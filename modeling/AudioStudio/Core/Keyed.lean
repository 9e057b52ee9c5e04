import Mathlib.Data.List.Induction
import Mathlib.Data.List.Nodup
import Mathlib.Data.List.Perm.Basic
import Mathlib.Data.List.Perm.Subperm

/-!
# Collections by key

A collection is a list whose items have keys.  An item is put over the one that has
its key, or behind all others.  Where records are merged into the items of their
keys, the item of a key depends on the records of that key alone.
-/

namespace AudioStudio.Keyed

variable {α κ ρ : Type} [DecidableEq κ] (key : α → κ)

/-- The first item of a key. -/
def find (wanted : κ) : List α → Option α
  | [] => none
  | item :: items => if key item = wanted then some item else find wanted items

/-- Put an item above the first one of its key, or behind all others. -/
def upsert (value : α) : List α → List α
  | [] => [value]
  | item :: items => if key item = key value then value :: items else item :: upsert value items

def erase (unwanted : κ) (items : List α) : List α :=
  items.filter fun item => key item ≠ unwanted

/-- No two items have one key. -/
def Distinct (items : List α) : Prop := (items.map key).Nodup

variable {key} {value item : α} {items : List α} {wanted : κ}

/-! ## Finding -/

theorem find_mem (hfind : find key wanted items = some item) : item ∈ items ∧ key item = wanted := by
  induction items with
  | nil => cases hfind
  | cons first items ih =>
      unfold find at hfind
      split at hfind
      · next hkey =>
          cases hfind
          exact ⟨List.mem_cons_self, hkey⟩
      · obtain ⟨hmem, hkey⟩ := ih hfind
        exact ⟨List.mem_cons_of_mem _ hmem, hkey⟩

theorem find_isSome_iff : (find key wanted items).isSome = true ↔ ∃ item ∈ items, key item = wanted := by
  induction items with
  | nil => simp [find]
  | cons first items ih =>
      unfold find
      split
      · next hkey => simp [hkey]
      · next hkey => simp [ih, hkey]

theorem find_of_mem (hdistinct : Distinct key items) (hmem : item ∈ items) :
    find key (key item) items = some item := by
  induction items with
  | nil => cases hmem
  | cons first items ih =>
      obtain ⟨hfirst, hrest⟩ := List.nodup_cons.mp hdistinct
      unfold find
      rcases List.mem_cons.mp hmem with rfl | hlater
      · rw [if_pos rfl]
      · rw [if_neg, ih hrest hlater]
        intro hkey
        exact hfirst (hkey ▸ List.mem_map_of_mem hlater)

theorem mem_iff_find (hdistinct : Distinct key items) :
    item ∈ items ↔ find key (key item) items = some item :=
  ⟨find_of_mem hdistinct, fun hfind => (find_mem hfind).1⟩

/-- Two collections that find the same items have the same items. -/
theorem perm_of_find {others : List α} (hdistinct : Distinct key items)
    (hothers : Distinct key others) (hfind : ∀ wanted, find key wanted items = find key wanted others) :
    items.Perm others := by
  refine (List.perm_ext_iff_of_nodup hdistinct.of_map hothers.of_map).mpr fun item => ?_
  rw [mem_iff_find hdistinct, mem_iff_find hothers, hfind]

/-! ## Putting -/

theorem find_upsert_self : find key (key value) (upsert key value items) = some value := by
  induction items with
  | nil => simp [upsert, find]
  | cons first items ih =>
      unfold upsert
      split
      · simp [find]
      · next hkey => simp [find, hkey, ih]

theorem find_upsert_of_ne (hne : key value ≠ wanted) :
    find key wanted (upsert key value items) = find key wanted items := by
  induction items with
  | nil => simp [upsert, find, hne]
  | cons first items ih =>
      unfold upsert
      split
      · next hkey =>
          have hfirst : key first ≠ wanted := hkey ▸ hne
          simp [find, hne, hfirst]
      · simp only [find, ih]

theorem keys_upsert : ((upsert key value items).map key) =
    if key value ∈ items.map key then items.map key else items.map key ++ [key value] := by
  induction items with
  | nil => simp [upsert]
  | cons first items ih =>
      unfold upsert
      split
      · next hkey => simp [hkey]
      · next hkey =>
          rw [List.map_cons, ih]
          split
          · next hmem => simp [hmem]
          · next hmem => simp [hmem, Ne.symm hkey]

theorem Distinct.upsert (hdistinct : Distinct key items) : Distinct key (upsert key value items) := by
  unfold Distinct
  rw [keys_upsert]
  split
  · exact hdistinct
  · next hmem =>
      refine List.nodup_append.mpr ⟨hdistinct, List.nodup_singleton _, ?_⟩
      intro first hfirst second hsecond heq
      rw [List.mem_singleton] at hsecond
      exact hmem (hsecond ▸ heq ▸ hfirst)

theorem upsert_of_not_mem (hnew : key value ∉ items.map key) :
    upsert key value items = items ++ [value] := by
  induction items with
  | nil => rfl
  | cons first items ih =>
      obtain ⟨hfirst, hrest⟩ := not_or.mp (mt List.mem_cons.mpr hnew)
      rw [upsert, if_neg (Ne.symm hfirst), ih hrest, List.cons_append]

/-- The first item of the key is the one that is replaced. -/
theorem upsert_set {index : Nat} (hhere : (items.map key)[index]? = some (key value))
    (hfirst : key value ∉ (items.map key).take index) :
    upsert key value items = items.set index value := by
  induction items generalizing index with
  | nil => cases hhere
  | cons first items ih =>
      cases index with
      | zero =>
          rw [upsert, if_pos (Option.some.inj hhere), List.set_cons_zero]
      | succ index =>
          obtain ⟨hne, hrest⟩ := not_or.mp (mt List.mem_cons.mpr hfirst)
          rw [upsert, if_neg (Ne.symm hne), ih hhere hrest, List.set_cons_succ]

/-! ## Overlays -/

variable (key) in
/-- The items of a base, each under the one of its key that lies above it, and then what lies above
none of them. -/
def overlay (base above : List α) : List α :=
  base.map (fun item => (find key (key item) above).getD item) ++
    above.filter fun item => key item ∉ base.map key

theorem find_eq_none (hnone : wanted ∉ items.map key) : find key wanted items = none := by
  by_contra hsome
  obtain ⟨item, hmem, hkey⟩ := find_isSome_iff.mp (Option.isSome_iff_ne_none.mpr hsome)
  exact hnone (hkey ▸ List.mem_map_of_mem hmem)

theorem key_overlaid (above : List α) (item : α) :
    key ((find key (key item) above).getD item) = key item := by
  cases hfind : find key (key item) above with
  | none => rfl
  | some other => exact (find_mem hfind).2

variable {base above : List α}

theorem keys_overlay : (overlay key base above).map key =
    base.map key ++ (above.map key).filter fun wanted => wanted ∉ base.map key := by
  unfold overlay
  rw [List.map_append, List.map_map, List.filter_map]
  exact congrArg (· ++ _) (List.map_congr_left fun item _ => key_overlaid above item)

theorem Distinct.overlay (hbase : Distinct key base) (hover : Distinct key above) :
    Distinct key (overlay key base above) := by
  unfold Distinct
  rw [keys_overlay]
  refine List.nodup_append.mpr ⟨hbase, hover.filter _, ?_⟩
  rintro first hfirst second hsecond rfl
  exact of_decide_eq_true (List.mem_filter.mp hsecond).2 hfirst

theorem map_upsert {β : Type} {g h : α → β} (hbase : Distinct key base)
    (hmem : key value ∈ base.map key) (hself : ∀ item, key item = key value → h item = g value)
    (hother : ∀ item, key item ≠ key value → h item = g item) :
    (upsert key value base).map g = base.map h := by
  induction base with
  | nil => cases hmem
  | cons first base ih =>
      obtain ⟨hfirst, hrest⟩ := List.nodup_cons.mp hbase
      unfold upsert
      split
      · next hkey =>
          rw [List.map_cons, List.map_cons, hself first hkey]
          refine congrArg (g value :: ·) (List.map_congr_left fun item hitem => ?_)
          refine (hother item fun hsame => hfirst ?_).symm
          exact hkey ▸ hsame ▸ List.mem_map_of_mem hitem
      · next hkey =>
          have hlater : key value ∈ base.map key :=
            (List.mem_cons.mp hmem).resolve_left (Ne.symm hkey)
          rw [List.map_cons, List.map_cons, hother first hkey, ih hrest hlater]

/-- An item that is put above the base is one that lies above it first. -/
theorem overlay_cons (hbase : Distinct key base) (hvalue : key value ∉ above.map key) :
    overlay key (upsert key value base) above = overlay key base (value :: above) := by
  have hself : ∀ item, key item = key value → (find key (key item) (value :: above)).getD item =
      (find key (key value) above).getD value := by
    intro item hsame
    rw [find, if_pos hsame.symm, find_eq_none hvalue]
    rfl
  have hother : ∀ item, key item ≠ key value → (find key (key item) (value :: above)).getD item =
      (find key (key item) above).getD item := by
    intro item hne
    rw [find, if_neg (Ne.symm hne)]
  unfold overlay
  by_cases hmem : key value ∈ base.map key
  · have hmap : (upsert key value base).map (fun item => (find key (key item) above).getD item) =
        base.map fun item => (find key (key item) (value :: above)).getD item :=
      map_upsert hbase hmem hself hother
    rw [hmap, keys_upsert, if_pos hmem, List.filter_cons_of_neg (by simpa using hmem)]
  · have hfilter : above.filter (fun item => key item ∉ base.map key ++ [key value]) =
        above.filter fun item => key item ∉ base.map key := by
      refine List.filter_congr fun item hitem => decide_eq_decide.mpr ?_
      have hne : key item ≠ key value := fun hsame => hvalue (hsame ▸ List.mem_map_of_mem hitem)
      rw [List.mem_append, List.mem_singleton, or_iff_left hne]
    have hmap : base.map (fun item => (find key (key item) above).getD item) =
        base.map fun item => (find key (key item) (value :: above)).getD item := by
      refine List.map_congr_left fun item hitem => (hother item fun hsame => hmem ?_).symm
      exact hsame ▸ List.mem_map_of_mem hitem
    rw [upsert_of_not_mem hmem, List.map_append, List.map_append, hmap, List.append_assoc,
      List.filter_cons_of_pos (by simpa using hmem), ← hfilter, List.map_singleton,
      List.map_singleton, find_eq_none hvalue]
    rfl

theorem overlay_nil : overlay key base [] = base := by
  unfold overlay
  rw [List.filter_nil, List.append_nil]
  exact List.map_id _

theorem overlay_on_nil : overlay key [] above = above :=
  List.filter_eq_self.mpr fun _ _ => decide_eq_true List.not_mem_nil

/-- Items that are put one after another lie above what there was. -/
theorem foldl_upsert_eq_overlay (hbase : Distinct key base) (hover : Distinct key above) :
    above.foldl (fun items value => upsert key value items) base = overlay key base above := by
  induction above generalizing base with
  | nil => exact overlay_nil.symm
  | cons value above ih =>
      obtain ⟨hvalue, hrest⟩ := List.nodup_cons.mp hover
      rw [List.foldl_cons, ih hbase.upsert hrest, overlay_cons hbase hvalue]

/-- What lies above a base already stays. -/
theorem overlay_overlay (hbase : Distinct key base) (hover : Distinct key above) :
    overlay key base (overlay key base above) = overlay key base above := by
  have hdistinct := hbase.overlay hover
  have hbehind : (overlay key base above).filter (fun item => key item ∉ base.map key) =
      above.filter fun item => key item ∉ base.map key := by
    have hfront : (base.map fun item => (find key (key item) above).getD item).filter
        (fun item => key item ∉ base.map key) = [] := by
      refine List.filter_eq_nil_iff.mpr fun item hitem hout => ?_
      obtain ⟨under, hunder, rfl⟩ := List.mem_map.mp hitem
      refine of_decide_eq_true hout ?_
      rw [@key_overlaid _ _ _ key]
      exact List.mem_map_of_mem hunder
    unfold overlay
    rw [List.filter_append, hfront, List.nil_append, List.filter_filter]
    exact List.filter_congr fun item _ => Bool.and_self _
  have hfront : base.map (fun item => (find key (key item) (overlay key base above)).getD item) =
      base.map fun item => (find key (key item) above).getD item := by
    refine List.map_congr_left fun item hitem => ?_
    have hmem : (find key (key item) above).getD item ∈ overlay key base above :=
      List.mem_append_left _ (List.mem_map.mpr ⟨item, hitem, rfl⟩)
    have hfind := find_of_mem hdistinct hmem
    rw [@key_overlaid _ _ _ key] at hfind
    rw [hfind]
    rfl
  calc overlay key base (overlay key base above)
      = base.map (fun item => (find key (key item) (overlay key base above)).getD item) ++
          (overlay key base above).filter (fun item => key item ∉ base.map key) := rfl
    _ = overlay key base above := by rw [hfront, hbehind]; rfl

theorem find_append (wanted : κ) (front back : List α) :
    find key wanted (front ++ back) = (find key wanted front).or (find key wanted back) := by
  induction front with
  | nil => rfl
  | cons first front ih =>
      rw [List.cons_append, find, find]
      split
      · rfl
      · exact ih

theorem find_map_of_key {f : α → α} (hkey : ∀ item, key (f item) = key item) (wanted : κ) :
    find key wanted (items.map f) = (find key wanted items).map f := by
  induction items with
  | nil => rfl
  | cons first items ih =>
      rw [List.map_cons, find, find, hkey]
      split
      · rfl
      · exact ih

theorem find_filter {keeps : α → Bool} (hkeeps : ∀ item, key item = wanted → keeps item = true) :
    find key wanted (items.filter keeps) = find key wanted items := by
  induction items with
  | nil => rfl
  | cons first items ih =>
      by_cases hkept : keeps first = true
      · rw [List.filter_cons_of_pos hkept, find, find, ih]
      · rw [List.filter_cons_of_neg hkept, ih, find, if_neg (mt (hkeeps first) hkept)]

/-- What an overlay has of a key: what lies above the base, if anything. -/
theorem find_overlay (wanted : κ) (base above : List α) : find key wanted (overlay key base above) =
    (find key wanted above).or (find key wanted base) := by
  unfold overlay
  rw [find_append, find_map_of_key (key_overlaid above)]
  cases hbase : find key wanted base with
  | some item =>
      obtain ⟨-, hkey⟩ := find_mem hbase
      rw [Option.map_some, Option.some_or, hkey]
      cases find key wanted above <;> rfl
  | none =>
      have hout : wanted ∉ base.map key := by
        rintro hmem
        obtain ⟨item, hitem, hkey⟩ := List.mem_map.mp hmem
        have hsome := find_isSome_iff.mpr ⟨item, hitem, hkey⟩
        rw [hbase] at hsome
        cases hsome
      rw [Option.map_none, Option.none_or, Option.or_none,
        find_filter fun item hkey => decide_eq_true (hkey ▸ hout)]

/-! ## Merging records -/

variable (key) (keyOf : ρ → Option κ) (apply : Option α → ρ → α)

/-- Merge a record into the item of its key. -/
def merge (items : List α) (record : ρ) : List α :=
  match keyOf record with
  | none => items
  | some wanted => upsert key (apply (find key wanted items) record) items

/-- The records of a key, in their order. -/
def recordsOf (wanted : κ) (records : List ρ) : List ρ :=
  records.filter fun record => keyOf record = some wanted

/-- What records of one key make of its item. -/
def entryOf (records : List ρ) (item : Option α) : Option α :=
  records.foldl (fun item record => some (apply item record)) item

variable {key keyOf apply}

/-- A record keeps its key in the item that it makes. -/
def KeepsKey (key : α → κ) (keyOf : ρ → Option κ) (apply : Option α → ρ → α) : Prop :=
  ∀ item record wanted, keyOf record = some wanted → (∀ found ∈ item, key found = wanted) →
    key (apply item record) = wanted

theorem find_merge (hkeeps : KeepsKey key keyOf apply) (record : ρ) (wanted : κ) (items : List α) :
    find key wanted (merge key keyOf apply items record) =
      if keyOf record = some wanted then some (apply (find key wanted items) record)
      else find key wanted items := by
  unfold merge
  cases hkey : keyOf record with
  | none => rfl
  | some found =>
      dsimp only
      have hput := hkeeps (find key found items) record found hkey
        fun item hitem => (find_mem hitem).2
      by_cases hsame : found = wanted
      · subst hsame
        have hself : find key (key (apply (find key found items) record))
            (upsert key (apply (find key found items) record) items) =
              some (apply (find key found items) record) := find_upsert_self
        rw [hput] at hself
        rw [if_pos rfl, hself]
      · rw [if_neg fun heq => hsame (Option.some.inj heq), find_upsert_of_ne]
        rw [hput]
        exact hsame

/-- The item of a key is what the records of that key make, one after the other. -/
theorem find_foldl_merge (hkeeps : KeepsKey key keyOf apply) (records : List ρ) (wanted : κ)
    (items : List α) :
    find key wanted (records.foldl (merge key keyOf apply) items) =
      entryOf apply (recordsOf keyOf wanted records) (find key wanted items) := by
  induction records generalizing items with
  | nil => rfl
  | cons record records ih =>
      rw [List.foldl_cons, ih, find_merge hkeeps]
      unfold recordsOf entryOf
      by_cases hkey : keyOf record = some wanted
      · rw [if_pos hkey, List.filter_cons, if_pos (decide_eq_true hkey), List.foldl_cons]
      · rw [if_neg hkey, List.filter_cons, if_neg (by rwa [decide_eq_true_eq])]

theorem distinct_foldl_merge (records : List ρ) {items : List α} (hdistinct : Distinct key items) :
    Distinct key (records.foldl (merge key keyOf apply) items) := by
  induction records generalizing items with
  | nil => exact hdistinct
  | cons record records ih =>
      refine ih ?_
      unfold merge
      split
      · exact hdistinct
      · exact hdistinct.upsert

theorem entryOf_isSome_iff (records : List ρ) :
    (entryOf apply records none).isSome = true ↔ records ≠ [] := by
  have hsome : ∀ (records : List ρ) (item : α), (entryOf apply records (some item)).isSome = true := by
    intro records
    induction records with
    | nil => exact fun _ => rfl
    | cons record records ih => exact fun item => ih _
  cases records with
  | nil => exact iff_of_false Bool.false_ne_true fun hne => hne rfl
  | cons record records => exact iff_of_true (hsome records _) (List.cons_ne_nil _ _)

/-- A key is there exactly when a record of it was merged. -/
theorem key_mem_foldl_merge_iff (hkeeps : KeepsKey key keyOf apply) (records : List ρ) (wanted : κ) :
    (∃ item ∈ records.foldl (merge key keyOf apply) [], key item = wanted) ↔
      ∃ record ∈ records, keyOf record = some wanted := by
  rw [← find_isSome_iff, find_foldl_merge hkeeps]
  refine (entryOf_isSome_iff _).trans ?_
  rw [Ne, recordsOf, List.filter_eq_nil_iff]
  simp

/-- The item of a collection is what the records of its key make. -/
theorem entryOf_of_mem (hkeeps : KeepsKey key keyOf apply) {records : List ρ}
    (hmem : item ∈ records.foldl (merge key keyOf apply) []) :
    entryOf apply (recordsOf keyOf (key item) records) none = some item := by
  have hdistinct : Distinct key (records.foldl (merge key keyOf apply) []) :=
    distinct_foldl_merge records List.nodup_nil
  rw [← find_of_mem hdistinct hmem, find_foldl_merge hkeeps]
  rfl

/-- Records of different keys can be swapped: the items stay the same. -/
theorem foldl_merge_swap (hkeeps : KeepsKey key keyOf apply) {first second : ρ}
    (hkeys : ∀ wanted, keyOf first = some wanted → keyOf second ≠ some wanted)
    (before after : List ρ) :
    ((before ++ first :: second :: after).foldl (merge key keyOf apply) []).Perm
      ((before ++ second :: first :: after).foldl (merge key keyOf apply) []) := by
  refine perm_of_find (distinct_foldl_merge _ List.nodup_nil) (distinct_foldl_merge _ List.nodup_nil)
    fun wanted => ?_
  rw [find_foldl_merge hkeeps, find_foldl_merge hkeeps]
  congr 1
  unfold recordsOf
  rw [List.filter_append, List.filter_append]
  congr 1
  by_cases hfirst : keyOf first = some wanted
  · have hsecond := hkeys wanted hfirst
    simp [hfirst, hsecond]
  · by_cases hsecond : keyOf second = some wanted
    · simp [hfirst, hsecond]
    · simp [hfirst, hsecond]

/-! ## Items and their fields -/

/-- An item that records made is what the last of them made. -/
theorem entryOf_eq_apply {records : List ρ} (hitem : entryOf apply records none = some item) :
    ∃ earlier record, apply earlier record = item := by
  unfold entryOf at hitem
  induction records using List.reverseRecOn with
  | nil => cases hitem
  | append_singleton records record _ =>
      rw [List.foldl_append] at hitem
      exact ⟨_, record, Option.some.inj hitem⟩

/-- Where a record replaces the item, the last one is left. -/
theorem entryOf_replace (build : ρ → α) (records : List ρ) (item : Option α) :
    entryOf (fun _ record => build record) records item =
      (records.getLast?.map build).or item := by
  unfold entryOf
  induction records using List.reverseRecOn with
  | nil => rfl
  | append_singleton records record _ =>
      rw [List.foldl_append, List.getLast?_concat]
      rfl

/-- The last value that one of the records gives. -/
def lastRead {β : Type} (read : ρ → Option β) (records : List ρ) : Option β :=
  records.reverse.findSome? read

/-- Where each record sets a field or leaves it, the field is the last value set. -/
theorem field_entryOf {β : Type} {field : α → β} {read : ρ → Option β} {initial : β}
    (hfield : ∀ item record, field (apply item record) =
      (read record).getD ((item.map field).getD initial))
    (records : List ρ) (item : Option α) :
    ((entryOf apply records item).map field).getD initial =
      (lastRead read records).getD ((item.map field).getD initial) := by
  unfold entryOf lastRead
  induction records using List.reverseRecOn with
  | nil => rfl
  | append_singleton records record ih =>
      rw [List.foldl_append, List.reverse_append]
      change (Option.map field (some (apply _ record))).getD initial = _
      rw [Option.map_some, Option.getD_some, hfield, ih]
      change _ = (List.findSome? read (record :: records.reverse)).getD _
      rw [List.findSome?_cons]
      cases read record with
      | none => rfl
      | some value => rfl

end AudioStudio.Keyed
