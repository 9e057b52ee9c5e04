import AudioStudio.Log.TextSession
import Mathlib.Data.List.Basic

/-!
# Mirror sessions

A mirror session reads the stored entries by a cursor, while other sessions append
entries and `clear` empties the store.  The history lists every entry that was
stored; what is stored now is always its end.
-/

namespace AudioStudio.Log

open AudioStudio.Common
open LittleEndian

/-! ## One mirror read -/

/-- A mirror read looks at the next `count` entries and returns those that pass. -/
theorem readMirrorLoop_spec (maxEntries : Nat) (unread : List LogEntry) (session : Session)
    (entries : List LogEntry) :
    ∃ count ≤ unread.length,
      (readMirrorLoop maxEntries unread session entries).1.mirrorEntryCursor =
        session.mirrorEntryCursor + count ∧
      (readMirrorLoop maxEntries unread session entries).1.minLevel = session.minLevel ∧
      (readMirrorLoop maxEntries unread session entries).2 =
        entries ++ (unread.take count).filter (passesLevel ·.level session.minLevel) ∧
      (readMirrorLoop maxEntries unread session entries).2 =
        entries ++ (unread.filter (passesLevel ·.level session.minLevel)).take
          (maxEntries - entries.length) := by
  induction unread generalizing session entries with
  | nil => exact ⟨0, le_refl 0, rfl, rfl, by simp [readMirrorLoop], by simp [readMirrorLoop]⟩
  | cons entry unread ih =>
      unfold readMirrorLoop
      split
      · next hroom =>
          dsimp only
          split
          · next hfiltered =>
              obtain ⟨count, hcount, hcursor, hlevel, hlooked, hbatch⟩ := ih
                { session with mirrorEntryCursor := session.mirrorEntryCursor + 1 } entries
              have hfails : passesLevel entry.level session.minLevel = false := by
                simpa using hfiltered
              refine ⟨count + 1, by simpa using hcount, ?_, hlevel, ?_, ?_⟩
              · rw [hcursor, Nat.add_assoc, Nat.add_comm 1]
              · rw [hlooked, List.take_succ_cons, List.filter_cons_of_neg (by simp [hfails])]
              · rw [hbatch, List.filter_cons_of_neg (by simp [hfails])]
          · next hpassed =>
              obtain ⟨count, hcount, hcursor, hlevel, hlooked, hbatch⟩ := ih
                { session with
                  mirrorEntryCursor := session.mirrorEntryCursor + 1
                  entriesRead := session.entriesRead + 1 } (entries ++ [entry])
              have hpasses : passesLevel entry.level session.minLevel = true := by
                simpa using hpassed
              refine ⟨count + 1, by simpa using hcount, ?_, hlevel, ?_, ?_⟩
              · rw [hcursor, Nat.add_assoc, Nat.add_comm 1]
              · rw [hlooked, List.take_succ_cons, List.filter_cons_of_pos (by exact hpasses),
                  List.append_assoc, List.singleton_append]
              · have hleft : maxEntries - entries.length =
                    (maxEntries - (entries ++ [entry]).length) + 1 := by
                  rw [List.length_append, List.length_singleton]
                  omega
                rw [hbatch, List.filter_cons_of_pos (by exact hpasses), hleft, List.take_succ_cons,
                  List.append_assoc, List.singleton_append]
      · next hfull =>
          refine ⟨0, Nat.zero_le _, rfl, rfl, by simp, ?_⟩
          rw [Nat.sub_eq_zero_of_le (Nat.le_of_not_lt hfull)]
          simp

/-! ## Runs -/

/-- The service with its mirror and what has happened: every entry that was stored, the
positions in this history that the mirror has looked at, and those that were evicted or
cleared before it did. -/
structure MirrorState where
  service : LogService
  session : Session
  history : List LogEntry
  looked : List Nat := []
  lost : List Nat := []
  returned : List LogEntry := []

inductive MirrorAction where
  | appendEntry (entry : LogEntry)
  | clear
  | readEntries (maxEntries : Nat)

namespace MirrorState

/-- The position in the history of the first entry that is still stored. -/
def first (state : MirrorState) : Nat :=
  state.history.length - state.service.entries.length

/-- The positions below `first'` that leave the store without having been looked at. -/
def unseenBelow (state : MirrorState) (first' : Nat) : List Nat :=
  (List.range' state.first (first' - state.first)).filter (· ∉ state.looked)

def store (entry : LogEntry) (state : MirrorState) : MirrorState :=
  let stored : MirrorState :=
    { state with
      service := state.service.appendEntry entry
      history := state.history ++ [entry] }
  { stored with lost := state.lost ++ state.unseenBelow stored.first }

def clear (state : MirrorState) : MirrorState :=
  { state with
    service := state.service.clear
    lost := state.lost ++ state.unseenBelow state.history.length }

def read (maxEntries : Nat) (state : MirrorState) : MirrorState :=
  match readMirrorEntries maxEntries state.service state.session with
  | (.error _, session) => { state with session }
  | (.ok entries, session) =>
      { state with
        session := session
        looked := state.looked ++ List.range' (state.first + state.session.mirrorEntryCursor)
          (session.mirrorEntryCursor - state.session.mirrorEntryCursor)
        returned := state.returned ++ entries }

def step (state : MirrorState) : MirrorAction → MirrorState
  | .appendEntry entry => state.store entry
  | .clear => state.clear
  | .readEntries maxEntries => state.read maxEntries

/-- Nothing leaves the store once the mirror has begun to read it. -/
def CursorSafe (state : MirrorState) : MirrorAction → Prop
  | .appendEntry _ =>
      state.service.entries.length < kMaxStoredEntries ∨ state.session.mirrorEntryCursor = 0
  | .clear => state.session.mirrorEntryCursor = 0
  | .readEntries _ => True

inductive Reach (permitted : MirrorState → MirrorAction → Prop) (initial : MirrorState) :
    MirrorState → Prop where
  | start : Reach permitted initial initial
  | step {state : MirrorState} {action : MirrorAction}
      (hreach : Reach permitted initial state) (hpermitted : permitted state action) :
      Reach permitted initial (state.step action)

/-- A mirror session that has just been created. -/
structure Created (state : MirrorState) : Prop where
  cursor : state.session.mirrorEntryCursor = 0
  history : state.history = state.service.entries
  looked : state.looked = []
  lost : state.lost = []
  returned : state.returned = []

/-- The entries at some positions of the history. -/
def entriesAt (state : MirrorState) (positions : List Nat) : List LogEntry :=
  positions.filterMap (state.history[·]?)

/-- The position that the mirror looks at next. -/
def next (state : MirrorState) : Nat :=
  state.first + state.session.mirrorEntryCursor

structure ReadOnce (minLevel : Bytes) (state : MirrorState) : Prop where
  level : state.session.minLevel = minLevel
  bound : state.service.entries.length ≤ state.history.length
  stored : state.service.entries = state.history.drop state.first
  cursor : state.session.mirrorEntryCursor ≤ state.service.entries.length
  increasing : state.looked.Pairwise (· < ·)
  looked : ∀ position ∈ state.looked, position < state.next
  complete : ∀ position < state.next, position ∈ state.looked ∨ position ∈ state.lost
  lost : ∀ position ∈ state.lost, position ∉ state.looked ∧ position < state.first
  returned : state.returned =
    (state.entriesAt state.looked).filter (passesLevel ·.level minLevel)

variable {minLevel : Bytes} {initial state : MirrorState}

theorem Created.readOnce (hcreated : Created state) : ReadOnce state.session.minLevel state where
  level := rfl
  bound := by rw [hcreated.history]
  stored := by
    rw [first, hcreated.history, Nat.sub_self, List.drop_zero]
  cursor := hcreated.cursor ▸ Nat.zero_le _
  increasing := by
    rw [hcreated.looked]
    exact List.Pairwise.nil
  looked := by simp [hcreated.looked]
  complete := by
    intro position hposition
    simp [next, first, hcreated.history, hcreated.cursor] at hposition
  lost := by simp [hcreated.lost]
  returned := by simp [hcreated.returned, hcreated.looked, entriesAt]

theorem first_le : state.first ≤ state.history.length :=
  Nat.sub_le _ _

namespace ReadOnce

theorem next_le (honce : ReadOnce minLevel state) : state.next ≤ state.history.length := by
  have hbound := honce.bound
  have hcursor := honce.cursor
  unfold next first
  omega

theorem mem_unseenBelow {position first' : Nat} (hfirst : state.first ≤ first') :
    position ∈ state.unseenBelow first' ↔
      (state.first ≤ position ∧ position < first') ∧ position ∉ state.looked := by
  unfold unseenBelow
  rw [List.mem_filter, List.mem_range'_1, Nat.add_sub_of_le hfirst, decide_eq_true_iff]

/-- Longer histories have the same entries at the positions looked at. -/
theorem entriesAt_prefix (honce : ReadOnce minLevel state) {history : List LogEntry}
    (hhistory : state.history <+: history) :
    state.looked.filterMap (history[·]?) = state.entriesAt state.looked := by
  refine List.filterMap_congr fun position hposition => ?_
  obtain ⟨later, hlater⟩ := hhistory
  have hbelow := Nat.lt_of_lt_of_le (honce.looked position hposition) honce.next_le
  rw [← hlater, List.getElem?_append_left hbelow]

/-- A step after which the store begins at `first'`. -/
theorem lose (honce : ReadOnce minLevel state) {service : LogService}
    {history : List LogEntry} {first' : Nat} (hhistory : state.history <+: history)
    (hstored : service.entries = history.drop first')
    (hlength : first' + service.entries.length = history.length)
    (hfirst : state.first ≤ first')
    (hcursor : first' = state.first ∨ state.session.mirrorEntryCursor = 0) :
    ReadOnce minLevel
      { state with
        service := service
        history := history
        lost := state.lost ++ state.unseenBelow first' } := by
  have hfirst' : history.length - service.entries.length = first' := by
    omega
  have hlonger := hhistory.length_le
  have hnext := honce.next_le
  refine
    { level := honce.level
      bound := by dsimp only; omega
      stored := by rw [first, hfirst']; exact hstored
      cursor := ?_
      increasing := honce.increasing
      looked := ?_
      complete := ?_
      lost := ?_
      returned := ?_ }
  · dsimp only
    unfold next at hnext
    rcases hcursor with hsame | hzero <;> omega
  · intro position hposition
    have hbelow := honce.looked position hposition
    unfold next at hbelow ⊢
    rw [first, hfirst']
    dsimp only
    omega
  · intro position hposition
    unfold next at hposition
    rw [first, hfirst'] at hposition
    dsimp only at hposition ⊢
    rw [List.mem_append, mem_unseenBelow hfirst]
    by_cases hold : position < state.next
    · rcases honce.complete position hold with hlooked | hlost
      · exact Or.inl hlooked
      · exact Or.inr (Or.inl hlost)
    · unfold next at hold
      by_cases hlooked : position ∈ state.looked
      · exact Or.inl hlooked
      · refine Or.inr (Or.inr ⟨?_, hlooked⟩)
        rcases hcursor with hsame | hzero <;> omega
  · intro position hposition
    rw [first, hfirst']
    rw [List.mem_append, mem_unseenBelow hfirst] at hposition
    rcases hposition with hlost | ⟨hrange, hunseen⟩
    · exact ⟨(honce.lost position hlost).1,
        Nat.lt_of_lt_of_le (honce.lost position hlost).2 hfirst⟩
    · exact ⟨hunseen, hrange.2⟩
  · rw [honce.returned, ← entriesAt_prefix honce hhistory]
    rfl

theorem store (honce : ReadOnce minLevel state) (entry : LogEntry)
    (hsafe : state.CursorSafe (.appendEntry entry)) :
    ReadOnce minLevel (state.store entry) := by
  have hbound := honce.bound
  have hfirst : state.first + state.service.entries.length = state.history.length :=
    Nat.sub_add_cancel hbound
  let overflow := state.service.entries.length + 1 - kMaxStoredEntries
  have hentries : (state.service.appendEntry entry).entries =
      (state.service.entries ++ [entry]).drop overflow := by
    simp [LogService.appendEntry, overflow]
  have hlength : (state.service.appendEntry entry).entries.length =
      state.service.entries.length + 1 - overflow := by
    rw [hentries, List.length_drop, List.length_append, List.length_singleton]
  have hoverflow : overflow ≤ state.service.entries.length + 1 := Nat.sub_le _ _
  have hhistory : (state.history ++ [entry]).length = state.history.length + 1 := by
    rw [List.length_append, List.length_singleton]
  have hstored : (state.service.appendEntry entry).entries =
      (state.history ++ [entry]).drop (state.first + overflow) := by
    rw [← List.drop_drop, List.drop_append_of_le_length first_le, ← honce.stored, hentries]
  have hnew : (state.history ++ [entry]).length -
      (state.service.appendEntry entry).entries.length = state.first + overflow := by
    rw [hhistory, hlength]
    omega
  have hlose := honce.lose (List.prefix_append state.history [entry]) hstored
    (by rw [hlength, hhistory]; omega) (Nat.le_add_right _ _)
    (hsafe.imp (fun hroom => by simp only [overflow]; omega) id)
  rw [← hnew] at hlose
  exact hlose

theorem clear (honce : ReadOnce minLevel state) (hsafe : state.CursorSafe .clear) :
    ReadOnce minLevel state.clear :=
  honce.lose List.prefix_rfl (by simp [LogService.clear]) (by simp [LogService.clear])
    first_le (Or.inr hsafe)

theorem filterMap_range' {α : Type} (entries : List α) (position count : Nat) :
    (List.range' position count).filterMap (entries[·]?) = (entries.drop position).take count := by
  induction count generalizing position with
  | zero => simp
  | succ count ih =>
      rw [List.range'_succ]
      cases hentry : entries[position]? with
      | none =>
          have hpast : entries.length ≤ position := List.getElem?_eq_none_iff.mp hentry
          rw [List.filterMap_cons_none hentry, ih, List.drop_eq_nil_of_le hpast,
            List.drop_eq_nil_of_le (Nat.le_succ_of_le hpast)]
          simp
      | some entry =>
          obtain ⟨hbelow, hget⟩ := List.getElem?_eq_some_iff.mp hentry
          rw [List.filterMap_cons_some hentry, ih, List.drop_eq_getElem_cons hbelow, hget,
            List.take_succ_cons]

theorem drop_cursor (honce : ReadOnce minLevel state) :
    state.service.entries.drop state.session.mirrorEntryCursor =
      state.history.drop state.next := by
  rw [honce.stored, List.drop_drop, next]

theorem read (honce : ReadOnce minLevel state) (maxEntries : Nat) :
    ReadOnce minLevel (state.read maxEntries) := by
  unfold MirrorState.read readMirrorEntries
  by_cases hrunning : state.session.running = true
  swap
  · rw [if_pos (by simpa using hrunning)]
    exact ⟨honce.level, honce.bound, honce.stored, honce.cursor, honce.increasing,
      honce.looked, honce.complete, honce.lost, honce.returned⟩
  rw [if_neg (by simpa using hrunning)]
  obtain ⟨count, hcount, hcursor, hlevel, hlooked, _⟩ := readMirrorLoop_spec maxEntries
    (state.service.entries.drop state.session.mirrorEntryCursor) state.session []
  rw [List.length_drop] at hcount
  have hfits := honce.cursor
  dsimp only
  rw [hcursor, Nat.add_sub_cancel_left]
  have hnext : ∀ position, position < state.first + (state.session.mirrorEntryCursor + count) ↔
      position < state.next + count := by
    intro position
    rw [next, Nat.add_assoc]
  refine
    { level := hlevel.trans honce.level
      bound := honce.bound
      stored := honce.stored
      cursor := by dsimp only; rw [hcursor]; omega
      increasing := ?_
      looked := ?_
      complete := ?_
      lost := ?_
      returned := ?_ }
  · refine List.pairwise_append.mpr ⟨honce.increasing, List.pairwise_lt_range', ?_⟩
    intro position hposition other hother
    exact Nat.lt_of_lt_of_le (honce.looked position hposition) (List.mem_range'_1.mp hother).1
  · intro position hposition
    change position < state.first + _
    rw [hcursor, hnext]
    rcases List.mem_append.mp hposition with hold | hnew
    · exact Nat.lt_add_right count (honce.looked position hold)
    · exact (List.mem_range'_1.mp hnew).2
  · intro position hposition
    change position < state.first + _ at hposition
    rw [hcursor, hnext] at hposition
    by_cases hold : position < state.next
    · exact (honce.complete position hold).imp (List.mem_append_left _) id
    · exact Or.inl (List.mem_append_right _ (List.mem_range'_1.mpr ⟨Nat.le_of_not_lt hold, hposition⟩))
  · intro position hposition
    refine ⟨fun hmem => ?_, (honce.lost position hposition).2⟩
    rcases List.mem_append.mp hmem with hold | hnew
    · exact (honce.lost position hposition).1 hold
    · have hbelow := (honce.lost position hposition).2
      have habove := (List.mem_range'_1.mp hnew).1
      omega
  · unfold entriesAt
    dsimp only
    rw [List.filterMap_append, List.filter_append, filterMap_range', hlooked, honce.level,
      List.nil_append, honce.drop_cursor, honce.returned]
    rfl

theorem step (honce : ReadOnce minLevel state) {action : MirrorAction}
    (hsafe : state.CursorSafe action) : ReadOnce minLevel (state.step action) := by
  cases action with
  | appendEntry entry => exact honce.store entry hsafe
  | clear => exact honce.clear hsafe
  | readEntries maxEntries => exact honce.read maxEntries

end ReadOnce

theorem Reach.readOnce (hcreated : initial.Created)
    (hreach : Reach CursorSafe initial state) :
    ReadOnce initial.session.minLevel state := by
  induction hreach with
  | start => exact hcreated.readOnce
  | step _ hsafe ih => exact ih.step hsafe

/-- A mirror whose cursor stays valid reads every entry once and in order, except those
that leave the store before it gets to them, and a read returns the next ones. -/
theorem Reach.reads_once (hcreated : initial.Created)
    (hreach : Reach CursorSafe initial state) :
    ReadOnce initial.session.minLevel state ∧
      (state.session.running = true → ∀ maxEntries,
        (state.read maxEntries).returned = state.returned ++
          ((state.history.drop state.next).filter
            (passesLevel ·.level initial.session.minLevel)).take maxEntries) := by
  have honce := hreach.readOnce hcreated
  refine ⟨honce, fun hrunning maxEntries => ?_⟩
  obtain ⟨_, _, _, _, _, hbatch⟩ := readMirrorLoop_spec maxEntries
    (state.service.entries.drop state.session.mirrorEntryCursor) state.session []
  unfold MirrorState.read readMirrorEntries
  rw [if_neg (by simpa using hrunning)]
  dsimp only
  rw [hbatch, honce.drop_cursor, honce.level]
  simp

/-- A service with two entries and a mirror that is about to read them. -/
def mirrorExample : MirrorState where
  service := { entries := [decodeLine 1 (asciiBytes "a"), decodeLine 2 (asciiBytes "b")] }
  session := { sessionId := "as_log", minLevel := asciiBytes "debug" }
  history := [decodeLine 1 (asciiBytes "a"), decodeLine 2 (asciiBytes "b")]

theorem reads_once_example :
    ReadOnce (asciiBytes "debug") (mirrorExample.step (.readEntries 1)) :=
  (Reach.reads_once ⟨rfl, rfl, rfl, rfl, rfl⟩
    (.step .start (show CursorSafe mirrorExample (.readEntries 1) from trivial))).1

/-- A read, a `clear`, a new entry and a second read. -/
def clearedExample : MirrorState :=
  (((mirrorExample.step (.readEntries 8)).step .clear).step
    (.appendEntry (decodeLine 3 (asciiBytes "c")))).step (.readEntries 8)

/-- After `clear` the cursor points behind the entries that are stored next: the third
one is still stored, yet the mirror does not return it. -/
theorem clear_hides_entries :
    Reach (fun _ _ => True) mirrorExample clearedExample ∧
      clearedExample.service.entries = [decodeLine 3 (asciiBytes "c")] ∧
      decodeLine 3 (asciiBytes "c") ∉ clearedExample.returned ∧
      2 ∉ clearedExample.looked ∧ 2 ∉ clearedExample.lost := by
  refine ⟨.step (.step (.step (.step .start trivial) trivial) trivial) trivial, ?_⟩
  decide +kernel

end MirrorState

end AudioStudio.Log
