import Mathlib.Init

/-!
# How programs end

A program with a state ends with a value or with a fault, and the state that it has made by
then stays either way.  The rules say of a sequence of programs how it ends.
-/

namespace AudioStudio

variable {ε σ α β : Type}

/-- The program ends with a value and a state in `post`, or with a fault and a state in
`stop`. -/
def Ends (program : EStateM ε σ α) (state : σ) (post : α → σ → Prop) (stop : ε → σ → Prop) :
    Prop :=
  match program state with
  | .ok value state' => post value state'
  | .error fault state' => stop fault state'

variable {state state' : σ} {post : α → σ → Prop} {stop : ε → σ → Prop}

variable {value : α}

@[simp] theorem ends_pure :
    Ends (pure value : EStateM ε σ α) state post stop ↔ post value state := Iff.rfl

@[simp] theorem ends_modify {post : PUnit → σ → Prop} {update : σ → σ} :
    Ends (modify update : EStateM ε σ PUnit) state post stop ↔ post ⟨⟩ (update state) := Iff.rfl

@[simp] theorem ends_get {post : σ → σ → Prop} :
    Ends (get : EStateM ε σ σ) state post stop ↔ post state state := Iff.rfl

variable {program : EStateM ε σ β} {rest : β → EStateM ε σ α}

theorem ends_bind :
    Ends (program >>= rest) state post stop ↔
      Ends program state (fun value state' => Ends (rest value) state' post stop) stop := by
  unfold Ends
  change (match EStateM.bind program rest state with
    | .ok value state' => post value state'
    | .error fault state' => stop fault state') ↔ _
  unfold EStateM.bind
  cases program state with
  | ok value state' => exact Iff.rfl
  | error fault state' => exact Iff.rfl

theorem Ends.mono {program : EStateM ε σ α} {post' : α → σ → Prop} {stop' : ε → σ → Prop}
    (hends : Ends program state post stop)
    (hpost : ∀ value state', post value state' → post' value state')
    (hstop : ∀ fault state', stop fault state' → stop' fault state') :
    Ends program state post' stop' := by
  unfold Ends at hends ⊢
  cases hrun : program state with
  | ok value state' =>
      rw [hrun] at hends
      exact hpost value state' hends
  | error fault state' =>
      rw [hrun] at hends
      exact hstop fault state' hends

/-! ## Steps without a state -/

/-- A result that is there already. -/
def reply (result : Except ε α) : EStateM ε σ α := fun state =>
  match result with
  | .ok value => .ok value state
  | .error fault => .error fault state

variable {result : Except ε α}

theorem ends_reply :
    Ends (reply result) state post stop ↔
      (∀ value, result = .ok value → post value state) ∧
        ∀ fault, result = .error fault → stop fault state := by
  unfold Ends reply
  cases result with
  | ok value => simp
  | error fault => simp

theorem ends_reply_bind {result : Except ε β}
    (hrest : ∀ value, result = .ok value → Ends (rest value) state post stop)
    (hstop : ∀ fault, result = .error fault → stop fault state) :
    Ends (reply result >>= rest) state post stop :=
  ends_bind.mpr (ends_reply.mpr ⟨hrest, hstop⟩)

/-! ## Faults of one kind -/

/-- The program ends with a fault of a kind. -/
def Raises (kind : ε → Prop) (program : EStateM ε σ α) (state : σ) : Prop :=
  ∃ fault state', program state = .error fault state' ∧ kind fault

variable {kind : ε → Prop}

theorem raises_bind :
    Raises kind (program >>= rest) state ↔
      Raises kind program state ∨
        ∃ value state', program state = .ok value state' ∧ Raises kind (rest value) state' := by
  have hbind : (program >>= rest) state = EStateM.bind program rest state := rfl
  unfold Raises
  rw [hbind]
  unfold EStateM.bind
  cases program state with
  | ok value state' =>
      constructor
      · intro hrest
        exact .inr ⟨value, state', rfl, hrest⟩
      · rintro (⟨_, _, ⟨⟩, _⟩ | ⟨_, _, ⟨⟩, hrest⟩)
        exact hrest
  | error fault state' =>
      constructor
      · rintro ⟨_, _, ⟨⟩, hkind⟩
        exact .inl ⟨fault, state', rfl, hkind⟩
      · rintro (⟨_, _, ⟨⟩, hkind⟩ | ⟨_, _, ⟨⟩, _⟩)
        exact ⟨fault, state', rfl, hkind⟩

theorem not_raises_pure : ¬ Raises kind (pure value : EStateM ε σ α) state := by
  rintro ⟨_, _, ⟨⟩, _⟩

theorem raises_reply :
    Raises kind (reply result) state ↔ ∃ fault, result = .error fault ∧ kind fault := by
  unfold Raises reply
  cases result with
  | ok value => simp
  | error fault => simp

theorem reply_eq_ok :
    reply result state = .ok value state' ↔ result = .ok value ∧ state' = state := by
  unfold reply
  cases result with
  | ok value' => simp [eq_comm]
  | error fault => simp

theorem raises_reply_bind {result : Except ε β} :
    Raises kind (reply result >>= rest) state ↔
      (∃ fault, result = .error fault ∧ kind fault) ∨
        ∃ value, result = .ok value ∧ Raises kind (rest value) state := by
  rw [raises_bind, raises_reply]
  refine or_congr_right ?_
  constructor
  · rintro ⟨value, state', hvalue, hrest⟩
    obtain ⟨hresult, rfl⟩ := reply_eq_ok.mp hvalue
    exact ⟨value, hresult, hrest⟩
  · rintro ⟨value, hvalue, hrest⟩
    exact ⟨value, state, reply_eq_ok.mpr ⟨hvalue, rfl⟩, hrest⟩

theorem raises_modify_bind {update : σ → σ} {rest : PUnit → EStateM ε σ α} :
    Raises kind (modify update >>= rest) state ↔ Raises kind (rest ⟨⟩) (update state) :=
  Iff.rfl

theorem raises_get_bind {rest : σ → EStateM ε σ α} :
    Raises kind (get >>= rest) state ↔ Raises kind (rest state) state :=
  Iff.rfl

end AudioStudio
