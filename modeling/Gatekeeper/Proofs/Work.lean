import Mathlib

/-! Work on a state that may fail and does not undo what it has done. The state in which it ends is
there after a failure too, so that a relation between the first state and the last can be kept by
work as a whole: by a sequence when every step keeps it, whichever step fails. -/

namespace Gatekeeper.Work

variable {ε δ σ α β : Type}

/-- The state in which work ends, whether it succeeds or fails. -/
def finish (work : EStateM ε σ α) (start : σ) : σ :=
  match work.run start with
  | .ok _ state => state
  | .error _ state => state

/-- Work keeps a relation when it leads from every state to one that stands in the relation to it. -/
def Keeps (R : σ → σ → Prop) (work : EStateM ε σ α) : Prop :=
  ∀ start, R start (finish work start)

/-- A property that holds before some work holds after it. -/
def Lasts (P : σ → Prop) (before after : σ) : Prop :=
  P before → P after

instance (P : σ → Prop) : Std.Refl (Lasts P) where
  refl _ h := h

instance (P : σ → Prop) : IsTrans σ (Lasts P) where
  trans _ _ _ hfirst hsecond h := hsecond (hfirst h)

/-- Whether an attempt has come to an end and was not broken off. -/
def wentOn : EStateM.Result ε σ (Except δ α) → Bool
  | .ok (.ok _) _ => true
  | _ => false

theorem exists_of_wentOn {result : EStateM.Result ε σ (Except δ α)} (h : wentOn result = true) :
    ∃ value state, result = .ok (.ok value) state := by
  rcases result with ⟨abort | value, state⟩ | ⟨cause, state⟩
  · cases h
  · exact ⟨value, state, rfl⟩
  · cases h

/-- Work keeps a relation on failure when it stands between the first state and the last one whenever the
work fails. -/
def KeepsOnFailure (R : σ → σ → Prop) (work : EStateM ε σ α) : Prop :=
  ∀ start state cause, work.run start = .error cause state → R start state

theorem finish_of_ok {work : EStateM ε σ α} {start state : σ} {value : α}
    (h : work.run start = .ok value state) : finish work start = state := by
  rw [finish, h]

theorem finish_of_error {work : EStateM ε σ α} {start state : σ} {cause : ε}
    (h : work.run start = .error cause state) : finish work start = state := by
  rw [finish, h]

theorem finish_congr {work : EStateM ε σ α} {other : EStateM ε σ α} {start start' : σ}
    (h : work.run start = other.run start') : finish work start = finish other start' := by
  rw [finish, h, ← finish]

/-- A sequence that succeeds passes through a state between its two steps. -/
theorem of_bind_eq_ok {first : EStateM ε σ α} {next : α → EStateM ε σ β} {start state : σ} {value : β}
    (h : (first >>= next).run start = .ok value state) :
    ∃ given middle, first.run start = .ok given middle ∧ (next given).run middle = .ok value state := by
  rw [EStateM.run_bind] at h
  cases hfirst : first.run start with
  | ok given middle =>
      rw [hfirst] at h
      exact ⟨given, middle, rfl, h⟩
  | error cause middle =>
      rw [hfirst] at h
      cases h

theorem of_bind_eq_error {first : EStateM ε σ α} {next : α → EStateM ε σ β} {start state : σ} {cause : ε}
    (h : (first >>= next).run start = .error cause state) :
    first.run start = .error cause state ∨
      ∃ given middle, first.run start = .ok given middle ∧ (next given).run middle = .error cause state := by
  rw [EStateM.run_bind] at h
  cases hfirst : first.run start with
  | ok given middle =>
      rw [hfirst] at h
      exact .inr ⟨given, middle, rfl, h⟩
  | error cause middle =>
      rw [hfirst] at h
      cases h
      exact .inl rfl

theorem finish_bind_of_ok {first : EStateM ε σ α} {start middle : σ} {given : α}
    (h : first.run start = .ok given middle) (next : α → EStateM ε σ β) :
    finish (first >>= next) start = finish (next given) middle := by
  rw [finish, EStateM.run_bind, h]
  rfl

theorem finish_bind_of_error {first : EStateM ε σ α} {start middle : σ} {cause : ε}
    (h : first.run start = .error cause middle) (next : α → EStateM ε σ β) :
    finish (first >>= next) start = middle := by
  rw [finish, EStateM.run_bind, h]

theorem run_bind_of_ok {first : EStateM ε σ α} {start middle : σ} {given : α}
    (h : first.run start = .ok given middle) (next : α → EStateM ε σ β) :
    (first >>= next).run start = (next given).run middle := by
  rw [EStateM.run_bind, h]

/-- What only makes something of the result leaves the last state as it is. -/
theorem finish_bind_pure (work : EStateM ε σ α) (result : α → β) (start : σ) :
    finish (work >>= fun value => pure (result value)) start = finish work start := by
  cases hrun : work.run start with
  | ok value state =>
      rw [finish_bind_of_ok hrun, finish_of_ok hrun]
      rfl
  | error cause state => rw [finish_bind_of_error hrun, finish_of_error hrun]

/-- What follows a look at the state starts from the state that was seen. -/
theorem finish_get_bind (next : σ → EStateM ε σ α) (start : σ) :
    finish (get >>= next) start = finish (next start) start :=
  rfl

/-- What follows a change of the state starts from the changed state. -/
theorem finish_modify_bind (change : σ → σ) (next : Unit → EStateM ε σ α) (start : σ) :
    finish (modify change >>= next) start = finish (next ()) (change start) :=
  rfl

/-- What handles a failure starts from the state in which it left off. -/
theorem run_tryCatch (work : EStateM ε σ α) (handle : ε → EStateM ε σ α) (start : σ) :
    (tryCatch work handle).run start = match work.run start with
      | .ok value state => .ok value state
      | .error cause state => (handle cause).run state := by
  change EStateM.tryCatch work handle start = _
  rw [EStateM.tryCatch]
  cases hrun : work start <;> simp only [EStateM.run, hrun]
  rfl

/-- A sequence of which an attempt is the first step goes on only after a success. -/
theorem of_attempt_bind_eq_ok {first : ExceptT δ (EStateM ε σ) α}
    {next : α → ExceptT δ (EStateM ε σ) β} {start state : σ} {result : Except δ β}
    (h : (first >>= next).run.run start = .ok result state) :
    (∃ abort, first.run.run start = .ok (.error abort) state ∧ result = .error abort) ∨
      ∃ given middle, first.run.run start = .ok (.ok given) middle ∧
        (next given).run.run middle = .ok result state := by
  rw [ExceptT.run_bind] at h
  obtain ⟨given, middle, hfirst, hnext⟩ := of_bind_eq_ok h
  cases given with
  | error abort =>
      obtain ⟨rfl, rfl⟩ : .error abort = result ∧ middle = state := by
        cases hnext
        exact ⟨rfl, rfl⟩
      exact .inl ⟨abort, hfirst, rfl⟩
  | ok given => exact .inr ⟨given, middle, hfirst, hnext⟩

/-- Work that cannot be broken off, as an attempt. -/
theorem of_lift_eq_ok {work : EStateM ε σ α} {start state : σ} {result : Except δ α}
    (h : (liftM work : ExceptT δ (EStateM ε σ) α).run.run start = .ok result state) :
    ∃ value, work.run start = .ok value state ∧ result = .ok value := by
  rw [ExceptT.run_liftM, map_eq_pure_bind] at h
  obtain ⟨value, middle, hwork, hpure⟩ := of_bind_eq_ok h
  cases hpure
  exact ⟨value, hwork, rfl⟩

theorem of_lift_bind_eq_ok {first : EStateM ε σ α} {next : α → ExceptT δ (EStateM ε σ) β}
    {start state : σ} {result : Except δ β}
    (h : ((liftM first : ExceptT δ (EStateM ε σ) α) >>= next).run.run start = .ok result state) :
    ∃ given middle, first.run start = .ok given middle ∧
      (next given).run.run middle = .ok result state := by
  rcases of_attempt_bind_eq_ok h with ⟨abort, hfirst, -⟩ | ⟨given, middle, hfirst, hnext⟩
  · obtain ⟨_, -, hnone⟩ := of_lift_eq_ok hfirst
    cases hnone
  · obtain ⟨_, hrun, hgiven⟩ := of_lift_eq_ok hfirst
    cases hgiven
    exact ⟨given, middle, hrun, hnext⟩

theorem run_lift_bind_of_ok {first : EStateM ε σ α} {start middle : σ} {given : α}
    (h : first.run start = .ok given middle) (next : α → ExceptT δ (EStateM ε σ) β) :
    ((liftM first : ExceptT δ (EStateM ε σ) α) >>= next).run.run start = (next given).run.run middle := by
  rw [ExceptT.run_bind, ExceptT.run_liftM, map_eq_pure_bind, bind_assoc, run_bind_of_ok h, pure_bind]

theorem run_lift_bind_of_error {first : EStateM ε σ α} {start middle : σ} {cause : ε}
    (h : first.run start = .error cause middle) (next : α → ExceptT δ (EStateM ε σ) β) :
    ((liftM first : ExceptT δ (EStateM ε σ) α) >>= next).run.run start = .error cause middle := by
  rw [ExceptT.run_bind, ExceptT.run_liftM, map_eq_pure_bind, bind_assoc, EStateM.run_bind, h]

/-- Work ends when it comes to a result from every state. -/
def Ends (work : EStateM ε σ α) : Prop :=
  ∀ start, ∃ value state, work.run start = .ok value state

namespace Ends

theorem pure (value : α) : Ends (Pure.pure value : EStateM ε σ α) :=
  fun start => ⟨value, start, rfl⟩

theorem modify (change : σ → σ) : Ends (modify change : EStateM ε σ Unit) :=
  fun start => ⟨(), change start, rfl⟩

theorem bind {first : EStateM ε σ α} {next : α → EStateM ε σ β} (hfirst : Ends first)
    (hnext : ∀ value, Ends (next value)) : Ends (first >>= next) := by
  intro start
  obtain ⟨value, middle, hrun⟩ := hfirst start
  rw [run_bind_of_ok hrun]
  exact hnext value middle

theorem getBind {next : σ → EStateM ε σ α} (h : ∀ state, Ends (next state)) : Ends (get >>= next) :=
  fun start => h start start

theorem forM {γ : Type} {step : γ → EStateM ε σ PUnit} (h : ∀ item, Ends (step item)) (items : List γ) :
    Ends (items.forM step) := by
  induction items with
  | nil => exact Ends.pure _
  | cons item rest ih => exact bind (h item) fun _ => ih

end Ends

namespace Keeps

variable {R : σ → σ → Prop}

theorem ofOk {work : EStateM ε σ α} (h : Keeps R work) {start state : σ} {value : α}
    (hrun : work.run start = .ok value state) : R start state :=
  finish_of_ok hrun ▸ h start

theorem ofError {work : EStateM ε σ α} (h : Keeps R work) {start state : σ} {cause : ε}
    (hrun : work.run start = .error cause state) : R start state :=
  finish_of_error hrun ▸ h start

theorem modify {change : σ → σ} (h : ∀ state, R state (change state)) :
    Keeps R (modify change : EStateM ε σ Unit) :=
  h

theorem getBind {next : σ → EStateM ε σ α} (h : ∀ state, R state (finish (next state) state)) :
    Keeps R (get >>= next) :=
  h

section Preorder

variable [Std.Refl R]

theorem pure (value : α) : Keeps R (Pure.pure value : EStateM ε σ α) :=
  fun start => Std.Refl.refl start

theorem throw (cause : ε) : Keeps R (throw cause : EStateM ε σ α) :=
  fun start => Std.Refl.refl start

variable [IsTrans σ R]

omit [Std.Refl R] in
theorem bind {first : EStateM ε σ α} {next : α → EStateM ε σ β} (hfirst : Keeps R first)
    (hnext : ∀ value, Keeps R (next value)) : Keeps R (first >>= next) := by
  intro start
  cases hrun : first.run start with
  | ok value middle =>
      rw [finish_bind_of_ok hrun]
      exact IsTrans.trans _ _ _ (hfirst.ofOk hrun) (hnext value middle)
  | error cause middle =>
      rw [finish_bind_of_error hrun]
      exact hfirst.ofError hrun

omit [IsTrans σ R] in
/-- What follows some work keeps a relation to the state in which the work ends. -/
theorem follows {first : EStateM ε σ α} {next : α → EStateM ε σ β} (hnext : ∀ value, Keeps R (next value))
    (start : σ) : R (finish first start) (finish (first >>= next) start) := by
  cases hrun : first.run start with
  | ok value middle =>
      rw [finish_of_ok hrun, finish_bind_of_ok hrun]
      exact hnext value middle
  | error cause middle =>
      rw [finish_of_error hrun, finish_bind_of_error hrun]
      exact Std.Refl.refl middle

theorem forM {γ : Type} {step : γ → EStateM ε σ PUnit} {items : List γ}
    (h : ∀ item ∈ items, Keeps R (step item)) : Keeps R (items.forM step) := by
  induction items with
  | nil => exact Keeps.pure _
  | cons item rest ih =>
      exact bind (h item List.mem_cons_self) fun _ => ih fun other hother =>
        h other (List.mem_cons_of_mem item hother)

theorem lift {work : EStateM ε σ α} (h : Keeps R work) :
    Keeps R (liftM work : ExceptT δ (EStateM ε σ) α).run := by
  rw [ExceptT.run_liftM, map_eq_pure_bind]
  exact bind h fun value => Keeps.pure _

theorem attemptBind {first : ExceptT δ (EStateM ε σ) α} {next : α → ExceptT δ (EStateM ε σ) β}
    (hfirst : Keeps R first.run) (hnext : ∀ value, Keeps R (next value).run) :
    Keeps R (first >>= next).run := by
  rw [ExceptT.run_bind]
  apply bind hfirst
  intro result
  cases result with
  | ok value => exact hnext value
  | error abort => exact Keeps.pure _

end Preorder

end Keeps

namespace KeepsOnFailure

variable {R : σ → σ → Prop}

theorem ofKeeps {work : EStateM ε σ α} (h : Keeps R work) : KeepsOnFailure R work :=
  fun _ _ _ hrun => h.ofError hrun

/-- A sequence keeps what its first step keeps always and its second one on failure. -/
theorem bind [IsTrans σ R] {first : EStateM ε σ α} {next : α → EStateM ε σ β} (hfirst : Keeps R first)
    (hnext : ∀ value, KeepsOnFailure R (next value)) : KeepsOnFailure R (first >>= next) := by
  intro start state cause h
  rcases of_bind_eq_error h with hrun | ⟨value, middle, hrun, hrest⟩
  · exact hfirst.ofError hrun
  · exact IsTrans.trans _ _ _ (hfirst.ofOk hrun) (hnext value middle state cause hrest)

/-- A sequence keeps what its first step keeps on failure, if its second one never fails. -/
theorem bindOfNeverFails {first : EStateM ε σ α} {next : α → EStateM ε σ β}
    (hfirst : KeepsOnFailure R first)
    (hnext : ∀ value middle state cause, (next value).run middle ≠ .error cause state) :
    KeepsOnFailure R (first >>= next) := by
  intro start state cause h
  rcases of_bind_eq_error h with hrun | ⟨value, middle, hrun, hrest⟩
  · exact hfirst start state cause hrun
  · exact absurd hrest (hnext value middle state cause)

end KeepsOnFailure

end Gatekeeper.Work
