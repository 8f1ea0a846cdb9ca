import Gatekeeper.Proofs.Work

/-! Work from two states at once. Two states may differ in what a piece of work does not look at; then it comes to
the same value or the same failure from both, and what it leaves differs in no more than that. Such a relation is
carried through a sequence from step to step, and it may become closer on the way. -/

namespace Gatekeeper.Work

variable {ε δ σ α β : Type}

/-- Two ends of work are the same up to the states: these are related in one way after a failure, and in another
one after a success, which may depend on the value. -/
inductive Agree (E : σ → σ → Prop) (T : α → σ → σ → Prop) :
    EStateM.Result ε σ α → EStateM.Result ε σ α → Prop
  | ok {value : α} {one other : σ} (h : T value one other) : Agree E T (.ok value one) (.ok value other)
  | error {cause : ε} {one other : σ} (h : E one other) : Agree E T (.error cause one) (.error cause other)

/-- From two states that are related work comes to the same end. -/
def Relates (S E : σ → σ → Prop) (T : α → σ → σ → Prop) (work : EStateM ε σ α) : Prop :=
  ∀ one other, S one other → Agree E T (work.run one) (work.run other)

/-- Work that comes to the same end from two states that are related, and leaves them so. -/
def Respects (R : σ → σ → Prop) (work : EStateM ε σ α) : Prop :=
  Relates R R (fun _ => R) work

/-- How states are related after an attempt: in one way if it went on, in another one if it was broken off. -/
def Either (B : σ → σ → Prop) (T : α → σ → σ → Prop) : Except δ α → σ → σ → Prop
  | .ok value => T value
  | .error _ => B

variable {S E : σ → σ → Prop} {T : α → σ → σ → Prop} {U : β → σ → σ → Prop}

theorem Agree.mono {E' : σ → σ → Prop} {T' : α → σ → σ → Prop} {first second : EStateM.Result ε σ α}
    (h : Agree E T first second) (hE : ∀ one other, E one other → E' one other)
    (hT : ∀ value one other, T value one other → T' value one other) : Agree E' T' first second := by
  cases h with
  | ok h => exact .ok (hT _ _ _ h)
  | error h => exact .error (hE _ _ h)

/-- An end that is the same as a success is a success with the same value. -/
theorem Agree.exists_of_ok {value : α} {one : σ} {result : EStateM.Result ε σ α}
    (h : Agree E T (.ok value one) result) : ∃ other, result = .ok value other ∧ T value one other := by
  cases h with
  | ok h => exact ⟨_, rfl, h⟩

/-- Whether work ends in a failure. -/
def fails : EStateM.Result ε σ α → Bool
  | .ok .. => false
  | .error .. => true

theorem Agree.fails_eq {first second : EStateM.Result ε σ α} (h : Agree E T first second) :
    fails first = fails second := by
  cases h <;> rfl

namespace Relates

theorem mono {S' E' : σ → σ → Prop} {T' : α → σ → σ → Prop} {work : EStateM ε σ α} (h : Relates S E T work)
    (hS : ∀ one other, S' one other → S one other) (hE : ∀ one other, E one other → E' one other)
    (hT : ∀ value one other, T value one other → T' value one other) : Relates S' E' T' work :=
  fun one other hstart => (h one other (hS one other hstart)).mono hE hT

/-- The relation in which an attempt leaves states that it does not go on from may be a wider one. -/
theorem widen {R : σ → σ → Prop} {work : ExceptT δ (EStateM ε σ) α} (h : Relates S R (Either R T) work.run)
    (hE : ∀ one other, R one other → E one other) : Relates S E (Either E T) work.run :=
  h.mono (fun _ _ => id) hE fun result one other hend => by
    cases result with
    | ok _ => exact hend
    | error _ => exact hE one other hend

theorem pure {value : α} (h : ∀ one other, S one other → T value one other) :
    Relates S E T (Pure.pure value : EStateM ε σ α) :=
  fun one other hstart => .ok (h one other hstart)

theorem throw {cause : ε} (h : ∀ one other, S one other → E one other) :
    Relates S E T (throw cause : EStateM ε σ α) :=
  fun one other hstart => .error (h one other hstart)

theorem modify {change : σ → σ} {T : Unit → σ → σ → Prop}
    (h : ∀ one other, S one other → T () (change one) (change other)) :
    Relates S E T (modify change : EStateM ε σ Unit) :=
  fun one other hstart => .ok (h one other hstart)

/-- What follows the first step starts from states to which that step leads. -/
theorem bindReached {first : EStateM ε σ α} {next : α → EStateM ε σ β} (hfirst : Relates S E T first)
    (hnext : ∀ one other value one' other', S one other → first.run one = .ok value one' →
      first.run other = .ok value other' → T value one' other' →
      Agree E U ((next value).run one') ((next value).run other')) : Relates S E U (first >>= next) := by
  intro one other hstart
  have hmiddle := hfirst one other hstart
  rw [EStateM.run_bind, EStateM.run_bind]
  generalize hone : first.run one = middle, hother : first.run other = middle' at hmiddle ⊢
  cases hmiddle with
  | ok h => exact hnext one other _ _ _ hstart hone hother h
  | error h => exact .error h

theorem bind {first : EStateM ε σ α} {next : α → EStateM ε σ β} (hfirst : Relates S E T first)
    (hnext : ∀ value, Relates (T value) E U (next value)) : Relates S E U (first >>= next) :=
  bindReached hfirst fun _ _ value _ _ _ _ _ h => hnext value _ _ h

theorem getBind {next : σ → EStateM ε σ α}
    (h : ∀ one other, S one other → Agree E T ((next one).run one) ((next other).run other)) :
    Relates S E T (get >>= next) :=
  h

theorem lift {work : EStateM ε σ α} (h : Relates S E T work) :
    Relates S E (Either E T) (liftM work : ExceptT δ (EStateM ε σ) α).run := by
  rw [ExceptT.run_liftM, map_eq_pure_bind]
  exact bind h fun value => pure fun _ _ hvalue => hvalue

theorem attemptBind {B : σ → σ → Prop} {first : ExceptT δ (EStateM ε σ) α}
    {next : α → ExceptT δ (EStateM ε σ) β} (hfirst : Relates S E (Either B T) first.run)
    (hnext : ∀ value, Relates (T value) E (Either B U) (next value).run) :
    Relates S E (Either B U) (first >>= next).run := by
  rw [ExceptT.run_bind]
  refine bind hfirst fun result => ?_
  cases result with
  | ok value => exact hnext value
  | error abort => exact pure fun _ _ hbroken => hbroken

theorem attemptBindReached {B : σ → σ → Prop} {first : ExceptT δ (EStateM ε σ) α}
    {next : α → ExceptT δ (EStateM ε σ) β} (hfirst : Relates S E (Either B T) first.run)
    (hnext : ∀ one other value one' other', S one other → first.run.run one = .ok (.ok value) one' →
      first.run.run other = .ok (.ok value) other' → T value one' other' →
      Agree E (Either B U) ((next value).run.run one') ((next value).run.run other')) :
    Relates S E (Either B U) (first >>= next).run := by
  rw [ExceptT.run_bind]
  refine bindReached hfirst fun one other result one' other' hstart hone hother hmiddle => ?_
  cases result with
  | ok value => exact hnext one other value one' other' hstart hone hother hmiddle
  | error abort => exact .ok hmiddle

end Relates

namespace Respects

variable {R : σ → σ → Prop}

theorem pure (value : α) : Respects R (Pure.pure value : EStateM ε σ α) :=
  Relates.pure fun _ _ h => h

theorem throw (cause : ε) : Respects R (throw cause : EStateM ε σ α) :=
  Relates.throw fun _ _ h => h

theorem modify {change : σ → σ} (h : ∀ one other, R one other → R (change one) (change other)) :
    Respects R (modify change : EStateM ε σ Unit) :=
  Relates.modify h

theorem bind {first : EStateM ε σ α} {next : α → EStateM ε σ β} (hfirst : Respects R first)
    (hnext : ∀ value, Respects R (next value)) : Respects R (first >>= next) :=
  Relates.bind hfirst hnext

theorem forM {γ : Type} {step : γ → EStateM ε σ PUnit} {items : List γ}
    (h : ∀ item ∈ items, Respects R (step item)) : Respects R (items.forM step) := by
  induction items with
  | nil => exact Respects.pure _
  | cons item rest ih =>
      exact bind (h item List.mem_cons_self) fun _ => ih fun other hother =>
        h other (List.mem_cons_of_mem item hother)

/-- An attempt leaves the states related whether it goes on or is broken off. -/
theorem attempt {work : ExceptT δ (EStateM ε σ) α} (h : Respects R work.run) :
    Relates R R (Either R fun _ => R) work.run :=
  h.mono (fun _ _ => id) (fun _ _ => id) fun result _ _ hend => by cases result <;> exact hend

theorem lift {work : EStateM ε σ α} (h : Respects R work) :
    Respects R (liftM work : ExceptT δ (EStateM ε σ) α).run := by
  rw [ExceptT.run_liftM, map_eq_pure_bind]
  exact bind h fun value => Respects.pure _

theorem attemptBind {first : ExceptT δ (EStateM ε σ) α} {next : α → ExceptT δ (EStateM ε σ) β}
    (hfirst : Respects R first.run) (hnext : ∀ value, Respects R (next value).run) :
    Respects R (first >>= next).run := by
  rw [ExceptT.run_bind]
  refine bind hfirst fun result => ?_
  cases result with
  | ok value => exact hnext value
  | error abort => exact Respects.pure _

end Respects

end Gatekeeper.Work
