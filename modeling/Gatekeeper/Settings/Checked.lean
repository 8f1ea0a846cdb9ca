import Gatekeeper.Settings.Given

/-! Values under validation. Complaints about several settings are collected in order; a failure hides them
all, and the first failure counts. -/

namespace Gatekeeper

structure Problem where
  setting : String
  complaint : Complaint
deriving DecidableEq, Repr

/-- A value that was accepted, or refused with all complaints, or that could not be checked. -/
inductive Checked (ε α : Type) where
  | accepted (value : α)
  | refused (problems : List Problem)
  | failed (cause : ε)
deriving Repr

namespace Checked

variable {ε α β : Type}

/-- A value that was accepted is changed. -/
def map (f : α → β) : Checked ε α → Checked ε β
  | accepted value => accepted (f value)
  | refused problems => refused problems
  | failed cause => failed cause

/-- Two values together: the problems of the first stand before those of the second. -/
def both : Checked ε α → Checked ε β → Checked ε (α × β)
  | failed cause, _ => failed cause
  | _, failed cause => failed cause
  | refused problems, refused more => refused (problems ++ more)
  | refused problems, accepted _ => refused problems
  | accepted _, refused problems => refused problems
  | accepted value, accepted other => accepted (value, other)

/-- A function and its argument, both under validation. -/
def apply (f : Checked ε (α → β)) (x : Checked ε α) : Checked ε β :=
  (f.both x).map fun (f, x) => f x

instance : Applicative (Checked ε) where
  pure := accepted
  seq f x := f.apply (x ())

/-- The outcome of a setting's check. -/
def ofCheck (setting : String) : Except Complaint α → Checked ε α
  | .ok value => accepted value
  | .error complaint => refused [⟨setting, complaint⟩]

/-- A value that cannot be refused, but may fail. -/
def ofExcept : Except ε α → Checked ε α
  | .ok value => accepted value
  | .error cause => failed cause

end Checked

end Gatekeeper
