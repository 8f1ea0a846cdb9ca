import Gatekeeper.Proofs.Baseline.Content

/-! A stored ratio as a register. Ratios are loaded and stored at one path, and in between others may put what
they like there. Whatever has happened, the last ratio that was stored since is loaded with all its digits;
what cannot be stored changes nothing, and no other file is left behind. -/

namespace Gatekeeper

open Work Disk Files

/-- Whether the powers of ten of a numeral are within their bounds, as they are when it was read. -/
def Numeral.IsBounded : Numeral → Prop
  | finite value => value.isBounded = true
  | _ => True

namespace Baseline

/-- What is done with a stored ratio: it is loaded, looked for, or stored, or somebody else puts something in
its place or removes it. -/
inductive Action where
  | load
  | look
  | save (value : Numeral) (bounded : value.IsBounded)
  | put (content : Content)

inductive Answer where
  | loaded (result : Except LoadError (Option Decimal))
  | looked (found : Option Bool)
  | saved (result : Except SaveError Decimal)
  | put

/-- Does something with the ratio that is stored at a path. -/
def perform (name : String) (disk : Disk) : Action → Answer × Disk
  | .load => (.loaded (load disk (Path.ofText name)), disk)
  | .look =>
    let work := isFile (Path.ofText name)
    (.looked (work.run' disk), finish work disk)
  | .save value _ =>
    let (result, later) := save disk (Path.ofText name) value
    (.saved result, later)
  | .put content => (.put, finish (Run.place name content) disk)

/-- A disk, and what has been done with a stored ratio so far. -/
structure Register where
  disk : Disk
  history : List (Action × Answer)

namespace Register

def act (name : String) (register : Register) (action : Action) : Register :=
  let (answer, later) := perform name register.disk action
  ⟨later, register.history ++ [(action, answer)]⟩

/-- What an action leaves in the place of the ratio, if it touches it: the ratio that was stored, or nothing
to rely on. -/
def left? : Action × Answer → Option (Option Decimal)
  | (.save (.finite ratio) _, .saved (.ok _)) => some (some ratio)
  | (.put _, _) => some none
  | _ => none

/-- The last ratio that was stored, if nobody else has touched its place since. -/
def stored? (register : Register) : Option Decimal :=
  (register.history.reverse.findSome? left?).join

theorem stored?_act (name : String) (register : Register) (action : Action) :
    (register.act name action).stored? =
      (left? (action, (perform name register.disk action).1)).getD register.stored? := by
  rw [stored?, act, List.reverse_append, List.reverse_singleton, List.singleton_append,
    List.findSome?_cons]
  cases left? (action, (perform name register.disk action).1) <;> rfl

/-- What every action keeps: the ratio that was stored is loaded, and every file but its own was there before
the first action. -/
structure IsExact (initial : Disk) (name : String) (register : Register) : Prop where
  home_eq : register.disk.home = initial.home
  load_eq : ∀ ratio, register.stored? = some ratio →
    Baseline.load register.disk (Path.ofText name) = .ok (some ratio)
  file : ∀ place, HoldsFile (register.disk.node? place) →
    place = nominal initial.home (Path.ofText name) ∨ HoldsFile (initial.node? place)

variable {initial : Disk} {name : String} {register : Register}

theorem isExact_start (initial : Disk) (name : String) : IsExact initial name ⟨initial, []⟩ where
  home_eq := rfl
  load_eq := nofun
  file _ h := .inr h

theorem finish_isFile (path : Path) (disk : Disk) : finish (isFile path) disk = disk := by
  rw [isFile, finish_get_bind]
  split <;> rfl

/-- An action that leaves the right ratio and brings no other file leaves the register exact. -/
theorem IsExact.of_drifts (h : IsExact initial name register) {action : Action}
    (hload : ∀ ratio, (register.act name action).stored? = some ratio →
      Baseline.load (register.act name action).disk (Path.ofText name) = .ok (some ratio))
    (hfile : ∀ place, place ≠ nominal initial.home (Path.ofText name) →
      Drifts NoNewFile initial.home place register.disk (register.act name action).disk) :
    IsExact initial name (register.act name action) where
  -- where the program runs is told by any place but the one of the ratio
  home_eq := (hfile (nominal initial.home (Path.ofText name) ++ [""]) (by simp) h.home_eq).1
  load_eq := hload
  file place hplace := by
    by_cases hown : place = nominal initial.home (Path.ofText name)
    · exact .inl hown
    · exact h.file place ((hfile place hown h.home_eq).2 hplace)

/-- An action that leaves the disk alone and says nothing of the ratio leaves the register exact. -/
theorem IsExact.of_disk_eq (h : IsExact initial name register) {action : Action}
    (hdisk : (perform name register.disk action).2 = register.disk)
    (hleft : left? (action, (perform name register.disk action).1) = none) :
    IsExact initial name (register.act name action) := by
  have hsame : (register.act name action).disk = register.disk := hdisk
  apply h.of_drifts
  · rw [stored?_act, hleft, hsame]
    exact h.load_eq
  · intro place _
    rw [hsame]
    exact Std.Refl.refl register.disk

theorem IsExact.save (h : IsExact initial name register) (value : Numeral) (bounded : value.IsBounded) :
    IsExact initial name (register.act name (.save value bounded)) := by
  have hdisk : (register.act name (.save value bounded)).disk =
      (Baseline.save register.disk (Path.ofText name) value).2 := rfl
  apply h.of_drifts
  · rw [stored?_act, hdisk]
    change ∀ ratio, (left? (.save value bounded,
      .saved (Baseline.save register.disk (Path.ofText name) value).1)).getD _ = _ → _
    rcases hsave : Baseline.save register.disk (Path.ofText name) value with ⟨_ | stored, later⟩
    · -- the ratio that was stored before is still there, and so is the way to it
      have hnothing : left? (.save value bounded, .saved (.error ‹SaveError›)) = none := by
        cases value <;> rfl
      rw [hnothing]
      intro ratio hratio
      have hbefore : IsStored register.disk (Path.ofText name) (some ratio) := h.load_eq ratio hratio
      have hstays : Drifts Stays register.disk.home (nominal register.disk.home (Path.ofText name))
          register.disk later := drifts_of_save_eq_error hsave
      have hway : ∀ left, Drifts StaysDirectory register.disk.home left register.disk later :=
        fun _ => drifts_of_save_eq_error hsave
      exact isStored_of_stays hbefore (hstays rfl).1 (hstays rfl).2 fun left _ => (hway left rfl).2
    · obtain ⟨hvalue, -, hholds⟩ := of_save_eq_ok hsave
      obtain ⟨rfl, hunit⟩ := Numeral.inUnit?_eq_some_iff.mp hvalue
      rintro ratio hratio
      obtain rfl : stored = ratio := by simpa [left?] using hratio
      exact isStored_of_holds hunit bounded hholds
  · intro place hplace
    exact drifts_save hplace register.disk

theorem IsExact.put (h : IsExact initial name register) (content : Content) :
    IsExact initial name (register.act name (.put content)) := by
  apply h.of_drifts
  · rw [stored?_act]
    nofun
  · intro place hplace
    refine Run.keeps_place ?_ register.disk
    cases content with
    | absent => exact .inr allowsLoss_noNewFile
    | directory => trivial
    | file bytes executable => exact fun hsame => absurd hsame hplace

/-- Every action keeps the register exact. -/
theorem IsExact.act (h : IsExact initial name register) (action : Action) :
    IsExact initial name (register.act name action) := by
  cases action with
  | load => exact h.of_disk_eq rfl rfl
  | look => exact h.of_disk_eq (finish_isFile _ _) rfl
  | save value bounded => exact h.save value bounded
  | put content => exact h.put content

theorem IsExact.foldl (h : IsExact initial name register) (actions : List Action) :
    IsExact initial name (actions.foldl (Register.act name) register) := by
  induction actions generalizing register with
  | nil => exact h
  | cons action rest ih => exact ih (h.act action)

/-- Whatever has been done with a stored ratio, the last one that was stored since its place was touched by
others is loaded with all its digits. Loading and looking change nothing, and neither does the attempt to
store what is no number in the unit interval, which is refused. No file is there but the one of the ratio and
those that were there at first. -/
theorem stored_is_loaded (initial : Disk) (name : String) (actions : List Action) :
    let register := actions.foldl (Register.act name) ⟨initial, []⟩
    (∀ ratio, register.stored? = some ratio →
      (perform name register.disk .load).1 = .loaded (.ok (some ratio))) ∧
    (perform name register.disk .load).2 = register.disk ∧
    (perform name register.disk .look).2 = register.disk ∧
    (∀ value bounded, (∀ ratio, value = .finite ratio → ¬(0 ≤ ratio.value ∧ ratio.value ≤ 1)) →
      perform name register.disk (.save value bounded) = (.saved (.error (.outsideUnit value)), register.disk)) ∧
    ∀ place, HoldsFile (register.disk.node? place) →
      place = nominal initial.home (Path.ofText name) ∨ HoldsFile (initial.node? place) := by
  intro register
  have hexact : IsExact initial name register := (isExact_start initial name).foldl actions
  refine ⟨fun ratio hratio => ?_, rfl, finish_isFile _ _, fun value bounded houtside => ?_, hexact.file⟩
  · rw [perform, hexact.load_eq ratio hratio]
  · have hrefused : value.inUnit? = none := by
      by_contra hunit
      obtain ⟨ratio, hratio⟩ := Option.ne_none_iff_exists'.mp hunit
      obtain ⟨hfinite, hratio⟩ := Numeral.inUnit?_eq_some_iff.mp hratio
      exact houtside ratio hfinite ((Decimal.inUnit_iff ratio).mp hratio)
    rw [perform, save_eq, hrefused]

end Register

end Baseline

end Gatekeeper
