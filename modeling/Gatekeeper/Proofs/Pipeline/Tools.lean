import Gatekeeper.Pipeline
import Mathlib.Data.List.Sort

/-! The tools that steps need. They are gathered one step after the other, and yet the steps as a whole settle the
list: an entry tells what the first step that needs its tool says, and the entries stand in the order of those steps.
What later steps add is what they need themselves, without the tools that are listed already. -/

namespace Gatekeeper

/-- An empty name stands for no tool. -/
def Step.Needs (step : Step) (tool : String) : Prop :=
  tool ≠ "" ∧ step.requires = some tool

instance (step : Step) (tool : String) : Decidable (step.Needs tool) :=
  inferInstanceAs (Decidable (_ ∧ _))

theorem Step.Needs.unique {step : Step} {one other : String} (hone : step.Needs one) (hother : step.Needs other) :
    one = other :=
  Option.some.inj (hone.2.symm.trans hother.2)

namespace Pipeline

variable {steps : List Step} {tools known : List (String × Option String)} {step : Step} {tool : String}

/-- The first step that needs a tool. -/
def firstNeeding? (steps : List Step) (tool : String) : Option Step :=
  steps.find? fun step => step.Needs tool

/-- How many steps stand before the first one that needs a tool. -/
def stepsBefore (steps : List Step) (tool : String) : Nat :=
  steps.findIdx fun step => step.Needs tool

/-- The tool of one entry is needed earlier than the tool of another one. -/
def Precedes (steps : List Step) (one other : String × Option String) : Prop :=
  stepsBefore steps one.1 < stepsBefore steps other.1

instance : Std.Irrefl (Precedes steps) :=
  ⟨fun _ => Nat.lt_irrefl _⟩

instance : Std.Antisymm (Precedes steps) :=
  ⟨fun _ _ hone hother => absurd hone (Nat.lt_asymm hother)⟩

/-- A list of tools with hints is what some steps need: an entry for every tool that a step needs, with the hint of
the first such step, in the order of these first steps. -/
structure FirstNeeds (steps : List Step) (tools : List (String × Option String)) : Prop where
  mem_iff : ∀ tool hint, (tool, hint) ∈ tools ↔ (firstNeeding? steps tool).map Step.hint = some hint
  ordered : tools.Pairwise (Precedes steps)

theorem isSome_firstNeeding? : (firstNeeding? steps tool).isSome ↔ ∃ step ∈ steps, step.Needs tool := by
  simp [firstNeeding?]

theorem firstNeeding?_concat (steps : List Step) (step : Step) (tool : String) :
    firstNeeding? (steps ++ [step]) tool =
      (firstNeeding? steps tool).or (if step.Needs tool then some step else none) := by
  simp [firstNeeding?]

theorem stepsBefore_lt_length_iff : stepsBefore steps tool < steps.length ↔ ∃ step ∈ steps, step.Needs tool := by
  simp [stepsBefore]

theorem stepsBefore_concat_of_needed (h : ∃ step ∈ steps, step.Needs tool) (step : Step) :
    stepsBefore (steps ++ [step]) tool = stepsBefore steps tool := by
  rw [stepsBefore, List.findIdx_append, ← stepsBefore, if_pos (stepsBefore_lt_length_iff.mpr h)]

theorem length_le_stepsBefore_concat (h : ¬∃ step ∈ steps, step.Needs tool) (step : Step) :
    steps.length ≤ stepsBefore (steps ++ [step]) tool := by
  rw [stepsBefore, List.findIdx_append, ← stepsBefore, if_neg (mt stepsBefore_lt_length_iff.mp h)]
  exact Nat.le_add_left _ _

namespace FirstNeeds

/-- The tools of the list are those that some step needs. -/
theorem mem_names_iff (h : FirstNeeds steps tools) :
    tool ∈ tools.map Prod.fst ↔ ∃ step ∈ steps, step.Needs tool := by
  rw [← isSome_firstNeeding?, List.mem_map]
  constructor
  · rintro ⟨⟨_, hint⟩, hmem, rfl⟩
    have hfirst := (h.mem_iff _ hint).mp hmem
    simpa using congrArg Option.isSome hfirst
  · intro hsome
    obtain ⟨first, hfirst⟩ := Option.isSome_iff_exists.mp hsome
    exact ⟨(tool, first.hint), (h.mem_iff _ _).mpr (by rw [hfirst, Option.map_some]), rfl⟩

theorem needed (h : FirstNeeds steps tools) {entry : String × Option String} (hentry : entry ∈ tools) :
    ∃ step ∈ steps, step.Needs entry.1 :=
  h.mem_names_iff.mp (List.mem_map_of_mem hentry)

theorem nodup_names (h : FirstNeeds steps tools) : (tools.map Prod.fst).Nodup := by
  refine List.pairwise_map.mpr (h.ordered.imp fun hbefore hsame => ?_)
  rw [Precedes, hsame] at hbefore
  exact Nat.lt_irrefl _ hbefore

theorem count_names (h : FirstNeeds steps tools) (tool : String) :
    (tools.map Prod.fst).count tool = if ∃ step ∈ steps, step.Needs tool then 1 else 0 := by
  simp only [← h.mem_names_iff]
  exact h.nodup_names.count

/-- Two lists with the same entries in the same order are one. -/
theorem unique {others : List (String × Option String)} (h : FirstNeeds steps tools)
    (hothers : FirstNeeds steps others) : tools = others := by
  refine List.Pairwise.eq_of_mem_iff h.ordered hothers.ordered fun entry => ?_
  exact (h.mem_iff entry.1 entry.2).trans (hothers.mem_iff entry.1 entry.2).symm

/-- A further step moves no entry. -/
theorem ordered_concat (h : FirstNeeds steps tools) (step : Step) :
    tools.Pairwise (Precedes (steps ++ [step])) := by
  refine h.ordered.imp_of_mem fun hone hother hbefore => ?_
  rwa [Precedes, stepsBefore_concat_of_needed (h.needed hone), stepsBefore_concat_of_needed (h.needed hother)]

/-- A tool that is needed for the first time comes last, with the hint of the step that needs it. -/
theorem concat_of_new (h : FirstNeeds steps tools) (hneeds : step.Needs tool) (hnew : tool ∉ tools.map Prod.fst) :
    FirstNeeds (steps ++ [step]) (tools ++ [(tool, step.hint)]) where
  mem_iff other hint := by
    rw [List.mem_append, List.mem_singleton, h.mem_iff, firstNeeding?_concat]
    by_cases hother : other = tool
    · subst hother
      have hnone : firstNeeding? steps other = none := by
        rwa [← Option.not_isSome_iff_eq_none, isSome_firstNeeding?, ← h.mem_names_iff]
      simp [hnone, hneeds, eq_comm]
    · have hnot : ¬step.Needs other := fun hboth => hother (hboth.unique hneeds)
      simp [hnot, hother]
  ordered := by
    refine List.pairwise_append.mpr ⟨h.ordered_concat step, List.pairwise_singleton _ _, ?_⟩
    intro entry hentry added hadded
    have hbefore : stepsBefore steps entry.1 < steps.length := stepsBefore_lt_length_iff.mpr (h.needed hentry)
    rw [List.mem_singleton.mp hadded, Precedes, stepsBefore_concat_of_needed (h.needed hentry)]
    exact hbefore.trans_le (length_le_stepsBefore_concat (mt h.mem_names_iff.mpr hnew) step)

/-- A step that needs no further tool leaves the list as it is, whatever hint it gives. -/
theorem concat_of_listed (h : FirstNeeds steps tools)
    (hlisted : ∀ tool, step.Needs tool → tool ∈ tools.map Prod.fst) : FirstNeeds (steps ++ [step]) tools where
  mem_iff other hint := by
    rw [h.mem_iff, firstNeeding?_concat]
    by_cases hneeds : step.Needs other
    · have hsome := isSome_firstNeeding?.mpr (h.mem_names_iff.mp (hlisted other hneeds))
      obtain ⟨first, hfirst⟩ := Option.isSome_iff_exists.mp hsome
      rw [hfirst, Option.some_or]
    · rw [if_neg hneeds, Option.or_none]
  ordered := h.ordered_concat step

end FirstNeeds

theorem firstNeeds_nil : FirstNeeds [] [] where
  mem_iff tool hint := by simp [firstNeeding?]
  ordered := .nil

theorem isSome_lookup_iff : (tools.lookup tool).isSome ↔ tool ∈ tools.map Prod.fst := by
  simp only [List.lookup_isSome_iff, List.mem_map, beq_iff_eq, eq_comm (a := tool)]

theorem addTool_of_new (hneeds : step.Needs tool) (hnew : tool ∉ tools.map Prod.fst) :
    addTool tools step = tools ++ [(tool, step.hint)] := by
  rw [addTool, hneeds.2]
  simp [hneeds.1, mt isSome_lookup_iff.mp hnew]

theorem addTool_of_listed (hlisted : ∀ tool, step.Needs tool → tool ∈ tools.map Prod.fst) :
    addTool tools step = tools := by
  rw [addTool]
  cases hrequires : step.requires with
  | none => rfl
  | some tool =>
      by_cases hempty : tool = ""
      · simp [hempty]
      · simp [isSome_lookup_iff.mpr (hlisted tool ⟨hempty, hrequires⟩)]

/-- A step adds the tool that it needs, unless that one is listed; else it adds nothing. -/
theorem addTool_cases (tools : List (String × Option String)) (step : Step) :
    (∃ tool, step.Needs tool ∧ tool ∉ tools.map Prod.fst ∧ addTool tools step = tools ++ [(tool, step.hint)]) ∨
    (∀ tool, step.Needs tool → tool ∈ tools.map Prod.fst) ∧ addTool tools step = tools := by
  by_cases hnew : ∃ tool, step.Needs tool ∧ tool ∉ tools.map Prod.fst
  · obtain ⟨tool, hneeds, hnew⟩ := hnew
    exact .inl ⟨tool, hneeds, hnew, addTool_of_new hneeds hnew⟩
  · have hlisted : ∀ tool, step.Needs tool → tool ∈ tools.map Prod.fst := fun tool hneeds =>
      not_not.mp fun hnot => hnew ⟨tool, hneeds, hnot⟩
    exact .inr ⟨hlisted, addTool_of_listed hlisted⟩

/-- What a step adds is right for the steps up to it. -/
theorem FirstNeeds.addTool (h : FirstNeeds steps tools) (step : Step) :
    FirstNeeds (steps ++ [step]) (addTool tools step) := by
  rcases addTool_cases tools step with ⟨tool, hneeds, hnew, hadded⟩ | ⟨hlisted, hsame⟩
  · rw [hadded]
    exact h.concat_of_new hneeds hnew
  · rw [hsame]
    exact h.concat_of_listed hlisted

theorem FirstNeeds.foldl_addTool (h : FirstNeeds steps tools) (more : List Step) :
    FirstNeeds (steps ++ more) (more.foldl Pipeline.addTool tools) := by
  induction more generalizing steps tools with
  | nil => rwa [List.append_nil]
  | cons step more ih =>
      -- The step passes over to those for which the list is right.
      rw [List.append_cons]
      exact ih (h.addTool step)

theorem firstNeeds_requiredTools (steps : List Step) : FirstNeeds steps (requiredTools steps) :=
  firstNeeds_nil.foldl_addTool steps

/-- The entries of a list whose tools are not known. -/
def beyond (known tools : List (String × Option String)) : List (String × Option String) :=
  tools.filter fun entry => entry.1 ∉ known.map Prod.fst

theorem beyond_concat_of_mem {entry : String × Option String} (h : entry.1 ∈ known.map Prod.fst) :
    beyond known (tools ++ [entry]) = beyond known tools := by
  rw [beyond, List.filter_append, List.filter_singleton, decide_eq_false (not_not.mpr h)]
  exact List.append_nil _

theorem beyond_concat_of_not_mem {entry : String × Option String} (h : entry.1 ∉ known.map Prod.fst) :
    beyond known (tools ++ [entry]) = beyond known tools ++ [entry] := by
  rw [beyond, List.filter_append, List.filter_singleton, decide_eq_true h]
  rfl

theorem mem_names_append_beyond (known tools : List (String × Option String)) :
    tool ∈ (known ++ beyond known tools).map Prod.fst ↔
      tool ∈ known.map Prod.fst ∨ tool ∈ tools.map Prod.fst := by
  simp only [beyond, List.map_append, List.mem_append, List.mem_map, List.mem_filter, decide_eq_true_eq]
  constructor
  · rintro (hknown | ⟨entry, ⟨hentry, -⟩, rfl⟩)
    · exact .inl hknown
    · exact .inr ⟨entry, hentry, rfl⟩
  · rintro (hknown | ⟨entry, hentry, rfl⟩)
    · exact .inl hknown
    · by_cases hknown : ∃ other ∈ known, other.1 = entry.1
      · exact .inl hknown
      · exact .inr ⟨entry, ⟨hentry, hknown⟩, rfl⟩

/-- A step adds the same to tools that stand behind known ones, but for what is known. -/
theorem addTool_append_beyond (known tools : List (String × Option String)) (step : Step) :
    addTool (known ++ beyond known tools) step = known ++ beyond known (addTool tools step) := by
  rcases addTool_cases tools step with ⟨tool, hneeds, hnew, hadded⟩ | ⟨hlisted, hsame⟩
  · rw [hadded]
    by_cases hknown : tool ∈ known.map Prod.fst
    · rw [beyond_concat_of_mem hknown]
      refine addTool_of_listed fun other hother => (mem_names_append_beyond known tools).mpr ?_
      exact .inl (hneeds.unique hother ▸ hknown)
    · rw [beyond_concat_of_not_mem hknown, ← List.append_assoc]
      refine addTool_of_new hneeds fun hmem => ?_
      exact ((mem_names_append_beyond known tools).mp hmem).elim hknown hnew
  · rw [hsame]
    exact addTool_of_listed fun tool hneeds =>
      (mem_names_append_beyond known tools).mpr (.inr (hlisted tool hneeds))

theorem foldl_addTool_append_beyond (known tools : List (String × Option String)) (steps : List Step) :
    steps.foldl addTool (known ++ beyond known tools) = known ++ beyond known (steps.foldl addTool tools) := by
  induction steps generalizing tools with
  | nil => rfl
  | cons step steps ih => rw [List.foldl_cons, List.foldl_cons, addTool_append_beyond, ih]

theorem requiredTools_append (steps more : List Step) :
    requiredTools (steps ++ more) = requiredTools steps ++ beyond (requiredTools steps) (requiredTools more) := by
  have hmore := foldl_addTool_append_beyond (requiredTools steps) [] more
  rwa [beyond, List.filter_nil, List.append_nil, requiredTools, ← List.foldl_append] at hmore

/-- Every tool that a step needs is listed once and no other is. The list is the only one that has the hints of the
first steps that need its tools, in the order of these steps; and the tools of two lists of steps are those of the
first list and then, with the hints of the second list, those that only the second list needs. -/
theorem requiredTools_listsOnce (steps : List Step) :
    (∀ tool, ((requiredTools steps).map Prod.fst).count tool =
      if ∃ step ∈ steps, step.Needs tool then 1 else 0) ∧
    (∀ tools, tools = requiredTools steps ↔ FirstNeeds steps tools) ∧
    ∀ more, requiredTools (steps ++ more) =
      requiredTools steps ++ beyond (requiredTools steps) (requiredTools more) := by
  have hfirst := firstNeeds_requiredTools steps
  refine ⟨hfirst.count_names, fun tools => ⟨?_, fun h => h.unique hfirst⟩, requiredTools_append steps⟩
  rintro rfl
  exact hfirst

/-- The first step to need the meter gives no hint, and so the hint of a later one is not told. -/
example :
    requiredTools [
      ⟨"Measure", ["meter"], .report, some "meter", none⟩,
      ⟨"Greet", ["echo"], .other "idle", some "", some "no tool"⟩,
      ⟨"Build", ["make", "all"], .build, some "make", some "a package"⟩,
      ⟨"Measure again", ["meter"], .report, some "meter", some "another package"⟩] =
    [("meter", none), ("make", some "a package")] := by
  decide +kernel

end Pipeline

end Gatekeeper
