import Gatekeeper.CommandLine.Options
import Mathlib

/-! What the words of a command line give. A word that names a flag is read as this flag, whatever stands around it,
and when the words are accepted, every setting whose flag they name is given by them. -/

namespace Gatekeeper.CommandLine

/-- The part of a word before its first equals sign. -/
def nameIn (word : String) : List Char :=
  word.toList.takeWhile (· ≠ '=')

namespace Flag

/-- Whether a word names a flag: before its first equals sign stands the name of the flag, or a beginning of the name
that has both dashes and is no beginning of any other. -/
def IsNamedBy (flag : Flag) (word : String) : Prop :=
  nameIn word = flag.name.toList ∨
    ['-', '-'] <+: nameIn word ∧ ∀ other : Flag, nameIn word <+: other.name.toList ↔ other = flag

theorem name_injective : Function.Injective name := by
  intro flag other h
  cases flag <;> cases other <;> first | rfl | exact absurd h (by decide)

theorem dashes_isPrefix_name (flag : Flag) : ['-', '-'] <+: flag.name.toList := by
  cases flag <;> decide

theorem equals_not_mem_name (flag : Flag) : '=' ∉ flag.name.toList := by
  cases flag <;> decide

theorem ofName?_name (flag : Flag) : ofName? flag.name.toList = some flag := by
  cases flag <;> decide

theorem name_of_ofName? {word : List Char} {flag : Flag} (hword : word ≠ ['-', 'h']) (h : ofName? word = some flag) :
    flag.name.toList = word := by
  rw [ofName?, if_neg hword] at h
  simpa using List.find?_some h

end Flag

theorem splitEquals_fst (word : String) : (splitEquals word.toList).1 = nameIn word := by
  rw [splitEquals, List.span_eq_takeWhile_dropWhile]
  cases word.toList.dropWhile (· ≠ '=') <;> rfl

theorem abbreviated_eq (word : List Char) :
    abbreviated word = (Flag.all.filter fun flag => (splitEquals word).1.isPrefixOf flag.name.toList,
      (splitEquals word).2) :=
  rfl

theorem nameIn_of_not_mem {word : String} (h : '=' ∉ word.toList) : nameIn word = word.toList := by
  rw [nameIn, List.takeWhile_eq_self_iff]
  intro c hc
  have hne : c ≠ '=' := fun heq => h (heq ▸ hc)
  simpa using hne

theorem nameIn_of_splitEquals_snd {word : String} (h : (splitEquals word.toList).2 = none) :
    nameIn word = word.toList := by
  rw [splitEquals, List.span_eq_takeWhile_dropWhile] at h
  cases hafter : word.toList.dropWhile (· ≠ '=') with
  | nil =>
      have happend := List.takeWhile_append_dropWhile (p := (· ≠ '=')) (l := word.toList)
      rw [hafter, List.append_nil] at happend
      exact happend
  | cons c rest =>
      rw [hafter] at h
      cases h

namespace Flag

variable {flag other : Flag} {word : String}

/-- A word names one flag at most. -/
theorem IsNamedBy.eq_of_name (h : flag.IsNamedBy word) (hname : other.name.toList = nameIn word) : other = flag := by
  rcases h with hflag | ⟨-, hunique⟩
  · exact name_injective (String.toList_inj.mp (hname.trans hflag))
  · exact (hunique other).mp (hname ▸ List.prefix_rfl)

theorem IsNamedBy.dashes_isPrefix (h : flag.IsNamedBy word) : ['-', '-'] <+: nameIn word := by
  rcases h with hflag | ⟨hdashes, -⟩
  · exact hflag ▸ flag.dashes_isPrefix_name
  · exact hdashes

/-- Of the flags that begin like a word that names one in short, this is the only one. -/
theorem IsNamedBy.filter_all (h : flag.IsNamedBy word) (hshort : ofName? (nameIn word) = none) :
    (all.filter fun other => (nameIn word).isPrefixOf other.name.toList) = [flag] := by
  rcases h with hflag | ⟨-, hunique⟩
  · rw [hflag, ofName?_name] at hshort
    cases hshort
  · have hsame : (fun other : Flag => (nameIn word).isPrefixOf other.name.toList) =
        fun other => decide (other = flag) := by
      funext other
      rw [Bool.eq_iff_iff, List.isPrefixOf_iff_prefix, decide_eq_true_eq, hunique]
    rw [hsame]
    cases flag <;> decide

/-- A word that names a flag is read as this flag. -/
theorem IsNamedBy.classify (h : flag.IsNamedBy word) : ∃ value, classify word = .ok (.flag flag value) := by
  obtain ⟨rest, hrest⟩ := h.dashes_isPrefix.trans (List.takeWhile_prefix _)
  replace hrest : word.toList = '-' :: '-' :: rest := hrest.symm
  have hstart := splitEquals_fst word
  have hwhole : (splitEquals word.toList).2 = none → nameIn word = word.toList := nameIn_of_splitEquals_snd
  rw [hrest] at hstart hwhole
  rw [CommandLine.classify, hrest]
  simp only
  split
  · rename_i found hfound
    have hname := name_of_ofName? (by simp) hfound
    have hsame : nameIn word = found.name.toList := by
      rw [hname, ← hrest]
      exact nameIn_of_not_mem (hrest ▸ hname ▸ found.equals_not_mem_name)
    exact ⟨none, by rw [h.eq_of_name hsame.symm]⟩
  · rename_i hnone
    have hbegins : ofName? (nameIn word) = none → abbreviated ('-' :: '-' :: rest) =
        ([flag], (splitEquals ('-' :: '-' :: rest)).2) := by
      intro hother
      rw [abbreviated_eq, hstart, h.filter_all hother]
    rw [hstart]
    cases hafter : (splitEquals ('-' :: '-' :: rest)).2 with
    | none =>
        have hother : ofName? (nameIn word) = none := hwhole hafter ▸ hnone
        simp only [hother, hbegins hother, hafter]
        exact ⟨_, rfl⟩
    | some after =>
        cases hfound : ofName? (nameIn word) with
        | none =>
            simp only [hbegins hfound, hafter]
            exact ⟨_, rfl⟩
        | some found =>
            have hlong : nameIn word ≠ ['-', 'h'] := by
              intro hshort
              exact absurd (hshort ▸ h.dashes_isPrefix) (by decide)
            have hname := name_of_ofName? hlong hfound
            simp only [h.eq_of_name hname]
            exact ⟨_, rfl⟩

/-- The setting that the value of a flag is for, and the text of the environment whose place it takes. -/
def masks? : Flag → Option (String × String)
  | minimum => some ("min_coverage", "COVGATE_MIN_COVERAGE")
  | maxDrop => some ("max_drop", "COVGATE_MAX_DROP")
  | report => some ("report_path", "COVGATE_REPORT_PATH")
  | baseline => some ("baseline_path", "COVGATE_BASELINE_PATH")
  | engine => some ("engine", "COVGATE_ENGINE")
  | outputDir => some ("output_dir", "COVGATE_OUTPUT_DIR")
  | coverageTimeout => some ("coverage_timeout", "COVGATE_COVERAGE_TIMEOUT")
  | baselinePolicy => some ("baseline_policy", "COVGATE_BASELINE_POLICY")
  | projectDir => some ("project_dir", "COVGATE_PROJECT_DIR")
  | logLevel => some ("log_level", "COVGATE_LOG_LEVEL")
  | help => none
  | reportOnly => none
  | logFile => none

end Flag

namespace Options

def Gives (options : Options) (setting : String) : Prop :=
  ∃ value, (setting, value) ∈ options.given

variable {options after : Options} {flag : Flag} {setting other variableName text : String} {value : Given}

theorem gives_iff_lookup : options.Gives setting ↔ options.given.lookup setting ≠ Option.none := by
  rw [Gives, ne_eq, List.lookup_eq_none_iff]
  simp

theorem gives_give : (options.give setting value).Gives other ↔ other = setting ∨ options.Gives other := by
  by_cases h : other = setting <;> simp [Gives, give, h]

theorem of_giveInteger_eq_ok (h : giveInteger options flag setting text = .ok after) :
    ∃ value, after = options.give setting value := by
  rw [giveInteger] at h
  split at h
  · exact ⟨_, (Except.ok.inj h).symm⟩
  · cases h

theorem of_choose_eq_ok {choices : List String} (h : choose options flag setting text choices = .ok after) :
    ∃ value, after = options.give setting value := by
  rw [choose] at h
  split at h
  · exact ⟨_, (Except.ok.inj h).symm⟩
  · cases h

/-- What a flag does to the options: it gives a value for the setting that it is for, or for one that the environment
does not know, or it leaves the given values as they are. -/
theorem of_set_eq_ok (h : options.set flag text = .ok after) :
    (∃ setting value, after = options.give setting value ∧
      ∀ masked variableName, flag.masks? = some (masked, variableName) → masked = setting) ∨
    (after.given = options.given ∧ flag.masks? = Option.none) := by
  cases flag with
  | minimum | coverageTimeout =>
      obtain ⟨value, rfl⟩ := of_giveInteger_eq_ok h
      exact .inl ⟨_, value, rfl, by simp [Flag.masks?]⟩
  | engine | baselinePolicy =>
      obtain ⟨value, rfl⟩ := of_choose_eq_ok h
      exact .inl ⟨_, value, rfl, by simp [Flag.masks?]⟩
  | maxDrop =>
      rw [set] at h
      split at h
      · exact .inl ⟨_, _, (Except.ok.inj h).symm, by simp [Flag.masks?]⟩
      · cases h
  | report | baseline | outputDir | projectDir | logLevel | reportOnly =>
      exact .inl ⟨_, _, (Except.ok.inj h).symm, by simp [Flag.masks?]⟩
  | help | logFile =>
      cases h
      exact .inr ⟨rfl, rfl⟩

/-- A flag takes no value away, and it gives one for the setting that it is for. -/
theorem gives_of_set_eq_ok (h : options.set flag text = .ok after) :
    (∀ setting, options.Gives setting → after.Gives setting) ∧
      ∀ setting variableName, flag.masks? = some (setting, variableName) → after.Gives setting := by
  rcases of_set_eq_ok h with ⟨given, value, rfl, hmasks⟩ | ⟨hgiven, hmasks⟩
  · exact ⟨fun setting hsetting => gives_give.mpr (.inr hsetting),
      fun setting variableName hsetting => gives_give.mpr (.inl (hmasks setting variableName hsetting))⟩
  · refine ⟨fun setting hsetting => ?_, fun setting variableName hsetting => ?_⟩
    · rwa [Gives, hgiven]
    · rw [hmasks] at hsetting
      cases hsetting

end Options

theorem helpLetters_ne_run (letters : List Char) (options : Options) : helpLetters letters ≠ .ok (.run options) := by
  fun_induction helpLetters letters <;> simp_all

/-- Whether the options that were read from some words keep what was given before, and give a value for every setting
whose flag is among the words; there is no separator then. -/
structure Options.Reads (before : Options) (words : List Word) (after : Options) : Prop where
  keeps : ∀ setting, before.Gives setting → after.Gives setting
  gives : ∀ flag value setting variableName, .flag flag value ∈ words →
    flag.masks? = some (setting, variableName) → after.Gives setting
  noSeparator : .separator ∉ words

namespace Options.Reads

variable {before middle after final : Options} {words rest : List Word}

theorem nil (options : Options) : options.Reads [] options :=
  ⟨fun _ => id, nofun, List.not_mem_nil⟩

theorem plain (h : before.Reads rest after) (text : String) : before.Reads (.plain text :: rest) after where
  keeps := h.keeps
  gives flag value setting variableName hmem := h.gives flag value setting variableName (by simpa using hmem)
  noSeparator := by simpa using h.noSeparator

theorem flag {flag : Flag} {text : String} (hset : before.set flag text = .ok middle)
    (h : middle.Reads rest after) (value : Option String) : before.Reads (.flag flag value :: rest) after where
  keeps setting hsetting := h.keeps setting ((gives_of_set_eq_ok hset).1 setting hsetting)
  gives other value setting variableName hmem hmasks := by
    rcases List.mem_cons.mp hmem with hfirst | hrest
    · cases hfirst
      exact h.keeps setting ((gives_of_set_eq_ok hset).2 setting variableName hmasks)
    · exact h.gives other value setting variableName hrest hmasks
  noSeparator := by simpa using h.noSeparator

/-- A flag is read, and then what follows it. -/
theorem ofSet {flag : Flag} {text : String} {value : Option String} {strays : List String}
    {next : Options → Except UsageError Request} (h : (before.set flag text >>= next) = .ok (.run final))
    (hnext : ∀ middle, next middle = .ok (.run final) → strays = [] ∧ middle.Reads rest final) :
    strays = [] ∧ before.Reads (.flag flag value :: rest) final := by
  cases hset : before.set flag text with
  | error cause =>
      rw [hset] at h
      cases h
  | ok middle =>
      rw [hset] at h
      obtain ⟨hstrays, hreads⟩ := hnext middle h
      exact ⟨hstrays, hreads.flag hset value⟩

end Options.Reads

/-- Words that are accepted leave none that belongs to no flag, and give what their flags say. -/
theorem of_readWords_eq_run {options final : Options} {strays : List String} {words : List Word}
    (h : readWords options strays words = .ok (.run final)) : strays = [] ∧ options.Reads words final := by
  fun_induction readWords options strays words with
  | case1 options strays hnone =>
      cases h
      exact ⟨List.isEmpty_iff.mp hnone, .nil final⟩
  | case2 | case6 | case8 | case10 | case13 => cases h
  | case3 options strays text rest ih | case4 options strays text rest ih | case5 options strays rest ih =>
      -- a word that belongs to no flag is never forgotten
      exact absurd (ih h).1 (by simp)
  | case7 => exact absurd h (helpLetters_ne_run _ _)
  | case9 _ _ _ _ _ _ ih | case14 _ _ _ _ _ _ _ ih => exact Options.Reads.ofSet h ih
  | case11 _ _ _ value _ _ _ ih =>
      exact Options.Reads.ofSet h fun middle hmiddle => (ih middle hmiddle).imp_right fun hreads => hreads.plain value
  | case12 _ _ _ value _ _ _ ih => exact Options.Reads.ofSet h ih

/-- Every word of a command line without a separator is read for itself. -/
theorem exists_of_classifyAll_eq_ok {words : List String} {found : List Word} (h : classifyAll words = .ok found)
    (hseparator : .separator ∉ found) : ∀ text ∈ words, ∃ word ∈ found, classify text = .ok word := by
  induction words generalizing found with
  | nil => nofun
  | cons first rest ih =>
      rw [classifyAll] at h
      split at h
      · cases h
        exact absurd List.mem_cons_self hseparator
      · cases hfirst : classify first with
        | error cause =>
            rw [hfirst] at h
            cases h
        | ok word =>
            cases hrest : classifyAll rest with
            | error cause =>
                rw [hfirst, hrest] at h
                cases h
            | ok later =>
                rw [hfirst, hrest] at h
                cases h
                rw [List.mem_cons, not_or] at hseparator
                rw [List.forall_mem_cons]
                refine ⟨⟨word, List.mem_cons_self, hfirst⟩, fun text htext => ?_⟩
                obtain ⟨other, hother, hclass⟩ := ih hrest hseparator.2 text htext
                exact ⟨other, List.mem_cons_of_mem word hother, hclass⟩

/-- When a command line asks for a run, every setting whose flag it names is given. -/
theorem gives_of_ofWords_eq_run {words : List String} {options : Options}
    (h : Request.ofWords words = .ok (.run options)) {flag : Flag} {setting variableName text : String}
    (hmasks : flag.masks? = some (setting, variableName)) (htext : text ∈ words) (hnamed : flag.IsNamedBy text) :
    options.Gives setting := by
  rw [Request.ofWords] at h
  split at h
  · rename_i found hfound
    obtain ⟨-, hreads⟩ := of_readWords_eq_run h
    obtain ⟨word, hword, hclass⟩ := exists_of_classifyAll_eq_ok hfound hreads.noSeparator text htext
    obtain ⟨value, hflag⟩ := hnamed.classify
    rw [hflag] at hclass
    cases hclass
    exact hreads.gives flag value setting variableName hword hmasks
  · cases h

end Gatekeeper.CommandLine
