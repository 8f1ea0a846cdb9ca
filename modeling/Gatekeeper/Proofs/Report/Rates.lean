import Gatekeeper.Proofs.Markup.Roundtrip
import Gatekeeper.Proofs.Report.Range

/-! The ratios of a report that was written as a tree of elements. The attributes with the name of ratios, in the order
of the document, decide about the report: the first one has to spell a ratio and is the total, of the others those that
spell ratios are kept. -/

namespace Gatekeeper

open Text

namespace Markup

/-- The texts that stand where an element has a ratio. -/
def Attributes.rates (attributes : Attributes) : List (List Char) :=
  (attributes.entries.filter fun entry => entry.1.chars = lineRate.toList).map fun entry => entry.2.chars

/-- The texts that stand where some elements have ratios, each element before those inside it. -/
def Forest.rates : Forest → List (List Char)
  | nil => []
  | words _ rest => rest.rates
  | element _ attributes inner rest => attributes.rates ++ (inner.rates ++ rest.rates)

/-- The texts that stand where an element and those in it have ratios, in the order of the document. -/
def Element.rates (element : Element) : List (List Char) :=
  element.attributes.rates ++ element.inner.rates

/-- No attribute is given twice, so that looking one up finds all that there is. -/
theorem lookup_eq_rates {entries : List (Name × Words)} (h : (entries.map fun entry => entry.1.chars).Nodup)
    (key : List Char) :
    ((entries.map fun entry => (entry.1.chars, entry.2.chars)).lookup key).toList =
      (entries.filter fun entry => entry.1.chars = key).map fun entry => entry.2.chars := by
  induction entries with
  | nil => rfl
  | cons entry rest ih =>
      rw [List.map_cons, List.nodup_cons] at h
      by_cases hkey : entry.1.chars = key
      · -- The key is the first name, and no later one is the same.
        have hnone : (rest.filter fun entry => entry.1.chars = key) = [] := by
          rw [List.filter_eq_nil_iff]
          intro other hother hsame
          exact h.1 (List.mem_map.mpr ⟨other, hother, (of_decide_eq_true hsame).trans hkey.symm⟩)
        simp [hkey, hnone]
      · have hne : (key == entry.1.chars) = false := beq_eq_false_iff_ne.mpr fun heq => hkey heq.symm
        rw [List.map_cons, List.lookup_cons, hne, ih h.2, List.filter_cons_of_neg (by simpa using hkey)]

end Markup

namespace Cobertura

open Markup

theorem markers_cons (name : List Char) (attributes : Attributes) (tags : List Tag) :
    markers (⟨name, attributes.values⟩ :: tags) = attributes.rates.map String.ofList ++ markers tags := by
  have hfound : (attributes.values.lookup lineRate.toList).toList = attributes.rates :=
    lookup_eq_rates attributes.distinct lineRate.toList
  rw [← hfound, markers, List.filterMap_cons]
  dsimp only
  cases attributes.values.lookup lineRate.toList <;> rfl

theorem markers_append (first later : List Tag) : markers (first ++ later) = markers first ++ markers later :=
  List.filterMap_append

theorem markers_forest (forest : Forest) : markers forest.tags = forest.rates.map String.ofList := by
  induction forest with
  | nil => rfl
  | words text rest ih => exact ih
  | element name attributes inner rest ihInner ihRest =>
      rw [Forest.tags, markers_cons, markers_append, ihInner, ihRest, Forest.rates, List.map_append, List.map_append]

theorem markers_element (element : Element) : markers element.tags = element.rates.map String.ofList := by
  rw [Element.tags, markers_cons, markers_forest, Element.rates, List.map_append]

/-- Whether a text is that of a decimal in the unit interval; blanks at its ends do not count. -/
def Spells (text : List Char) (ratio : Decimal) : Prop :=
  Numeral.ofChars? (trim text) = some (.finite ratio) ∧ 0 ≤ ratio.value ∧ ratio.value ≤ 1

theorem ratio?_eq_some_iff {text : List Char} {value : Decimal} :
    ratio? (String.ofList text) = some value ↔ Spells text value := by
  rw [ratio?, ratio, String.toList_ofList, Spells, ← Numeral.bind_inUnit?_eq_some_iff]
  cases Numeral.ofChars? (trim text) with
  | none => simp [Except.toOption]
  | some numeral => cases hvalue : numeral.inUnit? <;> simp [hvalue, Except.toOption]

/-- Whether a text is that of some decimal in the unit interval. -/
def IsRatio (text : List Char) : Prop :=
  ∃ value, Spells text value

theorem isSome_ratio?_iff {text : List Char} : (ratio? (String.ofList text)).isSome = true ↔ IsRatio text := by
  rw [Option.isSome_iff_exists]
  exact exists_congr fun _ => ratio?_eq_some_iff

instance (text : List Char) : Decidable (IsRatio text) :=
  decidable_of_iff _ isSome_ratio?_iff

/-- What is kept of some texts: one after the other, what those spell that are the texts of ratios. -/
theorem forall₂_filterMap (texts : List (List Char)) :
    List.Forall₂ Spells (texts.filter fun text => IsRatio text) ((texts.map String.ofList).filterMap ratio?) := by
  induction texts with
  | nil => exact .nil
  | cons text rest ih =>
      rw [List.map_cons, List.filterMap_cons]
      by_cases hratio : IsRatio text
      · rw [List.filter_cons_of_pos (by simpa using hratio)]
        obtain ⟨value, hvalue⟩ := hratio
        rw [ratio?_eq_some_iff.mpr hvalue]
        exact .cons hvalue ih
      · have hnone : ratio? (String.ofList text) = none :=
          Option.not_isSome_iff_eq_none.mp (mt isSome_ratio?_iff.mp hratio)
        rw [List.filter_cons_of_neg (by simpa using hratio), hnone]
        exact ih

theorem ratios_of_spells {text : List Char} {total : Decimal} (h : Spells text total) (others : List String) :
    ∃ ignored, ratios (String.ofList text :: others) = .ok ⟨total, others.filterMap ratio?, ignored⟩ := by
  have htotal := ratio?_eq_some_iff.mpr h
  rw [ratio?] at htotal
  cases hratio : ratio (String.ofList text) with
  | error defect =>
      rw [hratio] at htotal
      cases htotal
  | ok found =>
      rw [hratio] at htotal
      cases htotal
      rw [ratios, hratio]
      exact ⟨_, rfl⟩

/-- A report without a good first marker has a defect that is told of as such. -/
theorem exists_failure_of_not_isRatio {texts : List (List Char)} (h : ∀ text ∈ texts.head?, ¬IsRatio text) :
    ∃ defect, ratios (texts.map String.ofList) = .error defect ∧ Report.failure defect = .unreadable defect := by
  cases texts with
  | nil => exact ⟨.noMarker, rfl, rfl⟩
  | cons text rest =>
      have hnone : ratio? (String.ofList text) = none :=
        Option.not_isSome_iff_eq_none.mp (mt isSome_ratio?_iff.mp (h text rfl))
      rw [List.map_cons, ratios]
      rw [ratio?, ratio] at hnone
      rw [ratio]
      split at hnone
      · exact ⟨_, rfl, rfl⟩
      · split at hnone
        · cases hnone
        · exact ⟨_, rfl, rfl⟩

end Cobertura

namespace Report

open Cobertura Markup

/-- A report that was written as a tree of elements cannot be read just when no attribute has the name of ratios, or
when the first one with it spells no ratio. Else this first one spells the total, and the others that spell ratios
follow it in the order of the document. -/
theorem read_document (style : Style) (element : Element) {disk : Disk} {path : Path} {asked : String}
    (hcontent : Files.content? disk path = some ((style.document element).flatMap utf8Bytes))
    (hformat : ReportFormat.resolve path asked ≠ .lcov) :
    ((∃ defect, read disk path asked = .error (.unreadable defect)) ↔
        element.rates = [] ∨ ∃ first later, element.rates = first :: later ∧ ¬IsRatio first) ∧
      ∀ first later total, element.rates = first :: later → Spells first total →
        ∃ report rest, read disk path asked = .ok report ∧ report.total = total ∧ report.ratios = total :: rest ∧
          List.Forall₂ Spells (later.filter fun text => IsRatio text) rest := by
  have hread : read disk path asked =
      ofMarkup path (ReportFormat.resolve path asked) ((style.document element).flatMap utf8Bytes) := by
    rw [read_of_content?_eq_some hcontent, ofBytes_of_ne_lcov hformat]
  have hgood : ∀ first later total, element.rates = first :: later → Spells first total →
      ∃ report rest, read disk path asked = .ok report ∧ report.total = total ∧ report.ratios = total :: rest ∧
        List.Forall₂ Spells (later.filter fun text => IsRatio text) rest := by
    intro first later total hrates hspells
    obtain ⟨ignored, hratios⟩ := ratios_of_spells hspells (later.map String.ofList)
    have hreport : read disk path asked = .ok ⟨path, ReportFormat.resolve path asked, total,
        (later.map String.ofList).filterMap ratio?, ignored⟩ := by
      rw [hread, ofMarkup]
      simp only [readDocument_document, markers_element, hrates, List.map_cons, hratios]
    exact ⟨_, _, hreport, rfl, rfl, forall₂_filterMap later⟩
  refine ⟨⟨?_, ?_⟩, hgood⟩
  · rintro ⟨defect, hdefect⟩
    cases hrates : element.rates with
    | nil => exact .inl rfl
    | cons first later =>
        refine .inr ⟨first, later, rfl, ?_⟩
        rintro ⟨total, hspells⟩
        obtain ⟨report, rest, hreport, -⟩ := hgood first later total hrates hspells
        rw [hdefect] at hreport
        cases hreport
  · intro hbad
    have hfirst : ∀ text ∈ element.rates.head?, ¬IsRatio text := by
      rcases hbad with hnil | ⟨first, later, hrates, hratio⟩
      · rw [hnil]
        intro text htext
        cases htext
      · rw [hrates]
        intro text htext
        cases htext
        exact hratio
    obtain ⟨defect, hratios, hfailure⟩ := exists_failure_of_not_isRatio hfirst
    refine ⟨defect, ?_⟩
    rw [hread, ofMarkup]
    simp only [readDocument_document, markers_element, hratios, hfailure]

/-- A class in a package: the total keeps both its digits, the package has no ratio, and the class has one. -/
theorem read_document_of_nested :
    let given (text : Words) : Attributes :=
      ⟨[(⟨lineRate.toList, by decide +kernel⟩, text)], List.nodup_singleton _,
        List.forall_mem_singleton.mpr (by decide +kernel : ¬"xmlns".toList <+: lineRate.toList)⟩
    let inner : Forest :=
      .words ⟨"1 < 2".toList, List.all_eq_true.mp (by decide +kernel)⟩
        (.element ⟨"package".toList, by decide +kernel⟩
          (given ⟨"oops".toList, List.all_eq_true.mp (by decide +kernel)⟩)
          (.element ⟨"class".toList, by decide +kernel⟩
            (given ⟨" 1 ".toList, List.all_eq_true.mp (by decide +kernel)⟩) .nil .nil)
          .nil)
    let element : Element :=
      ⟨⟨"coverage".toList, by decide +kernel⟩, given ⟨"0.50".toList, List.all_eq_true.mp (by decide +kernel)⟩, inner⟩
    let style : Style := ⟨true, true, '"', .inl rfl⟩
    let bytes := (style.document element).flatMap utf8Bytes
    let disk := (Disk.empty ["home"]).create ["home", "cobertura.xml"] false bytes
    ∃ report, read disk (Path.ofText "cobertura.xml") "" = .ok report ∧
      report.ratios = [⟨false, 50, -2⟩, ⟨false, 1, 0⟩] := by
  intro given inner element style bytes disk
  have hcontent : Files.content? disk (Path.ofText "cobertura.xml") = some bytes := by
    clear_value bytes
    cbv
  have hformat : ReportFormat.resolve (Path.ofText "cobertura.xml") "" ≠ .lcov := by decide
  have hrates : element.rates = "0.50".toList :: ["oops".toList, " 1 ".toList] := by decide +kernel
  have hfirst : Spells "0.50".toList ⟨false, 50, -2⟩ :=
    ⟨by decide +kernel, (Decimal.inUnit_iff _).mp (by decide +kernel)⟩
  obtain ⟨report, rest, hread, -, hratios, hrest⟩ :=
    (read_document style element hcontent hformat).2 _ _ _ hrates hfirst
  have hkept : (["oops".toList, " 1 ".toList].filter fun text => IsRatio text) = [" 1 ".toList] := by decide +kernel
  rw [hkept] at hrest
  cases hrest with
  | cons hspells hnil =>
      cases hnil
      have hone : Numeral.ofChars? (trim " 1 ".toList) = some (.finite ⟨false, 1, 0⟩) := by decide +kernel
      have hlast := hspells.1.symm.trans hone
      cases hlast
      exact ⟨report, hread, hratios⟩

end Report

end Gatekeeper
