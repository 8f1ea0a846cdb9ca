import Gatekeeper.Markup.Document
import Gatekeeper.Number.DecimalReader
import Gatekeeper.Report.Basic

/-! Ratios in markup. Every element may carry one; the first in the document is the total and has to be
good, of the others the good ones are kept. -/

namespace Gatekeeper.Cobertura

open Markup Text

/-- The ratios of a document, the total first, and the texts that were passed over. -/
structure Ratios where
  total : Decimal
  rest : List Decimal
  ignored : List String

/-- The texts that stand where a ratio is expected, in the order of the document. -/
def markers (tags : List Tag) : List String :=
  tags.filterMap fun tag => (tag.attributes.lookup lineRate.toList).map String.ofList

/-- The ratio that a text gives. -/
def ratio (text : String) : Except Defect Decimal :=
  match Numeral.ofChars? (trim text.toList) with
  | none => .error (.notDecimal text)
  | some numeral =>
    match numeral.inUnit? with
    | some value => .ok value
    | none => .error (.outsideUnit text)

/-- The ratio that a text gives, if it is good. -/
def ratio? (text : String) : Option Decimal :=
  (ratio text).toOption

/-- The ratios of a document with these markers. -/
def ratios : List String → Except Defect Ratios
  | [] => .error .noMarker
  | first :: others =>
    (ratio first).map fun total =>
      ⟨total, others.filterMap ratio?, others.filter fun text => (ratio? text).isNone⟩

end Gatekeeper.Cobertura
