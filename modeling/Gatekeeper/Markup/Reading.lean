import Gatekeeper.Markup.Doctype
import Gatekeeper.Markup.Namespace
import Gatekeeper.Markup.Tag

/-! Reading a document character by character. The state after some characters says where in the document
they end, what has been declared, which elements are open and which start tags have been read. -/

namespace Gatekeeper.Markup

/-- A start tag with the values of its attributes, the declared defaults among them. -/
structure Tag where
  name : List Char
  attributes : List Attribute
deriving DecidableEq, Repr

inductive Place where
  | prologue (hasDoctype : Bool)
  | doctype (stage : Stage)
  | content
  | epilogue
deriving DecidableEq, Repr

/-- The piece of markup that is being read. The numbers count the brackets, dashes or question marks just
read, of which two or one may end the piece. -/
inductive Piece where
  | idle (brackets : Nat)
  | opened
  | exclaimed
  | dashed
  | comment (dashes : Nat)
  | section (expected : List Char)
  | characterData (brackets : Nat)
  | target (soFar : List Char)
  | targetEnd
  | instruction (asked : Bool)
  | tag (scan : TagScan)
  | endTag (soFar : List Char)
  | reference (soFar : List Char)
  | keyword (soFar : List Char)
  | declaration (scan : SymbolScan)
deriving DecidableEq, Repr

/-- An open element: its name and the bindings outside of it. -/
structure OpenElement where
  name : List Char
  outer : Bindings
deriving Repr

/-- The state of reading. Elements below the floor were opened outside the entity being read, and tags are
kept last one first. -/
structure Reading where
  place : Place
  piece : Piece
  dtd : Dtd
  elements : List OpenElement
  floor : Nat
  bindings : Bindings
  tags : List Tag
  spent : Spent
  entities : List (List Char)
deriving Repr

/-- The rules of one document: its letters, and how much replaced text may be read. -/
structure Rules where
  alphabet : Alphabet
  limit : Nat

namespace Reading

def start (standalone : Bool) : Reading :=
  ⟨.prologue false, .idle 0, Dtd.empty standalone, [], 0, Bindings.initial, [], 0, []⟩

/-- Goes on with another piece. -/
def turn (r : Reading) (piece : Piece) : Option Reading :=
  some { r with piece := piece }

/-- Goes on between pieces. -/
def rest (r : Reading) : Option Reading :=
  r.turn (.idle 0)

def values? (rules : Rules) (dtd : Dtd) (tag : RawTag) (spent : Spent) :
    Option (List Attribute × Spent) :=
  tag.attributes.foldlM
    (fun (done, spent) (key, raw) =>
      (attributeValue? rules.limit dtd rules.alphabet (dtd.isCharacterData tag.name key) raw
        spent).map fun (value, spent) => (done ++ [(key, value)], spent))
    ([], spent)

/-- The declared defaults of attributes that a tag does not give. -/
def defaults (dtd : Dtd) (tag : RawTag) : List Attribute :=
  dtd.rules.filterMap fun rule =>
    if rule.element = tag.name && !(tag.attributes.map Prod.fst).contains rule.key then
      rule.default?.map fun value => (rule.key, value)
    else none

def openElement (rules : Rules) (r : Reading) (raw : RawTag) : Option Reading :=
  if !allDistinct (raw.attributes.map Prod.fst) then none
  else
    match values? rules r.dtd raw r.spent with
    | none => none
    | some (given, spent) =>
      let attributes := given ++ defaults r.dtd raw
      match r.bindings.extend? attributes with
      | none => none
      | some bindings =>
        if !bindings.admits raw.name attributes then none
        else
          let r := { r with tags := ⟨raw.name, attributes⟩ :: r.tags, spent := spent }
          if raw.isClosed then
            some { r with
              piece := .idle 0, place := if r.elements.isEmpty then .epilogue else .content }
          else
            some { r with
              piece := .idle 0, place := .content, bindings := bindings,
              elements := ⟨raw.name, r.bindings⟩ :: r.elements }

/-- The innermost element ends, if it was opened in the same text and has this name. -/
def closeElement (r : Reading) (name : List Char) : Option Reading :=
  match r.elements with
  | [] => none
  | element :: outer =>
    if element.name = name && !(r.elements.drop r.floor).isEmpty then
      some { r with
        piece := .idle 0, elements := outer, bindings := element.outer,
        place := if outer.isEmpty then .epilogue else .content }
    else none

/-- The name that an end tag gives, with white space after it dropped. -/
def endName (soFar : List Char) : List Char :=
  (soFar.dropWhile isSpace).reverse

/-- Text of the document. -/
def idleStep (r : Reading) (brackets : Nat) (c : Char) : Option Reading :=
  if c = '<' then r.turn .opened
  else
    match r.place with
    | .content =>
      if c = '&' then r.turn (.reference [])
      else if c = ']' then r.turn (.idle (min 2 (brackets + 1)))
      else if c = '>' && brackets = 2 then none
      else r.rest
    | .doctype _ =>
      if isSpace c then r.rest
      else if c = '%' then r.turn (.reference [])
      else if c = ']' then some { r with place := .doctype .doctypeEnd, piece := .declaration .between }
      else none
    | _ => if isSpace c then r.rest else none

/-- The character after an opening angle bracket. -/
def openedStep (rules : Rules) (r : Reading) (c : Char) : Option Reading :=
  if c = '!' then r.turn .exclaimed
  else if c = '?' then r.turn (.target [])
  else
    match r.place with
    | .content =>
      if c = '/' then r.turn (.endTag [])
      else if isNameStart rules.alphabet c then r.turn (.tag (.name [c]))
      else none
    | .prologue _ =>
      if isNameStart rules.alphabet c then r.turn (.tag (.name [c])) else none
    | _ => none

/-- The character after `<!`. -/
def exclaimedStep (r : Reading) (c : Char) : Option Reading :=
  if c = '-' then r.turn .dashed
  else
    match r.place with
    | .content => if c = '[' then r.turn (.section "CDATA[".toList) else none
    | .epilogue => none
    | _ => if c.isAlpha then r.turn (.keyword [c]) else none

def keywordEnd (r : Reading) (keyword : List Char) : Option Reading :=
  match r.place with
  | .prologue false =>
    if keyword = "DOCTYPE".toList then
      some { r with place := .doctype .doctypeName, piece := .declaration .between }
    else none
  | .doctype _ =>
    (Stage.ofKeyword? keyword).map fun stage =>
      { r with place := .doctype stage, piece := .declaration .between }
  | _ => none

def symbolStep (rules : Rules) (r : Reading) (symbol : Symbol) : Option Reading :=
  match r.place with
  | .doctype stage =>
    match stage.next? rules.limit rules.alphabet (r.dtd, r.spent) symbol with
    | none => none
    | some (.doctypeClosed, dtd, spent) =>
      some { r with place := .prologue true, piece := .idle 0, dtd := dtd, spent := spent }
    | some (.subset, dtd, spent) =>
      some { r with place := .doctype .subset, piece := .idle 0, dtd := dtd, spent := spent }
    | some (stage, dtd, spent) =>
      some { r with place := .doctype stage, dtd := dtd, spent := spent }
  | _ => none

def declarationStep (rules : Rules) (r : Reading) (scan : SymbolScan) (c : Char) : Option Reading :=
  match scan.step rules.alphabet c with
  | none => none
  | some (symbols, scan) =>
    symbols.foldlM (symbolStep rules) { r with piece := .declaration scan }

/-- A reference has ended. In a document type it uses a parameter entity; in content it stands for a
character, or for the text of an entity. -/
def referenceEnd (rules : Rules) (expand : List Char → Reading → Option Reading) (r : Reading)
    (soFar : List Char) : Option Reading :=
  match r.place, Reference.ofChars? rules.alphabet soFar.reverse with
  | .content, some (.char _) => r.rest
  | .content, some (.entity name) =>
    if (predefined? name).isSome then r.rest else expand name { r with piece := .idle 0 }
  | .doctype _, some (.entity _) => some { r with piece := .idle 0, dtd := r.dtd.usesParameter }
  | _, _ => none

def step (rules : Rules) (expand : List Char → Reading → Option Reading) (r : Reading) (c : Char) :
    Option Reading :=
  match r.piece with
  | .idle brackets => r.idleStep brackets c
  | .opened => r.openedStep rules c
  | .exclaimed => r.exclaimedStep c
  | .dashed => if c = '-' then r.turn (.comment 0) else none
  | .comment dashes =>
    if dashes = 2 then if c = '>' then r.rest else none
    else r.turn (.comment (if c = '-' then dashes + 1 else 0))
  | .section expected =>
    match expected with
    | [] => none
    | [last] => if c = last then r.turn (.characterData 0) else none
    | next :: others => if c = next then r.turn (.section others) else none
  | .characterData brackets =>
    if c = ']' then r.turn (.characterData (min 2 (brackets + 1)))
    else if c = '>' && brackets = 2 then r.rest
    else r.turn (.characterData 0)
  | .target soFar =>
    if isNameChar rules.alphabet c then r.turn (.target (c :: soFar))
    else if !isName rules.alphabet soFar.reverse ||
        soFar.reverse.map Char.toLower = "xml".toList then none
    else if c = '?' then r.turn .targetEnd
    else if isSpace c then r.turn (.instruction false)
    else none
  | .targetEnd => if c = '>' then r.rest else none
  | .instruction asked =>
    if asked && c = '>' then r.rest else r.turn (.instruction (c = '?'))
  | .tag scan =>
    match scan.step rules.alphabet c with
    | none => none
    | some (.more scan) => r.turn (.tag scan)
    | some (.complete raw) => r.openElement rules raw
  | .endTag soFar =>
    if c = '>' then r.closeElement (endName soFar) else r.turn (.endTag (c :: soFar))
  | .reference soFar =>
    if c = ';' then referenceEnd rules expand r soFar else r.turn (.reference (c :: soFar))
  | .keyword soFar =>
    if c.isAlpha then r.turn (.keyword (c :: soFar))
    else if isSpace c then r.keywordEnd soFar.reverse
    else none
  | .declaration scan => r.declarationStep rules scan c

/-- Whether the text of an entity has ended where it began. -/
def isBackAt (r : Reading) (floor : Nat) : Bool :=
  match r.piece with
  | .idle _ => r.elements.length = floor
  | _ => false

/-- Reads the text of an entity as content: its elements end in it, it does not refer to itself, and the
amount of replaced text is bounded. -/
def expandWith (rules : Rules) (readText : Reading → List Char → Option Reading) (name : List Char)
    (r : Reading) : Option Reading :=
  match r.dtd.entities.lookup name with
  | some (.internal text) =>
    let spent := r.spent + text.length
    if r.entities.contains name || rules.limit < spent then none
    else
      let floor := r.elements.length
      match readText { r with floor := floor, spent := spent, entities := name :: r.entities } text with
      | none => none
      | some after =>
        if after.isBackAt floor then
          some { after with piece := .idle 0, floor := r.floor, entities := r.entities }
        else none
  | _ => none

/-- Reads some characters. The depth bounds how entities nest; their texts are made of standard letters. -/
def readAll (limit : Nat) : Nat → Alphabet → Reading → List Char → Option Reading
  | 0, _, _, _ => none
  | depth + 1, alphabet, r, text =>
    let rules : Rules := ⟨alphabet, limit⟩
    text.foldlM (step rules (expandWith rules (readAll limit depth .standard))) r

/-- Whether a document may end here. -/
def isComplete (r : Reading) : Bool :=
  match r.place, r.piece with
  | .epilogue, .idle _ => true
  | _, _ => false

end Reading

end Gatekeeper.Markup
