import Gatekeeper.Markup.Reference

/-! Declarations of a document and the texts that they change: entities, defaults and types of attributes,
and the value of an attribute with its references replaced. -/

namespace Gatekeeper.Markup

/-- What an entity stands for: a text of the document itself, another resource, or no markup at all. -/
inductive Entity where
  | internal (text : List Char)
  | external
  | unparsed
deriving DecidableEq, Repr

structure AttributeRule where
  element : List Char
  key : List Char
  isCharacterData : Bool
  default? : Option (List Char)
deriving DecidableEq, Repr

/-- What has been declared. A document is open when it refers to declarations outside itself, which are not
read; from a reference to outside declarations on, later ones are passed over, unless it stands alone. -/
structure Dtd where
  standalone : Bool
  isOpen : Bool
  passesOver : Bool
  entities : List (List Char × Entity)
  rules : List AttributeRule
deriving Repr

namespace Dtd

def empty (standalone : Bool) : Dtd :=
  ⟨standalone, false, false, [], []⟩

/-- Whether every entity has to be declared here. -/
def isComplete (dtd : Dtd) : Bool :=
  dtd.standalone || !dtd.isOpen

/-- The first declaration of an entity counts, and none of a predefined one. -/
def declareEntity (dtd : Dtd) (name : List Char) (entity : Entity) : Dtd :=
  if dtd.passesOver || (predefined? name).isSome || (dtd.entities.lookup name).isSome then dtd
  else { dtd with entities := dtd.entities ++ [(name, entity)] }

/-- The first rule for an attribute of an element. -/
def rule? (dtd : Dtd) (element key : List Char) : Option AttributeRule :=
  dtd.rules.find? fun rule => rule.element = element && rule.key = key

/-- The first rule for an attribute counts; a later one can give it no default. -/
def declareAttribute (dtd : Dtd) (rule : AttributeRule) : Dtd :=
  if dtd.passesOver || (rule.default?.isSome && (dtd.rule? rule.element rule.key).isSome) then
    dtd
  else { dtd with rules := dtd.rules ++ [rule] }

def isCharacterData (dtd : Dtd) (element key : List Char) : Bool :=
  match dtd.rule? element key with
  | some rule => rule.isCharacterData
  | none => true

end Dtd

/-- The value of an attribute while it is read: what it holds so far, last character first, whether a
carriage return came last, and the reference that is open. -/
structure ValueScan where
  out : List Char
  afterReturn : Bool
  reference? : Option (List Char)

/-- How much replaced text has been read, which is bounded for the whole document. -/
abbrev Spent := Nat

namespace ValueScan

/-- The start of a value. -/
def empty : ValueScan := ⟨[], false, none⟩

def add (scan : ValueScan) (c : Char) : ValueScan :=
  ⟨c :: scan.out, false, none⟩

/-- The text of an entity replaces a reference to it. An undeclared entity leaves nothing in an open
document. The list names the entities whose texts are being read, which may not refer to themselves. -/
def replace (expand : List Char → Spent → Option (ValueScan × Spent)) (dtd : Dtd)
    (scan : ValueScan) (spent : Spent) (name : List Char) : Option (ValueScan × Spent) :=
  match predefined? name with
  | some c => some (scan.add c, spent)
  | none =>
    match dtd.entities.lookup name with
    | none => if dtd.isComplete then none else some (⟨scan.out, false, none⟩, spent)
    | some (.internal _) =>
      (expand name spent).map fun (inner, spent) => (⟨inner.out ++ scan.out, false, none⟩, spent)
    | some _ => none

/-- Reads one character. White space becomes a space, a line end one space. -/
def step (alphabet : Alphabet) (expand : List Char → Spent → Option (ValueScan × Spent)) (dtd : Dtd) :
    ValueScan × Spent → Char → Option (ValueScan × Spent)
  | (scan, spent), c =>
    match scan.reference? with
    | some soFar =>
      if c = ';' then
        match Reference.ofChars? alphabet soFar.reverse with
        | some (.char referred) => some (scan.add referred, spent)
        | some (.entity name) => replace expand dtd scan spent name
        | none => none
      else some ({ scan with reference? := some (c :: soFar) }, spent)
    | none =>
      if c = '<' then none
      else if c = '&' then some (⟨scan.out, false, some []⟩, spent)
      else if c = '\n' && scan.afterReturn then some (⟨scan.out, false, none⟩, spent)
      else if c = '\r' then some (⟨' ' :: scan.out, true, none⟩, spent)
      else some (scan.add (if isSpace c then ' ' else c), spent)

end ValueScan

/-- The value that a text has in an attribute. The depth bounds how entities nest, and `limit` how much
replaced text is read. -/
def scanValue (limit : Nat) (dtd : Dtd) :
    Nat → Alphabet → List (List Char) → List Char → Spent → Option (ValueScan × Spent)
  | 0, _, _, _, _ => none
  | depth + 1, alphabet, opened, text, spent =>
    let expand (name : List Char) (spent : Spent) : Option (ValueScan × Spent) :=
      match dtd.entities.lookup name with
      | some (.internal inner) =>
        let spent := spent + inner.length
        if opened.contains name || limit < spent then none
        else scanValue limit dtd depth .standard (name :: opened) inner spent
      | _ => none
    match text.foldlM (ValueScan.step alphabet expand dtd) (ValueScan.empty, spent) with
    | some (scan, spent) => if scan.reference?.isSome then none else some (scan, spent)
    | none => none

/-- Spaces at the ends dropped, and runs of them made one. -/
def collapseSpaces : List Char → List Char
  | [] => []
  | ' ' :: rest =>
    match collapseSpaces rest with
    | [] => []
    | c :: others => if c = ' ' then ' ' :: others else ' ' :: c :: others
  | c :: rest => c :: collapseSpaces rest

/-- The value of an attribute. What is no character data has its spaces collapsed. -/
def attributeValue? (limit : Nat) (dtd : Dtd) (alphabet : Alphabet) (isCharacterData : Bool)
    (raw : List Char) (spent : Spent) : Option (List Char × Spent) :=
  match scanValue limit dtd (dtd.entities.length + 2) alphabet [] raw spent with
  | some (scan, spent) =>
    let text := scan.out.reverse
    some (if isCharacterData then text else (collapseSpaces text).dropWhile (· = ' '), spent)
  | none => none

/-- The text of an entity as its declaration gives it: references to characters replaced, those to entities
kept, line ends made one character. A percent sign has no place in it. -/
def entityText? (alphabet : Alphabet) : List Char → Option (List Char) → Option (List Char)
  | [], none => some []
  | [], some _ => none
  | ';' :: rest, some soFar =>
    match Reference.ofChars? alphabet soFar.reverse with
    | some (.char c) => (entityText? alphabet rest none).map (c :: ·)
    | some (.entity name) =>
      (entityText? alphabet rest none).map fun after => '&' :: (name ++ ';' :: after)
    | none => none
  | c :: rest, some soFar => entityText? alphabet rest (some (c :: soFar))
  | '&' :: rest, none => entityText? alphabet rest (some [])
  | '%' :: _, none => none
  | '\r' :: '\n' :: rest, none => (entityText? alphabet rest none).map ('\n' :: ·)
  | '\r' :: rest, none => (entityText? alphabet rest none).map ('\n' :: ·)
  | c :: rest, none => (entityText? alphabet rest none).map (c :: ·)

end Gatekeeper.Markup
