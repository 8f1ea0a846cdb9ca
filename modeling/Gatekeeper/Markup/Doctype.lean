import Gatekeeper.Markup.Dtd
import Gatekeeper.Markup.Symbol

/-! The grammar of the document type and of the declarations in it, as stages between symbols. Each symbol
leads from one stage to the next or has no place there; complete declarations enter the table. -/

namespace Gatekeeper.Markup

/-- What an identifier of an outside resource belongs to. -/
inductive Owner where
  | doctype
  | entity (name? : Option (List Char))
  | resource
deriving DecidableEq, Repr

/-- The separator of a group of content, once it has been seen. -/
inductive Separator where
  | undecided
  | sequence
  | choice
deriving DecidableEq, Repr

/-- What may come next in a document type. A parameter entity has no name here, for it is never used. -/
inductive Stage where
  | doctypeName
  | doctypeNext
  | publicId (owner : Owner)
  | systemId (owner : Owner)
  | doctypeBody
  | doctypeEnd
  | doctypeClosed
  | subset
  | entityName
  | parameterName
  | entityValue (name? : Option (List Char))
  | entityNext (name? : Option (List Char))
  | entityFormat (name? : Option (List Char))
  | resourceName
  | resourceId
  | resourceSystem
  | listElement
  | attributeName (element : List Char)
  | attributeType (element key : List Char)
  | choiceValue (element key : List Char)
  | choiceNext (element key : List Char)
  | formatOpen (element key : List Char)
  | formatValue (element key : List Char)
  | formatNext (element key : List Char)
  | attributeDefault (element key : List Char) (isCharacterData : Bool)
  | fixedValue (element key : List Char) (isCharacterData : Bool)
  | elementName
  | elementContent
  | groupFirst
  | groupItem (groups : List Separator)
  | groupNext (groups : List Separator)
  | mixedNext
  | mixedName
  | mixedMore
  | declarationEnd
deriving DecidableEq, Repr

/-- The stage at which a declaration of a kind begins. -/
def Stage.ofKeyword? (keyword : List Char) : Option Stage :=
  if keyword = "ENTITY".toList then some entityName
  else if keyword = "ATTLIST".toList then some listElement
  else if keyword = "ELEMENT".toList then some elementName
  else if keyword = "NOTATION".toList then some resourceName
  else none

def isPublicIdChar (c : Char) : Bool :=
  c.isAlphanum || c = ' ' || c = '\n' || c = '\r' || "-'()+,./:=?;!*#@$_%".toList.contains c

/-- The types of attributes that are written as a word. -/
def typeWords : List (List Char) :=
  ["CDATA", "ID", "IDREF", "IDREFS", "ENTITY", "ENTITIES", "NMTOKEN", "NMTOKENS"].map String.toList

/-- A declaration table with the amount of replaced text read so far. -/
abbrev Declared := Dtd × Spent

/-- The document refers to declarations outside itself. -/
def Dtd.refersOutside (dtd : Dtd) : Dtd :=
  { dtd with isOpen := true }

/-- The document uses a parameter entity; what follows is passed over unless it stands alone. -/
def Dtd.usesParameter (dtd : Dtd) : Dtd :=
  { dtd with isOpen := true, passesOver := !dtd.standalone }

/-- An entity gets its declaration; a parameter entity leaves no trace. -/
def Dtd.declareNamed (dtd : Dtd) (name? : Option (List Char)) (entity : Entity) : Dtd :=
  match name? with
  | some name => dtd.declareEntity name entity
  | none => dtd

/-- An entity gets its text, which has to be well-formed unless it is passed over. -/
def Dtd.declareText? (alphabet : Alphabet) (dtd : Dtd) (name? : Option (List Char))
    (raw : List Char) : Option Dtd :=
  if dtd.passesOver then some dtd
  else (entityText? alphabet raw none).map fun text => dtd.declareNamed name? (.internal text)

/-- An attribute gets a rule with a default, which has to be well-formed unless it is passed over. -/
def Dtd.declareDefault? (limit : Nat) (alphabet : Alphabet) (declared : Declared)
    (element key : List Char) (isCharacterData : Bool) (raw : List Char) : Option Declared :=
  let (dtd, spent) := declared
  if dtd.passesOver then some declared
  else
    (attributeValue? limit dtd alphabet isCharacterData raw spent).map fun (value, spent) =>
      (dtd.declareAttribute ⟨element, key, isCharacterData, some value⟩, spent)

/-- The stage after an identifier of an outside resource. -/
def Owner.after : Owner → Stage
  | doctype => .doctypeBody
  | entity name? => .entityNext name?
  | resource => .declarationEnd

/-- The keyword of a kind of identifier and the stages that may follow it. -/
def Owner.begin? (owner : Owner) (keyword : List Char) : Option Stage :=
  if keyword = "SYSTEM".toList then some (.systemId owner)
  else if keyword = "PUBLIC".toList then some (.publicId owner)
  else none

def afterGroup : List Separator → Stage
  | [] => .declarationEnd
  | groups => .groupNext groups

/-- The next stage inside the content of an element, where nothing is declared. -/
def Stage.nextContent? : Stage → Symbol → Option Stage
  | elementName, .word .plain _ none => some elementContent
  | elementName, .word .qualified _ none => some elementContent
  | elementContent, .word .plain text none =>
    if text = "EMPTY".toList || text = "ANY".toList then some declarationEnd else none
  | elementContent, .openParen => some groupFirst
  | groupFirst, .pound word => if word = "PCDATA".toList then some mixedNext else none
  | groupFirst, .openParen => some (groupItem [.undecided, .undecided])
  | groupFirst, .word .plain _ _ => some (groupNext [.undecided])
  | groupFirst, .word .qualified _ _ => some (groupNext [.undecided])
  | groupItem groups, .openParen => some (groupItem (.undecided :: groups))
  | groupItem groups, .word .plain _ _ => some (groupNext groups)
  | groupItem groups, .word .qualified _ _ => some (groupNext groups)
  | groupNext (_ :: outer), .closeParen _ => some (afterGroup outer)
  | groupNext (separator :: outer), .comma =>
    if separator = .choice then none else some (groupItem (.sequence :: outer))
  | groupNext (separator :: outer), .bar =>
    if separator = .sequence then none else some (groupItem (.choice :: outer))
  | mixedNext, .closeParen none => some declarationEnd
  | mixedNext, .closeParen (some .anyNumber) => some declarationEnd
  | mixedNext, .bar => some mixedName
  | mixedName, .word .plain _ none => some mixedMore
  | mixedName, .word .qualified _ none => some mixedMore
  | mixedMore, .closeParen (some .anyNumber) => some declarationEnd
  | mixedMore, .bar => some mixedName
  | _, _ => none

/-- The next stage in a list of attributes up to the type of one. -/
def Stage.nextAttribute? : Stage → Symbol → Option Stage
  | listElement, .word .plain text none => some (attributeName text)
  | listElement, .word .qualified text none => some (attributeName text)
  | attributeName _, .close => some subset
  | attributeName element, .word .plain text none => some (attributeType element text)
  | attributeName element, .word .qualified text none => some (attributeType element text)
  | attributeType element key, .word .plain text none =>
    if typeWords.contains text then
      some (attributeDefault element key (text = "CDATA".toList))
    else if text = "NOTATION".toList then some (formatOpen element key)
    else none
  | attributeType element key, .openParen => some (choiceValue element key)
  | choiceValue element key, .word _ _ none => some (choiceNext element key)
  | choiceNext element key, .bar => some (choiceValue element key)
  | choiceNext element key, .closeParen none => some (attributeDefault element key false)
  | formatOpen element key, .openParen => some (formatValue element key)
  | formatValue element key, .word .plain _ none => some (formatNext element key)
  | formatNext element key, .bar => some (formatValue element key)
  | formatNext element key, .closeParen none => some (attributeDefault element key false)
  | _, _ => none

/-- The next stage in the other declarations, as far as nothing is declared. -/
def Stage.nextPlain? : Stage → Symbol → Option Stage
  | doctypeName, .word .plain _ none => some doctypeNext
  | doctypeName, .word .qualified _ none => some doctypeNext
  | doctypeNext, .openBracket => some subset
  | doctypeNext, .close => some doctypeClosed
  | doctypeNext, .word .plain text none => Owner.doctype.begin? text
  | publicId owner, .quotedText text =>
    if !text.all isPublicIdChar then none
    else if owner = .resource then some resourceSystem
    else some (systemId owner)
  | doctypeBody, .openBracket => some subset
  | doctypeBody, .close => some doctypeClosed
  | doctypeEnd, .close => some doctypeClosed
  | entityName, .percent => some parameterName
  | entityName, .word .plain text none => some (entityValue (some text))
  | parameterName, .word .plain _ none => some (entityValue none)
  | entityValue name?, .word .plain text none => (Owner.entity name?).begin? text
  | entityNext (some name), .word .plain text none =>
    if text = "NDATA".toList then some (entityFormat (some name)) else none
  | resourceName, .word .plain _ none => some resourceId
  | resourceId, .word .plain text none => Owner.resource.begin? text
  | resourceSystem, .quotedText _ => some declarationEnd
  | resourceSystem, .close => some subset
  | declarationEnd, .close => some subset
  | _, _ => none

/-- The next stage and what has been declared by then. -/
def Stage.next? (limit : Nat) (alphabet : Alphabet) (declared : Declared) (stage : Stage)
    (symbol : Symbol) : Option (Stage × Declared) :=
  let (dtd, spent) := declared
  match stage, symbol with
  | systemId owner, .quotedText _ =>
    some (owner.after, (if owner = .doctype then dtd.refersOutside else dtd, spent))
  | entityValue name?, .quotedText raw =>
    (dtd.declareText? alphabet name? raw).map fun dtd => (declarationEnd, dtd, spent)
  | entityNext name?, .close => some (subset, dtd.declareNamed name? .external, spent)
  | entityFormat name?, .word .plain _ none =>
    some (declarationEnd, dtd.declareNamed name? .unparsed, spent)
  | attributeDefault element key isCharacterData, .pound word =>
    if word = "IMPLIED".toList || word = "REQUIRED".toList then
      let rule : AttributeRule := ⟨element, key, isCharacterData, none⟩
      some (attributeName element, dtd.declareAttribute rule, spent)
    else if word = "FIXED".toList then some (fixedValue element key isCharacterData, declared)
    else none
  | attributeDefault element key isCharacterData, .quotedText raw =>
    (Dtd.declareDefault? limit alphabet declared element key isCharacterData raw).map
      fun declared => (attributeName element, declared)
  | fixedValue element key isCharacterData, .quotedText raw =>
    (Dtd.declareDefault? limit alphabet declared element key isCharacterData raw).map
      fun declared => (attributeName element, declared)
  | _, _ =>
    ((stage.nextPlain? symbol).or ((stage.nextAttribute? symbol).or
      (stage.nextContent? symbol))).map fun stage => (stage, declared)

end Gatekeeper.Markup
