import Gatekeeper.Markup.Letters

/-! Start tags as they are written: a name, attributes with their texts between quotation marks, and
whether the element ends with its start tag. -/

namespace Gatekeeper.Markup

/-- A start tag before any of its texts has been evaluated. -/
structure RawTag where
  name : List Char
  attributes : List (List Char × List Char)
  isClosed : Bool
deriving DecidableEq, Repr

/-- What is being read inside a start tag; attributes are kept last one first. -/
inductive TagScan where
  | name (soFar : List Char)
  | gap (tag : RawTag)
  | key (tag : RawTag) (soFar : List Char)
  | sign (tag : RawTag) (key : List Char)
  | mark (tag : RawTag) (key : List Char)
  | text (tag : RawTag) (key : List Char) (quote : Char) (soFar : List Char)
  | afterText (tag : RawTag)
  | slash (tag : RawTag)
deriving DecidableEq, Repr

/-- A tag that goes on, or one that is complete. -/
inductive TagStep where
  | more (scan : TagScan)
  | complete (tag : RawTag)
deriving DecidableEq, Repr

namespace TagScan

def addAttribute (tag : RawTag) (key text : List Char) : RawTag :=
  { tag with attributes := (key, text) :: tag.attributes }

/-- The complete tag with its attributes in the order in which they are written. -/
def finish (tag : RawTag) (isClosed : Bool) : TagStep :=
  .complete ⟨tag.name, tag.attributes.reverse, isClosed⟩

/-- White space, a slash or the end of the tag. -/
def boundary? (tag : RawTag) (c : Char) : Option TagStep :=
  if isSpace c then some (.more (gap tag))
  else if c = '/' then some (.more (slash tag))
  else if c = '>' then some (finish tag false)
  else none

/-- Whether a character may stand in a name with colons; where they may stand is checked at its end. -/
def isNamePart (alphabet : Alphabet) (c : Char) : Bool :=
  c = ':' || isNameChar alphabet c

/-- A name that has ended, if it is well-formed. -/
def ended? (alphabet : Alphabet) (soFar : List Char) : Option (List Char) :=
  if isQualifiedName alphabet soFar.reverse then some soFar.reverse else none

def step (alphabet : Alphabet) (scan : TagScan) (c : Char) : Option TagStep :=
  match scan with
  | name soFar =>
    if isNamePart alphabet c then some (.more (name (c :: soFar)))
    else (ended? alphabet soFar).bind fun ended => boundary? ⟨ended, [], false⟩ c
  | gap tag =>
    if isNameStart alphabet c then some (.more (key tag [c])) else boundary? tag c
  | key tag soFar =>
    if isNamePart alphabet c then some (.more (key tag (c :: soFar)))
    else
      (ended? alphabet soFar).bind fun ended =>
        if c = '=' then some (.more (mark tag ended))
        else if isSpace c then some (.more (sign tag ended))
        else none
  | sign tag ended =>
    if c = '=' then some (.more (mark tag ended))
    else if isSpace c then some (.more (sign tag ended))
    else none
  | mark tag ended =>
    if c = '"' || c = '\'' then some (.more (text tag ended c []))
    else if isSpace c then some (.more (mark tag ended))
    else none
  | text tag ended quote soFar =>
    if c = quote then some (.more (afterText (addAttribute tag ended soFar.reverse)))
    else some (.more (text tag ended quote (c :: soFar)))
  | afterText tag => boundary? tag c
  | slash tag => if c = '>' then some (finish tag true) else none

end TagScan

end Gatekeeper.Markup
