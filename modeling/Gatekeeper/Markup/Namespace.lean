import Gatekeeper.Markup.Letters

/-! Namespaces: which names the prefixes of a document stand for, and which attributes of one element
would be the same. -/

namespace Gatekeeper.Markup

abbrev Attribute := List Char × List Char

/-- The prefixes in force with the namespaces they stand for, the innermost first; the empty prefix is the
default one. -/
abbrev Bindings := List (List Char × List Char)

def xmlSpace : List Char := "http://www.w3.org/XML/1998/namespace".toList

def xmlnsSpace : List Char := "http://www.w3.org/2000/xmlns/".toList

/-- The bindings outside of all elements. -/
def Bindings.initial : Bindings := [("xml".toList, xmlSpace)]

/-- The prefix that an attribute binds, if that is what it does. -/
def boundPrefix? (name : List Char) : Option (List Char) :=
  if name = "xmlns".toList then some []
  else if name.take 6 = "xmlns:".toList then some (name.drop 6)
  else none

/-- Whether a prefix may stand for a namespace: the two prefixes of the standard and their namespaces
belong together, a prefix is never set free, and a closing brace has no place in a namespace. -/
def mayBind (space name : List Char) : Bool :=
  space ≠ "xmlns".toList && (space = "xml".toList) == (name = xmlSpace) && name ≠ xmlnsSpace &&
    (space.isEmpty || !name.isEmpty) && !name.contains '}'

/-- The bindings inside an element, if all of its own are allowed. -/
def Bindings.extend? (outer : Bindings) (attributes : List Attribute) : Option Bindings :=
  attributes.foldlM
    (fun bindings (key, value) =>
      match boundPrefix? key with
      | none => some bindings
      | some space => if mayBind space value then some ((space, value) :: bindings) else none)
    outer

/-- The namespace and the rest of a name with a prefix; `none` when the prefix stands for nothing. -/
def Bindings.resolve? (bindings : Bindings) (name : List Char) : Option (List Char × List Char) :=
  let (space, rest) := splitName name
  (bindings.lookup space).map fun bound => (bound, rest)

def hasPrefix (name : List Char) : Bool :=
  name.contains ':'

def allDistinct [BEq α] : List α → Bool
  | [] => true
  | x :: rest => !rest.contains x && allDistinct rest

/-- Whether all prefixes of an element are bound and no two of its attributes have the same full name. -/
def Bindings.admits (bindings : Bindings) (element : List Char) (attributes : List Attribute) : Bool :=
  let prefixed := (attributes.map Prod.fst).filter fun key =>
    hasPrefix key && (boundPrefix? key).isNone
  (!hasPrefix element || (bindings.resolve? element).isSome) &&
    match prefixed.mapM bindings.resolve? with
    | some names => allDistinct names
    | none => false

end Gatekeeper.Markup
