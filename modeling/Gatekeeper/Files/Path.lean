/-! Paths as text names them: a start and a list of parts. Empty parts and parts of one dot are dropped
when a path is read, parts of two dots stay, and exactly two leading slashes differ from one. -/

namespace Gatekeeper

/-- Where a path starts: where the program runs, at the root, or at the root written with two slashes. -/
inductive Anchor where
  | relative
  | root
  | doubleRoot
deriving DecidableEq, Repr

/-- A path: its start and the parts below it. -/
structure Path where
  anchor : Anchor
  parts : List String
deriving DecidableEq, Repr

namespace Path

/-- The texts between slashes, as lists of characters. -/
def splitSlashes : List Char → List (List Char)
  | [] => [[]]
  | '/' :: rest => [] :: splitSlashes rest
  | c :: rest =>
    match splitSlashes rest with
    | [] => [[c]]
    | first :: others => (c :: first) :: others

/-- The start that a text shows by its leading slashes. -/
def anchorOf : List Char → Anchor
  | '/' :: '/' :: '/' :: _ => .root
  | '/' :: '/' :: _ => .doubleRoot
  | '/' :: _ => .root
  | _ => .relative

/-- Whether a text between slashes is kept as a part. -/
def isPart (cs : List Char) : Bool :=
  !cs.isEmpty && cs ≠ ['.']

/-- Reads a path; every text names one. -/
def ofText (s : String) : Path :=
  ⟨anchorOf s.toList, ((splitSlashes s.toList).filter isPart).map String.ofList⟩

def anchorText : Anchor → String
  | .relative => ""
  | .root => "/"
  | .doubleRoot => "//"

/-- The text of a path; the path of no parts that starts nowhere is written as a dot. -/
def text (p : Path) : String :=
  let body := anchorText p.anchor ++ "/".intercalate p.parts
  if body.isEmpty then "." else body

def isAbsolute (p : Path) : Bool :=
  p.anchor ≠ .relative

/-- The second path as seen from the first one; an absolute path is the same from everywhere. -/
def join (base p : Path) : Path :=
  if p.isAbsolute then p else { base with parts := base.parts ++ p.parts }

def child (p : Path) (part : String) : Path :=
  { p with parts := p.parts ++ [part] }

def parent (p : Path) : Path :=
  { p with parts := p.parts.dropLast }

/-- The last part, or the empty text. -/
def name (p : Path) : String :=
  p.parts.getLast?.getD ""

/-- What follows the last dot of a name, read backwards from its end; `none` without a dot. -/
def afterLastDot : List Char → Option (List Char × List Char)
  | [] => none
  | '.' :: before => some ([], before)
  | c :: before => (afterLastDot before).map fun (after, stem) => (c :: after, stem)

/-- The suffix of the last part with its dot. A dot at either end of the part begins no suffix. -/
def suffix (p : Path) : String :=
  match afterLastDot p.name.toList.reverse with
  | some (after, stem) =>
    if after.isEmpty || stem.isEmpty then "" else String.ofList ('.' :: after.reverse)
  | none => ""

theorem splitSlashes_ne_nil (cs : List Char) : splitSlashes cs ≠ [] := by
  fun_induction splitSlashes cs <;> simp_all

theorem join_of_isAbsolute {p : Path} (h : p.isAbsolute = true) (base : Path) : base.join p = p := by
  rw [join, if_pos h]

theorem isAbsolute_join (base p : Path) :
    (base.join p).isAbsolute = (base.isAbsolute || p.isAbsolute) := by
  rw [join]
  split
  · simp_all
  · simp_all [isAbsolute]

theorem parent_child (p : Path) (part : String) : (p.child part).parent = p := by
  simp [parent, child]

theorem name_child (p : Path) (part : String) : (p.child part).name = part := by
  simp [name, child]

end Path

end Gatekeeper
