import Mathlib
import Gatekeeper.Markup.Document

/-! Trees of elements and the documents in which they are written. Names and texts carry the proof that they may occur
in a document, and the attributes of an element that they are told apart, so that every tree can be written. What could
be taken for markup, quotation marks, tabs and line ends are written as references, and all that is written may occur in
a document. -/

namespace Gatekeeper.Markup

/-- A name without a colon. -/
structure Name where
  chars : List Char
  wellFormed : isName .standard chars = true

/-- A text that may occur in a document. -/
structure Words where
  chars : List Char
  allowed : ∀ c ∈ chars, isAllowed c = true

/-- The attributes of an element, which all have different names and bind no prefixes. -/
structure Attributes where
  entries : List (Name × Words)
  distinct : (entries.map fun entry => entry.1.chars).Nodup
  noBinding : ∀ entry ∈ entries, ¬"xmlns".toList <+: entry.1.chars

/-- What stands inside an element: texts and elements, one after the other. -/
inductive Forest where
  | nil
  | words (text : Words) (rest : Forest)
  | element (name : Name) (attributes : Attributes) (inner rest : Forest)

/-- An element with all that it holds. -/
structure Element where
  name : Name
  attributes : Attributes
  inner : Forest

/-- The attributes as a reader gets them. -/
def Attributes.values (attributes : Attributes) : List Attribute :=
  attributes.entries.map fun entry => (entry.1.chars, entry.2.chars)

/-- The start tags of some elements, each one before those inside it. -/
def Forest.tags : Forest → List Tag
  | nil => []
  | words _ rest => rest.tags
  | element name attributes inner rest => ⟨name.chars, attributes.values⟩ :: (inner.tags ++ rest.tags)

/-- The start tags of an element and of all in it, in the order in which they are written. -/
def Element.tags (element : Element) : List Tag :=
  ⟨element.name.chars, element.attributes.values⟩ :: element.inner.tags

/-- Whether there is neither a text nor an element. -/
def Forest.isNil : Forest → Bool
  | nil => true
  | _ => false

/-- How a document is written: whether it begins with a declaration, whether an element that holds nothing ends with its
start tag, and which quotation marks stand around the values of attributes. -/
structure Style where
  isDeclared : Bool
  closesEmpty : Bool
  quote : Char
  isQuote : quote = '"' ∨ quote = '\''

/-- A character as it is written in texts and values. -/
def escape (c : Char) : List Char :=
  if c = '<' then ['&', 'l', 't', ';']
  else if c = '>' then ['&', 'g', 't', ';']
  else if c = '&' then ['&', 'a', 'm', 'p', ';']
  else if c = '"' then ['&', 'q', 'u', 'o', 't', ';']
  else if c = '\'' then ['&', 'a', 'p', 'o', 's', ';']
  else if c = '\t' then ['&', '#', '9', ';']
  else if c = '\n' then ['&', '#', '1', '0', ';']
  else if c = '\r' then ['&', '#', '1', '3', ';']
  else [c]

namespace Style

def attributes (style : Style) (attributes : Attributes) : List Char :=
  attributes.entries.flatMap fun entry =>
    ' ' :: (entry.1.chars ++ '=' :: style.quote :: (entry.2.chars.flatMap escape ++ [style.quote]))

/-- An element as it is written around its content. -/
def element (style : Style) (name : Name) (attributes : Attributes) (isEmpty : Bool) (inner : List Char) : List Char :=
  '<' :: (name.chars ++ (style.attributes attributes ++
    if style.closesEmpty && isEmpty then ['/', '>'] else '>' :: (inner ++ '<' :: '/' :: (name.chars ++ ['>']))))

def forest (style : Style) : Forest → List Char
  | .nil => []
  | .words text rest => text.chars.flatMap escape ++ style.forest rest
  | .element name attributes inner rest =>
    style.element name attributes inner.isNil (style.forest inner) ++ style.forest rest

/-- What a declaration says, between its opening and its closing mark. -/
def declared : List Char :=
  " version=\"1.0\" encoding=\"UTF-8\"".toList

def root (style : Style) (element : Element) : List Char :=
  style.element element.name element.attributes element.inner.isNil (style.forest element.inner)

def document (style : Style) (element : Element) : List Char :=
  if style.isDeclared then "<?xml".toList ++ declared ++ '?' :: '>' :: '\n' :: style.root element
  else style.root element

end Style

/-- What stands between an ampersand and a semicolon to mean a character. -/
def RefersTo (body : List Char) (c : Char) : Prop :=
  Reference.ofChars? .standard body = some (.char c) ∨
    ∃ name, Reference.ofChars? .standard body = some (.entity name) ∧ predefined? name = some c

/-- Whether a character is written as it is. -/
structure IsPlain (c : Char) : Prop where
  ne_angle : c ≠ '<'
  ne_closing : c ≠ '>'
  ne_ampersand : c ≠ '&'
  ne_quote : c ≠ '"'
  ne_apostrophe : c ≠ '\''
  ne_tab : c ≠ '\t'
  ne_newline : c ≠ '\n'
  ne_return : c ≠ '\r'

/-- Whether a character of a reference may occur in a document and ends neither the reference nor a value. -/
def isInner (c : Char) : Bool :=
  isAllowed c && c != ';' && c != '"' && c != '\''

theorem of_isInner {c : Char} (h : isInner c = true) :
    isAllowed c = true ∧ c ≠ ';' ∧ c ≠ '"' ∧ c ≠ '\'' := by
  simpa [isInner, and_assoc] using h

/-- A character is written as it is, or as a reference to it. -/
theorem escape_cases (c : Char) :
    (IsPlain c ∧ escape c = [c]) ∨
      ∃ body, escape c = '&' :: (body ++ [';']) ∧ RefersTo body c ∧ ∀ d ∈ body, isInner d = true := by
  rw [escape]
  split_ifs with hangle hclosing hampersand hquote hapostrophe htab hnewline hreturn
  · exact .inr ⟨['l', 't'], rfl, .inr ⟨['l', 't'], by decide +kernel, hangle ▸ by decide +kernel⟩,
      List.all_eq_true.mp (by decide +kernel)⟩
  · exact .inr ⟨['g', 't'], rfl, .inr ⟨['g', 't'], by decide +kernel, hclosing ▸ by decide +kernel⟩,
      List.all_eq_true.mp (by decide +kernel)⟩
  · exact .inr ⟨['a', 'm', 'p'], rfl, .inr ⟨['a', 'm', 'p'], by decide +kernel, hampersand ▸ by decide +kernel⟩,
      List.all_eq_true.mp (by decide +kernel)⟩
  · exact .inr ⟨['q', 'u', 'o', 't'], rfl, .inr ⟨['q', 'u', 'o', 't'], by decide +kernel, hquote ▸ by decide +kernel⟩,
      List.all_eq_true.mp (by decide +kernel)⟩
  · exact .inr ⟨['a', 'p', 'o', 's'], rfl,
      .inr ⟨['a', 'p', 'o', 's'], by decide +kernel, hapostrophe ▸ by decide +kernel⟩,
      List.all_eq_true.mp (by decide +kernel)⟩
  · exact .inr ⟨['#', '9'], rfl, .inl (htab ▸ by decide +kernel), List.all_eq_true.mp (by decide +kernel)⟩
  · exact .inr ⟨['#', '1', '0'], rfl, .inl (hnewline ▸ by decide +kernel), List.all_eq_true.mp (by decide +kernel)⟩
  · exact .inr ⟨['#', '1', '3'], rfl, .inl (hreturn ▸ by decide +kernel), List.all_eq_true.mp (by decide +kernel)⟩
  · exact .inl ⟨⟨hangle, hclosing, hampersand, hquote, hapostrophe, htab, hnewline, hreturn⟩, rfl⟩

theorem of_mem_escape {c d : Char} (h : d ∈ escape c) :
    d ≠ '"' ∧ d ≠ '\'' ∧ (d = c ∨ isAllowed d = true) := by
  rcases escape_cases c with ⟨hplain, hescape⟩ | ⟨body, hescape, -, hbody⟩
  · rw [hescape, List.mem_singleton] at h
    subst h
    exact ⟨hplain.ne_quote, hplain.ne_apostrophe, .inl rfl⟩
  · rw [hescape, List.mem_cons, List.mem_append, List.mem_singleton] at h
    rcases h with rfl | h | rfl
    · exact ⟨by decide, by decide, .inr (by decide)⟩
    · obtain ⟨hallowed, -, hquote, hapostrophe⟩ := of_isInner (hbody d h)
      exact ⟨hquote, hapostrophe, .inr hallowed⟩
    · exact ⟨by decide, by decide, .inr (by decide)⟩

/-- What is written for a character holds no quotation marks. -/
theorem ne_quote_of_mem_escape {c d : Char} (style : Style) (hd : d ∈ escape c) : d ≠ style.quote := by
  obtain ⟨hdouble, hsingle, -⟩ := of_mem_escape hd
  rcases style.isQuote with hquote | hquote <;> rw [hquote]
  · exact hdouble
  · exact hsingle

theorem isAllowed_of_mem_escape {c d : Char} (hc : isAllowed c = true) (hd : d ∈ escape c) : isAllowed d = true := by
  rcases (of_mem_escape hd).2.2 with rfl | hallowed
  · exact hc
  · exact hallowed

/-- A character of a name is no sign that means something in markup. -/
theorem ne_of_isNameChar {c d : Char} (h : isNameChar .standard c = true) (hd : isNameChar .standard d = false) :
    c ≠ d := by
  rintro rfl
  rw [h] at hd
  cases hd

theorem isNameChar_of_isNameStart {c : Char} (h : isNameStart .standard c = true) : isNameChar .standard c = true := by
  rw [isNameChar, h, Bool.true_or, Bool.true_or, Bool.true_or, Bool.true_or]

/-- A character of a name may occur in a document. -/
theorem isAllowed_of_isNameChar {c : Char} (h : isNameChar .standard c = true) : isAllowed c = true := by
  have hcontrol : ∀ n < 0x20, isNameChar .standard (Char.ofNat n) = false := by decide
  have hlow : ¬c.toNat < 0x20 := by
    intro hlt
    have hnone := hcontrol c.toNat hlt
    rw [Char.ofNat_toNat, h] at hnone
    cases hnone
  have hnone (n : Nat) (hn : isNameChar .standard (Char.ofNat n) = false) : c.toNat ≠ n := by
    intro heq
    rw [← heq, Char.ofNat_toNat, h] at hn
    cases hn
  have hfirst := hnone 0xFFFE (by decide)
  have hsecond := hnone 0xFFFF (by decide)
  simp only [isAllowed, if_neg hlow, Bool.and_eq_true, decide_eq_true_eq]
  exact ⟨hfirst, hsecond⟩

namespace Name

/-- A name begins with a character with which names begin, and goes on with such of names. -/
theorem exists_eq_cons (name : Name) : ∃ first rest, name.chars = first :: rest ∧
    isNameStart .standard first = true ∧ ∀ c ∈ rest, isNameChar .standard c = true := by
  have hname := name.wellFormed
  cases hchars : name.chars with
  | nil =>
      rw [hchars] at hname
      cases hname
  | cons first rest =>
      rw [hchars, isName, Bool.and_eq_true, List.all_eq_true] at hname
      exact ⟨first, rest, rfl, hname⟩

theorem isNameChar_of_mem (name : Name) {c : Char} (hc : c ∈ name.chars) : isNameChar .standard c = true := by
  obtain ⟨first, rest, hchars, hfirst, hrest⟩ := name.exists_eq_cons
  rw [hchars] at hc
  rcases List.mem_cons.mp hc with rfl | hc
  · exact isNameChar_of_isNameStart hfirst
  · exact hrest c hc

/-- A sign that means something in markup does not occur in a name. -/
theorem ne_of_mem (name : Name) {c d : Char} (hc : c ∈ name.chars) (hd : isNameChar .standard d = false) : c ≠ d :=
  ne_of_isNameChar (name.isNameChar_of_mem hc) hd

theorem hasPrefix_eq_false (name : Name) : hasPrefix name.chars = false := by
  rw [hasPrefix, ← Bool.not_eq_true, List.contains_iff_mem]
  intro hcolon
  exact name.ne_of_mem hcolon (by decide) rfl

end Name

theorem Words.isAllowed_of_mem_flatMap (text : Words) : ∀ c ∈ text.chars.flatMap escape, isAllowed c = true := by
  intro c hc
  obtain ⟨d, hd, hc⟩ := List.mem_flatMap.mp hc
  exact isAllowed_of_mem_escape (text.allowed d hd) hc

theorem Name.isAllowed_of_mem (name : Name) : ∀ c ∈ name.chars, isAllowed c = true :=
  fun _ hc => isAllowed_of_isNameChar (name.isNameChar_of_mem hc)

namespace Style

variable (style : Style)

theorem isAllowed_quote : isAllowed style.quote = true := by
  rcases style.isQuote with hquote | hquote <;> rw [hquote] <;> decide

theorem isAllowed_of_mem_attributes (attributes : Attributes) :
    ∀ c ∈ style.attributes attributes, isAllowed c = true := by
  intro c hc
  obtain ⟨entry, -, hc⟩ := List.mem_flatMap.mp hc
  simp only [List.mem_cons, List.mem_append, List.not_mem_nil, or_false] at hc
  rcases hc with rfl | hname | rfl | rfl | htext | rfl
  · decide
  · exact entry.1.isAllowed_of_mem c hname
  · decide
  · exact style.isAllowed_quote
  · exact entry.2.isAllowed_of_mem_flatMap c htext
  · exact style.isAllowed_quote

theorem isAllowed_of_mem_element (name : Name) (attributes : Attributes) (isEmpty : Bool) {inner : List Char}
    (hinner : ∀ c ∈ inner, isAllowed c = true) :
    ∀ c ∈ style.element name attributes isEmpty inner, isAllowed c = true := by
  have hangle : isAllowed '<' = true := by decide
  have hclosing : isAllowed '>' = true := by decide
  have hslash : isAllowed '/' = true := by decide
  intro c hc
  rw [element] at hc
  simp only [List.mem_cons, List.mem_append] at hc
  rcases hc with rfl | hname | hattributes | hrest
  · exact hangle
  · exact name.isAllowed_of_mem c hname
  · exact style.isAllowed_of_mem_attributes attributes c hattributes
  · split at hrest
    · simp only [List.mem_cons, List.not_mem_nil, or_false] at hrest
      rcases hrest with rfl | rfl
      · exact hslash
      · exact hclosing
    · simp only [List.mem_cons, List.mem_append, List.not_mem_nil, or_false] at hrest
      rcases hrest with rfl | hcontent | rfl | rfl | hname | rfl
      · exact hclosing
      · exact hinner c hcontent
      · exact hangle
      · exact hslash
      · exact name.isAllowed_of_mem c hname
      · exact hclosing

theorem isAllowed_of_mem_forest (forest : Forest) : ∀ c ∈ style.forest forest, isAllowed c = true := by
  induction forest with
  | nil => exact fun c hc => absurd hc List.not_mem_nil
  | words text rest ih =>
      intro c hc
      rcases List.mem_append.mp hc with hc | hc
      · exact text.isAllowed_of_mem_flatMap c hc
      · exact ih c hc
  | element name attributes inner rest ihInner ihRest =>
      intro c hc
      rcases List.mem_append.mp hc with hc | hc
      · exact style.isAllowed_of_mem_element name attributes inner.isNil ihInner c hc
      · exact ihRest c hc

theorem isAllowed_of_mem_root (element : Element) : ∀ c ∈ style.root element, isAllowed c = true :=
  style.isAllowed_of_mem_element element.name element.attributes element.inner.isNil
    (style.isAllowed_of_mem_forest element.inner)

end Style

end Gatekeeper.Markup
