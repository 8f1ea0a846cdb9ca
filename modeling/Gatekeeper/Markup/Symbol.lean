import Gatekeeper.Markup.Letters

/-! The symbols of which declarations are made: words, quoted texts and signs. They are read character by
character; a word or a closing parenthesis ends where the next character says so. -/

namespace Gatekeeper.Markup

/-- What kind of word it is: a name, a name with a colon in it, or something that begins as no name. -/
inductive WordKind where
  | plain
  | qualified
  | token
deriving DecidableEq, Repr

/-- A sign for how often something occurs. -/
inductive Quantity where
  | optional
  | anyNumber
  | atLeastOne
deriving DecidableEq, Repr

inductive Symbol where
  | word (kind : WordKind) (text : List Char) (quantity : Option Quantity)
  | quotedText (text : List Char)
  | pound (word : List Char)
  | percent
  | openParen
  | closeParen (quantity : Option Quantity)
  | openBracket
  | bar
  | comma
  | close
deriving DecidableEq, Repr

/-- What is being read inside a declaration. -/
inductive SymbolScan where
  | between
  | word (soFar : List Char)
  | quotedText (mark : Char) (soFar : List Char)
  | afterQuote
  | pound (soFar : List Char)
  | percent
  | afterParen
deriving DecidableEq, Repr

def Quantity.ofChar? (c : Char) : Option Quantity :=
  if c = '?' then some optional
  else if c = '*' then some anyNumber
  else if c = '+' then some atLeastOne
  else none

/-- The kind of a word of name characters and colons. -/
def WordKind.of (alphabet : Alphabet) (text : List Char) : WordKind :=
  match text.span (· ≠ ':') with
  | (whole, []) => if isName alphabet whole then plain else token
  | (space, _ :: rest) =>
    if isName alphabet space && !rest.isEmpty && rest.all (isNameChar alphabet) then qualified
    else token

/-- Symbols that a character completes, and what is read from then on. -/
abbrev SymbolStep := Option (List Symbol × SymbolScan)

namespace SymbolScan

/-- Reads a character with which a symbol begins. -/
def begin (alphabet : Alphabet) (c : Char) : SymbolStep :=
  if isSpace c then some ([], between)
  else if c = '"' || c = '\'' then some ([], quotedText c [])
  else if c = '%' then some ([], percent)
  else if c = ',' then some ([.comma], between)
  else if c = '|' then some ([.bar], between)
  else if c = '(' then some ([.openParen], between)
  else if c = ')' then some ([], afterParen)
  else if c = '[' then some ([.openBracket], between)
  else if c = '>' then some ([.close], between)
  else if c = '#' then some ([], pound [])
  else if c = ':' || isNameChar alphabet c then some ([], word [c])
  else none

/-- A finished symbol, and then the character that ended it. -/
def finish (alphabet : Alphabet) (symbol : Symbol) (c : Char) : SymbolStep :=
  (begin alphabet c).map fun (symbols, scan) => (symbol :: symbols, scan)

def wordStep (alphabet : Alphabet) (soFar : List Char) (c : Char) : SymbolStep :=
  if c = ':' || isNameChar alphabet c then some ([], word (c :: soFar))
  else
    let text := soFar.reverse
    let kind := WordKind.of alphabet text
    match Quantity.ofChar? c with
    | some quantity =>
      if kind = .token then none else some ([.word kind text (some quantity)], between)
    | none =>
      if isSpace c || c = '>' || c = ')' || c = ',' || c = '|' || c = '[' || c = '%' then
        finish alphabet (.word kind text none) c
      else none

def step (alphabet : Alphabet) (scan : SymbolScan) (c : Char) : SymbolStep :=
  match scan with
  | between => begin alphabet c
  | word soFar => wordStep alphabet soFar c
  | quotedText mark soFar =>
    if c = mark then some ([.quotedText soFar.reverse], afterQuote)
    else some ([], quotedText mark (c :: soFar))
  | afterQuote =>
    if isSpace c || c = '>' || c = '%' || c = '[' then begin alphabet c else none
  | pound soFar =>
    if soFar.isEmpty then if isNameStart alphabet c then some ([], pound [c]) else none
    else if isNameChar alphabet c then some ([], pound (c :: soFar))
    else if isSpace c || c = ')' || c = '>' || c = '%' || c = '|' then
      finish alphabet (.pound soFar.reverse) c
    else none
  | percent => if isSpace c then some ([.percent], between) else none
  | afterParen =>
    match Quantity.ofChar? c with
    | some quantity => some ([.closeParen (some quantity)], between)
    | none =>
      if isSpace c || c = '>' || c = ',' || c = '|' || c = ')' then
        finish alphabet (.closeParen none) c
      else none

end SymbolScan

end Gatekeeper.Markup
