/-! The syntax of short shell scripts: simple commands with quoting, parameters and redirections, one after
the other or joined by their success. The characters are read one by one into tokens, and the tokens put
together to commands. -/

namespace Gatekeeper.Shell

/-- A piece of a word: text as it is, or a parameter, which is split at blanks unless it is quoted. -/
inductive Fragment where
  | text (text : List Char)
  | parameter (name : List Char) (isQuoted : Bool)
deriving DecidableEq, Repr

inductive Token where
  | word (fragments : List Fragment)
  | separator
  | andThen
  | orElse
  | output (channel : Nat) (appends : Bool)
  | duplicate (channel : Nat)
deriving DecidableEq, Repr

/-- What is being read: plain text, quoted text, an escaped character, a parameter, the beginning of an
operator of two characters, or a comment. -/
inductive Mode where
  | plain
  | single
  | double
  | escape (inDouble : Bool)
  | dollar (inDouble : Bool)
  | name (soFar : List Char) (inDouble : Bool)
  | ampersand
  | bar
  | greater (channel : Nat)
  | comment
deriving DecidableEq, Repr

/-- The tokens so far, last one first, with the word that is being read, if there is one. -/
structure Lexer where
  mode : Mode
  word : Option (List Fragment)
  tokens : List Token
deriving Repr

namespace Lexer

/-- Nothing read yet. -/
def start : Lexer := ⟨.plain, none, []⟩

/-- The word goes on with a fragment. -/
def add (lexer : Lexer) (fragment : Fragment) : Lexer :=
  { lexer with word := some (fragment :: lexer.word.getD []) }

def emit (lexer : Lexer) (token : Token) : Lexer :=
  { lexer with tokens := token :: lexer.tokens }

def endWord (lexer : Lexer) : Lexer :=
  match lexer.word with
  | none => lexer
  | some fragments => { lexer.emit (.word fragments.reverse) with word := none }

/-- Goes on in another mode. -/
def turn (lexer : Lexer) (mode : Mode) : Lexer :=
  { lexer with mode := mode }

/-- The mode of text outside or inside of double quotes. -/
def textMode (inDouble : Bool) : Mode :=
  if inDouble then .double else .plain

/-- The channel that a digit right before a redirection names; any other word ends. -/
def channel (lexer : Lexer) : Lexer × Nat :=
  match lexer.word with
  | some [.text ['1']] => ({ lexer with word := none }, 1)
  | some [.text ['2']] => ({ lexer with word := none }, 2)
  | _ => (lexer.endWord, 1)

def plainStep (lexer : Lexer) (c : Char) : Lexer :=
  if c = ' ' || c = '\t' then lexer.endWord
  else if c = ';' || c = '\n' then lexer.endWord.emit .separator
  else if c = '\'' then (lexer.add (.text [])).turn .single
  else if c = '"' then (lexer.add (.text [])).turn .double
  else if c = '\\' then lexer.turn (.escape false)
  else if c = '$' then lexer.turn (.dollar false)
  else if c = '&' then lexer.endWord.turn .ampersand
  else if c = '|' then lexer.endWord.turn .bar
  else if c = '>' then
    let (lexer, channel) := lexer.channel
    lexer.turn (.greater channel)
  else if c = '#' && lexer.word.isNone then lexer.turn .comment
  else lexer.add (.text [c])

/-- Reads a character after a dollar sign. -/
def dollarStep (lexer : Lexer) (inDouble : Bool) (c : Char) : Option Lexer :=
  if c.isDigit || c = '$' || c = '?' || c = '#' || c = '@' || c = '*' then
    some ((lexer.add (.parameter [c] inDouble)).turn (textMode inDouble))
  else if c.isAlpha || c = '_' then some (lexer.turn (.name [c] inDouble))
  else none

/-- Reads one character; `none` when it has no place here. -/
def step (lexer : Lexer) (c : Char) : Option Lexer :=
  match lexer.mode with
  | .plain => some (lexer.plainStep c)
  | .single => some (if c = '\'' then lexer.turn .plain else lexer.add (.text [c]))
  | .double =>
    some
      (if c = '"' then lexer.turn .plain
      else if c = '\\' then lexer.turn (.escape true)
      else if c = '$' then lexer.turn (.dollar true)
      else lexer.add (.text [c]))
  | .escape inDouble =>
    let kept := inDouble && !("\"\\$".toList.contains c)
    some ((lexer.add (.text (if kept then ['\\', c] else [c]))).turn (textMode inDouble))
  | .dollar inDouble => lexer.dollarStep inDouble c
  | .name soFar inDouble =>
    if c.isAlphanum || c = '_' then some (lexer.turn (.name (c :: soFar) inDouble))
    else
      let ended := (lexer.add (.parameter soFar.reverse inDouble)).turn (textMode inDouble)
      some
        (if inDouble then
          if c = '"' then ended.turn .plain
          else if c = '\\' then ended.turn (.escape true)
          else if c = '$' then ended.turn (.dollar true)
          else ended.add (.text [c])
        else ended.plainStep c)
  | .ampersand => if c = '&' then some ((lexer.emit .andThen).turn .plain) else none
  | .bar => if c = '|' then some ((lexer.emit .orElse).turn .plain) else none
  | .greater channel =>
    if c = '>' then some ((lexer.emit (.output channel true)).turn .plain)
    else if c = '&' then some ((lexer.emit (.duplicate channel)).turn .plain)
    else some (((lexer.emit (.output channel false)).turn .plain).plainStep c)
  | .comment => some (if c = '\n' then (lexer.emit .separator).turn .plain else lexer)

/-- The end of the script. -/
def finish (lexer : Lexer) : Option (List Token) :=
  match lexer.mode with
  | .plain => some lexer.endWord.tokens.reverse
  | .comment => some lexer.endWord.tokens.reverse
  | .name soFar false =>
    some (lexer.add (.parameter soFar.reverse false)).endWord.tokens.reverse
  | _ => none

end Lexer

def tokens? (script : List Char) : Option (List Token) :=
  (script.foldlM Lexer.step Lexer.start).bind Lexer.finish

/-- Where the output of a channel goes. -/
structure Redirection where
  channel : Nat
  appends : Bool
  target : List Fragment
deriving DecidableEq, Repr

/-- On what a command depends: on nothing, on the success of what came before, or on its failure. -/
inductive Condition where
  | always
  | afterSuccess
  | afterFailure
deriving DecidableEq, Repr

structure Simple where
  condition : Condition
  words : List (List Fragment)
  redirections : List Redirection
deriving DecidableEq, Repr

def Simple.addWord (command : Simple) (word : List Fragment) : Simple :=
  { command with words := command.words ++ [word] }

def Simple.redirect (command : Simple) (redirection : Redirection) : Simple :=
  { command with redirections := command.redirections ++ [redirection] }

/-- Whether nothing belongs to a command. -/
def Simple.isEmpty (command : Simple) : Bool :=
  command.words.isEmpty && command.redirections.isEmpty

/-- The commands of some tokens; the first argument is the command being put together. -/
def commands? (current : Simple) : List Token → Option (List Simple)
  | [] =>
    if current.isEmpty then if current.condition = .always then some [] else none
    else some [current]
  | .word word :: rest => commands? (current.addWord word) rest
  | .output channel appends :: .word target :: rest =>
    commands? (current.redirect ⟨channel, appends, target⟩) rest
  | .duplicate _ :: .word _ :: rest => commands? current rest
  | .separator :: rest =>
    if current.isEmpty then
      if current.condition = .always then commands? current rest else none
    else (commands? ⟨.always, [], []⟩ rest).map (current :: ·)
  | .andThen :: rest =>
    if current.isEmpty then none
    else (commands? ⟨.afterSuccess, [], []⟩ rest).map (current :: ·)
  | .orElse :: rest =>
    if current.isEmpty then none
    else (commands? ⟨.afterFailure, [], []⟩ rest).map (current :: ·)
  | _ => none

def script? (script : List Char) : Option (List Simple) :=
  (tokens? script).bind (commands? ⟨.always, [], []⟩)

end Gatekeeper.Shell
