import Gatekeeper.Number.Binary64Text

/-! The environment: texts by name. A setting that is not given takes its value from here, and a number here
has to be readable, but nothing else about it is checked. -/

namespace Gatekeeper

open Number

/-- Texts by name. -/
abbrev Environment := List (String × String)

inductive EnvironmentError where
  | integer (cause : WholeError)
  | number (text : String)
deriving DecidableEq, Repr

def EnvironmentError.message : EnvironmentError → String
  | integer cause => cause.message
  | number text => "could not convert string to float: " ++ Text.quoted text

namespace Environment

/-- The text of a name, or another one. -/
def getOr (env : Environment) (name fallback : String) : String :=
  (env.lookup name).getD fallback

def integer (env : Environment) (name fallback : String) : Except EnvironmentError Int :=
  (wholeOfText (env.getOr name fallback)).mapError .integer

def number (env : Environment) (name fallback : String) : Except EnvironmentError Binary64 :=
  let text := env.getOr name fallback
  match Binary64.ofText? text with
  | some x => .ok x
  | none => .error (.number text)

def lower (env : Environment) (name fallback : String) : String :=
  String.ofList ((env.getOr name fallback).toList.map Char.toLower)

end Environment

end Gatekeeper
