import DatasetProposals.Text.Terminal
/-! Why a command line is refused, and the message that says so: the cause, possible values,
hints, usage and the help line, styled for a terminal. -/
namespace DatasetProposals
namespace Cli

open Terminal

/-- A hint under a refusal, besides the alike names. -/
inductive Tip where
  | passAsValue (word : String)
  | inSubcommand (call : String)
  | removeEscape (subcommand : String)
  deriving Repr, Inhabited

def Tip.text : Tip → String
  | .passAsValue w =>
    "to pass '" ++ Style.invalid.paint w ++ "' as a value, use '" ++ Style.valid.paint ("-- " ++ w) ++ "'"
  | .inSubcommand call => "'" ++ Style.valid.paint call ++ "' exists"
  | .removeEscape sub =>
    "subcommand '" ++ Style.valid.paint sub ++ "' exists; to use it, remove the '" ++
      Style.invalid.paint "--" ++ "' before it"

/-- Why a command line is refused. -/
inductive UsageError where
  | unknownArgument (arg : String) (similar : Option String) (tips : List Tip) (usage : String)
  | unrecognizedSubcommand (name : String) (similar : List String) (usage : String)
  | unknownHelpTopic (name : String) (usage : String)
  | invalidValue (option value : String) (choices : List String) (similar : Option String)
  | valueRejected (option value reason : String)
  | missingValue (option : String) (choices : List String)
  | repeated (option : String) (usage : String)
  | unexpectedValue (value option : String) (usage : String)
  | missingRequired (args : List String) (usage : String)
  | missingSubcommand (program : String) (subcommands : List String) (usage : String)
  deriving Repr, Inhabited

namespace UsageError

def valuesLine (name : String) (values : List String) : String :=
  if values.isEmpty then ""
  else "\n  [" ++ name ++ ": " ++ ", ".intercalate (values.map Style.valid.paint) ++ "]"

def cause : UsageError → String
  | .unknownArgument arg _ _ _ => "unexpected argument '" ++ Style.invalid.paint arg ++ "' found"
  | .unrecognizedSubcommand name _ _ | .unknownHelpTopic name _ =>
    "unrecognized subcommand '" ++ Style.invalid.paint name ++ "'"
  | .invalidValue option value choices _ =>
    (if value.isEmpty then
      "a value is required for '" ++ Style.literal.paint option ++ "' but none was supplied"
     else
      "invalid value '" ++ Style.invalid.paint value ++ "' for '" ++ Style.literal.paint option ++ "'") ++
      valuesLine "possible values" choices
  | .valueRejected option value reason =>
    "invalid value '" ++ Style.invalid.paint value ++ "' for '" ++ Style.literal.paint option ++
      "': " ++ reason
  | .missingValue option choices =>
    "a value is required for '" ++ Style.literal.paint option ++ "' but none was supplied" ++
      valuesLine "possible values" choices
  | .repeated option _ =>
    "the argument '" ++ Style.invalid.paint option ++ "' cannot be used multiple times"
  | .unexpectedValue value option _ =>
    "unexpected value '" ++ Style.invalid.paint value ++ "' for '" ++ Style.literal.paint option ++
      "' found; no more were expected"
  | .missingRequired args _ =>
    "the following required arguments were not provided:" ++
      String.join (args.map ("\n  " ++ Style.valid.paint ·))
  | .missingSubcommand program subs _ =>
    "'" ++ Style.invalid.paint program ++ "' requires a subcommand but one was not provided" ++
      valuesLine "subcommands" subs

def quotedList (names : List String) : String :=
  ", ".intercalate (names.map (fun n => "'" ++ Style.valid.paint n ++ "'"))

def tips : UsageError → List String
  | .unknownArgument _ similar more _ =>
    (similar.toList.map (fun s => "a similar argument exists: '" ++ Style.valid.paint s ++ "'")) ++
      more.map Tip.text
  | .unrecognizedSubcommand _ [] _ => []
  | .unrecognizedSubcommand _ [s] _ => ["a similar subcommand exists: '" ++ Style.valid.paint s ++ "'"]
  | .unrecognizedSubcommand _ similar _ => ["some similar subcommands exist: " ++ quotedList similar]
  | .invalidValue _ _ _ (some s) => ["a similar value exists: '" ++ Style.valid.paint s ++ "'"]
  | _ => []

def usage? : UsageError → Option String
  | .unknownArgument _ _ _ u | .unrecognizedSubcommand _ _ u | .unknownHelpTopic _ u | .repeated _ u
  | .unexpectedValue _ _ u | .missingRequired _ u | .missingSubcommand _ _ u => some u
  | _ => none

def pointsToHelp : UsageError → Bool
  | .unknownHelpTopic _ _ => false
  | _ => true

def message (e : UsageError) : String :=
  let hints := e.tips
  Style.error.paint "error:" ++ " " ++ e.cause ++
    (if hints.isEmpty then ""
     else "\n" ++ String.join (hints.map ("\n  " ++ Style.valid.paint "tip:" ++ " " ++ ·))) ++
    (match e.usage? with
     | some u => "\n\n" ++ Style.header.paint "Usage:" ++ " " ++ u
     | none => "") ++
    (if e.pointsToHelp then "\n\nFor more information, try '" ++ Style.literal.paint "--help" ++ "'.\n"
     else "\n")

end UsageError

end Cli
end DatasetProposals
