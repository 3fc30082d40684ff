import DatasetProposals.Cli.Command
import DatasetProposals.Cli.Environment
import DatasetProposals.Json.Decode
/-! Help texts and usage lines, computed from the option records, in a short and a long form. -/
namespace DatasetProposals
namespace Cli

def helpWidth : Nat := 100

def spaces (n : Nat) : String := String.ofList (List.replicate n ' ')

def indentLines (indent : String) (s : String) : String :=
  String.intercalate ("\n" ++ indent) (s.splitOn "\n")

def shownValue (v : String) : String :=
  if v.toList.any Text.isBlank then Json.debugQuote v else v

namespace Arg

def listsChoices (a : Arg) (useLong : Bool) : Bool := useLong && a.choices.any (·.help.isSome)

def notes (a : Arg) (env : Environment) (useLong : Bool) : List String :=
  let envNote := a.env.map (fun name => "[env: " ++ name ++ "=" ++ (env.get? name).getD "" ++ "]")
  let defaultNote := if a.takesValue then a.default.map (fun d => "[default: " ++ shownValue d ++ "]")
    else none
  let choiceNote :=
    if a.listsChoices useLong || a.choices.isEmpty then none
    else some ("[possible values: " ++ ", ".intercalate (a.choices.map (shownValue ·.name)) ++ "]")
  [envNote, defaultNote, choiceNote].filterMap (fun n => n)

def notesText (a : Arg) (env : Environment) (useLong : Bool) : String :=
  (if useLong then "\n" else " ").intercalate (a.notes env useLong)

def choiceList (a : Arg) : String :=
  let width := (a.choices.map (·.name.length)).foldl Nat.max 0
  "Possible values:" ++ String.join (a.choices.map (fun c =>
    "\n- " ++ c.name ++ match c.help with
      | some h => ": " ++ spaces (width - c.name.length) ++ h
      | none => ""))

def about (a : Arg) (useLong : Bool) : String :=
  (if useLong then a.longHelp <|> a.help else a.help <|> a.longHelp).getD ""

def body (a : Arg) (env : Environment) (useLong : Bool) : String :=
  let parts := [a.about useLong, if a.listsChoices useLong then a.choiceList else "",
    a.notesText env useLong]
  (if useLong then "\n\n" else " ").intercalate (parts.filter (!·.isEmpty))

def nameColumn (a : Arg) : String :=
  (match a.short with
   | some c => "-" ++ c.toString ++ ", "
   | none => "    ") ++ a.spec

def sortKey (a : Arg) : Nat × String :=
  (a.order, match a.short with
    | some c => c.toLower.toString ++ (if c.isLower then "0" else "1")
    | none => a.long)

end Arg

def overflows (longest : Nat) (helpColumns : Nat) : Bool :=
  let taken := longest + 4
  helpWidth ≥ taken && taken > 40 && helpColumns > helpWidth - taken

def entries (items : List (String × String)) (longest : Nat) (nextLine : Bool)
    (blankBetween : Bool) : String :=
  let line (item : String × String) : String :=
    if nextLine then
      "  " ++ item.1 ++ "\n" ++ spaces 10 ++ indentLines (spaces 10) item.2
    else
      "  " ++ item.1 ++ spaces (longest + 2 - item.1.length) ++
        indentLines (spaces (longest + 4)) item.2
  (if blankBetween then "\n\n" else "\n").intercalate (items.map line)

def sortOptions (opts : List Arg) : List Arg :=
  opts.mergeSort (fun a b =>
    let (p, k) := a.sortKey
    let (q, l) := b.sortKey
    p < q || (p == q && decide (k ≤ l)))

def optionsSection (opts : List Arg) (env : Environment) (useLong : Bool) : String :=
  let sorted := sortOptions opts
  let longest := (sorted.map (·.nameColumn.length)).foldl Nat.max 2
  let nextLine := useLong || sorted.any (fun a =>
    overflows longest ((a.help.getD "").length + (a.notesText env useLong).length))
  "Options:\n" ++ entries (sorted.map (fun a => (a.nameColumn, a.body env useLong))) longest
    nextLine useLong

def argumentsSection (ps : List Positional) (useLong : Bool) : String :=
  let longest := (ps.map (·.spec.length)).foldl Nat.max 2
  let nextLine := useLong || ps.any (fun p => overflows longest (p.help.getD "").length)
  "Arguments:\n" ++ entries (ps.map (fun p => (p.spec, p.help.getD ""))) longest nextLine useLong

def commandsSection (subs : List Command) : String :=
  let longest := (subs.map (·.name.length)).foldl Nat.max 2
  "Commands:\n" ++ entries (subs.map (fun c => (c.name, c.about))) longest false false

namespace Command

def hasOptions (c : Command) : Bool :=
  c.options.any (fun a => a.takesValue)

def helpUsage (c : Command) (hasSubcommands : Bool) : String :=
  c.usageName ++ (if c.hasOptions then " [OPTIONS]" else "") ++
    String.join (c.positionals.map (" " ++ ·.spec)) ++
    (if hasSubcommands then " <COMMAND>" else "")

def usageWith (c : Command) (used : List String) (hasSubcommands : Bool) : String :=
  let opts := (used.eraseDups.filterMap c.findId?).map (·.spec)
  let pos := c.positionals.filter (fun p => p.required || used.contains p.id)
  c.usageName ++ String.join (opts.map (" " ++ ·)) ++ String.join (pos.map (" <" ++ ·.valueName ++ ">")) ++
    (if hasSubcommands then " <COMMAND>" else "")

def helpText (c : Command) (subs : List Command) (env : Environment) (long : Bool) : String :=
  let useLong := long && c.longHelpExists
  let sections :=
    (if subs.isEmpty then [] else [commandsSection subs]) ++
    (if c.positionals.isEmpty then [] else [argumentsSection c.positionals useLong]) ++
    (if c.options.isEmpty then [] else [optionsSection c.options env useLong])
  let text := c.about ++ "\n\nUsage: " ++ c.helpUsage (!subs.isEmpty) ++ "\n\n" ++
    "\n\n".intercalate sections
  String.ofList (text.toList.reverse.dropWhile Text.isBlank).reverse ++ "\n"

end Command

end Cli
end DatasetProposals
