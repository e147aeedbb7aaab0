/-
**The arguments of the program.**

The program takes a template and texts, switches that are on or off, and settings that have a value.
A switch or a setting has a long name, and most have a short one.

Main definitions:

* `CommandLine.Switch`, `CommandLine.Setting`, `CommandLine.Named`, `CommandLine.Argument` — the
  arguments;
* `CommandLine.Argument.label` — an argument as it is shown;
* `CommandLine.usageLine` — how the program is called.
-/

set_option autoImplicit false

namespace ParamTemplate.CommandLine

/-- What is on or off. -/
inductive Switch where
  | check
  | explain
  | json
  | sequential
  | noColor
  | help
  | version
deriving DecidableEq, Repr

/-- What has a value. -/
inductive Setting where
  | input
  | param
deriving DecidableEq, Repr

/-- What is given by name. -/
inductive Named where
  | switch (switch : Switch)
  | setting (setting : Setting)
deriving DecidableEq, Repr

/-- An argument. -/
inductive Argument where
  | template
  | texts
  | named (named : Named)
deriving DecidableEq, Repr

/-! ### Names -/

/-- The long name of a switch, without the dashes. -/
def Switch.long : Switch → List Char
  | check => "check".toList
  | explain => "explain".toList
  | json => "json".toList
  | sequential => "sequential".toList
  | noColor => "no-color".toList
  | help => "help".toList
  | version => "version".toList

/-- The short name of a switch. -/
def Switch.short? : Switch → Option Char
  | check => some 'c'
  | explain => some 'e'
  | sequential => some 's'
  | help => some 'h'
  | version => some 'V'
  | json | noColor => none

/-- The long name of a setting, without the dashes. -/
def Setting.long : Setting → List Char
  | input => "input".toList
  | param => "param".toList

/-- The short name of a setting. -/
def Setting.short : Setting → Char
  | input => 'i'
  | param => 'p'

/-- The name of the value of a setting. -/
def Setting.valueName : Setting → List Char
  | input => "INPUT".toList
  | param => "PARAM".toList

namespace Named

/-- All that is given by name. -/
def all : List Named :=
  [.setting .input, .setting .param, .switch .check, .switch .explain, .switch .json,
    .switch .sequential, .switch .noColor, .switch .help, .switch .version]

/-- The long name, without the dashes. -/
def long : Named → List Char
  | switch s => s.long
  | setting s => s.long

/-- The short name. -/
def short? : Named → Option Char
  | switch s => s.short?
  | setting s => some s.short

/-- How it is shown. -/
def label : Named → List Char
  | switch s => '-' :: '-' :: s.long
  | setting s => '-' :: '-' :: s.long ++ ' ' :: '<' :: s.valueName ++ ['>']

/-- What has a long name. -/
def ofLong? (name : List Char) : Option Named := all.find? fun named => named.long = name

/-- What has a short name. -/
def ofShort? (name : Char) : Option Named := all.find? fun named => named.short? = some name

end Named

/-! ### Usage -/

/-- An argument as it is shown. -/
def Argument.label : Argument → List Char
  | template => "<TEMPLATE>".toList
  | texts => "<TEXTS>...".toList
  | named n => n.label

/-- Whether an argument is given by name. -/
def Argument.isNamed : Argument → Bool
  | template | texts => false
  | named _ => true

/-- **How the program is called.**  If it is known what was used, only that is shown. -/
def usageLine (used : List Argument) : List Char :=
  let texts := if used.contains .texts then Argument.label .texts else "[TEXTS]...".toList
  let options :=
    if used.isEmpty then ["[OPTIONS]".toList]
    else (used.filter Argument.isNamed).eraseDups.map Argument.label
  let words := options ++ [Argument.label .template, texts]
  "Usage: parmatch".toList ++ words.flatMap (' ' :: ·)

end ParamTemplate.CommandLine
