/-
**Wrong command lines.**

A command line is wrong if an argument is not known, if a value is missing or too many, if something
is given twice or together with what excludes it, or if there is no template.  The message tells how
the program is called; if it is known which arguments were used, it tells it with them.

Main definitions:

* `CommandLine.UsageError` — what is wrong;
* `CommandLine.UsageError.render` — the message;
* `CommandLine.help`, `CommandLine.versionLine` — what is printed on request.
-/

import ParamTemplate.CommandLine.Argument

set_option autoImplicit false

namespace ParamTemplate.CommandLine

/-- What is wrong with a command line. -/
inductive UsageError where
  /-- There is no template. -/
  | templateMissing (used : List Argument)
  /-- Something is given twice. -/
  | repeated (named : Named)
  /-- Two arguments exclude each other. -/
  | conflict (named other : Named) (used : List Argument)
  /-- A long name is not known; a similar one may be. -/
  | unknownLong (name : List Char) (similar? : Option Named) (used : List Argument)
  /-- A short name is not known. -/
  | unknownShort (name : Char)
  /-- A setting has no value. -/
  | valueMissing (setting : Setting)
  /-- A switch has a value. -/
  | valueUnneeded (value : List Char) (switch : Switch) (used : List Argument)
deriving DecidableEq, Repr

namespace UsageError

/-- Words between apostrophes. -/
def quoted (words : List Char) : List Char := '\'' :: words ++ ['\'']

/-- The tip for an argument that is not known. -/
def trailingTip (argument : List Char) : List Char :=
  "\n\n  tip: to pass ".toList ++ quoted argument ++ " as a value, use ".toList ++
    quoted ("-- ".toList ++ argument)

/-- What is wrong, with tips. -/
def statement : UsageError → List Char
  | templateMissing _ =>
      "the following required arguments were not provided:\n  ".toList ++ Argument.label .template
  | repeated named =>
      "the argument ".toList ++ quoted named.label ++ " cannot be used multiple times".toList
  | conflict named other _ =>
      "the argument ".toList ++ quoted named.label ++ " cannot be used with ".toList ++
        quoted other.label
  | unknownLong name similar? _ =>
      let argument := '-' :: '-' :: name
      "unexpected argument ".toList ++ quoted argument ++ " found".toList ++
        match similar? with
        | some similar =>
            "\n\n  tip: a similar argument exists: ".toList ++ quoted ('-' :: '-' :: similar.long)
        | none => trailingTip argument
  | unknownShort name =>
      "unexpected argument ".toList ++ quoted ['-', name] ++ " found".toList ++
        trailingTip ['-', name]
  | valueMissing setting =>
      "a value is required for ".toList ++ quoted (Named.setting setting).label ++
        " but none was supplied".toList
  | valueUnneeded value switch _ =>
      "unexpected value ".toList ++ quoted value ++ " for ".toList ++
        quoted (Named.switch switch).label ++ " found; no more were expected".toList

/-- How the program is called, as far as it belongs to the error. -/
def usage? : UsageError → Option (List Char)
  | templateMissing used | conflict _ _ used | unknownLong _ _ used | valueUnneeded _ _ used =>
      some (usageLine used)
  | repeated _ | unknownShort _ => some (usageLine [])
  | valueMissing _ => none

/-- **The message.** -/
def render (error : UsageError) : List Char :=
  "error: ".toList ++ error.statement ++
    ((error.usage?.map ('\n' :: '\n' :: ·)).getD []) ++
    "\n\nFor more information, try '--help'.\n".toList

end UsageError

/-! ### Requests -/

/-- What is printed for a request for the version. -/
def versionLine : List Char := "parmatch 0.1.0\n".toList

/-- A word between two pairs of braces. -/
def braced (word : String) : String := "\x7b\x7b" ++ word ++ "\x7d\x7d"

/-- The lines that are printed for a request for help. -/
def helpLines : List String :=
  ["Match text against " ++ braced "name,regex" ++ " parameter templates and extract the values",
    "",
    String.ofList (usageLine []),
    "",
    "Arguments:",
    "  <TEMPLATE>  Template, e.g. 'ban " ++ braced "user,\\w+" ++ " for " ++
      braced "days,\\d+" ++ "d'",
    "  [TEXTS]...  Texts to match (lines are read from --input or stdin when omitted)",
    "",
    "Options:",
    "  -i, --input <INPUT>  Read input lines from a file",
    "  -p, --param <PARAM>  Print only this parameter's value",
    "  -c, --check          Only test whether the template occurs anywhere in each text",
    "  -e, --explain        Show the compiled segments and expression, then exit",
    "      --json           Print one JSON object per input",
    "  -s, --sequential     Evaluate inputs on a single thread",
    "      --no-color       Disable colored output",
    "  -h, --help           Print help",
    "  -V, --version        Print version"]

/-- What is printed for a request for help. -/
def help : List Char := helpLines.flatMap fun line => line.toList ++ ['\n']

end ParamTemplate.CommandLine
