/-
**Where texts come from.**

Texts are given as arguments; if there are none, they are the lines of a file, and if no file is
given either, the lines of the standard input.  A file is read as a whole and then cut into lines;
the standard input is cut into lines first, and each line is read for itself.

Main definitions:

* `CommandLine.fileTexts?`, `CommandLine.streamTexts?` — the lines of bytes that are text;
* `CommandLine.Surroundings` — the files, the standard input, and how a run is carried out;
* `CommandLine.ReadError`, `CommandLine.ReadError.message` — why there are no texts;
* `CommandLine.readTexts` — the texts.
-/

import ParamTemplate.CommandLine.Files
import ParamTemplate.Template.Evaluation
import ParamTemplate.Text.Lines

set_option autoImplicit false

namespace ParamTemplate.CommandLine

/-- The lines of a file; none if its bytes are no text. -/
def fileTexts? (data : List Nat) : Option (List (List Char)) :=
  (Utf8.decode? data).map Text.lines

/-- The lines of a stream; none if one of them is no text. -/
def streamTexts? (data : List Nat) : Option (List (List Char)) :=
  (Text.linesBy 0x0A 0x0D data).mapM Utf8.decode?

/-- What surrounds a run of the program. -/
structure Surroundings where
  /-- The bytes that a path leads to. -/
  fileAt : List Char → Except FileFault (List Nat)
  /-- The bytes of the standard input. -/
  stdin : List Nat
  /-- Whether the output is shown in colour unless the command line forbids it. -/
  color : Bool := false
  /-- How texts are shared out among workers unless the command line forbids it. -/
  division : Template.Division := .whole

/-- Why there are no texts. -/
inductive ReadError where
  /-- A file cannot be read. -/
  | file (path : List Char) (fault : FileFault)
  /-- The bytes of a file are no text. -/
  | fileNotText (path : List Char)
  /-- The bytes of the standard input are no text. -/
  | stdinNotText
deriving DecidableEq, Repr

/-- The wording of an error. -/
def ReadError.message : ReadError → List Char
  | file path fault => fileMessage path ++ fault.message
  | fileNotText path => fileMessage path ++ notText
  | stdinNotText => "failed to read stdin: ".toList ++ notText
where
  /-- The beginning of the wording for a file. -/
  fileMessage (path : List Char) : List Char :=
    "failed to read input file '".toList ++ path ++ "': ".toList
  /-- The wording for bytes that are no text. -/
  notText : List Char := "stream did not contain valid UTF-8".toList

/-- The texts of a file. -/
def textsAt (surroundings : Surroundings) (path : List Char) :
    Except ReadError (List (List Char)) :=
  match surroundings.fileAt path with
  | .error fault => .error (.file path fault)
  | .ok data =>
      match fileTexts? data with
      | some texts => .ok texts
      | none => .error (.fileNotText path)

/-- **The texts.** -/
def readTexts (surroundings : Surroundings) (arguments : List (List Char))
    (path? : Option (List Char)) : Except ReadError (List (List Char)) :=
  if arguments.isEmpty then
    match path? with
    | some path => textsAt surroundings path
    | none =>
        match streamTexts? surroundings.stdin with
        | some texts => .ok texts
        | none => .error .stdinNotText
  else .ok arguments

end ParamTemplate.CommandLine
