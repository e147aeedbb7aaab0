/-
**Files.**

A file is found by its path and holds bytes.  Why a file cannot be read is told in the words, and
with the number, of the operating system.

A folder is what a program sees of files if it is started in it: it holds files by their names, and
besides them there is nothing but the folders above it.

Main definitions:

* `CommandLine.FileFault`, `CommandLine.FileFault.message` — why a file cannot be read;
* `CommandLine.Folder.read` — the bytes that a path leads to.
-/

import ParamTemplate.Text.Utf8

set_option autoImplicit false

namespace ParamTemplate.CommandLine

/-- Why a file cannot be read. -/
inductive FileFault where
  | missing
  | denied
  | notDirectory
  | isDirectory
  | nameTooLong
  | nullInName
  /-- Another reason, in words. -/
  | other (message : List Char)
deriving DecidableEq, Repr

/-- The wording of a reason. -/
def FileFault.message : FileFault → List Char
  | missing => "No such file or directory (os error 2)".toList
  | denied => "Permission denied (os error 13)".toList
  | notDirectory => "Not a directory (os error 20)".toList
  | isDirectory => "Is a directory (os error 21)".toList
  | nameTooLong => "File name too long (os error 36)".toList
  | nullInName => "file name contained an unexpected NUL byte".toList
  | other message => message

/-! ### Folders -/

/-- Files by their names. -/
structure Folder where
  files : List (List Char × List Nat)
deriving DecidableEq, Repr

namespace Folder

/-- Where the steps of a path have led. -/
inductive Place where
  /-- To the folder itself. -/
  | here
  /-- To a folder above it. -/
  | above
  /-- To a file with its bytes. -/
  | file (data : List Nat)
deriving DecidableEq, Repr

/-- The steps of a path; `step` holds the one at hand, the last character first. -/
def stepsFrom (step : List Char) : List Char → List (List Char)
  | [] => [step.reverse]
  | '/' :: rest => step.reverse :: stepsFrom [] rest
  | c :: rest => stepsFrom (c :: step) rest

/-- The place after a step. -/
def follow (folder : Folder) (place : Place) (step : List Char) : Except FileFault Place :=
  match place with
  | .file _ => .error .notDirectory
  | .here =>
      if step = [] || step = ['.'] then .ok .here
      else if step = ['.', '.'] then .ok .above
      else if 255 < (Utf8.encode step).length then .error .nameTooLong
      else
        match folder.files.lookup step with
        | some data => .ok (.file data)
        | none => .error .missing
  | .above =>
      if step = [] || step = ['.'] || step = ['.', '.'] then .ok .above
      else if 255 < (Utf8.encode step).length then .error .nameTooLong
      else .error .missing

/-- **The bytes that a path leads to.** -/
def read (folder : Folder) (path : List Char) : Except FileFault (List Nat) := do
  if path.contains '\x00' then throw .nullInName
  if path.isEmpty then throw .missing
  if 4095 < (Utf8.encode path).length then throw .nameTooLong
  let start := if path.head? = some '/' then Place.above else .here
  match ← (stepsFrom [] path).foldlM folder.follow start with
  | .file data => return data
  | .here | .above => throw .isDirectory

end Folder

end ParamTemplate.CommandLine
