/-
**Reading a command line.**

Arguments are read from left to right.  After two dashes alone all arguments are taken as they are;
before, what begins with two dashes is a long name, after an equals sign with a value, and what
begins with one dash is a row of short names, of which one that needs a value takes the rest of the
row.  A value that is not attached is the next argument, unless that begins with a dash and is more
than a dash.  All else is the template and then the texts.

What is read takes effect when the next argument shows that it is complete: only then is it refused
for a missing value or because it was given before.  If that next argument is not known, the
complaint is about the unknown argument alone.

Main definitions:

* `CommandLine.Options`, `CommandLine.Options.mode` — what a command line says;
* `CommandLine.Stop` — why there is nothing to do;
* `CommandLine.Reading`, `CommandLine.Reading.feed` — what is known after some arguments;
* `CommandLine.read` — what a command line says, or why there is nothing to do.
-/

import ParamTemplate.CommandLine.UsageError
import ParamTemplate.Template.Evaluation
import ParamTemplate.Text.Similarity

set_option autoImplicit false

namespace ParamTemplate.CommandLine

/-! ### What is read -/

/-- The values of switches and settings. -/
structure Choices where
  input? : Option (List Char) := none
  param? : Option (List Char) := none
  check : Bool := false
  explain : Bool := false
  json : Bool := false
  sequential : Bool := false
  noColor : Bool := false
deriving DecidableEq, Repr

/-- What a command line says. -/
structure Options extends Choices where
  template : List Char
  texts : List (List Char)
deriving DecidableEq, Repr

/-- The question that a command line asks. -/
def Options.mode (options : Options) : Template.Mode :=
  if options.check then .check
  else
    match options.param? with
    | some name => .param name
    | none => .params

/-- The choices with a switch on. -/
def Choices.turnOn (choices : Choices) : Switch → Choices
  | .check => { choices with check := true }
  | .explain => { choices with explain := true }
  | .json => { choices with json := true }
  | .sequential => { choices with sequential := true }
  | .noColor => { choices with noColor := true }
  | .help | .version => choices

/-- The choices with a value for a setting. -/
def Choices.set (choices : Choices) (value : List Char) : Setting → Choices
  | .input => { choices with input? := some value }
  | .param => { choices with param? := some value }

/-- Why there is nothing to do. -/
inductive Stop where
  | help
  | version
  | error (error : UsageError)
deriving DecidableEq, Repr

/-! ### Reading -/

/-- What has been read without having taken effect. -/
inductive Held where
  | nothing
  | template (text : List Char)
  | texts (texts : List (List Char))
  /-- A setting, with its value if that has been read. -/
  | setting (setting : Setting) (value? : Option (List Char))
deriving DecidableEq, Repr

/-- What is known after some arguments. -/
structure Reading where
  template? : Option (List Char) := none
  texts : List (List Char) := []
  choices : Choices := {}
  /-- What has taken effect, in order. -/
  used : List Argument := []
  held : Held := .nothing
  /-- Whether two dashes alone have been read. -/
  verbatim : Bool := false
deriving DecidableEq, Repr

namespace Reading

/-- A setting takes effect. -/
def store (s : Reading) (setting : Setting) (value : List Char) : Except Stop Reading :=
  let named := Named.setting setting
  if s.used.contains (.named named) then .error (.error (.repeated named))
  else if setting = .input && value.isEmpty then .error (.error (.valueMissing .input))
  else
    .ok { s with choices := s.choices.set value setting, used := s.used ++ [.named named] }

/-- What has been read takes effect. -/
def settle (s : Reading) : Except Stop Reading :=
  match s.held with
  | .nothing => .ok s
  | .template text =>
      .ok { s with held := .nothing, template? := some text, used := s.used ++ [.template] }
  | .texts texts =>
      let used := if s.used.contains .texts then s.used else s.used ++ [.texts]
      .ok { s with held := .nothing, texts := s.texts ++ texts, used }
  | .setting setting none => .error (.error (.valueMissing setting))
  | .setting setting (some value) => ({ s with held := .nothing } : Reading).store setting value

/-- What counts as used once all that has been read has taken effect or has been refused. -/
def usedInTheEnd (s : Reading) : List Argument :=
  match s.held with
  | .nothing | .setting _ none => s.used
  | .template _ => s.used ++ [.template]
  | .texts _ => if s.used.contains .texts then s.used else s.used ++ [.texts]
  | .setting setting (some _) =>
      let argument := Argument.named (.setting setting)
      if s.used.contains argument then s.used.erase argument else s.used ++ [argument]

/-- What is told of the arguments that were used: the template is left out, as it is told anyway. -/
def told (used : List Argument) : List Argument := used.filter (· ≠ .template)

/-- A switch is read. -/
def readSwitch (s : Reading) (switch : Switch) : Except Stop Reading := do
  let s ← s.settle
  let named := Named.switch switch
  match switch with
  | .help => .error .help
  | .version => .error .version
  | _ =>
      if s.used.contains (.named named) then .error (.error (.repeated named))
      else .ok { s with choices := s.choices.turnOn switch, used := s.used ++ [.named named] }

/-- A setting is read, with its value if that is attached. -/
def readSetting (s : Reading) (setting : Setting) (attached? : Option (List Char)) :
    Except Stop Reading := do
  let s ← s.settle
  match attached? with
  | some value => s.store setting value
  | none => return { s with held := .setting setting none }

/-- The complaint about a long name that is not known. -/
def unknownLong (s : Reading) (name : List Char) : UsageError :=
  let similar? := Text.mostSimilar? Named.long 0.7 name Named.all
  .unknownLong name similar? (told s.usedInTheEnd ++ (similar?.map Argument.named).toList)

/-- A long name is read, with a value if one is attached. -/
def readLong (s : Reading) (name : List Char) (attached? : Option (List Char)) :
    Except Stop Reading :=
  match Named.ofLong? name, attached? with
  | some (.setting setting), _ => s.readSetting setting attached?
  | some (.switch switch), none => s.readSwitch switch
  | some (.switch switch), some value =>
      .error (.error (.valueUnneeded value switch (told s.used ++ [.named (.switch switch)])))
  | none, _ => .error (.error (s.unknownLong name))

/-- The value that is attached to a short name: the rest of the row, without an equals sign in
front. -/
def attachedValue? : List Char → Option (List Char)
  | [] => none
  | '=' :: value => some value
  | value => some value

/-- A row of short names is read. -/
def readRow (s : Reading) : List Char → Except Stop Reading
  | [] => .ok s
  | name :: rest =>
      match Named.ofShort? name with
      | some (.switch switch) => do
          let s ← s.readSwitch switch
          s.readRow rest
      | some (.setting setting) => s.readSetting setting (attachedValue? rest)
      | none => .error (.error (.unknownShort name))

/-- The template or a text is read. -/
def readPositional (s : Reading) (argument : List Char) : Except Stop Reading := do
  match s.held with
  | .texts texts => return { s with held := .texts (texts ++ [argument]) }
  | _ =>
      let s ← s.settle
      if s.template?.isSome then return { s with held := .texts [argument] }
      else return { s with held := .template argument }

/-- What is no name is read: the value of a setting that waits for one, the template or a text. -/
def readPlain (s : Reading) (argument : List Char) : Except Stop Reading :=
  match s.held with
  | .setting setting none => .ok { s with held := .setting setting (some argument) }
  | _ => s.readPositional argument

/-- Cut a long name and its value at the first equals sign. -/
def cutAtEquals : List Char → List Char × Option (List Char)
  | [] => ([], none)
  | '=' :: value => ([], some value)
  | c :: rest =>
      let (name, value?) := cutAtEquals rest
      (c :: name, value?)

/-- **The next argument.** -/
def feed (s : Reading) (argument : List Char) : Except Stop Reading :=
  if s.verbatim then s.readPositional argument
  else
    match argument with
    | ['-', '-'] => .ok { s with verbatim := true }
    | '-' :: '-' :: rest =>
        let (name, attached?) := cutAtEquals rest
        s.readLong name attached?
    | ['-'] => s.readPlain argument
    | '-' :: row => s.readRow row
    | _ => s.readPlain argument

/-- The next arguments. -/
def feedAll (s : Reading) (arguments : List (List Char)) : Except Stop Reading :=
  arguments.foldlM feed s

@[simp] theorem feedAll_nil (s : Reading) : s.feedAll [] = .ok s := rfl

@[simp] theorem feedAll_cons (s : Reading) (argument : List Char) (rest : List (List Char)) :
    s.feedAll (argument :: rest) = s.feed argument >>= fun s => s.feedAll rest := rfl

theorem feedAll_append (s : Reading) (arguments rest : List (List Char)) :
    s.feedAll (arguments ++ rest) = s.feedAll arguments >>= fun s => s.feedAll rest :=
  List.foldlM_append ..

/-- The arguments that exclude each other, the one that was used first in front. -/
def conflict? (s : Reading) : Option UsageError :=
  let check := Named.switch .check
  let param := Named.setting .param
  let complain (named other : Named) : UsageError :=
    .conflict named other (s.used.filter (· ≠ .named other))
  match s.used.filter fun argument => argument = .named check || argument = .named param with
  | [.named (.switch _), _] => some (complain check param)
  | [.named (.setting _), _] => some (complain param check)
  | _ => none

/-- What the command line says, when there are no more arguments. -/
def finish (s : Reading) : Except Stop Options := do
  let s ← s.settle
  match s.conflict?, s.template? with
  | some error, _ => .error (.error error)
  | none, none => .error (.error (.templateMissing (s.used ++ [.template])))
  | none, some template => return { s.choices with template, texts := s.texts }

end Reading

/-- **What a command line says, or why there is nothing to do.** -/
def read (arguments : List (List Char)) : Except Stop Options := do
  let s ← Reading.feedAll {} arguments
  s.finish

end ParamTemplate.CommandLine
