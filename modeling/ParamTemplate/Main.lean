/-
**The program.**

What a run reads is read, the run is made, and what it printed is written.

Main definition:

* `main` — the program.
-/

import ParamTemplate.CommandLine.Run

set_option autoImplicit false

namespace ParamTemplate.CommandLine

/-- Why a file cannot be read, by the number of the operating system, which may come negated. -/
def FileFault.ofCode (code : UInt32) (details : String) : FileFault :=
  if code = 20 || code = -20 then .notDirectory
  else if code = 21 || code = -21 then .isDirectory
  else if code = 36 || code = -36 then .nameTooLong
  else .other details.toList

/-- Why a file cannot be read, by what the operating system said. -/
def FileFault.ofError : IO.Error → FileFault
  | .noFileOrDirectory .. => .missing
  | .permissionDenied .. => .denied
  | .inappropriateType _ code details | .invalidArgument _ code details => .ofCode code details
  | error => .other (toString error).toList

/-- The numbers of bytes. -/
def byteNumbers (data : ByteArray) : List Nat := data.toList.map UInt8.toNat

/-- The bytes of a file. -/
def loadFile (path : List Char) : IO (Except FileFault (List Nat)) := do
  try
    let data ← IO.FS.readBinFile (String.ofList path)
    return .ok (byteNumbers data)
  catch error => return .error (.ofError error)

/-- Whether colour may be used on the standard output. -/
def mayColor : IO Bool := do
  let terminal ← (← IO.getStdout).isTty
  let kind ← IO.getEnv "TERM"
  let refused ← IO.getEnv "NO_COLOR"
  return terminal && kind.any (· ≠ "dumb") && refused.isNone

/-- What surrounds a run that reads `demand`. -/
def surroundingsFor (demand : Demand) : IO Surroundings := do
  let color ← mayColor
  match demand with
  | .nothing => return { fileAt := fun _ => .error .missing, stdin := [], color }
  | .file path =>
      let content ← loadFile path
      return { fileAt := fun _ => content, stdin := [], color }
  | .stdin =>
      let data ← (← IO.getStdin).readBinToEnd
      return { fileAt := fun _ => .error .missing, stdin := byteNumbers data, color }

end ParamTemplate.CommandLine

open ParamTemplate.CommandLine

/-- **The program.** -/
def main (arguments : List String) : IO UInt32 := do
  let arguments := arguments.map String.toList
  let surroundings ← surroundingsFor (demand arguments)
  let result := run arguments surroundings
  (← IO.getStdout).putStr (String.ofList result.stdout)
  (← IO.getStderr).putStr (String.ofList result.stderr)
  return result.code.toUInt32
