import KubeSchema.CommandLine.Run

/-!
# The program

Reads the arguments, looks at the source, and puts the result where it belongs.
-/

namespace KubeSchema

/-- The fault of an error number of the system. Some calls give the number with its sign turned. -/
def FileFault.ofNumber (number : UInt32) (words : String) : FileFault :=
  match (min number (0 - number)).toNat with
  | 2 => .notFound
  | 20 => .notADirectory
  | 21 => .isADirectory
  | 36 => .nameTooLong
  | number => .other (words ++ " (os error " ++ toString number ++ ")")

/-- The fault that an error of the file system stands for. -/
def FileFault.ofError : IO.Error → FileFault
  | .noFileOrDirectory .. => .notFound
  | .noSuchThing _ number words | .inappropriateType _ number words
  | .invalidArgument _ number words | .permissionDenied _ number words
  | .resourceExhausted _ number words | .otherError number words => .ofNumber number words
  | error => .other (toString error)

/-- Looks at a file. -/
def FileContent.look (path : String) : IO FileContent := do
  try
    return .ofBytes (← IO.FS.readBinFile path)
  catch error =>
    match FileFault.ofError error with
    | .notFound | .notADirectory | .nameTooLong => return .missing
    | fault => return .failed fault

/-- Writes a report to the streams. -/
def Report.emit (report : Report) : IO UInt32 := do
  IO.print report.stdout
  IO.eprint report.stderr
  return report.code.toUInt32

/-- Runs the program in the file system. -/
def runProgram (arguments : List String) : IO UInt32 := do
  match Arguments.read arguments with
  | .error stop => stop.report.emit
  | .ok command =>
    match command.result (← FileContent.look command.source) with
    | .error report => report.emit
    | .ok text =>
      match command.output with
      | none => (Report.printed text).emit
      | some path =>
        try
          IO.FS.writeFile path text
          Report.saved.emit
        catch error =>
          (Report.notSaved path (FileFault.ofError error)).emit

end KubeSchema

def main (arguments : List String) : IO UInt32 :=
  KubeSchema.runProgram arguments
