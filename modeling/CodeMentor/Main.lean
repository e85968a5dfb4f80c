import CodeMentor.Backend.Network
import CodeMentor.CommandLine.Outcome

/-!
# The program

Everything that touches the outside world: arguments and variables come in, one source file is read,
and what a run comes to is printed or written. There is no network layer below this program, so it
runs as on a network on which nobody listens.
-/

open CodeMentor CodeMentor.CommandLine

def CodeMentor.IoFailure.ofError : IO.Error → IoFailure
  | .noFileOrDirectory .. => .notFound
  | .inappropriateType .. => .isDirectory
  | .alreadyExists .. => .alreadyExists
  | e => .other (toString e)

def CodeMentor.readFile (path : String) : IO (Except IoFailure (List UInt8)) := do
  match ← (IO.FS.readBinFile path).toBaseIO with
  | .ok bytes => return .ok bytes.toList
  | .error e => return .error (.ofError e)

/-- The directory of a path, unless it is the one at hand. -/
def CodeMentor.directory? (path : String) : Option String :=
  let before := ((path.toList.reverse.dropWhile (· != '/')).drop 1).reverse
  if before.isEmpty then none else some (String.ofList before)

/-- Write a report and the directories it needs. -/
def CodeMentor.saveReport (report : Report) : IO (Except IoFailure Unit) := do
  let act : IO Unit := do
    if let some directory := directory? report.path then IO.FS.createDirAll directory
    IO.FS.writeFile report.path report.contents
  match ← act.toBaseIO with
  | .ok () => return .ok ()
  | .error e => return .error (.ofError e)

def CodeMentor.finish (exit : Exit) : IO UInt32 := do
  IO.print exit.stdout
  IO.eprint exit.stderr
  return exit.code.toUInt32

def main (arguments : List String) : IO UInt32 := do
  match Invocation.parse arguments with
  | .error stop => finish stop.exit
  | .ok invocation =>
    let settings ← Config.variableNames.mapM fun name => do return (name, ← IO.getEnv name)
    let lookup name := (settings.find? (·.1 == name)).bind (·.2)
    let content ← match invocation.command.source? with
      | some path => readFile path
      | none => pure (.error .notFound)
    let run := invocation.run Network.transport lookup fun _ => content
    let outcome := (run.run ⟨.silent, []⟩).1
    let written ← match outcome.report with
      | some report => saveReport report
      | none => pure (.ok ())
    finish (outcome.exit written)
