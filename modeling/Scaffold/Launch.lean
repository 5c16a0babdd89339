import Scaffold.CommandLine
import Scaffold.Generation
import Scaffold.Import.Fetching

/-!
# Launch — a run as a command line asks for it

The output directory is refused where something is and nothing asks to write into it; only then is
the project read, the document loaded and the run begun. Every step of the report is printed when
it is made, unless the command line asks for silence.
-/

set_option autoImplicit false

namespace Scaffold

namespace Launch

open Calendar (Clock)
open CommandLine (Options Refusal)

/-- The name of the output directory where none is given. -/
def defaultOutput : String := "out"

/-- The directory that a run writes into: the given one, or one beside the document. -/
def outputOf (o : Options) : String :=
  o.outputDir.getD (Path.join ((Source.ofText o.template).directory?.getD "") defaultOutput)

/-- Where the files that templates copy are looked for. -/
def sourceRootOf (o : Options) : String :=
  (Source.ofText o.template).directory?.getD "."

/-- Refuses an output directory that exists, unless it may be written into. -/
def checkOutput (o : Options) : System (Except Error Unit) := do
  let found ← System.kind (outputOf o)
  if found.isSome && !o.force then return .error (.outputDirectoryExists (outputOf o))
  else return .ok ()

/-- The project that the command line describes. -/
def projectOf (o : Options) : Except Error Project :=
  match o.projectInfo with
  | some text => Project.ofJson text
  | none => .ok {}

/-- Loads the document and runs it. -/
def generate (o : Options) (environment : List (String × String)) (clock : Clock)
    (project : Project) : System (Except Error Unit) := do
  match ← Loader.everywhere.load (Source.ofText o.template) with
  | .error e => return .error e
  | .ok document => do
    let context : Context := { document, project, environment, clock }
    return (← Generation.run ⟨outputOf o, sourceRootOf o⟩ context).1

/-- A run from its command line, in an environment and with a clock. -/
def run (o : Options) (environment : List (String × String)) (clock : Clock) :
    System (Except Error Unit) := do
  match ← checkOutput o with
  | .error e => return .error e
  | .ok () =>
    match projectOf o with
    | .error e => return .error e
    | .ok project => generate o environment clock project

/-- The text of an entry of the report that is printed. -/
def printed (o : Options) (entry : Log.Entry) : String :=
  if o.quiet then "" else entry.line

/-- The last line of a run that succeeds. -/
def farewell (o : Options) : String :=
  "Template generation completed successfully in " ++ outputOf o ++ ".\n"

/-- The status that a run ends with. -/
def status : Except Error Unit → Nat
  | .ok () => 0
  | .error .aborted => 101
  | .error _ => 1

/-- The status of a command line that asks for no run. -/
def refusalStatus : Refusal → Nat
  | .help | .version => 0
  | .missingTemplate => 1
  | _ => 2

end Launch

end Scaffold
