import Scaffold.Launch
import Scaffold.Script.Executor

/-!
# Main — the command

The calls of a run are answered by the files of the machine. There is no network: every request
fails. A hook command is run by the shell of this library on a copy of the files below its
directory, and the changes that it has made are then made to the files themselves.
-/

set_option autoImplicit false

namespace Scaffold.Main

open CommandLine (Options Refusal)

/-- The fault behind an error. -/
def faultOf : IO.Error → FileFault
  | .noFileOrDirectory _ _ _ => .missing
  | .alreadyExists _ 39 _ => .notEmpty
  | .alreadyExists _ _ _ => .exists
  | .inappropriateType _ 20 _ => .notDirectory
  | .inappropriateType _ 21 _ => .isDirectory
  | .invalidArgument _ 36 _ => .nameTooLong
  | .resourceExhausted _ code details | .permissionDenied _ code details =>
    .other (details ++ " (os error " ++ toString code ++ ")")
  | e => .other (toString e)

/-- Attempts an action on files. -/
def attempt {α : Type} (action : IO α) : IO (Except FileFault α) := do
  try
    return .ok (← action)
  catch e => return .error (faultOf e)

/-- The content of a file. -/
def contentOf (path : String) : IO Bytes := do
  return (← IO.FS.readBinFile path).toList

/-- Writes a file. -/
def store (path : String) (content : Bytes) : IO Unit :=
  IO.FS.writeBinFile path (ByteArray.mk content.toArray)

/-- What a path leads to. -/
def kindOf (path : String) : IO (Option EntryKind) := do
  try
    let place ← IO.FS.realPath path
    match (← place.metadata).type with
    | .dir => return some .directory
    | _ => return some .file
  catch _ => return none

/-- The absolute path of what a path leads to. -/
def canonicalOf (path : String) : IO (Option String) := do
  try
    return some (← IO.FS.realPath path).toString
  catch _ => return none

/-- The deepest directory whose files commands see. -/
def maxDepth : Nat := 64

/-- The files and directories below a place. -/
def gather : Nat → Place → IO (List (Place × Entry))
  | 0, _ => return []
  | fuel + 1, p => do
    let directory ← IO.FS.realPath ("/" ++ "/".intercalate p)
    let mut found := []
    for entry in ← directory.readDir do
      let q := p ++ [entry.fileName]
      match (← entry.path.symlinkMetadata).type with
      | .dir =>
        found := found ++ [(q, .directory)] ++ (← gather fuel q)
      | .file =>
        found := found ++ [(q, .file (← contentOf entry.path.toString))]
      | _ => pure ()
    return found

/-- The files that a command in a directory sees. -/
def treeAt (directory : String) : IO FileTree := do
  match ← canonicalOf directory with
  | none => return {}
  | some path =>
    let place := Path.steps path
    let parents := (List.range place.length).map fun n => (place.take (n + 1), Entry.directory)
    return { current := place, entries := parents ++ (← gather maxDepth place) }

/-- Makes the changes between two trees. A link becomes a copy of the file that it leads to. -/
def applyChanges (before after : FileTree) : IO Unit := do
  let path (p : Place) : String := "/" ++ "/".intercalate p
  let gone := before.entries.filter fun (p, _) => (after.entry? p).isNone
  let changed := after.entries.filter fun (p, e) => before.entry? p != some e
  for (p, e) in gone.mergeSort fun a b => b.1.length ≤ a.1.length do
    match e with
    | .directory => IO.FS.removeDir (path p)
    | .file _ | .link _ => IO.FS.removeFile (path p)
  for (p, e) in changed.mergeSort fun a b => a.1.length ≤ b.1.length do
    match e with
    | .directory => IO.FS.createDir (path p)
    | .file content => store (path p) content
    | .link _ =>
      match after.read (path p) with
      | .ok content => store (path p) content
      | .error _ => pure ()

/-- Runs a command. -/
def execute (environment : List (String × String)) (c : Hook.Command) : IO Hook.Outcome := do
  let before ← treeAt c.directory
  let (outcome, after) := Script.execute environment { c with directory := "." } before
  applyChanges before after
  return outcome

/-- Answers a call. -/
def answer (o : Options) (environment : List (String × String)) :
    (c : SystemCall) → IO c.Answer
  | .kind path => kindOf path
  | .read path => attempt (contentOf path)
  | .canonical path => canonicalOf path
  | .makeDirectory path => attempt (IO.FS.createDir path)
  | .write path content => attempt (store path content)
  | .copy source target => attempt do
      let _ ← contentOf source
      -- the target is emptied before it is filled, and it may be the source itself
      store target []
      store target (← contentOf source)
  | .exchange request => return .error ("error sending request for url (" ++ request.url ++ ")")
  | .execute command => execute environment command
  | .report entry => IO.print (Launch.printed o entry)

/-- Leads a computation to its end. -/
def perform {α : Type} (o : Options) (environment : List (String × String)) : System α → IO α
  | .done a => return a
  | .ask c next => do perform o environment (next (← answer o environment c))

/-- The variables of the process, as the machine lists them. -/
def environmentOf (content : Bytes) : List (String × String) :=
  (Occurrences.split [0] content).filterMap fun piece =>
    let text := (Utf8.toStringLossy piece).toList
    if text.contains '=' then
      some (String.ofList (text.takeWhile (· != '=')),
        String.ofList ((text.dropWhile (· != '=')).drop 1))
    else none

/-- Where the machine lists the variables of the process. -/
def environmentPath : String := "/proc/self/environ"

/-- The instant at which the machine made the list of the variables of the process. -/
def startOf : IO Calendar.Instant := do
  try
    let modified := (← (← IO.FS.realPath environmentPath).metadata).modified
    let fraction := ⟨modified.nsec.toNat % 1000000000, Nat.mod_lt _ (by decide)⟩
    return { seconds := modified.sec, fraction, zone := .ahead 0 }
  catch _ => return Calendar.Reading.epoch.instant

/-- The instant behind another one by so many billionths of a second. -/
def after (i : Calendar.Instant) (billionths : Nat) : Calendar.Instant :=
  let behind := i.fraction.val + billionths
  { i with
    seconds := i.seconds + (behind / 1000000000 : Nat)
    fraction := ⟨behind % 1000000000, Nat.mod_lt _ (by decide)⟩ }

/-- The clock of a run that begins at an instant: it is told anew a billionth of a second later. -/
def clockFrom (start : Calendar.Instant) : Calendar.Clock where
  reading n :=
    if h : (Calendar.Moment.ofInstant? (after start n)).isSome then ⟨after start n, h⟩ else .epoch

/-- How the command is used. -/
def usage : String :=
  "Usage: scaffold [-p JSON] [-f] [-v] [-q] TEMPLATE [OUTPUT_DIR]\n"

/-- Says why a command line asks for no run. -/
def refuse : Refusal → IO Unit
  | .help | .version | .missingTemplate => IO.print usage
  | _ => IO.eprint usage

end Scaffold.Main

open Scaffold in
/-- Runs what the arguments ask for. -/
def main (arguments : List String) : IO UInt32 := do
  match CommandLine.Options.ofArguments arguments with
  | .error refusal =>
    Main.refuse refusal
    return UInt32.ofNat (Launch.refusalStatus refusal)
  | .ok o =>
    let content ← Main.attempt (Main.contentOf Main.environmentPath)
    let environment := Main.environmentOf (content.toOption.getD [])
    let result ← Main.perform o environment (Launch.run o environment (Main.clockFrom (← Main.startOf)))
    match result with
    | .ok () => IO.print (Launch.farewell o)
    | .error e => IO.eprintln e.message
    return UInt32.ofNat (Launch.status result)
