import Scaffold.Script.Session
import Scaffold.Script.Variables

/-!
# Streams — streams and the processes on them
-/

set_option autoImplicit false

/-!
## Streams — where output goes

A redirection leads a stream elsewhere: to a file, to where another stream leads, or nowhere. What a
command prints on a stream goes where the stream leads when the command is run.
-/

namespace Scaffold.Script

/-- The streams of a command. -/
structure Streams where
  /-- The input, if it is not the one that is there. -/
  input : Option Bytes := none
  /-- The stream that the input is taken from. -/
  origin : Option Nat := none
  /-- Other streams that are read. -/
  sources : List (Nat × Bytes) := []
  sinks : List (Nat × Sink) := []

namespace Streams

/-- Where a stream leads. -/
def sink (f : Streams) (n : Nat) : Sink := (f.sinks.lookup n).getD (.stream n)

/-- Redirects a stream. -/
def redirect (f : Streams) (n : Nat) (sink : Sink) : Streams :=
  { f with sinks := (n, sink) :: f.sinks.filter (·.1 != n) }

/-- Streams that lead to where other ones lead. -/
def through (f outer : Streams) : Streams :=
  let led := f.sinks.map fun (n, sink) =>
    match sink with
    | .stream m => (n, outer.sink m)
    | sink => (n, sink)
  { f with sinks := led ++ outer.sinks.filter fun (n, _) => !f.sinks.any (·.1 == n) }

/-- The stream is closed. -/
def isClosed (f : Streams) (n : Nat) : Bool :=
  match f.sink n with
  | .closed => true
  | .stream _ | .file _ | .nowhere => false

/-- The streams beyond the first ones. -/
def beyond (f : Streams) : List Nat :=
  ((f.sinks.map Prod.fst).filter fun n => 2 < n && !f.isClosed n) ++ f.sources.map Prod.fst

/-- The open streams beyond the first ones, where others were open before. -/
def opening (f : Streams) (before : List Nat) : List Nat :=
  f.beyond ++ before.filter (!f.isClosed ·)

/-- The streams that are read, where others were read before. -/
def reading (f : Streams) (before : List (Nat × Bytes)) : List (Nat × Bytes) :=
  f.sources ++ before.filter fun (n, _) => !f.sources.any (·.1 == n) && !f.isClosed n

/-- What is left of the streams behind a command: the input, and the other ones. -/
def rest (f : Streams) (before after : Session) : Session :=
  let sources := before.sources.map fun (n, b) =>
    if f.origin == some n then (n, after.input)
    else if f.sources.any (·.1 == n) then (n, b)
    else (n, (after.sources.lookup n).getD b)
  { after with
    input := if f.input.isSome then before.input else after.input
    sources
    opened := before.opened }

end Streams

/-- Sends what was printed to where the streams lead. -/
def route (f : Streams) (p : Printed) (s : Session) : Printed × Session :=
  p.foldl (fun (done, s) (n, b) =>
    match f.sink n with
    | .stream m => (done ++ [(m, b)], s)
    | .nowhere | .closed => (done, s)
    | .file path =>
      let before := match s.tree.read path with
        | .ok before => before
        | .error _ => []
      match s.tree.write path (before ++ b) with
      | .ok tree => (done, { s with tree })
      | .error _ => (done, s)) ([], s)

/-- Sends what was printed, and what is still to be printed by commands that are not waited for, to
where the streams lead; `before` is what others are still to print. -/
def routeAll (f : Streams) (p before : Printed) (s : Session) : Printed × Session :=
  let (printed, s) := route f p s
  let (later, s) := route f s.pending s
  (printed, { s with pending := before ++ later })

/-- The message about a file that cannot be opened. -/
def openFault (s : Session) (path : String) (reads : Bool) (fault : FileFault) : Printed :=
  if s.isBash then err (s.report (path ++ ": " ++ plainFault fault))
  else if reads then
    err (s.report ("cannot open " ++ path ++ ": " ++
      (if fault = .missing then "No such file" else plainFault fault)))
  else
    err (s.report ("cannot create " ++ path ++ ": " ++
      (if fault = .missing then "Directory nonexistent" else plainFault fault)))

/-- The absolute path of a path. -/
def absolute (s : Session) (path : String) : String :=
  if Path.isAbsolute path then path else Path.join s.physical path

/-- Opens a file for output. -/
def openOutput (path : String) (keeps : Bool) (s : Session) : Except Printed (Sink × Session) :=
  if path == "/dev/null" then .ok (.nowhere, s)
  else if path == "/dev/stdout" then .ok (.stream 1, s)
  else if path == "/dev/stderr" then .ok (.stream 2, s)
  else
    let before := match s.tree.read path with
      | .ok b => if keeps then b else []
      | .error _ => []
    match s.tree.write path before with
    | .ok tree => .ok (.file (absolute s path), { s with tree })
    | .error fault => .error (openFault s path false fault)

/-- Applies an opened redirection. -/
def applyRedirect (r : Redirect) (target : String) (f : Streams) (s : Session) :
    Except Printed (Streams × Session) :=
  match r.kind with
  | .write => do
    let (sink, s) ← openOutput target false s
    return (f.redirect r.stream sink, s)
  | .append => do
    let (sink, s) ← openOutput target true s
    return (f.redirect r.stream sink, s)
  | .writeBoth => do
    let (sink, s) ← openOutput target (r.stream = 3) s
    return ((f.redirect 1 sink).redirect 2 sink, s)
  | .here => .ok ({ f with input := some (Raw.bytes target) }, s)
  | .read =>
    if target == "/dev/stdin" then .ok (f, s)
    else
      match s.content s.input target with
      | .ok input =>
        .ok (if r.stream = 0 then { f with input := some input, origin := none }
          else { f with sources := (r.stream, input) :: f.sources }, s)
      | .error fault => .error (openFault s target true fault)
  | .duplicate =>
    match target.toNat? with
    | some n =>
      let known := f.sources.lookup n <|> s.sources.lookup n
      if r.stream = 0 && known.isSome && !f.isClosed n then
        .ok ({ f with input := known, origin := some n }, s)
      else if n = 0 && r.stream ≠ 0 then
        .ok ({ f with sources := (r.stream, f.input.getD s.input) :: f.sources }, s)
      else if n ≤ 2 || (s.opened.contains n && !f.isClosed n) || f.beyond.contains n then
        .ok (f.redirect r.stream (f.sink n), s)
      else .error (err (s.report (target ++ ": Bad file descriptor")))
    | none =>
      if target == "-" then
        .ok ({ f.redirect r.stream .closed with
          input := if r.stream = 0 then some [] else f.input }, s)
      else if s.isBash && r.stream = 1 then do
        let (sink, s) ← openOutput target false s
        return ((f.redirect 1 sink).redirect 2 sink, s)
      else .error (err (s.report (if s.isBash then target ++ ": ambiguous redirect"
        else "Syntax error: Bad fd number")))

end Scaffold.Script

/-!
## Signals — commands about signals and about commands that were not waited for

A signal has a number and a name. A command that is not waited for has a number and a status; what
it prints comes when it is waited for, or at the end of its shell.
-/

namespace Scaffold.Script

namespace Builtin

/-- The names of signals, each with its number; the first one stands for the end of the shell. -/
def signals : List (String × Nat) :=
  ["EXIT", "HUP", "INT", "QUIT", "ILL", "TRAP", "ABRT", "BUS", "FPE", "KILL", "USR1", "SEGV",
    "USR2", "PIPE", "ALRM", "TERM", "STKFLT", "CHLD", "CONT", "STOP", "TSTP", "TTIN", "TTOU",
    "URG", "XCPU", "XFSZ", "VTALRM", "PROF", "WINCH", "IO", "PWR", "SYS"].zipIdx

/-- The signals that end no process. -/
def harmless : List Nat := [0, 17, 18, 19, 20, 21, 22, 23, 28]

/-- The number of a signal that is given by its name or number; the extended shell takes longer
names as well. -/
def signal? (isBash : Bool) (text : String) : Option Nat :=
  let name := text.toUpper
  match text.toNat? with
  | some n => if n < 65 then some n else none
  | none =>
    signals.lookup name <|>
      (if isBash && "SIG".isPrefixOf name then signals.lookup (String.ofList (name.toList.drop 3))
        else none)

/-- The name of a signal. -/
def signalName? (n : Nat) : Option String := (signals.find? (·.2 == n)).map Prod.fst

/-- The number that the shell has as a process. -/
def ownNumber : String := "4242"

/-- How signals are sent. -/
def killUsage (isBash : Bool) : String :=
  if isBash then
    "kill: usage: kill [-s sigspec | -n signum | -sigspec] pid | jobspec ... or kill -l [sigspec]\n"
  else "kill: Usage: kill [-s sigspec | -signum | -sigspec] [pid | job]... or\nkill -l [exitstatus]"

/-- Lists signals: all of them, or the names or numbers of those that are given. -/
def listSignals (args : List String) (s : Session) : Printed × Session :=
  let number (n : Nat) : Nat := if 128 < n then n - 128 else n
  let names := (signals.drop 1).map Prod.fst
  match args with
  | [] => (out ("\n".intercalate names ++ "\n"), s.finish 0)
  | a :: _ =>
    match a.toNat? with
    | some n =>
      match signalName? (number n) with
      | some name => (out (name ++ "\n"), s.finish 0)
      | none =>
        if s.isBash then fails ("kill: " ++ a ++ ": invalid signal specification") 1 s
        else fails ("kill: invalid signal number or exit status: " ++ a) 2 s
    | none =>
      match s.isBash, signal? true a with
      | true, some n => (out (toString n ++ "\n"), s.finish 0)
      | true, none => fails ("kill: " ++ a ++ ": invalid signal specification") 1 s
      | false, _ => fails ("kill: Illegal number: " ++ a) 2 s

/-- A signal takes effect on the command with a number. -/
def strike (signal : Nat) (a : String) (s : Session) : Printed × Session :=
  if a == ownNumber || a == "0" || a == "-" ++ ownNumber then
    if harmless.contains signal then ([], s.finish 0)
    else ([], { s with ended := true, signal := some signal })
  else if s.jobs.any fun job => toString job.number == a then
    let struck (job : Job) : Job :=
      if toString job.number == a && !harmless.contains signal then
        { job with status := 128 + signal }
      else job
    ([], { s with jobs := s.jobs.map struck }.finish 0)
  else if (a.toInt?).isNone then
    if s.isBash then fails ("kill: " ++ a ++ ": arguments must be process or job IDs") 1 s
    else fails ("kill: Illegal number: " ++ a) 2 s
  else if s.isBash then fails ("kill: (" ++ a ++ ") - No such process") 1 s
  else fails "kill: No such process\n" 1 s

/-- Sends a signal to the shell itself or to commands that were not waited for. -/
def kill (args : List String) (s : Session) : Printed × Session :=
  let misused : Printed × Session :=
    (err (if s.isBash then killUsage true else s.complaint (killUsage false)), s.finish 2)
  let send (signal : Nat) (targets : List String) : Printed × Session :=
    if targets.isEmpty then misused else Utility.onEach (strike signal) targets s
  let named (name : String) (targets : List String) : Printed × Session :=
    match signal? s.isBash name with
    | some n => send n targets
    | none =>
      if s.isBash then fails ("kill: " ++ name ++ ": invalid signal specification") 1 s
      else fails ("kill: invalid signal number or name: " ++ name) 2 s
  match args with
  | [] => misused
  | "--" :: targets => send 15 targets
  | "-l" :: rest => listSignals rest s
  | "-s" :: name :: targets | "-n" :: name :: targets => named name targets
  | a :: targets =>
    match a.toList with
    | '-' :: c :: name =>
      match s.isBash, signal? s.isBash (String.ofList (c :: name)) with
      | _, some n => send n targets
      | true, none => named (String.ofList (c :: name)) targets
      | false, none => fails ("kill: Illegal option -" ++ String.singleton c) 2 s
    | _ => send 15 args

/-- Says what is run at signals, or lists it. -/
def trap (args : List String) (s : Session) : Printed × Session :=
  let known (a : String) : Option String :=
    if s.isBash && ["ERR", "DEBUG", "RETURN"].contains a then some a
    else (signal? s.isBash a).bind signalName?
  let place (name : String) : Nat := (signals.lookup name).getD 65
  let listed (names : List String) : Printed × Session :=
    let there := s.traps.filter fun t => names.isEmpty || (names.filterMap known).contains t.1
    let line (t : String × String) : String :=
      let action := if s.isBash then Quoting.single t.2 else Quoting.listed t.2
      let lead := if s.isBash && (signals.lookup t.1).getD 0 != 0 then "SIG" else ""
      "trap -- " ++ action ++ " " ++ lead ++ t.1 ++ "\n"
    (out (String.join ((there.mergeSort fun a b => place a.1 ≤ place b.1).map line)), s.finish 0)
  let set (action : Option String) (names : List String) : Printed × Session :=
    let found := names.filterMap known
    let rest := s.traps.filter fun t => !found.contains t.1
    let s := { s with
      traps := match action with
        | some action => found.map (·, action) ++ rest
        | none => rest }
    let wrong (a : String) : Printed :=
      err (if s.isBash then s.complaint ("trap: " ++ a ++ ": invalid signal specification")
        else "trap: " ++ a ++ ": bad trap\n")
    let faults := names.filter fun a => (known a).isNone
    (faults.flatMap wrong, s.finish (if faults.isEmpty then 0 else 1))
  match args, s.isBash with
  | [], _ => listed []
  | "-p" :: names, true => listed names
  | "-p" :: _, false => breaks "trap: Illegal option -p" s
  | "--" :: action :: names, _ | action :: names, _ =>
    if names.isEmpty then set none [action]
    else if action == "-" || action.toNat?.isSome then
      set none (if action == "-" then names else action :: names)
    else set (some action) names

/-- What the plain shell says of a command that a signal has ended. -/
def endingText (status : Nat) : Printed :=
  match status with
  | 129 => err "Hangup\n"
  | 131 => err "Quit\n"
  | 134 => err "Aborted\n"
  | 137 => err "Killed\n"
  | 138 => err "User defined signal 1\n"
  | 140 => err "User defined signal 2\n"
  | 143 => err "Terminated\n"
  | _ => []

/-- Waits for commands: what they have printed comes now. -/
def await (args : List String) (s : Session) : Printed × Session :=
  let printed := s.pending
  let s := { s with pending := [] }
  let told (jobs : List Job) : Printed :=
    if s.isBash then [] else jobs.flatMap fun job => endingText job.status
  let one (a : String) (s : Session) : Printed × Session :=
    match s.jobs.find? (toString ·.number == a), a.toNat? with
    | some job, _ => (told [job], s.finish job.status)
    | none, some _ =>
      if s.isBash then fails ("wait: pid " ++ a ++ " is not a child of this shell") 127 s
      else ([], s.finish 127)
    | none, none =>
      match s.isBash, a.toList.head? with
      | true, some '%' => fails ("wait: " ++ a ++ ": no such job") 127 s
      | true, _ => fails ("wait: \x60" ++ a ++ "': not a pid or valid job spec") 1 s
      | false, some '%' => fails ("wait: No such job: " ++ a) 2 s
      | false, _ => fails ("wait: Illegal number: " ++ a) 2 s
  match args with
  | [] | ["-n"] => (printed ++ told s.jobs.reverse, s.finish 0)
  | args =>
    let (p, s) := args.foldl (fun (p, s) a => ((p ++ (one a s).1), (one a s).2)) (printed, s)
    (p, s)

end Builtin

end Scaffold.Script
