import Scaffold.Text.Blank

/-!
# Error — why a run ends

Every error ends the run it occurs in. The constructors are the causes; `Error.message` is the
one place that words them. `aborted` is no cause of that kind: it is the abnormal stop after a
time format that cannot be written or where there is no room left, which nothing wraps and no one
handles.
-/

set_option autoImplicit false

namespace Scaffold

/-- Why the range of a file template cannot be walked. -/
inductive RangeFault
  /-- The registered value at this position has a shape that cannot be walked. -/
  | unsupported (position : Nat) (kind : String)
  /-- The source at this depth has no element. -/
  | empty (position : Nat)
  /-- The range expression of this template registered nothing. -/
  | unregistered (template : String)
  /-- A walk stopped by the action taken on one of its combinations. -/
  | stopped (reason : String)
  deriving DecidableEq, Repr

/-- The wording of a range fault. -/
def RangeFault.message : RangeFault → String
  | .unsupported position kind =>
    "range source unsupported at position " ++ toString position ++ ": " ++ kind
      ++ " cannot be iterated"
  | .empty position => "range source empty at position " ++ toString position
  | .unregistered template => "range of '" ++ template ++ "' registered no sources"
  | .stopped reason => reason

/-- Why a remote variable has no response. -/
inductive RemoteFault
  | missingUrl
  | unsupportedType (type : String)
  /-- A method text that names no method. -/
  | invalidMethod (method : String)
  /-- A file to upload that cannot be read. -/
  | unreadable (path reason : String)
  /-- The request could not be built, sent or answered. -/
  | network (reason : String)
  /-- The judge could not be evaluated. -/
  | judgeFailed (reason : String)
  /-- The judge rendered text. -/
  | rejected (verdict : String)
  /-- No judge, and a status other than 200. -/
  | status (code : Nat) (reason : String)
  /-- A stage of the response parser failed. -/
  | stage (reason : String)
  deriving DecidableEq, Repr

/-- The wording of a remote variable's fault. -/
def RemoteFault.message : RemoteFault → String
  | .missingUrl => "missing url"
  | .unsupportedType type => "unsupported type '" ++ type ++ "', expected http or https"
  | .invalidMethod method => "invalid method '" ++ method ++ "'"
  | .unreadable path reason => "failed to read " ++ path ++ ": " ++ reason
  | .network reason => reason
  | .judgeFailed reason => "response judge failed: " ++ reason
  | .rejected verdict => verdict
  | .status code reason =>
    String.ofList (Text.trimEnd (toString code ++ " " ++ reason).toList)
  | .stage reason => reason

/-- Why a hook command did not succeed. -/
inductive HookFault
  | noShell
  | failedToStart (program reason : String)
  | exited (command status : String)
  /-- An executor refused the command, in its own words. -/
  | refused (reason : String)
  deriving DecidableEq, Repr

/-- The wording of a hook fault. -/
def HookFault.message : HookFault → String
  | .noShell => "no shell configured"
  | .failedToStart program reason => "failed to start '" ++ program ++ "': " ++ reason
  | .exited command status => "command '" ++ command ++ "' failed with status: " ++ status
  | .refused reason => reason

/-- The causes of a failed run. -/
inductive Error
  /-- A document or project text of the wrong structure. -/
  | parse (line column : Nat) (reason : String)
  /-- An imported document that cannot be loaded. -/
  | importing (locator reason : String)
  /-- An expression that cannot be evaluated, or that reported an error itself. -/
  | expression (item reason : String)
  | remoteVar (name : String) (fault : RemoteFault)
  | range (fault : RangeFault)
  | fileWrite (path reason : String)
  /-- A declared value that is neither a text nor a list of texts. -/
  | unsupportedType (key : String)
  | hook (fault : HookFault)
  | io (reason : String)
  | outputDirectoryExists (path : String)
  | documentNotFound (path : String)
  | aborted
  deriving DecidableEq, Repr

/-- The wording of an error, as it is shown and as it is embedded in the error of an importer. -/
def Error.message : Error → String
  | .parse line column reason =>
    "Parse error at line " ++ toString line ++ ", column " ++ toString column ++ ": " ++ reason
      ++ "."
  | .importing locator reason => "Import error for '" ++ locator ++ "': " ++ reason ++ "."
  | .expression item reason => "Expression error in '" ++ item ++ "': " ++ reason ++ "."
  | .remoteVar name fault => "Remote variable '" ++ name ++ "' error: " ++ fault.message ++ "."
  | .range fault => "Range error: " ++ fault.message ++ "."
  | .fileWrite path reason => "Failed to write '" ++ path ++ "': " ++ reason ++ "."
  | .unsupportedType key =>
    "Unsupported value type for '" ++ key ++ "': expected a string or a list of strings."
  | .hook fault => "Hook execution error: " ++ fault.message ++ "."
  | .io reason => "IO error: " ++ reason ++ "."
  | .outputDirectoryExists path =>
    "Output directory '" ++ path ++ "' already exists. Use --force to write into it."
  | .documentNotFound path => "Template document '" ++ path ++ "' does not exist."
  | .aborted => "aborted"

end Scaffold
