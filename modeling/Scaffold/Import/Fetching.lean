import Scaffold.Import.Loading
import Scaffold.Remote.Message
import Scaffold.System
import Scaffold.Url.Reading

/-!
# Fetching — documents from files and from the web
-/

set_option autoImplicit false

namespace Scaffold

namespace Loader

/-- The bytes of a file; what is no file does not exist. -/
def fetchFile (path : String) : System (Except Error Bytes) := do
  match ← System.kind path with
  | some .file => do
    match ← System.read path with
    | .ok content => return .ok content
    | .error fault => return .error (.io fault.message)
  | _ => return .error (.documentNotFound path)

/-- The request for a document; certificates are not checked. -/
def request (u : Url) : Http.Request := { url := u.text, skipVerify := true }

/-- The body of a document on the web. -/
def fetchWeb (address : String) : System (Except Error Bytes) := do
  let failed (reason : String) : Except Error Bytes := .error (.importing address reason)
  match Url.ofText? address with
  | none => return failed "builder error"
  | some u =>
    let u := u.bare
    if !u.isSendable then return failed ("builder error for url (" ++ u.text ++ ")")
    else
      match ← System.exchange (request u) with
      | .error reason => return failed reason
      | .ok reply =>
        match Http.statusFault? reply.status with
        | some fault => return failed (fault ++ " for url (" ++ u.text ++ ")")
        | none => return .ok reply.body

/-- What tells a document apart from others: the absolute path of its file, if there is one. -/
def identityOf : Source → System String
  | .file path => do return (← System.canonical path).getD path
  | .web address => return address

/-- Fetches documents from files and from the web. -/
def everywhere : Loader System where
  fetch
    | .file path => fetchFile path
    | .web address => fetchWeb address
  identity := identityOf

/-- Fetches documents from files only. -/
def filesOnly : Loader System where
  fetch
    | .file path => fetchFile path
    | .web address =>
      return .error (.importing address "remote documents are not available to this loader")
  identity := identityOf

end Loader

end Scaffold
