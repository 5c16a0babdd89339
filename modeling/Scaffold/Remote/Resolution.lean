import Scaffold.Encoding.Digits
import Scaffold.Remote.Pipeline
import Scaffold.Remote.Prepared
import Scaffold.Remote.Message
import Scaffold.Url.Reading
import Scaffold.Work

/-!
# Resolution — remote variables to responses

A prepared request is sent, its reply judged, and the body of the reply goes through the stages of
a parser. A judge rejects a reply by what it says; without a judge only the status 200 is accepted.
-/

set_option autoImplicit false

namespace Scaffold

open Scaffold.Expr (Value)

namespace Resolution

/-- The characters of methods and of names of headers. -/
def isTokenChar (c : Char) : Bool :=
  c.isAlphanum || "!#$%&'*+-.^_\x60|~".toList.contains c

/-- A method or the name of a header. -/
def isToken (text : String) : Bool :=
  !text.isEmpty && text.toList.all isTokenChar

/-- The value of a header. -/
def isHeaderValue (text : String) : Bool :=
  text.toList.all fun c => c == '\t' || (32 ≤ c.toNat && c.toNat != 127)

/-- Fails for a remote variable. -/
def fail {α : Type} (name : String) (fault : RemoteFault) : Work α :=
  Work.fail (.remoteVar name fault)

/-- Reads the files of a body, in order. -/
def readFiles (name : String) : Pairs → Work (List Http.Part)
  | [] => return []
  | (field, path) :: files => do
    let content ← Work.ofSystem do
      match ← System.read path with
      | .ok content => return .ok content
      | .error fault => return .error (.remoteVar name (.unreadable path fault.message))
    let part : Http.Part := ⟨field, some ((Path.fileName? path).getD ""), content⟩
    return part :: (← readFiles name files)

/-- The body as it is sent. -/
def readBody (name : String) : PreparedBody → Work Http.Body
  | .none => return .none
  | .raw text => return .content (Utf8.ofString text)
  | .form pairs => return .content (Utf8.ofString (FormUrl.encode pairs))
  | .multipart files fields => do
    let parts ← readFiles name files
    return .multipart (parts ++ fields.map fun (name, value) => ⟨name, none, Utf8.ofString value⟩)

/-- The type of a form. -/
def formType : String × String := ("content-type", "application/x-www-form-urlencoded")

/-- The header that stands for name and password in an address. -/
def authorization (u : Url) : Pairs :=
  match u.login? with
  | none => []
  | some (name, password) =>
    let token := Base64.encode (name ++ Utf8.ofString ":" ++ password)
    [("authorization", "Basic " ++ String.ofList token)]

/-- The request that is sent, or why none can be built. -/
def request (p : Prepared) (body : Http.Body) : Except String Http.Request :=
  match Url.ofText? p.url with
  | none => .error "builder error"
  | some u =>
    if u.host.isNone then .error ("builder error for url (" ++ u.text ++ ")")
    else if !p.headers.all fun (name, value) => isToken name && isHeaderValue value then
      .error "builder error"
    else if !u.bare.isSendable then .error ("builder error for url (" ++ u.bare.text ++ ")")
    else
      let form := match p.body with
        | .form _ => if p.hasHeader "content-type" then [] else [formType]
        | _ => []
      .ok {
        method := p.method
        url := u.bare.text
        headers := authorization u ++ p.headers ++ form
        body
        skipVerify := p.skipVerify }

/-- The headers of a reply: values of one name are joined. -/
def replyHeaders (headers : List (String × Bytes)) : OrderedMap String :=
  headers.foldl (fun m (name, value) =>
    let value := Utf8.toStringLossy value
    m.set name (match m.get? name with | some before => before ++ ", " ++ value | none => value))
    .empty

/-- The response with the raw body. -/
def received (reply : Http.Reply) : Response :=
  { status := reply.status
    reason := Http.reason reply.status
    headers := replyHeaders reply.headers
    data := .bytes reply.body }

/-- Sends a request. -/
def send (name : String) (request : Http.Request) : Work Http.Reply :=
  Work.ofSystem do
    match ← System.exchange request with
    | .ok reply => return .ok reply
    | .error reason => return .error (.remoteVar name (.network reason))

/-- The error of a judge that could not be evaluated. -/
def judgeError (name : String) : Error → Error
  | .aborted => .aborted
  | e => .remoteVar name (.judgeFailed e.message)

/-- Judges a response: what the judge says rejects it, and without a judge the status counts. -/
def judge (name : String) (spec : RemoteSpec) (r : Response) (names : Bindings) : Step Unit := do
  if Text.isBlankText spec.responseJudge then
    if r.status = 200 then return ()
    else Step.fail (.remoteVar name (.status r.status r.reason))
  else
    Step.modify (·.setData r.toValue)
    let verdict ← Step.mapError (judgeError name) (Prepared.trimmed spec.responseJudge names)
    if verdict.isEmpty then return () else Step.fail (.remoteVar name (.rejected verdict))

/-- Parses the body of a response. -/
def parse (name : String) (spec : RemoteSpec) (r : Response) (body : Bytes) : Step Response :=
  match Pipeline.run spec.responseParser body with
  | .ok data => return { r with data }
  | .error fault => Step.fail (.remoteVar name (.stage fault.message))

/-- Evaluates what a response is turned into at last: the value returned, or else the text. -/
def refine (spec : RemoteSpec) (r : Response) (names : Bindings) : Step Response := do
  if Text.isBlankText spec.postResponseParser then return r
  else
    Step.modify (·.setData r.toValue)
    let e ← evaluate spec.postResponseParser names
    return { r with data := e.returned.getD (.text e.text) }

/-- What a remote variable gets from a reply. -/
def accept (name : String) (spec : RemoteSpec) (reply : Http.Reply) (names : Bindings) :
    Step Response := do
  let r := received reply
  judge name spec r names
  refine spec (← parse name spec r reply.body) names

/-- Sends a prepared request and takes the reply. -/
def execute (name : String) (spec : RemoteSpec) (p : Prepared) (names : Bindings) :
    Work Response := do
  if !isToken p.method then fail name (.invalidMethod p.method)
  else
    let body ← readBody name p.body
    match request p body with
    | .error reason => fail name (.network reason)
    | .ok request => do
      let reply ← send name request
      Work.ofStep (accept name spec reply names)

/-- Resolves a remote variable. -/
def resolve (sourceRoot name : String) (spec : RemoteSpec) (names : Bindings) : Work Response := do
  let p ← Work.ofStep (Prepared.ofSpec sourceRoot name spec names)
  execute name spec p names

end Resolution

end Scaffold
