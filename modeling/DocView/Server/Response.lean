import DocView.Error
import DocView.Server.Complaint
import DocView.Server.Rendering

/-!
# Responses

What the server answers: a status, a body and a few headers. The body is a value in most cases,
and the list of complaints if the request was not well formed.

A body that cannot be rendered is not sent, whatever has been done by then; the answer is a failure
of the server. The reason for such a failure is told only to those who debug. A declared form is
for responses that are all right: what is refused, or has failed, is told as it stands.

## Main definitions

* `Server.Response`, `Server.Content`
* `Server.Response.ofError`, `Server.Response.send`
-/

namespace DocView.Server

/-- The body of a response. -/
inductive Content where
  | empty
  | value (v : Value)
  | complaints (list : List Complaint)
deriving Repr, Inhabited

/-- The body as it is rendered. A complaint quotes the part that it is about, as it stands. -/
def Content.render (rendering : Rendering) (declared : Option Nat) : Content → Except String Content
  | .empty => .ok .empty
  | .value v => (rendering declared v).map .value
  | .complaints list =>
    (list.mapM fun c => (rendering none c.part).map fun part => { c with part := part }).map
      .complaints

/-- A response. -/
structure Response where
  status : Nat
  content : Content
  headers : List (String × String)
deriving Repr, Inhabited

namespace Response

/-- A response with a value. -/
def ofValue (status : Nat) (v : Value) : Response := ⟨status, .value v, []⟩

/-- A response that is all right. -/
def ok (v : Value) : Response := ofValue 200 v

/-- A response that says in words why a request is refused. -/
def refusal (status : Nat) (detail : String) : Response :=
  ofValue status (.record [("detail", .str detail)])

/-- The response to a request that is not well formed. -/
def malformed (complaints : List Complaint) : Response := ⟨422, .complaints complaints, []⟩

/-- A response that reports a failure. -/
def failure (status : Nat) (title : String) (detail : Value) : Response :=
  ofValue status
    (.record [("success", .bool false), ("error", .str title), ("detail", detail)])

/-- The response to a failure of the server. -/
def internalFailure (debugging : Bool) (reason : String) : Response :=
  failure 500 "Internal server error" (if debugging then .str reason else .null)

/-- The response to a failure. -/
def ofError (debugging : Bool) (e : Error) : Response :=
  match e.category with
  | .queryNotFound => failure 404 "Not found" (.str e.message)
  | .validation | .queryParse => failure 400 "Bad request" (.str e.message)
  | _ => internalFailure debugging e.message

/-- A message that something has been done. -/
def success (message : String) (data : Value) : Response :=
  ok (.record [("success", .bool true), ("message", .str message), ("data", data)])

/-- The response that is sent: the given one if its body can be rendered. Levels of the body may be
declared for a response that is all right. -/
def send (rendering : Rendering) (declared : Option Nat) (debugging : Bool) (r : Response) :
    Response :=
  match r.content.render rendering (if r.status < 400 then declared else none) with
  | .ok content => { r with content := content }
  | .error reason => internalFailure debugging reason

end Response

end DocView.Server
