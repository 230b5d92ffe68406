import DocView.Text.Occurrence

/-!
# Routes

Which service a method and a path lead to. The routes are tried in order, and the first one of the
right method and path is taken. A path that some route has, but only under other methods, is told
apart from one that no route has. A slash too many at the end is forgiven.

## Main definitions

* `Server.Endpoint`, `Server.Route`
* `Server.routes`, `Server.resolve`
-/

namespace DocView.Server

/-- The services that a client can ask for. -/
inductive Endpoint where
  | about
  | listQueries
  | createQuery
  | exportQueries
  | importQueries
  | fetchQuery (id : String)
  | updateQuery (id : String)
  | deleteQuery (id : String)
  | discoverFields
  | processDocuments
  | buildQuery
  | parseQuery
  | health
  | settings
deriving DecidableEq, Repr

/-- How many levels of its responses a service declares, down to where any value may stand; none if
it declares nothing. -/
def Endpoint.declared : Endpoint → Option Nat
  | .createQuery | .fetchQuery _ | .updateQuery _ => some 1
  | .listQueries | .importQueries | .deleteQuery _ | .discoverFields | .processDocuments
  | .buildQuery | .health => some 2
  | .parseQuery => some 3
  | .about | .exportQueries | .settings => none

/-- The paths of a route, and the service that each of them leads to. -/
inductive Pattern where
  | exactly (path : String) (endpoint : Endpoint)
  /-- A path that goes on with one more name. -/
  | below (path : String) (endpoint : String → Endpoint)

/-- A route. -/
structure Route where
  method : String
  pattern : Pattern

/-- The service that a path leads to by a route, whatever the method. -/
def Route.endpoint? (r : Route) (path : String) : Option Endpoint :=
  match r.pattern with
  | .exactly p endpoint => if path = p then some endpoint else none
  | .below p endpoint =>
    let start := p ++ "/"
    let name := path.toList.drop start.length
    if Text.startsWith path start && !name.isEmpty && !name.contains '/' then
      some (endpoint (String.ofList name))
    else none

/-- The routes of the server, in order. -/
def routes (pathPrefix : String) : List Route :=
  let queries := pathPrefix ++ "/queries"
  [⟨"GET", .exactly queries .listQueries⟩,
   ⟨"POST", .exactly queries .createQuery⟩,
   ⟨"GET", .exactly (queries ++ "/export/all") .exportQueries⟩,
   ⟨"POST", .exactly (queries ++ "/import") .importQueries⟩,
   ⟨"GET", .below queries .fetchQuery⟩,
   ⟨"PUT", .below queries .updateQuery⟩,
   ⟨"DELETE", .below queries .deleteQuery⟩,
   ⟨"POST", .exactly (pathPrefix ++ "/documents/fields") .discoverFields⟩,
   ⟨"POST", .exactly (pathPrefix ++ "/documents/process") .processDocuments⟩,
   ⟨"POST", .exactly (pathPrefix ++ "/query/build") .buildQuery⟩,
   ⟨"POST", .exactly (pathPrefix ++ "/query/parse") .parseQuery⟩,
   ⟨"GET", .exactly (pathPrefix ++ "/health") .health⟩,
   ⟨"GET", .exactly (pathPrefix ++ "/settings") .settings⟩,
   ⟨"GET", .exactly "/" .about⟩]

/-- Where a request leads. -/
inductive Destination where
  | endpoint (e : Endpoint)
  | otherMethod
  | nowhere
deriving DecidableEq, Repr

/-- Where a path leads that is taken as it stands. -/
def resolveExactly (table : List Route) (method path : String) : Destination :=
  let fitting := table.filter fun r => (r.endpoint? path).isSome
  match (fitting.filter fun r => r.method == method).findSome? fun r => r.endpoint? path with
  | some e => .endpoint e
  | none => if fitting.isEmpty then .nowhere else .otherMethod

/-- A path without slashes at its end. -/
def withoutFinalSlash (path : String) : String :=
  String.ofList (path.toList.reverse.dropWhile (· == '/')).reverse

/-- Where a request leads. -/
def resolve (table : List Route) (method path : String) : Destination :=
  match resolveExactly table method path with
  | .nowhere => resolveExactly table method (withoutFinalSlash path)
  | destination => destination

end DocView.Server
