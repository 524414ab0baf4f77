import TypesetTrace.Log.Session
import TypesetTrace.Service.Location
import TypesetTrace.Service.Request

/-! The endpoints of the service, what each of them answers, and who may read the answers. -/
namespace TypesetTrace.Service
open Text Navigation

inductive Endpoint where
  | diagnostics | forward | inverse | lineMap | cache
  deriving DecidableEq, Repr

namespace Endpoint

def path : Endpoint → Text
  | .diagnostics => "/diagnostics".toList
  | .forward => "/synctex/forward".toList
  | .inverse => "/synctex/inverse".toList
  | .lineMap => "/synctex/linemap".toList
  | .cache => "/synctex/cache".toList

def method : Endpoint → String
  | .diagnostics => "POST"
  | .forward | .inverse | .lineMap => "GET"
  | .cache => "DELETE"

def all : List Endpoint := [.diagnostics, .forward, .inverse, .lineMap, .cache]

end Endpoint

namespace Page

def location : Page → Text
  | .description => "/openapi.json".toList
  | .handbook => "/docs".toList
  | .signIn => "/docs/oauth2-redirect".toList
  | .reference => "/redoc".toList

def all : List Page := [.description, .handbook, .signIn, .reference]

end Page

inductive Target where
  | endpoint (e : Endpoint)
  | page (p : Page)
  deriving DecidableEq, Repr

namespace Target

def location : Target → Text
  | .endpoint e => base ++ e.path
  | .page p => p.location

def methods : Target → List String
  | .endpoint e => [e.method]
  | .page _ => ["GET", "HEAD"]

/-- The location is that of the target. A line break behind it is passed over. -/
def isAt (location : Text) (t : Target) : Bool :=
  match after? t.location location with
  | some rest => endsLine rest
  | none => false

def ofLocation? (location : Text) : Option Target :=
  (Endpoint.all.map Target.endpoint ++ Page.all.map Target.page).find? (isAt location)

end Target

def otherSlash (path : Text) : Text :=
  match path.getLast? with
  | some '/' => trimEnd (· == '/') path
  | _ => path ++ ['/']

/-- Source files are named by absolute paths only. -/
def sourceFile {K : Type} (file : Text) : Except (Answer K) Text :=
  if file = [] then .error (.refused 400 "Invalid file path")
  else if !Path.isAbsolute file then .error (.refused 400 "File path must be absolute")
  else .ok file

def serverFailure {K : Type} : Answer K := .refused 500 "Internal server error"

/-- Objections are sent with the values that they are about. -/
def objected {K : Type} (objections : List Objection) : Answer K :=
  if objections.all fun o => isSendable o.given then .invalid objections else serverFailure

def noData {K : Type} : Answer K :=
  .refused 404 "No SyncTeX data for this location"

def answered {K α : Type} (a : Access K α) (f : α → Answer K) : Answer K × Slot K :=
  match a.result with
  | .ok found => (f found, a.slot)
  | .error _ => (serverFailure, a.slot)

/-- Objections come first, then the path is looked at, and only then the question is asked. -/
def asking {K α : Type} (fields : Checked α) (file : α → Text) (slot : Slot K)
    (ask : α → Answer K × Slot K) : Answer K × Slot K :=
  match fields with
  | .error objections => (objected objections, slot)
  | .ok fields =>
    match sourceFile (file fields) with
    | .error answer => (answer, slot)
    | .ok _ => ask fields

def orNoData {K α : Type} (f : α → Answer K) (found : Option α) : Answer K :=
  (found.map f).getD noData

def mentions (c : Char) (d : Log.Diagnostic) : Bool :=
  d.file.contains c || d.message.contains c || d.context.any (·.contains c)

/-- The messages of a log. Halves of surrogate pairs are like any other character for the log, but
messages that have them cannot be sent. -/
def answerLog {K : Type} (working : Path.WorkingDirectory) (r : Request) : Answer K :=
  match r.logAndRoot with
  | none => .refused 400 "There was an error parsing the body"
  | some (.error objections) => objected objections
  | some (.ok (log, rootFile)) =>
    let half := unusedChar ((log ++ rootFile).filterMap id)
    match Log.diagnosticsOf (log.filled half) (rootFile.filled half) working with
    | .ok ds => if ds.any (mentions half) then serverFailure else .diagnostics ds
    | .error _ => serverFailure

def Endpoint.answer (e : Endpoint) (fs : Files) (r : Request) (slot : Slot Float) :
    Answer Float × Slot Float :=
  let nav : Navigator := {}
  match e with
  | .diagnostics => (answerLog fs.working r, slot)
  | .forward =>
    asking (r.file.both r.line) (·.1) slot fun (file, line) =>
      answered (nav.forward fs file line slot) (orNoData .position)
  | .inverse =>
    asking (r.file.both (r.page.both ((r.coordinate "x").both (r.coordinate "y")))) (·.1) slot
      fun (file, page, x, y) => answered (nav.inverse fs file page x y slot) (orNoData .origin)
  | .lineMap =>
    asking r.file id slot fun file => answered (nav.lineMap fs file slot) .lineMap
  | .cache => (.done, none)

def answer (fs : Files) (r : Request) (slot : Slot Float) : Answer Float × Slot Float :=
  let location := location r.path
  match Target.ofLocation? location with
  | some t =>
    if r.verb ∉ t.methods then (.refused 405 "Method Not Allowed", slot)
    else match t with
      | .endpoint e => e.answer fs r slot
      | .page p => (.page p, slot)
  | none =>
    if (Target.ofLocation? (otherSlash location)).isSome then (.elsewhere, slot)
    else (.refused 404 "Not Found", slot)

def allowedOrigins : List Text :=
  ["http://localhost:5173".toList, "http://127.0.0.1:5173".toList]

structure Permission where
  origin : Option Text
  credentials : Bool
  deriving DecidableEq, Repr

/-- An internal failure says nothing about who may read it. -/
def permission {K : Type} (origin : Text) (a : Answer K) : Permission :=
  if a.status = 500 then ⟨none, false⟩
  else ⟨if origin ∈ allowedOrigins then some origin else none, true⟩

end TypesetTrace.Service
