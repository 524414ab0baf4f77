import TypesetTrace.Log.Entry
import TypesetTrace.Navigation.Navigator
import TypesetTrace.Service.Field
import TypesetTrace.Service.Json.Reader
import TypesetTrace.Text.Capital

/-! Requests and answers of the service, and reading the fields of a request. All fields are looked
at, so that every complaint is made at once. -/
namespace TypesetTrace.Service
open Text

structure Request where
  method : String
  path : Text
  query : List (Text × Text) := []
  body : Text := []
  origin : Option Text := none

structure Objection where
  complaint : Complaint
  place : List String
  given : Json := .null

inductive Page where
  | description
  | handbook
  | signIn
  | reference
  deriving DecidableEq, Repr

inductive Answer (K : Type) where
  | position (p : Navigation.Position K)
  | origin (o : Navigation.Origin)
  | lineMap (anchors : List (Navigation.Anchor K))
  | diagnostics (ds : List Log.Diagnostic)
  | page (p : Page)
  | done
  /-- The same path without the slash at its end, or with one, is to be asked for instead. -/
  | elsewhere
  | refused (status : Nat) (detail : String)
  | invalid (objections : List Objection)

def Answer.status {K : Type} : Answer K → Nat
  | .position _ | .origin _ | .lineMap _ | .diagnostics _ | .page _ => 200
  | .done => 204
  | .elsewhere => 307
  | .refused status _ => status
  | .invalid _ => 422

abbrev Checked (α : Type) := Except (List Objection) α

/-- Both values; if either is missing, the objections against both. -/
def Checked.both {α β : Type} (a : Checked α) (b : Checked β) : Checked (α × β) :=
  match a, b with
  | .ok a, .ok b => .ok (a, b)
  | .ok _, .error es => .error es
  | .error es, .ok _ => .error es
  | .error es, .error fs => .error (es ++ fs)

namespace Request

/-- The value of a query field; of fields with one name the last counts. -/
def queryField? (r : Request) (name : String) : Option Text :=
  (r.query.reverse.find? (·.1 == name.toList)).map (·.2)

def required {α : Type} (r : Request) (name : String) (read : Text → Except Complaint α) :
    Checked α :=
  let found : Except Complaint α := match r.queryField? name with
    | none => .error .missing
    | some s => read s
  found.mapError fun complaint => [{ complaint, place := ["query", name] }]

def positive (s : Text) : Except Complaint Int :=
  match integer s with
  | .ok n => if n < 1 then .error .tooSmall else .ok n
  | .error complaint => .error complaint

def file (r : Request) : Checked Text := r.required "file" .ok

def line (r : Request) : Checked Int := r.required "line" positive

def page (r : Request) : Checked Int := r.required "page" positive

def coordinate (r : Request) (name : String) : Checked Float := r.required name real

def stringField (fields : List (RawText × Json)) (name : String) : Checked RawText :=
  match Json.field? name.toList fields with
  | none => .error [⟨.missing, ["body", name], .object fields⟩]
  | some (.string s) => .ok s
  | some v => .error [⟨.notString, ["body", name], v⟩]

/-- The log and the main file in the body. `none` stands for a body that is refused before it is
known whether it is JSON. -/
def logAndRoot (r : Request) : Option (Checked (RawText × RawText)) :=
  if r.body = [] then some (.error [{ complaint := .missing, place := ["body"] }])
  else match Json.ofBytes (toUtf8 r.body) with
    | .error .malformed => some (.error [{ complaint := .notJson, place := ["body"] }])
    | .error _ => none
    | .ok (.object fields) =>
      some ((stringField fields "log").both (stringField fields "root_file"))
    | .ok v => some (.error [⟨.notObject, ["body"], v⟩])

/-- Capitals do not matter in a method. -/
def verb (r : Request) : String := String.ofList (capitals r.method.toList)

/-- An answer to a request for the head of an answer has no body. -/
def wantsBody (r : Request) : Bool := r.verb != "HEAD"

end Request
end TypesetTrace.Service
