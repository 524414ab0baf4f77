import TypesetTrace.Text.Surrogate

/-! JSON values. Numbers keep their spelling, objects the order of their fields; strings may have
halves of surrogate pairs, which an escape can write. -/
namespace TypesetTrace
open Text

inductive Json where
  | null
  | bool (b : Bool)
  | number (spelling : Text)
  | string (s : RawText)
  | array (items : List Json)
  | object (fields : List (RawText × Json))
  deriving Inhabited

namespace Json

def field? (name : Text) (fields : List (RawText × Json)) : Option Json :=
  (fields.find? (·.1 == RawText.ofText name)).map (·.2)

/-- Of fields with one name only the last is kept. -/
def lastOfEach : List (RawText × Json) → List (RawText × Json)
  | [] => []
  | f :: rest =>
    if rest.any fun g => g.1 == f.1 then lastOfEach rest else f :: lastOfEach rest

def text? : Json → Option Text
  | .string s => s.text?
  | _ => none

end Json
end TypesetTrace
