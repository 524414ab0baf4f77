import TypesetTrace.Text.Basic

/-! Reading a text from the front with a choice of where a run ends. `longest` and `shortest`
try every end of a run of characters in an order of preference and keep the first one after
which the rest can be read; `anywhere` looks for the first place of a text that can be read. -/
namespace TypesetTrace.Text
variable {α : Type}

/-- The longest run in `p` after which `k` reads the rest, with what `k` found there. -/
def longest (p : Char → Bool) (k : Text → Option α) : Text → Option (Text × α)
  | [] => (k []).map ([], ·)
  | c :: s =>
    match if p c then longest p k s else none with
    | some (t, a) => some (c :: t, a)
    | none => (k (c :: s)).map ([], ·)

def shortest (p : Char → Bool) (k : Text → Option α) : Text → Option (Text × α)
  | [] => (k []).map ([], ·)
  | c :: s =>
    match k (c :: s) with
    | some a => some ([], a)
    | none => if p c then (shortest p k s).map fun (t, a) => (c :: t, a) else none

def longestNonempty (p : Char → Bool) (k : Text → Option α) : Text → Option (Text × α)
  | [] => none
  | c :: s => if p c then (longest p k s).map fun (t, a) => (c :: t, a) else none

def anywhere (k : Text → Option α) : Text → Option (Text × α) := shortest (fun _ => true) k

/-- The whole run in `p` at the front, if there is one, and what follows it. -/
def run? (p : Char → Bool) (s : Text) : Option (Text × Text) :=
  match s.takeWhile p with
  | [] => none
  | t => some (t, s.dropWhile p)

/-- The rest of the line, where nothing but a last line break may follow it. -/
def restOfLine? (s : Text) : Option (Text × Text) :=
  if endsLine (s.dropWhile isInLine) then some (s.takeWhile isInLine, s.dropWhile isInLine)
  else none

end TypesetTrace.Text
