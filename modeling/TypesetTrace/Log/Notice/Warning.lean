import TypesetTrace.Text.Digit
import TypesetTrace.Text.Match

/-! Warnings and informations: those that a package, a class or the kernel announces, their
continuation lines, references that were not found, and characters that a font lacks. -/
namespace TypesetTrace.Log
open Text

/-- A line such as `Package p Warning: body on input line 3.` -/
structure Announcement where
  emitter : Text
  isWarning : Bool
  body : Text
  line : Option Text
  /-- The full stop or question mark at the end, if there is one. -/
  stop : Text
  deriving DecidableEq, Repr

def stop? : Text → Option (Text × Text)
  | c :: r =>
    if (c == '.' || c == '?') && endsLine r then some ([c], r)
    else if endsLine (c :: r) then some ([], c :: r) else none
  | [] => some ([], [])

def inputLine? (s : Text) : Option (Text × Text) := do
  let rest ← after? " on".toList s
  let rest := (after? " input".toList rest).getD rest
  run? isDigit (← after? " line ".toList rest)

def announcementEnd? (s : Text) : Option (Option Text × Text × Text) :=
  let located : Option (Option Text × Text × Text) := do
    let (line, rest) ← inputLine? s
    let (stop, rest) ← stop? rest
    some (some line, stop, rest)
  located.or ((stop? s).map fun (stop, rest) => (none, stop, rest))

def isWordChar (c : Char) : Bool := !isBlank c

/-- The emitters that the front of a line can be read as, the preferred one first, each with
what follows it. -/
def emitters (s : Text) : List (Text × Text) :=
  let named (word : Text) : List (Text × Text) :=
    match after? word s with
    | some rest => [(word ++ rest.takeWhile isWordChar, rest.dropWhile isWordChar)]
    | none => []
  let plain (word : Text) : List (Text × Text) :=
    ((after? word s).map fun rest => (word, rest)).toList
  named "Class ".toList ++ named "Package ".toList ++ named "Module ".toList ++
    named "LaTeX ".toList ++ plain "LaTeX".toList ++ plain "LaTeX3".toList

def seriousness? (s : Text) : Option (Bool × Text) :=
  ((after? " Warning:".toList s).map (true, ·)).or ((after? " Info:".toList s).map (false, ·))

def afterBlanks? (s : Text) : Option Text := (run? isBlank s).map (·.2)

def Announcement.ofLine? (s : Text) : Option (Announcement × Text) :=
  (emitters s).findSome? fun (emitter, rest) => do
    let (isWarning, rest) ← seriousness? rest
    let rest ← afterBlanks? rest
    let (body, line, stop, rest) ← shortest isInLine announcementEnd? rest
    some (⟨emitter, isWarning, body, line, stop⟩, rest)

/-- A line such as `(p)   more text on input line 3.` that continues a package's message. -/
structure Continuation where
  name : Text
  body : Text
  line : Option Text
  stopped : Bool
  deriving DecidableEq, Repr

def fullStop? : Text → Option (Bool × Text)
  | '.' :: r => if endsLine r then some (true, r) else none
  | s => if endsLine s then some (false, s) else none

def laterInputLine? (s : Text) : Option (Text × Text) := do
  let (_, rest) ← run? (· == ' ') s
  run? isDigit (← after? "on input line ".toList rest)

def continuationEnd? (s : Text) : Option (Option Text × Bool × Text) :=
  let located : Option (Option Text × Bool × Text) := do
    let (line, rest) ← laterInputLine? s
    let (stopped, rest) ← fullStop? rest
    some (some line, stopped, rest)
  located.or ((fullStop? s).map fun (stopped, rest) => (none, stopped, rest))

/-- The name reaches to the last closing parenthesis after which the line can be read. -/
def Continuation.ofLine? : Text → Option (Continuation × Text)
  | '(' :: s =>
    let inside : Text → Option (Text × Option Text × Bool × Text)
      | ')' :: r => do shortest isInLine continuationEnd? (← afterBlanks? r)
      | _ => none
    (longest isInLine inside s).map
      fun (name, body, line, stopped, rest) => (⟨name, body, line, stopped⟩, rest)
  | _ => none

inductive KeyKind where
  | reference | citation
  deriving DecidableEq, Repr

def KeyKind.word : KeyKind → Text
  | .reference => "Reference".toList
  | .citation => "Citation".toList

def KeyKind.inSentence : KeyKind → Text
  | .reference => "reference".toList
  | .citation => "citation".toList

structure Unresolved where
  kind : KeyKind
  key : Text
  line : Text
  deriving DecidableEq, Repr

/-- The line number is followed by exactly one more character, a full stop as a rule. -/
def lastNumber? (s : Text) : Option (Text × Text) :=
  longestNonempty isDigit (fun
    | c :: r => if isInLine c && endsLine r then some r else none
    | [] => none) s

def unresolvedEnd? (s : Text) : Option (Text × Text) := do
  let (_, rest) ← run? isDigit (← after? "' on page ".toList s)
  lastNumber? (← after? " undefined on input line ".toList rest)

def Unresolved.ofLine? (s : Text) : Option (Unresolved × Text) := do
  let rest ← after? "LaTeX Warning: ".toList s
  let (kind, rest) ←
    ((after? KeyKind.reference.word rest).map (KeyKind.reference, ·)).or
      ((after? KeyKind.citation.word rest).map (KeyKind.citation, ·))
  let rest ← after? [' ', '\x60'] rest
  let (key, line, rest) ← shortest isInLine unresolvedEnd? rest
  some (⟨kind, key, line⟩, rest)

def missingCharacter? (s : Text) : Option (Text × Text) := do
  let word := "Missing character:".toList
  let rest ← after? word (s.dropWhile isBlank)
  let inside (c : Char) : Bool := c != '!' && isInLine c
  match rest.dropWhile inside with
  | '!' :: tail => some (word ++ rest.takeWhile inside ++ ['!'], tail)
  | _ => none

def unlistedKey? (s : Text) : Option (Text × Text) := do
  let rest ← after? "Biber warning:".toList s
  let keyed (s : Text) : Option (Text × Text) := do
    let rest ← after? "WARN - I didn't find a database entry for '".toList s
    let (key, rest) ← run? (· != '\x27') rest
    some (key, ← after? "'".toList rest)
  (shortest isInLine keyed rest).map (·.2)

end TypesetTrace.Log
