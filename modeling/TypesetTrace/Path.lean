import TypesetTrace.Text.Basic

/-! Paths whose components are separated by slashes. They are resolved by their spelling alone:
no link is followed and nothing is looked up. -/
namespace TypesetTrace.Path
open Text

def isAbsolute : Text → Bool
  | '/' :: _ => true
  | _ => false

/-- Relative paths are taken from here. -/
structure WorkingDirectory where
  path : Text
  isAbsolute_path : isAbsolute path
  deriving DecidableEq, Repr

def WorkingDirectory.usual : WorkingDirectory := ⟨"/cwd".toList, rfl⟩

/-- The path `p` taken from the directory `dir`; an absolute `p` stands for itself. -/
def join (dir p : Text) : Text :=
  if isAbsolute p then p
  else match dir.getLast? with
    | none => p
    | some '/' => dir ++ p
    | some _ => dir ++ '/' :: p

theorem isAbsolute_append {p : Text} (h : isAbsolute p) (x : Text) : isAbsolute (p ++ x) := by
  unfold isAbsolute at h
  split at h
  · rfl
  · cases h

theorem isAbsolute_join {dir : Text} (h : isAbsolute dir) (p : Text) : isAbsolute (join dir p) := by
  rw [join]
  split
  · assumption
  · split
    · rename_i hnone
      rw [List.getLast?_eq_none_iff.mp hnone] at h
      cases h
    · exact isAbsolute_append h p
    · exact isAbsolute_append h ('/' :: p)

/-- The slashes that a normal path keeps in front: exactly two stay two, more become one. -/
def root : Text → Text
  | '/' :: '/' :: '/' :: _ => ['/']
  | '/' :: '/' :: _ => ['/', '/']
  | '/' :: _ => ['/']
  | _ => []

def components (p : Text) : List Text := cutAt (· == '/') p

def here : Text := ['.']
def up : Text := ['.', '.']

/-- One more component below the ones read so far, which are given last first. The way up takes
the last component away; above the root it leads nowhere. -/
def descend (rooted : Bool) (taken : List Text) (c : Text) : List Text :=
  if c = [] ∨ c = here then taken
  else if c = up then
    match taken with
    | [] => if rooted then [] else [up]
    | last :: rest => if last = up then up :: last :: rest else rest
  else c :: taken

def spell (root : Text) (names : List Text) : Text :=
  match root ++ Text.join ['/'] names with
  | [] => here
  | p => p

/-- The shortest spelling: no empty component, no `.`, and `..` only where nothing can be taken
away. -/
def normalise (p : Text) : Text :=
  spell (root p) ((components p).foldl (descend (root p != [])) []).reverse

def absolute (working : WorkingDirectory) (p : Text) : Text := normalise (join working.path p)

def stepsBetween : List Text → List Text → List Text
  | a :: start, b :: goal =>
    if a = b then stepsBetween start goal else (a :: start).map (fun _ => up) ++ b :: goal
  | start, goal => start.map (fun _ => up) ++ goal

def names (p : Text) : List Text := (components p).filter fun c => c ≠ [] ∧ c ≠ here

def relativeTo (dir p : Text) : Text :=
  spell [] (stepsBetween (names (normalise dir)) (names (normalise p)))

/-- Everything before the last component, without the slashes at its end unless it has nothing
but slashes. -/
def directory (p : Text) : Text :=
  let head := trimEnd (· != '/') p
  match trimEnd (· == '/') head with
  | [] => head
  | h => h

/-- The path without the extension of its last component. Dots at the start of the component
belong to its name. -/
def withoutExtension (p : Text) : Text :=
  let name := (p.reverse.takeWhile (· != '/')).reverse
  let isPlain (c : Char) : Bool := c == '.'
  match name.dropWhile isPlain with
  | [] => p
  | stem =>
    if stem.contains '.' then
      (trimEnd (· != '.') p).dropLast
    else p

end TypesetTrace.Path
