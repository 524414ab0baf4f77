import TypesetTrace.Navigation.Origin
import TypesetTrace.Navigation.Position
import TypesetTrace.Navigation.Slot

/-! The questions that can be asked about a source file. Each loads the synchronisation data first
and answers with nothing where there is none. -/
namespace TypesetTrace.Navigation
open Sync
variable {K : Type} [Scalar K]

structure Navigator where
  suffixes : List Text := defaultSuffixes

namespace Navigator

def load (nav : Navigator) (fs : Files) (source : Text) (slot : Slot K) :
    Access K (Option (Document K)) :=
  Navigation.load nav.suffixes fs source slot

def forward (nav : Navigator) (fs : Files) (source : Text) (line : Int) (slot : Slot K) :
    Access K (Option (Position K)) :=
  (nav.load fs source slot).bind fun
    | none => .ok none
    | some d => position fs.working source line d

def inverse (nav : Navigator) (fs : Files) (source : Text) (page : Int) (x y : K)
    (slot : Slot K) : Access K (Option Origin) :=
  (nav.load fs source slot).bind fun d => .ok (d.bind (origin? fs source page x y))

def lineMap (nav : Navigator) (fs : Files) (source : Text) (slot : Slot K) :
    Access K (List (Anchor K)) :=
  (nav.load fs source slot).bind fun d => .ok ((d.map (anchors fs.working source)).getD [])

end Navigator
end TypesetTrace.Navigation
