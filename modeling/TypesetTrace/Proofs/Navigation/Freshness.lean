import TypesetTrace.Navigation.Navigator

/-! The slot does not show in the replies of a navigator, as long as it is cleared between a change
of the files and the next question. The invariant is that it holds what would be read now. -/
namespace TypesetTrace.Navigation
open Sync
variable {K : Type}

theorem Slot.get?_store (path source : Text) (d : Document K) (slot : Slot K) :
    (slot.store path d).get? source = if path = source then some d else none := rfl

theorem Access.bind_bind {α β γ : Type} (a : Access K α) (f : α → Except Fault β)
    (g : β → Except Fault γ) : (a.bind f).bind g = a.bind fun x => (f x).bind g := by
  cases h : a.result <;> simp [Access.bind, h, Except.bind]

variable [Scalar K]

/-- The document in the slot is the one that would be read now for the path in the slot. -/
def Slot.IsFresh (suffixes : List Text) (fs : Files) (slot : Slot K) : Prop :=
  ∀ source d, slot.get? source = some d → (fetch suffixes fs source).1 = .ok (some d)

theorem Slot.isFresh_none (suffixes : List Text) (fs : Files) :
    Slot.IsFresh suffixes fs (none : Slot K) := fun _ _ h => nomatch h

theorem load_of_hit {suffixes : List Text} {fs : Files} {source : Text} {slot : Slot K}
    {d : Document K} (h : slot.get? source = some d) :
    load suffixes fs source slot = ⟨.ok (some d), slot, []⟩ := by
  rw [load, h]

/-- A look-up past the slot stores the document that it read, and nothing else. -/
theorem load_of_miss {suffixes : List Text} {fs : Files} {source : Text} {slot : Slot K}
    (h : slot.get? source = none) :
    (load suffixes fs source slot).result = (fetch suffixes fs source).1 ∧
      (load suffixes fs source slot).slot =
        match (fetch (K := K) suffixes fs source).1 with
        | .ok (some d) => slot.store source d
        | _ => slot := by
  rw [load, h]
  obtain ⟨(_ | _ | d), opened⟩ := fetch (K := K) suffixes fs source <;> exact ⟨rfl, rfl⟩

theorem load_result {suffixes : List Text} {fs : Files} {slot : Slot K}
    (hf : slot.IsFresh suffixes fs) (source : Text) :
    (load suffixes fs source slot).result = (fetch suffixes fs source).1 := by
  cases h : slot.get? source with
  | some d => rw [load_of_hit h, hf source d h]
  | none => exact (load_of_miss h).1

theorem load_isFresh {suffixes : List Text} {fs : Files} {slot : Slot K}
    (hf : slot.IsFresh suffixes fs) (source : Text) :
    (load suffixes fs source slot).slot.IsFresh suffixes fs := by
  cases h : slot.get? source with
  | some d =>
    rw [load_of_hit h]
    exact hf
  | none =>
    rw [(load_of_miss h).2]
    split
    · rename_i d hd
      intro path e he
      rw [Slot.get?_store] at he
      split at he
      · rename_i hp
        rw [← hp, hd, Option.some.inj he]
      · cases he
    · exact hf

inductive Query (K : Type) where
  | load (source : Text)
  | forward (source : Text) (line : Int)
  | inverse (source : Text) (page : Int) (x y : K)
  | lineMap (source : Text)

def Query.source : Query K → Text
  | .load source | .forward source _ | .inverse source _ _ _ | .lineMap source => source

inductive Reply (K : Type) where
  | document (d : Option (Document K))
  | position (p : Option (Position K))
  | origin (o : Option Origin)
  | anchors (as : List (Anchor K))

def Navigator.ask (nav : Navigator) (fs : Files) (slot : Slot K) : Query K → Access K (Reply K)
  | .load source => (nav.load fs source slot).bind (.ok ∘ .document)
  | .forward source line => (nav.forward fs source line slot).bind (.ok ∘ .position)
  | .inverse source page x y => (nav.inverse fs source page x y slot).bind (.ok ∘ .origin)
  | .lineMap source => (nav.lineMap fs source slot).bind (.ok ∘ .anchors)

/-- One thing that happens to a navigator or to the files that it reads. -/
inductive Step (K : Type) where
  | ask (q : Query K)
  | clear
  | write (path : Text) (content : Stored)
  | delete (path : Text)

/-- The slot is cleared between every change of the files and the next question. The files were
changed and the slot not cleared yet if they are `changed`. -/
def Disciplined (changed : Bool) : List (Step K) → Prop
  | [] => True
  | .ask _ :: rest => changed = false ∧ Disciplined changed rest
  | .clear :: rest => Disciplined false rest
  | .write _ _ :: rest | .delete _ :: rest => Disciplined true rest

namespace Navigator
variable (nav : Navigator)

def replies : List (Step K) → Files → Slot K → List (Except Fault (Reply K))
  | [], _, _ => []
  | .ask q :: rest, fs, slot =>
    (nav.ask fs slot q).result :: replies rest fs (nav.ask fs slot q).slot
  | .clear :: rest, fs, _ => replies rest fs none
  | .write path content :: rest, fs, slot => replies rest (fs.write path content) slot
  | .delete path :: rest, fs, slot => replies rest (fs.delete path) slot

/-- The replies where every question is asked of a navigator that keeps nothing yet. -/
def freshReplies : List (Step K) → Files → List (Except Fault (Reply K))
  | [], _ => []
  | .ask q :: rest, fs => (nav.ask fs none q).result :: freshReplies rest fs
  | .clear :: rest, fs => freshReplies rest fs
  | .write path content :: rest, fs => freshReplies rest (fs.write path content)
  | .delete path :: rest, fs => freshReplies rest (fs.delete path)

variable {nav} {fs : Files} {slot : Slot K}

theorem bind_load_result {α : Type} (hf : slot.IsFresh nav.suffixes fs) (source : Text)
    (f : Option (Document K) → Except Fault α) :
    ((nav.load fs source slot).bind f).result = ((nav.load fs source none).bind f).result := by
  have hload : (nav.load fs source slot).result = (nav.load fs source none).result :=
    (load_result hf source).trans (load_result (Slot.isFresh_none _ _) source).symm
  exact congrArg (·.bind f) hload

/-- Every question looks one document up and computes its reply from that. -/
theorem ask_eq_bind_load (nav : Navigator) (fs : Files) (q : Query K) :
    ∃ f, ∀ slot, nav.ask fs slot q = (nav.load fs q.source slot).bind f := by
  cases q with
  | load source => exact ⟨_, fun _ => rfl⟩
  | forward source line => exact ⟨_, fun _ => Access.bind_bind _ _ _⟩
  | inverse source page x y => exact ⟨_, fun _ => Access.bind_bind _ _ _⟩
  | lineMap source => exact ⟨_, fun _ => Access.bind_bind _ _ _⟩

theorem ask_result (hf : slot.IsFresh nav.suffixes fs) (q : Query K) :
    (nav.ask fs slot q).result = (nav.ask fs none q).result := by
  obtain ⟨f, h⟩ := ask_eq_bind_load nav fs q
  rw [h, h]
  exact bind_load_result hf q.source f

theorem ask_isFresh (hf : slot.IsFresh nav.suffixes fs) (q : Query K) :
    (nav.ask fs slot q).slot.IsFresh nav.suffixes fs := by
  obtain ⟨f, h⟩ := ask_eq_bind_load nav fs q
  rw [h]
  exact load_isFresh hf q.source

/-- The slot may hold anything after a change of the files, since it is cleared before it is looked
at again. -/
theorem replies_eq_freshReplies {steps : List (Step K)} {changed : Bool}
    (hs : Disciplined changed steps) (hf : changed = false → slot.IsFresh nav.suffixes fs) :
    nav.replies steps fs slot = nav.freshReplies steps fs := by
  induction steps generalizing fs slot changed with
  | nil => rfl
  | cons step rest ih =>
    cases step with
    | ask q =>
      obtain ⟨hc, hrest⟩ := hs
      have hnow := hf hc
      rw [replies, freshReplies, ask_result hnow, ih hrest fun _ => ask_isFresh hnow q]
    | clear => exact ih hs fun _ => Slot.isFresh_none _ _
    | write path content => exact ih hs nofun
    | delete path => exact ih hs nofun

end Navigator
end TypesetTrace.Navigation
