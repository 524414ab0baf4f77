import Mathlib.Logic.Function.Basic
import TypesetTrace.Proofs.Navigation.Freshness

/-! Loads that run at the same time. Only the single steps of a load exclude one another: looking
into the slot, reading the file, and storing what was read. Between them other loads take steps, the
slot is cleared and files change. The clears are counted, to tell what happened before which. -/
namespace TypesetTrace.Navigation
open Sync

/-- A document with the clears before its file was read and, if it was found in the slot, the clears
before it was stored there. -/
structure Found (K : Type) where
  document : Document K
  readAt : Nat
  storedAt : Option Nat := none

inductive Stage (K : Type) where
  /-- The slot did not have the document. -/
  | missed
  /-- The file was read; the document is not stored yet. -/
  | read (f : Found K)
  | returned (result : Except Fault (Option (Found K)))

structure Load (K : Type) where
  source : Text
  askedAt : Nat
  stage : Stage K

/-- What the loads share, and how far each of them has come. For the document in the slot it is kept
at how many clears it was read and stored. -/
structure World (K : Type) where
  files : Files
  slot : Slot K := none
  readAt : Nat := 0
  storedAt : Nat := 0
  clears : Nat := 0
  loads : Nat → Option (Load K) := fun _ => none

/-- A step of the load with the given number, or something that happens between such steps. -/
inductive Event where
  | get (id : Nat) (source : Text)
  | read (id : Nat)
  | store (id : Nat)
  | clear
  | write (path : Text) (content : Stored)
  | delete (path : Text)

variable {K : Type}

/-- Without a document there is nothing to store. -/
def Stage.ofFetched (clears : Nat) : Except Fault (Option (Document K)) → Stage K
  | .ok (some d) => .read ⟨d, clears, none⟩
  | .ok none => .returned (.ok none)
  | .error fault => .returned (.error fault)

namespace World

def withLoad (id : Nat) (l : Load K) (w : World K) : World K :=
  { w with loads := Function.update w.loads id (some l) }

theorem loads_withLoad (id : Nat) (l : Load K) (w : World K) : (w.withLoad id l).loads id = some l :=
  Function.update_self ..

/-- Only the load itself has come further. -/
theorem of_loads_withLoad {id j : Nat} {l m : Load K} {w : World K}
    (h : (w.withLoad id l).loads j = some m) : m = l ∨ w.loads j = some m := by
  by_cases hj : j = id
  · rw [hj, loads_withLoad] at h
    exact .inl (Option.some.inj h).symm
  · exact .inr ((Function.update_of_ne hj ..).symm.trans h)

def get (id : Nat) (source : Text) (w : World K) : World K :=
  w.withLoad id ⟨source, w.clears,
    match w.slot.get? source with
    | some d => .returned (.ok (some ⟨d, w.readAt, some w.storedAt⟩))
    | none => .missed⟩

/-- The document takes the slot and is returned. -/
def store (id : Nat) (source : Text) (askedAt : Nat) (f : Found K) (w : World K) : World K :=
  { w.withLoad id ⟨source, askedAt, .returned (.ok (some f))⟩ with
    slot := w.slot.store source f.document, readAt := f.readAt, storedAt := w.clears }

variable [Scalar K]

/-- A step that is not the next one of its load changes nothing. -/
def step (suffixes : List Text) (w : World K) : Event → World K
  | .get id source =>
    match w.loads id with
    | none => w.get id source
    | some _ => w
  | .read id =>
    match w.loads id with
    | some ⟨source, askedAt, .missed⟩ =>
      w.withLoad id ⟨source, askedAt, .ofFetched w.clears (fetch suffixes w.files source).1⟩
    | _ => w
  | .store id =>
    match w.loads id with
    | some ⟨source, askedAt, .read f⟩ => w.store id source askedAt f
    | _ => w
  | .clear => { w with slot := none, clears := w.clears + 1 }
  | .write path content => { w with files := w.files.write path content }
  | .delete path => { w with files := w.files.delete path }

def run (suffixes : List Text) (events : List Event) (w : World K) : World K :=
  events.foldl (step suffixes) w

/-- What every step keeps is kept over every run. -/
theorem run_induction {suffixes : List Text} {P : World K → Prop}
    (hstep : ∀ w e, P w → P (step suffixes w e)) (events : List Event) {w : World K} (hw : P w) :
    P (run suffixes events w) := by
  induction events generalizing w with
  | nil => exact hw
  | cons e rest ih => exact ih (hstep w e hw)

variable {suffixes : List Text} {w : World K} {id askedAt : Nat} {source : Text}

theorem step_get (h : w.loads id = none) : step suffixes w (.get id source) = w.get id source := by
  rw [step, h]

theorem step_read (h : w.loads id = some ⟨source, askedAt, .missed⟩) :
    step suffixes w (.read id) = w.withLoad id
      ⟨source, askedAt, .ofFetched w.clears (fetch suffixes w.files source).1⟩ := by
  rw [step, h]

theorem step_store {f : Found K} (h : w.loads id = some ⟨source, askedAt, .read f⟩) :
    step suffixes w (.store id) = w.store id source askedAt f := by
  rw [step, h]

theorem step_of_returned {r : Except Fault (Option (Found K))}
    (h : w.loads id = some ⟨source, askedAt, .returned r⟩) :
    step suffixes w (.read id) = w ∧ step suffixes w (.store id) = w := by
  rw [step, step, h]
  exact ⟨rfl, rfl⟩

/-- A load that nothing happens in between is a look-up. -/
theorem run_alone (suffixes : List Text) (w : World K) {id : Nat} (hid : w.loads id = none)
    (source : Text) :
    let w' := run suffixes [.get id source, .read id, .store id] w
    let a := load suffixes w.files source w.slot
    w'.slot = a.slot ∧ ∃ r, w'.loads id = some ⟨source, w.clears, .returned r⟩ ∧
      r.map (·.map Found.document) = a.result := by
  have hrun : run suffixes [.get id source, .read id, .store id] w =
      step suffixes (step suffixes (w.get id source) (.read id)) (.store id) := by
    rw [← step_get hid]
    rfl
  intro w' a
  cases h : w.slot.get? source with
  | some d =>
    have ha : a = ⟨.ok (some d), w.slot, []⟩ := load_of_hit h
    rw [ha, show w' = _ from hrun, get, h, (step_of_returned (loads_withLoad _ _ w)).1,
      (step_of_returned (loads_withLoad _ _ w)).2]
    exact ⟨rfl, _, loads_withLoad _ _ w, rfl⟩
  | none =>
    have hread : step suffixes (w.withLoad id ⟨source, w.clears, .missed⟩) (.read id) =
        w.withLoad id
          ⟨source, w.clears, .ofFetched w.clears (fetch suffixes w.files source).1⟩ := by
      rw [step_read (loads_withLoad _ _ w), withLoad, withLoad, Function.update_idem]
      rfl
    have hmiss : a.result = _ ∧ a.slot = _ := load_of_miss h
    rw [show w' = _ from hrun, get, h, hread, hmiss.1, hmiss.2]
    rcases (fetch suffixes w.files source).1 with fault | _ | d
    · rw [Stage.ofFetched, (step_of_returned (loads_withLoad _ _ _)).2]
      exact ⟨rfl, _, loads_withLoad _ _ _, rfl⟩
    · rw [Stage.ofFetched, (step_of_returned (loads_withLoad _ _ _)).2]
      exact ⟨rfl, _, loads_withLoad _ _ _, rfl⟩
    · rw [Stage.ofFetched, step_store (loads_withLoad _ _ _)]
      exact ⟨rfl, _, loads_withLoad _ _ _, rfl⟩

end World
end TypesetTrace.Navigation
