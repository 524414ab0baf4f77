import Mathlib.Data.List.Basic
import TypesetTrace.Proofs.Navigation.Provenance

/-! What a navigator keeps in its slot, after any questions, clears and changes of the files: the document
that the last question found, if it was asked since the last clear. Questions that find nothing leave no
trace there. Only for a source file that is not in the slot a file is opened, and then one at most. -/
namespace TypesetTrace.Navigation
open Sync
variable {K : Type}

inductive Turn (K : Type) where
  | found (source : Text) (d : Document K)
  /-- A question about a source file without a document, or whose document could not be read. -/
  | missed (source : Text)
  | cleared
  | changed

namespace Turn

def follow (slot : Slot K) : Turn K → Slot K
  | .found source d => some (source, d)
  | .missed _ | .changed => slot
  | .cleared => none

/-- Nothing was found and nothing cleared. -/
def IsIdle : Turn K → Prop
  | .missed _ | .changed => True
  | .found _ _ | .cleared => False

theorem follow_of_isIdle {t : Turn K} (h : t.IsIdle) (slot : Slot K) : t.follow slot = slot := by
  cases t with
  | missed source => rfl
  | changed => rfl
  | found source d => cases h
  | cleared => cases h

end Turn

/-- The document was found for the source file, and nothing was found or cleared since. -/
def IsLastFound (turns : List (Turn K)) (source : Text) (d : Document K) : Prop :=
  ∃ before between, turns = before ++ .found source d :: between ∧ ∀ t ∈ between, t.IsIdle

section
variable {turns : List (Turn K)} {source : Text} {d : Document K}

private theorem isLastFound_concat_of_isIdle {t : Turn K} (ht : t.IsIdle) :
    IsLastFound (turns ++ [t]) source d ↔ IsLastFound turns source d := by
  constructor
  · rintro ⟨before, between, hturns, hidle⟩
    rcases List.eq_nil_or_concat' between with rfl | ⟨between, last, rfl⟩
    · obtain ⟨-, hlast⟩ := List.append_inj' hturns rfl
      cases hlast
      cases ht
    · rw [← List.cons_append, ← List.append_assoc] at hturns
      obtain ⟨hfront, -⟩ := List.append_inj' hturns rfl
      exact ⟨before, between, hfront, fun u hu => hidle u (List.mem_append_left _ hu)⟩
  · rintro ⟨before, between, rfl, hidle⟩
    refine ⟨before, between ++ [t], by simp, ?_⟩
    intro u hu
    rcases List.mem_append.mp hu with hu | hu
    · exact hidle u hu
    · rw [List.mem_singleton.mp hu]
      exact ht

private theorem isLastFound_concat_of_not_isIdle {t : Turn K} (ht : ¬ t.IsIdle) :
    IsLastFound (turns ++ [t]) source d ↔ t = .found source d := by
  constructor
  · rintro ⟨before, between, hturns, hidle⟩
    rcases List.eq_nil_or_concat' between with rfl | ⟨between, last, rfl⟩
    · exact List.singleton_inj.mp (List.append_inj' hturns rfl).2
    · rw [← List.cons_append, ← List.append_assoc] at hturns
      have hlast : t = last := List.singleton_inj.mp (List.append_inj' hturns rfl).2
      have hmem : last ∈ between ++ [last] := List.mem_append_right _ (List.mem_singleton_self last)
      exact absurd (hidle last hmem) (hlast ▸ ht)
  · rintro rfl
    exact ⟨turns, [], rfl, nofun⟩

/-- Following the turns of a run from an empty slot leads to the document that was found last. -/
theorem foldl_follow_eq_some_iff :
    turns.foldl Turn.follow none = some (source, d) ↔ IsLastFound turns source d := by
  induction turns using List.reverseRecOn with
  | nil =>
    constructor
    · exact nofun
    · rintro ⟨before, between, hturns, -⟩
      simp at hturns
  | append_singleton turns t ih =>
    rw [List.foldl_append, List.foldl_cons, List.foldl_nil]
    cases t with
    | missed path =>
      rw [isLastFound_concat_of_isIdle (t := .missed path) trivial]
      exact ih
    | changed =>
      rw [isLastFound_concat_of_isIdle (t := .changed) trivial]
      exact ih
    | found path e =>
      rw [isLastFound_concat_of_not_isIdle id]
      simp [Turn.follow]
    | cleared =>
      rw [isLastFound_concat_of_not_isIdle id]
      simp [Turn.follow]

end

theorem Slot.get?_eq_none_iff {slot : Slot K} {source : Text} :
    slot.get? source = none ↔ slot.path? ≠ some source := by
  rcases slot with _ | ⟨path, d⟩
  · simp [Slot.get?, Slot.path?]
  · simp [Slot.get?, Slot.path?]

theorem Slot.path?_eq_some_iff {slot : Slot K} {source : Text} :
    slot.path? = some source ↔ ∃ d, slot = some (source, d) := by
  rcases slot with _ | ⟨path, d⟩
  · simp [Slot.path?]
  · simp [Slot.path?]

variable [Scalar K]

def Turn.ofFound (source : Text) : Except Fault (Option (Document K)) → Turn K
  | .ok (some d) => .found source d
  | _ => .missed source

/-- Whatever a look-up comes to, the slot is as its outcome says. -/
theorem load_slot (suffixes : List Text) (fs : Files) (source : Text) (slot : Slot K) :
    (load suffixes fs source slot).slot =
      (Turn.ofFound source (load suffixes fs source slot).result).follow slot := by
  cases h : slot.get? source with
  | some d =>
    rw [load_of_hit h, Slot.eq_of_get? h]
    rfl
  | none =>
    rw [(load_of_miss h).1, (load_of_miss h).2]
    rcases (fetch suffixes fs source).1 with fault | _ | d <;> rfl

/-- No file is opened for the source file in the slot, and for any other one its synchronisation file. -/
theorem load_opened (suffixes : List Text) (fs : Files) (source : Text) (slot : Slot K) :
    (load suffixes fs source slot).opened =
      if slot.path? = some source then [] else (syncFile? suffixes fs source).toList := by
  cases h : slot.get? source with
  | some d =>
    rw [load_of_hit h, Slot.eq_of_get? h]
    exact (if_pos rfl).symm
  | none =>
    rw [if_neg (Slot.get?_eq_none_iff.mp h), load, h, fetch]
    cases syncFile? suffixes fs source with
    | none => rfl
    | some path =>
      dsimp only
      rcases readDocument (K := K) fs path with fault | _ | d <;> rfl

/-- A synchronisation file is the first of the candidates under which a file is stored. -/
theorem syncFile?_eq_some_iff {suffixes : List Text} {fs : Files} {source path : Text} :
    syncFile? suffixes fs source = some path ↔ fs.isFile path ∧ ∃ before after,
      candidates suffixes source = before ++ path :: after ∧ ∀ other ∈ before, ¬ fs.isFile other := by
  rw [syncFile?, List.find?_eq_some_iff_append]
  simp

namespace Navigator
variable (nav : Navigator)

theorem ask_slot (fs : Files) (slot : Slot K) (q : Query K) :
    (nav.ask fs slot q).slot = (nav.load fs q.source slot).slot := by
  obtain ⟨f, h⟩ := nav.ask_eq_bind_load fs q
  rw [h]
  rfl

theorem ask_opened (fs : Files) (slot : Slot K) (q : Query K) :
    (nav.ask fs slot q).opened = (nav.load fs q.source slot).opened := by
  obtain ⟨f, h⟩ := nav.ask_eq_bind_load fs q
  rw [h]
  rfl

def next (now : Files × Slot K) : Step K → Files × Slot K
  | .ask q => (now.1, (nav.ask now.1 now.2 q).slot)
  | .clear => (now.1, none)
  | .write path content => (now.1.write path content, now.2)
  | .delete path => (now.1.delete path, now.2)

def turn (now : Files × Slot K) : Step K → Turn K
  | .ask q => .ofFound q.source (nav.load now.1 q.source now.2).result
  | .clear => .cleared
  | .write _ _ | .delete _ => .changed

/-- What the steps of a run come to, in order. -/
def turns : List (Step K) → Files × Slot K → List (Turn K)
  | [], _ => []
  | step :: rest, now => nav.turn now step :: turns rest (nav.next now step)

theorem next_slot (now : Files × Slot K) (step : Step K) :
    (nav.next now step).2 = (nav.turn now step).follow now.2 := by
  cases step with
  | ask q =>
    rw [next, turn, ask_slot]
    exact load_slot nav.suffixes now.1 q.source now.2
  | clear => rfl
  | write path content => rfl
  | delete path => rfl

theorem foldl_next_slot (steps : List (Step K)) (now : Files × Slot K) :
    (steps.foldl nav.next now).2 = (nav.turns steps now).foldl Turn.follow now.2 := by
  induction steps generalizing now with
  | nil => rfl
  | cons step rest ih =>
    rw [List.foldl_cons, ih, turns, List.foldl_cons, next_slot]

/-- A document is in the slot exactly as long as it is the one that was found last. -/
theorem slot_eq_some_iff (fs : Files) (steps : List (Step K)) {source : Text} {d : Document K} :
    (steps.foldl nav.next (fs, none)).2 = some (source, d) ↔
      IsLastFound (nav.turns steps (fs, none)) source d := by
  rw [foldl_next_slot]
  exact foldl_follow_eq_some_iff

/-- After any run from an empty slot, a document is in the slot if and only if it was found last and the
slot was not cleared since; its path is the one that it was asked for with, and there is none if nothing was
found since. A question that finds no document, or fails, leaves the slot as it was. For the source file in
the slot no file is opened; for any other one the first candidate that is a file, and none if there is no
such candidate. -/
theorem slot_holds_last_found (fs : Files) (steps : List (Step K)) :
    let now := steps.foldl nav.next (fs, none)
    let turns := nav.turns steps (fs, none)
    (∀ source d, now.2 = some (source, d) ↔ IsLastFound turns source d) ∧
      (∀ source, now.2.path? = some source ↔ ∃ d, IsLastFound turns source d) ∧
      (now.2.path? = none ↔ ∀ source d, ¬ IsLastFound turns source d) ∧
      ∀ q : Query K, let access := nav.ask now.1 now.2 q
        ((∀ d, (nav.load now.1 q.source now.2).result ≠ .ok (some d)) → access.slot = now.2) ∧
          (now.2.path? = some q.source → access.opened = []) ∧
          (now.2.path? ≠ some q.source →
            (∀ path ∈ candidates nav.suffixes q.source, ¬ now.1.isFile path) ∧ access.opened = [] ∨
              ∃ before path after, candidates nav.suffixes q.source = before ++ path :: after ∧
                (∀ other ∈ before, ¬ now.1.isFile other) ∧ now.1.isFile path ∧
                  access.opened = [path]) := by
  intro now turns
  have hslot (source : Text) (d : Document K) : now.2 = some (source, d) ↔ IsLastFound turns source d :=
    nav.slot_eq_some_iff fs steps
  have hpath (source : Text) : now.2.path? = some source ↔ ∃ d, IsLastFound turns source d :=
    Slot.path?_eq_some_iff.trans (exists_congr (hslot source))
  refine ⟨hslot, hpath, ?_, fun q => ⟨fun hmissed => ?_, fun hkept => ?_, fun hother => ?_⟩⟩
  · rw [Option.eq_none_iff_forall_ne_some]
    exact forall_congr' fun source => (not_congr (hpath source)).trans not_exists
  · rw [ask_slot, load, load_slot]
    apply Turn.follow_of_isIdle
    revert hmissed
    rw [load]
    rcases (Navigation.load nav.suffixes now.1 q.source now.2).result with fault | _ | d
    · exact fun _ => trivial
    · exact fun _ => trivial
    · exact fun hmissed => hmissed d rfl
  · rw [ask_opened, load, load_opened, if_pos hkept]
  · rw [ask_opened, load, load_opened, if_neg hother]
    cases hfile : syncFile? nav.suffixes now.1 q.source with
    | none =>
      refine .inl ⟨fun path hpath => ?_, rfl⟩
      exact List.find?_eq_none.mp hfile path hpath
    | some path =>
      obtain ⟨hpath, before, after, hsplit, hnone⟩ := syncFile?_eq_some_iff.mp hfile
      exact .inr ⟨before, path, after, hsplit, hnone, hpath, rfl⟩

/-- The slot changes hands, and a file that may not be opened does not change it again. -/
def visiting : List (Step Float) :=
  [.write "/a.sync".toList (.bytes []), .write "/b.synctex".toList (.bytes []),
    .write "/c.sync".toList .denied, .ask (.load "/b.tex".toList), .ask (.forward "/a.tex".toList 3),
    .ask (.lineMap "/c.tex".toList)]

theorem visiting_keeps_last_found :
    let nav : Navigator := {}
    let now := visiting.foldl nav.next ({}, none)
    now.2.path? = some "/a.tex".toList ∧
      (∃ d, IsLastFound (nav.turns visiting ({}, none)) "/a.tex".toList d) ∧
      (nav.ask now.1 now.2 (.load "/a.tex".toList)).opened = [] ∧
      ∃ path, now.1.isFile path ∧ (nav.ask now.1 now.2 (.load "/b.tex".toList)).opened = [path] := by
  intro nav now
  have hpath : now.2.path? = some "/a.tex".toList := rfl
  obtain ⟨-, hlast, -, haccess⟩ := nav.slot_holds_last_found {} visiting
  have hkept := (haccess (.load "/a.tex".toList)).2.1 hpath
  refine ⟨hpath, (hlast "/a.tex".toList).mp hpath, hkept, ?_⟩
  have hother : now.2.path? ≠ some "/b.tex".toList := by
    rw [hpath]
    decide
  rcases (haccess (.load "/b.tex".toList)).2.2 hother with ⟨hnone, -⟩ | ⟨_, path, _, -, -, hfile, hopened⟩
  · exact absurd rfl (hnone "/b.synctex".toList (by decide))
  · exact ⟨path, hfile, hopened⟩

end Navigator
end TypesetTrace.Navigation
