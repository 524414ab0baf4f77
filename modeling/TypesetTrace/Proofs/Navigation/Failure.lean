import TypesetTrace.Proofs.Navigation.Retention
import TypesetTrace.Proofs.Navigation.Targets
import TypesetTrace.Proofs.Sync.RecordDigits

/-! Questions that are not answered at all. Once a document is loaded every question has an answer, so it
is only the numbers of a synchronisation file that keep one from being given. -/
namespace TypesetTrace.Navigation
open Sync
variable {K : Type}

theorem Access.bind_eq_error_iff {α β : Type} {a : Access K α} {f : α → Except Fault β}
    (hf : ∀ x, ∃ y, f x = .ok y) {fault : Fault} :
    (a.bind f).result = .error fault ↔ a.result = .error fault := by
  show a.result.bind f = .error fault ↔ _
  cases a.result with
  | error other => exact Iff.of_eq (by simp [Except.bind])
  | ok x =>
    obtain ⟨y, hy⟩ := hf x
    show f x = .error fault ↔ _
    rw [hy]
    exact ⟨nofun, nofun⟩

variable [Scalar K]

/-- Between its neighbours a line has a height. -/
theorem heightBetween_ok [Scalar.HasProportions K] {line before next : Int} (hb : before < line)
    (hn : line < next) (above : Option (Block K)) (below : Block K) :
    ∃ y, heightBetween line before next above below = .ok y := by
  obtain ⟨t, ht⟩ := Scalar.ratio_of_lt (K := K) (Int.sub_pos_of_lt hb) (Int.sub_lt_sub_right hn before)
  cases above with
  | none => exact ⟨_, rfl⟩
  | some above =>
    rw [heightBetween, ht]
    split <;> exact ⟨_, rfl⟩

theorem positionOn_ok [Scalar.HasProportions K] (d : Document K) (lines : Lines K) (line : Int) :
    ∃ p, positionOn d lines line = .ok p := by
  rw [positionOn]
  split
  · exact ⟨_, rfl⟩
  · rename_i next hnext
    split
    · exact ⟨_, rfl⟩
    · rename_i before hbefore
      split
      · exact ⟨_, rfl⟩
      · rename_i hne
        split
        · exact ⟨_, rfl⟩
        · rename_i below _
          have hlt := (lineBefore?_eq_some_iff.mp hbefore).2.1
          have hle : line < next := lt_of_le_of_ne (lineFrom?_eq_some_iff.mp hnext).2.1 (Ne.symm hne)
          obtain ⟨y, hy⟩ := heightBetween_ok hlt hle (target? lines before) below
          rw [hy]
          exact ⟨_, rfl⟩

theorem position_ok [Scalar.HasProportions K] (working : Path.WorkingDirectory) (source : Text)
    (line : Int) (d : Document K) : ∃ p, position working source line d = .ok p := by
  rw [position]
  split
  · exact ⟨_, rfl⟩
  · exact positionOn_ok d _ line

theorem readDocument_eq_error_iff {fs : Files} {path : Text} {fault : Fault} :
    (readDocument fs path : Except Fault (Option (Document K))) = .error fault ↔
      ∃ body, fs.readMaybeCompressed? path = some body ∧
        (Document.ofText body : Except Stop (Document K)) = .error (.fault fault) := by
  rw [readDocument]
  cases fs.readMaybeCompressed? path with
  | none => simp
  | some body =>
    simp only [Option.some.injEq, exists_eq_left']
    cases (Document.ofText body : Except Stop (Document K)) with
    | ok d => simp
    | error stop => cases stop <;> simp

theorem fetch_eq_error_iff {suffixes : List Text} {fs : Files} {source : Text} {fault : Fault} :
    (fetch (K := K) suffixes fs source).1 = .error fault ↔
      ∃ path body, syncFile? suffixes fs source = some path ∧ fs.readMaybeCompressed? path = some body ∧
        (Document.ofText body : Except Stop (Document K)) = .error (.fault fault) := by
  rw [fetch]
  cases syncFile? suffixes fs source with
  | none => simp
  | some path =>
    show readDocument fs path = .error fault ↔ _
    rw [readDocument_eq_error_iff]
    simp only [Option.some.injEq, exists_and_left, exists_eq_left']

theorem load_eq_error_iff {suffixes : List Text} {fs : Files} {source : Text} {slot : Slot K} {fault : Fault} :
    (load suffixes fs source slot).result = .error fault ↔
      slot.path? ≠ some source ∧ (fetch (K := K) suffixes fs source).1 = .error fault := by
  rw [← Slot.get?_eq_none_iff]
  cases h : slot.get? source with
  | some d =>
    rw [load_of_hit h]
    exact ⟨nofun, fun h => nomatch h.1⟩
  | none =>
    rw [(load_of_miss h).1]
    exact (and_iff_right rfl).symm

/-- What a question is answered with where there is no data. -/
def Query.nothing : Query K → Reply K
  | .load _ => .document none
  | .forward _ _ => .position none
  | .inverse _ _ _ _ => .origin none
  | .lineMap _ => .anchors []

namespace Navigator
variable {nav : Navigator} {fs : Files} {slot : Slot K}

theorem ask_of_load_none {q : Query K} (h : (nav.load fs q.source slot).result = .ok none) :
    (nav.ask fs slot q).result = .ok q.nothing := by
  have hbind {α : Type} {source : Text} (h : (nav.load fs source slot).result = .ok none)
      (f : Option (Document K) → Except Fault α) : ((nav.load fs source slot).bind f).result = f none :=
    congrArg (·.bind f) h
  cases q with
  | load source => exact hbind h _
  | forward source line =>
    rw [ask, forward, Access.bind_bind]
    exact hbind h _
  | inverse source page x y =>
    rw [ask, inverse, Access.bind_bind]
    exact hbind h _
  | lineMap source =>
    rw [ask, lineMap, Access.bind_bind]
    exact hbind h _

theorem forward_eq_error_iff [Scalar.HasProportions K] {source : Text} {line : Int} {fault : Fault} :
    (nav.forward fs source line slot).result = .error fault ↔
      (nav.load fs source slot).result = .error fault := by
  refine Access.bind_eq_error_iff fun d => ?_
  cases d with
  | none => exact ⟨_, rfl⟩
  | some d => exact position_ok fs.working source line d

theorem inverse_eq_error_iff {source : Text} {page : Int} {x y : K} {fault : Fault} :
    (nav.inverse fs source page x y slot).result = .error fault ↔
      (nav.load fs source slot).result = .error fault :=
  Access.bind_eq_error_iff fun _ => ⟨_, rfl⟩

theorem lineMap_eq_error_iff {source : Text} {fault : Fault} :
    (nav.lineMap fs source slot).result = .error fault ↔
      (nav.load fs source slot).result = .error fault :=
  Access.bind_eq_error_iff fun _ => ⟨_, rfl⟩

/-- A question fails exactly if its document cannot be loaded. -/
theorem ask_eq_error_iff [Scalar.HasProportions K] {q : Query K} {fault : Fault} :
    (nav.ask fs slot q).result = .error fault ↔ (nav.load fs q.source slot).result = .error fault := by
  have hreply {α : Type} (a : Access K α) (f : α → Reply K) :
      (a.bind (.ok ∘ f)).result = .error fault ↔ a.result = .error fault :=
    Access.bind_eq_error_iff fun x => ⟨f x, rfl⟩
  cases q with
  | load source => exact hreply _ _
  | forward source line => exact (hreply _ _).trans forward_eq_error_iff
  | inverse source page x y => exact (hreply _ _).trans inverse_eq_error_iff
  | lineMap source => exact (hreply _ _).trans lineMap_eq_error_iff

end Navigator

/-- The file that is read for a source file comes to a number that cannot be converted. -/
def FailsFor (suffixes : List Text) (fs : Files) (source : Text) (fault : Fault) : Prop :=
  ∃ path body, syncFile? suffixes fs source = some path ∧ fs.readMaybeCompressed? path = some body ∧
    Document.Fails body fault

theorem Navigator.ask_fails_iff (nav : Navigator) (fs : Files) (slot : Slot Float) (q : Query Float)
    (fault : Fault) : (nav.ask fs slot q).result = .error fault ↔
      slot.path? ≠ some q.source ∧ FailsFor nav.suffixes fs q.source fault := by
  rw [ask_eq_error_iff, load, load_eq_error_iff, fetch_eq_error_iff, FailsFor]
  simp only [Document.ofText_eq_fault_iff]

end TypesetTrace.Navigation
