import TypesetTrace.Proofs.Number.Finite
import TypesetTrace.Proofs.Sync.Coherence

/-! The numbers of a document. Offsets and places are lengths in scaled points, as the records give them,
and an offset that no record gives is zero. -/
namespace TypesetTrace.Sync
open Scalar (IsLength)
variable {K : Type} [Scalar K]

theorem isLength_of_scaled {digits : Text} {x : K} (h : scaled digits = .ok x) : IsLength x := by
  obtain ⟨n, -, h⟩ := Reading.bind_ok h
  cases hn : (Scalar.ofScaledPoints n : Except Fault K) with
  | error fault => rw [hn] at h; cases h
  | ok y =>
    rw [hn] at h
    cases h
    exact ⟨n, hn⟩

/-- Both offsets are lengths. -/
structure Document.IsMeasured (d : Document K) : Prop where
  offsetX : IsLength d.offsetX
  offsetY : IsLength d.offsetY

namespace Reading
variable {r r' : Reading K}

private theorem isMeasured_offset (h : r.document.IsMeasured) {axis : Char} {value : K} (hvalue : IsLength value)
    (hr : r.setOffset axis value = .ok r') : r'.document.IsMeasured := by
  rw [setOffset] at hr
  split at hr
  · cases hr
    exact ⟨hvalue, h.offsetY⟩
  split at hr
  · cases hr
    exact ⟨h.offsetX, hvalue⟩
  · cases hr

private theorem isMeasured_step (h : r.document.IsMeasured) {record : Record} (hr : r.step record = .ok r') :
    r'.document.IsMeasured := by
  cases record with
  | offset axis value =>
    obtain ⟨v, hv, hr⟩ := bind_ok hr
    exact isMeasured_offset h (isLength_of_scaled hv) hr
  | input number path =>
    obtain ⟨n, -, hr⟩ := bind_ok hr
    cases hr
    exact ⟨h.offsetX, h.offsetY⟩
  | openPage number =>
    obtain ⟨n, -, hr⟩ := bind_ok hr
    cases hr
    exact ⟨h.offsetX, h.offsetY⟩
  | closePage number =>
    rcases closePage_cases hr with ⟨-, rfl⟩ | ⟨p, -, rfl⟩
    · exact h
    · exact ⟨h.offsetX, h.offsetY⟩
  | openBox kind f =>
    rcases openBox_cases hr with ⟨-, -, rfl⟩ | ⟨p, head, -, -, rfl⟩
    · exact h
    · dsimp only
      split <;> exact ⟨h.offsetX, h.offsetY⟩
  | closeBox =>
    cases hr
    rcases closeBox_cases r with ⟨-, hclose⟩ | ⟨p, box, -, -, hclose⟩ | ⟨p, box, outer, stack, -, -, hclose⟩ <;>
      rw [hclose] <;> exact ⟨h.offsetX, h.offsetY⟩
  | element f =>
    rcases addElement_cases hr with ⟨-, -, rfl⟩ | ⟨p, box, stack, path, e, -, -, -, -, -, rfl⟩
    · exact h
    · dsimp only
      split <;> exact ⟨h.offsetX, h.offsetY⟩

theorem isMeasured_run {records : List Record} (h : r.document.IsMeasured) (hr : run records r = .ok r') :
    r'.document.IsMeasured := by
  induction records generalizing r with
  | nil =>
    cases hr
    exact h
  | cons record rest ih =>
    obtain ⟨r₁, hstep, hr⟩ := bind_ok hr
    exact ih (isMeasured_step h hstep) hr

end Reading

/-- The offsets of a document that was read, and the places of all elements in its index, are lengths. -/
theorem Document.isLength_of_ofText [Scalar.HasDifferences K] {body : Text} {d : Document K}
    (h : Document.ofText body = .ok d) :
    d.IsMeasured ∧ ∀ path line page b, d.IsIndexed path line page b → IsLength b.left ∧ IsLength b.bottom := by
  have hentries := Document.everyEntry_of_ofText h
  constructor
  · rw [Document.ofText_eq] at h
    cases hrun : Reading.run (recordsOf body) (Reading.start body : Reading K) with
    | error _ => rw [hrun] at h; cases h
    | ok r =>
      rw [hrun] at h
      cases h
      exact Reading.isMeasured_run ⟨Scalar.isLength_zero, Scalar.isLength_zero⟩ hrun
  · intro path line page b hb
    obtain ⟨-, f, -, -, ⟨-, -, -, hleft, hbottom⟩, -⟩ := (hentries.of_isIndexed hb).given
    exact ⟨isLength_of_scaled hleft, isLength_of_scaled hbottom⟩

end TypesetTrace.Sync
