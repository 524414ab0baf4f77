import TypesetTrace.Proofs.Navigation.Freshness
import TypesetTrace.Service.Endpoint

/-! What the service answers does not depend on what it was asked before. Every request leaves the
slot with what would be read now, and the answer would be the same without it. -/
namespace TypesetTrace.Service
open Navigation

/-- The slot after requests that were answered in order. -/
def slotAfter (fs : Files) : List Request → Slot Float → Slot Float
  | [], slot => slot
  | r :: rest, slot => slotAfter fs rest (answer fs r slot).2

/-- The slot does not show in the answer, and stays fresh. -/
structure IsSteady (fs : Files) (reply : Slot Float → Answer Float × Slot Float) : Prop where
  answer : ∀ {slot}, slot.IsFresh defaultSuffixes fs → (reply slot).1 = (reply none).1
  isFresh : ∀ {slot}, slot.IsFresh defaultSuffixes fs → (reply slot).2.IsFresh defaultSuffixes fs

private theorem isSteady_const (fs : Files) (a : Answer Float) : IsSteady fs fun slot => (a, slot) :=
  ⟨fun _ => rfl, id⟩

private theorem answered_eq {K α : Type} (a : Access K α) (g : α → Answer K) :
    answered a g = ((a.result.toOption.map g).getD serverFailure, a.slot) := by
  cases h : a.result <;> simp [answered, h, Except.toOption]

private theorem isSteady_answered {α : Type} (fs : Files) (source : Text)
    (f : Option (Sync.Document Float) → Except Fault α) (g : α → Answer Float) :
    IsSteady fs fun slot => answered ((({} : Navigator).load fs source slot).bind f) g := by
  constructor
  · intro slot hf
    have hresult : ((({} : Navigator).load fs source slot).bind f).result =
        ((({} : Navigator).load fs source none).bind f).result :=
      Navigator.bind_load_result hf source f
    rw [answered_eq, answered_eq, hresult]
  · intro slot hf
    rw [answered_eq]
    exact load_isFresh hf source

private theorem isSteady_asking {α : Type} {fs : Files} (fields : Checked α) (file : α → Text)
    {ask : α → Slot Float → Answer Float × Slot Float} (h : ∀ x, IsSteady fs (ask x)) :
    IsSteady fs fun slot => asking fields file slot fun x => ask x slot := by
  simp only [asking]
  split
  · exact isSteady_const fs _
  · rename_i x
    split
    · exact isSteady_const fs _
    · exact h x

private theorem isSteady_endpoint (fs : Files) (r : Request) (e : Endpoint) :
    IsSteady fs (e.answer fs r) := by
  cases e with
  | diagnostics => exact isSteady_const fs _
  | forward => exact isSteady_asking _ _ fun x => isSteady_answered fs x.1 _ _
  | inverse => exact isSteady_asking _ _ fun x => isSteady_answered fs x.1 _ _
  | lineMap => exact isSteady_asking _ _ fun x => isSteady_answered fs x _ _
  | cache => exact ⟨fun _ => rfl, fun _ => Slot.isFresh_none _ _⟩

theorem isSteady_service (fs : Files) (r : Request) : IsSteady fs (answer fs r) := by
  change IsSteady fs fun slot => answer fs r slot
  simp only [answer]
  split
  · split
    · exact isSteady_const fs _
    · split
      · exact isSteady_endpoint fs r _
      · exact isSteady_const fs _
  · split <;> exact isSteady_const fs _

private theorem slotAfter_isFresh {fs : Files} (rs : List Request) {slot : Slot Float}
    (hf : slot.IsFresh defaultSuffixes fs) : (slotAfter fs rs slot).IsFresh defaultSuffixes fs := by
  induction rs generalizing slot with
  | nil => exact hf
  | cons r rs ih => exact ih ((isSteady_service fs r).isFresh hf)

/-- The answer to a request is the same after any two histories. -/
private theorem answer_slotAfter (fs : Files) (before before' : List Request) (r : Request) :
    (answer fs r (slotAfter fs before none)).1 = (answer fs r (slotAfter fs before' none)).1 := by
  have h (rs : List Request) :=
    (isSteady_service fs r).answer (slotAfter_isFresh rs (Slot.isFresh_none defaultSuffixes fs))
  rw [h before, h before']

/-- A navigator whose slot is cleared in time replies as if it kept nothing. In the service, where
the slot is shared by all requests, no answer depends on the requests before it. -/
theorem slot_transparent :
    (∀ (K : Type) [Scalar K] (nav : Navigator) (fs : Files) (steps : List (Step K)),
      Disciplined false steps → nav.replies steps fs none = nav.freshReplies steps fs) ∧
    ∀ (fs : Files) (before before' : List Request) (r : Request),
      (answer fs r (slotAfter fs before none)).1 = (answer fs r (slotAfter fs before' none)).1 :=
  ⟨fun _ _ _ _ _ hs => Navigator.replies_eq_freshReplies hs fun _ => Slot.isFresh_none _ _,
    answer_slotAfter⟩

/-- Two compilations with questions between them, one about another source file. -/
def recompiling : List (Step Float) :=
  [.ask (.load "/a.tex".toList), .write "/a.sync".toList (.bytes [0x7b]), .clear,
    .ask (.forward "/a.tex".toList 3), .ask (.load "/b.tex".toList), .delete "/a.sync".toList,
    .clear, .ask (.inverse "/a.tex".toList 1 0 0), .ask (.lineMap "/a.tex".toList)]

theorem recompiling_transparent :
    Disciplined false recompiling ∧
      (({} : Navigator).replies recompiling {} none = ({} : Navigator).freshReplies recompiling {}) :=
  have h : Disciplined false recompiling := ⟨rfl, rfl, rfl, rfl, rfl, trivial⟩
  ⟨h, slot_transparent.1 Float {} {} recompiling h⟩

end TypesetTrace.Service
