import TypesetTrace.Number.Scalar
import TypesetTrace.Proofs.Navigation.Interleaving

/-! A clear can be undone by a load that is in flight. It stores what it read before the clear, and a
load that asks after the clear finds that. The invariant of all runs shows that there is no other
way. -/
namespace TypesetTrace.Navigation
variable {K : Type}

/-- A load that reads its file itself reads it after it asked. What it finds in the slot was stored
since the last clear before it asked. -/
def Load.IsTraced (l : Load K) : Prop :=
  match l.stage with
  | .read f => f.storedAt = none ∧ l.askedAt ≤ f.readAt
  | .returned (.ok (some f)) =>
    f.storedAt = none ∧ l.askedAt ≤ f.readAt ∨ f.storedAt = some l.askedAt
  | _ => True

structure World.IsTraced (w : World K) : Prop where
  slot : w.slot.isSome → w.storedAt = w.clears
  asked : ∀ {id l}, w.loads id = some l → l.askedAt ≤ w.clears
  loads : ∀ {id l}, w.loads id = some l → l.IsTraced

namespace World

private theorem isTraced_start (files : Files) : IsTraced ({ files } : World K) := ⟨nofun, nofun, nofun⟩

private theorem isTraced_withLoad {w : World K} (h : w.IsTraced) {l : Load K}
    (ha : l.askedAt ≤ w.clears) (hl : l.IsTraced) (id : Nat) : (w.withLoad id l).IsTraced := by
  refine ⟨h.slot, fun hm => ?_, fun hm => ?_⟩
  · rcases of_loads_withLoad hm with rfl | hm
    · exact ha
    · exact h.asked hm
  · rcases of_loads_withLoad hm with rfl | hm
    · exact hl
    · exact h.loads hm

private theorem isTraced_get {w : World K} (h : w.IsTraced) (id : Nat) (source : Text) :
    (w.get id source).IsTraced := by
  refine isTraced_withLoad h (Nat.le_refl _) ?_ id
  cases hs : w.slot.get? source with
  | none => trivial
  | some d =>
    have hfull : w.slot.isSome := by
      cases hw : w.slot with
      | none => rw [hw] at hs; cases hs
      | some kept => rfl
    exact .inr (congrArg some (h.slot hfull))

private theorem isTraced_store {w : World K} (h : w.IsTraced) {id askedAt : Nat} {source : Text}
    {f : Found K} (hl : w.loads id = some ⟨source, askedAt, .read f⟩) :
    (w.store id source askedAt f).IsTraced := by
  have hasked : askedAt ≤ w.clears := h.asked hl
  have hload := isTraced_withLoad h (l := ⟨source, askedAt, .returned (.ok (some f))⟩) hasked
    (.inl (h.loads hl)) id
  exact ⟨fun _ => rfl, hload.asked, hload.loads⟩

private theorem isTraced_ofFetched {clears askedAt : Nat} (h : askedAt ≤ clears) (source : Text)
    (r : Except Fault (Option (Sync.Document K))) :
    Load.IsTraced ⟨source, askedAt, .ofFetched clears r⟩ := by
  rcases r with fault | _ | d
  · trivial
  · trivial
  · exact ⟨rfl, h⟩

variable [Scalar K]

theorem isTraced_step (suffixes : List Text) (w : World K) (e : Event) (h : w.IsTraced) :
    (step suffixes w e).IsTraced := by
  cases e with
  | get id source =>
    rw [step]
    split
    · exact isTraced_get h id source
    · exact h
  | read id =>
    rw [step]
    split
    · rename_i source askedAt hl
      have hasked : askedAt ≤ w.clears := h.asked hl
      exact isTraced_withLoad h hasked (isTraced_ofFetched hasked source _) id
    · exact h
  | store id =>
    rw [step]
    split
    · rename_i source askedAt f hl
      exact isTraced_store h hl
    · exact h
  | clear => exact ⟨fun hfull => Bool.noConfusion hfull, fun hl => Nat.le_succ_of_le (h.asked hl), h.loads⟩
  | write path content => exact ⟨h.slot, h.asked, h.loads⟩
  | delete path => exact ⟨h.slot, h.asked, h.loads⟩

/-- A load returns a document that was read before a clear that it asked after, exactly if it found
the document in the slot and that had been stored after a clear since it was read. -/
theorem readAt_lt_askedAt_iff (suffixes : List Text) (files : Files) (events : List Event) {id : Nat}
    {l : Load K} {f : Found K} (hl : (run suffixes events { files }).loads id = some l)
    (hf : l.stage = .returned (.ok (some f))) :
    f.readAt < l.askedAt ↔ ∃ storedAt, f.storedAt = some storedAt ∧ f.readAt < storedAt := by
  have hload := (run_induction (isTraced_step suffixes) events (isTraced_start files)).loads hl
  rw [Load.IsTraced, hf] at hload
  rcases hload with ⟨hown, hle⟩ | hslot
  · rw [hown]
    exact ⟨fun hlt => absurd hlt (Nat.not_lt.mpr hle), nofun⟩
  · rw [hslot]
    exact ⟨fun hlt => ⟨_, rfl, hlt⟩, fun ⟨_, he, hlt⟩ => Option.some.inj he ▸ hlt⟩

end World

/-- A load reads a file and is overtaken by a clear and by the end of the file before it stores what
it read. -/
def overtaken : List Event :=
  [.get 0 "/a.tex".toList, .read 0, .clear, .delete "/a.sync".toList, .store 0,
    .get 1 "/a.tex".toList]

def oneFile : Files := ({} : Files).write "/a.sync".toList (.bytes [])

private theorem loads_overtaken :
    (World.run defaultSuffixes overtaken { files := oneFile }).loads 1 =
      some ⟨"/a.tex".toList, 1, .returned (.ok (some ⟨(Sync.Document.blank : Sync.Document Float), 0, some 1⟩))⟩ :=
  rfl

theorem overtaken_undoes_clear :
    ¬ ∀ (files : Files) (events : List Event) (id : Nat) (l : Load Float) (f : Found Float),
      (World.run defaultSuffixes events { files }).loads id = some l →
        l.stage = .returned (.ok (some f)) → l.askedAt ≤ f.readAt := by
  intro h
  have hle : 1 ≤ 0 := h oneFile overtaken 1 _ _ loads_overtaken rfl
  exact absurd hle (by decide)

theorem overtaken_stored_late : ∃ (l : Load Float) (f : Found Float),
    (World.run defaultSuffixes overtaken { files := oneFile }).loads 1 = some l ∧
      l.stage = .returned (.ok (some f)) ∧
        (f.readAt < l.askedAt ↔ ∃ storedAt, f.storedAt = some storedAt ∧ f.readAt < storedAt) :=
  ⟨_, _, loads_overtaken, rfl,
    World.readAt_lt_askedAt_iff defaultSuffixes oneFile overtaken loads_overtaken rfl⟩

end TypesetTrace.Navigation
