import TypesetTrace.Alignment.Survey
import TypesetTrace.Proofs.Service.Freshness

/-! What a survey makes of the lines of a source file. The slot that the questions share does not show in the
answers, so what a line comes to depends on nothing but that line: on whether the question gets through, and on
the status of its answer. -/
namespace TypesetTrace.Alignment
open Navigation Service

/-- A request to look something up reaches the endpoint that its path leads to. -/
theorem answer_of_get {r : Request} {e : Endpoint} (hverb : r.verb = "GET") (hmethod : e.method = "GET")
    (htarget : Target.ofLocation? (location r.path) = some (.endpoint e)) (fs : Files) (slot : Slot Float) :
    answer fs r slot = e.answer fs r slot := by
  have hmethods : r.verb ∈ (Target.endpoint e).methods := by
    rw [hverb, ← hmethod]
    exact List.mem_singleton_self _
  rw [answer]
  simp only [htarget, hmethods, not_true_eq_false, if_false]

theorem forwardRequest_verb (source : Text) (line : Int) : (forwardRequest source line).verb = "GET" := by
  show String.ofList (Text.capitals "GET".toList) = "GET"
  decide +kernel

theorem forwardRequest_target (source : Text) (line : Int) :
    Target.ofLocation? (location (forwardRequest source line).path) = some (.endpoint .forward) := by
  show Target.ofLocation? (location Endpoint.forward.path) = some (.endpoint .forward)
  decide +kernel

/-- The answer is a position, or one without success. -/
def IsPositionAtBest (a : Answer Float) : Prop := (∃ p, a = .position p) ∨ a.status ≠ 200

theorem isPositionAtBest_asking {α : Type} {fields : Checked α} {file : α → Text} {slot : Slot Float}
    {ask : α → Answer Float × Slot Float} (h : ∀ x, IsPositionAtBest (ask x).1) :
    IsPositionAtBest (asking fields file slot ask).1 := by
  rcases fields with objections | x
  · right
    show (objected objections : Answer Float).status ≠ 200
    rw [objected]
    split <;> nofun
  · rw [asking.eq_def]
    dsimp only
    rw [sourceFile]
    split
    · rename_i a hrefused
      right
      split at hrefused
      · cases hrefused
        nofun
      · split at hrefused
        · cases hrefused
          nofun
        · cases hrefused
    · exact h x

theorem isPositionAtBest_answered (a : Access Float (Option (Position Float))) :
    IsPositionAtBest (answered a (orNoData .position)).1 := by
  rw [answered]
  cases a.result with
  | error fault => exact .inr (show 500 ≠ 200 by decide)
  | ok found =>
    cases found with
    | none => exact .inr (show 404 ≠ 200 by decide)
    | some p => exact .inl ⟨p, rfl⟩

theorem isPositionAtBest_answer (fs : Files) (source : Text) (line : Int) (slot : Slot Float) :
    IsPositionAtBest (answer fs (forwardRequest source line) slot).1 := by
  rw [answer_of_get (forwardRequest_verb source line) rfl (forwardRequest_target source line), Endpoint.answer]
  apply isPositionAtBest_asking
  intro x
  exact isPositionAtBest_answered _

/-- What a report counts a line under. -/
inductive Kind where
  | tested | withoutData | error
  deriving DecidableEq, Repr

/-- What lines are counted under by the status of their answers, if they are answered. -/
def Kind.ofStatus? (status : Option Nat) : Kind :=
  if status = some 200 then .tested else if status = some 404 then .withoutData else .error

theorem Kind.ofStatus?_eq_withoutData_iff {status : Option Nat} :
    Kind.ofStatus? status = .withoutData ↔ status = some 404 := by
  rw [Kind.ofStatus?]
  split <;> simp_all

theorem Kind.ofStatus?_eq_error_iff {status : Option Nat} :
    Kind.ofStatus? status = .error ↔ status ≠ some 200 ∧ status ≠ some 404 := by
  rw [Kind.ofStatus?]
  split <;> simp_all

theorem Kind.count_withoutData (statuses : List (Option Nat)) :
    (statuses.map Kind.ofStatus?).count .withoutData = statuses.count (some 404) := by
  rw [List.count, List.countP_map, List.count]
  exact List.countP_congr fun status _ => by simp [Kind.ofStatus?_eq_withoutData_iff]

theorem Kind.count_error (statuses : List (Option Nat)) : (statuses.map Kind.ofStatus?).count .error =
    statuses.countP fun status => status ≠ some 200 ∧ status ≠ some 404 := by
  rw [List.count, List.countP_map]
  exact List.countP_congr fun status _ => by simp [Kind.ofStatus?_eq_error_iff]

/-- Every line is counted under one kind. -/
theorem Kind.count_add (kinds : List Kind) :
    kinds.count .tested + kinds.count .withoutData + kinds.count .error = kinds.length := by
  induction kinds with
  | nil => rfl
  | cons kind kinds ih =>
    rw [List.length_cons]
    cases kind <;> simp <;> omega

def Outcome.kind : Outcome → Kind
  | .compared _ => .tested
  | .noData => .withoutData
  | .refused | .unreachable => .error

variable (conditions : Conditions) (fs : Files) (source : Text)

/-- The status of the answer to the question about a line, if the question gets through. Questions that were
asked before play no part. -/
def statusOf? (line : Int) : Option Nat :=
  if line ∈ conditions.unreachable then none
  else some ((conditions.replaced.lookup line).getD (answer fs (forwardRequest source line) none).1.status)

def statusesOf (lineCount : Nat) : List (Option Nat) :=
  (lineNumbers lineCount).map (statusOf? conditions fs source)

theorem length_statusesOf (lineCount : Nat) : (statusesOf conditions fs source lineCount).length = lineCount := by
  simp [statusesOf, lineNumbers]

variable {conditions fs source} {anchors : List (Anchor Float)} {line : Int} {outcome : Outcome}

theorem kind_of_compare {p : Position Float} (h : compare anchors line p = .ok outcome) :
    outcome.kind = .tested := by
  rw [compare] at h
  split at h <;> cases h
  rfl

theorem kind_of_replacedOutcome {status : Nat} (h : replacedOutcome status = .ok outcome) :
    outcome.kind = Kind.ofStatus? (some status) := by
  rw [replacedOutcome] at h
  split at h
  · cases h
    rename_i hstatus
    rw [hstatus]
    rfl
  · split at h <;> cases h
    rename_i hmissing hsuccess
    rw [Kind.ofStatus?_eq_error_iff.mpr ⟨by simpa using hsuccess, by simpa using hmissing⟩]
    rfl

theorem kind_of_outcomeOf {a : Answer Float} (ha : IsPositionAtBest a)
    (h : outcomeOf anchors line a = .ok outcome) :
    outcome.kind = Kind.ofStatus? (some a.status) := by
  rcases ha with ⟨p, rfl⟩ | hstatus
  · exact kind_of_compare h
  · have hrefused : outcomeOf anchors line a = .ok (if a.status = 404 then .noData else .refused) := by
      cases a with
      | position p => exact absurd rfl hstatus
      | _ => rfl
    rw [hrefused] at h
    cases h
    by_cases hmissing : a.status = 404
    · rw [if_pos hmissing, hmissing]
      rfl
    · rw [if_neg hmissing, Kind.ofStatus?_eq_error_iff.mpr ⟨by simpa using hstatus, by simpa using hmissing⟩]
      rfl

/-- Asking about a line comes to what the status of its answer says, and leaves the slot fresh. -/
theorem kind_of_visit {slot slot' : Slot Float} (hf : slot.IsFresh defaultSuffixes fs)
    (h : visit conditions fs source anchors line slot = (.ok outcome, slot')) :
    outcome.kind = Kind.ofStatus? (statusOf? conditions fs source line) ∧
      slot'.IsFresh defaultSuffixes fs := by
  rw [visit] at h
  rw [statusOf?]
  split at h
  · rename_i hline
    cases h
    rw [if_pos hline]
    exact ⟨rfl, hf⟩
  · rename_i hline
    rw [if_neg hline]
    split at h
    · rename_i status hlookup
      obtain ⟨houtcome, rfl⟩ := Prod.mk.inj h
      rw [hlookup]
      exact ⟨kind_of_replacedOutcome houtcome, hf⟩
    · rename_i hlookup
      have hsteady := isSteady_service fs (forwardRequest source line)
      have houtcome : outcomeOf anchors line (answer fs (forwardRequest source line) slot).1 = .ok outcome :=
        congrArg Prod.fst h
      have hslot : (answer fs (forwardRequest source line) slot).2 = slot' := congrArg Prod.snd h
      rw [hlookup, Option.getD_none, ← hsteady.answer hf, ← hslot]
      exact ⟨kind_of_outcomeOf (isPositionAtBest_answer fs source line slot) houtcome, hsteady.isFresh hf⟩

/-- Over all lines every line is asked about once, and counted under the status of its answer. -/
theorem kinds_of_visitAll {lines : List Int} {slot : Slot Float} (hf : slot.IsFresh defaultSuffixes fs)
    (h : (visitAll conditions fs source anchors lines slot).2 = none) :
    (visitAll conditions fs source anchors lines slot).1.map (·.2.kind) =
      (lines.map (statusOf? conditions fs source)).map Kind.ofStatus? := by
  -- The slot may change with every question, but it stays fresh.
  induction lines generalizing slot with
  | nil => rfl
  | cons line lines ih =>
    rw [visitAll] at h ⊢
    rcases hvisit : visit conditions fs source anchors line slot with ⟨failure | outcome, slot'⟩
    · rw [hvisit] at h
      cases h
    · rw [hvisit] at h
      obtain ⟨hkind, hf'⟩ := kind_of_visit hf hvisit
      exact List.cons_eq_cons.mpr ⟨hkind, ih hf' h⟩

end TypesetTrace.Alignment
