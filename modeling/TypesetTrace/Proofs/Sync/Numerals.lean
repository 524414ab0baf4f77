import TypesetTrace.Proofs.Number.Overflow
import TypesetTrace.Proofs.Sync.Agreement
import TypesetTrace.Proofs.Text.Numeral

/-! What keeps a synchronisation file from being read. Numbers are converted only where their record
takes effect, and only a number with too many digits or a length beyond the doubles cannot be. The other
reason is an offset for an unknown axis. -/
namespace TypesetTrace.Sync
open Text
open Binary64 (firstTooLarge)

/-- A number that is converted: its digits behind the sign, and whether it is a length, which has to be a
double. -/
structure Numeral where
  digits : Text
  isLength : Bool := false
  deriving DecidableEq, Repr

namespace Numeral

/-- What is wrong with a number that cannot be converted. -/
def fault? (n : Numeral) : Option Fault :=
  if maxDigits < n.digits.length then some (.tooManyDigits n.digits.length)
  else if n.isLength ∧ firstTooLarge ≤ digitsValue n.digits then some .integerTooLarge
  else none

def signed (digits : Text) : Numeral := { digits := withoutSign digits }

def length (digits : Text) : Numeral := { digits := withoutSign digits, isLength := true }

theorem fault?_of_overlong {n : Numeral} (h : maxDigits < n.digits.length) :
    n.fault? = some (.tooManyDigits n.digits.length) := if_pos h

theorem fault?_of_tooLarge {n : Numeral} (h : n.digits.length ≤ maxDigits) (hlength : n.isLength)
    (hlarge : firstTooLarge ≤ digitsValue n.digits) : n.fault? = some .integerTooLarge := by
  rw [fault?, if_neg (Nat.not_lt.mpr h), if_pos ⟨hlength, hlarge⟩]

theorem fault?_eq_none {n : Numeral} (h : n.digits.length ≤ maxDigits)
    (hfinite : n.isLength → digitsValue n.digits < firstTooLarge) : n.fault? = none := by
  rw [fault?, if_neg (Nat.not_lt.mpr h), if_neg fun hlarge => Nat.not_le.mpr (hfinite hlarge.1) hlarge.2]

/-- A length of this many digits is never too large. -/
def safeDigits : Nat := 308

theorem fault?_eq_none_of_safe {n : Numeral} (h : n.digits.length ≤ safeDigits) : n.fault? = none := by
  have hsafe : safeDigits ≤ maxDigits := by decide
  refine fault?_eq_none (h.trans hsafe) fun _ => ?_
  calc digitsValue n.digits
      < 10 ^ n.digits.length := digitsValue_lt n.digits
    _ ≤ 10 ^ safeDigits := Nat.pow_le_pow_right (by decide) h
    _ ≤ firstTooLarge := by decide +kernel

end Numeral

variable {α β : Type}

/-- The result of conversions: it fails at the first of the numbers that cannot be converted. -/
def Converts (numerals : List Numeral) (x : Except Stop α) : Prop :=
  match numerals.findSome? Numeral.fault? with
  | some fault => x = .error (.fault fault)
  | none => ∃ a, x = .ok a

namespace Converts
variable {ns ms : List Numeral} {x : Except Stop α} {k : α → Except Stop β}

theorem of_fault {n : Numeral} {fault : Fault} (hn : n.fault? = some fault)
    (hx : x = .error (.fault fault)) : Converts [n] x := by
  rw [Converts, List.findSome?_singleton, hn]
  exact hx

theorem of_none {n : Numeral} {a : α} (hn : n.fault? = none) (hx : x = .ok a) : Converts [n] x := by
  rw [Converts, List.findSome?_singleton, hn]
  exact ⟨a, hx⟩

theorem pure (a : α) : Converts [] (.ok a : Except Stop α) := ⟨a, rfl⟩

theorem bind (h : Converts ns x) (hk : ∀ a, x = .ok a → Converts ms (k a)) :
    Converts (ns ++ ms) (x >>= k) := by
  rw [Converts, List.findSome?_append]
  rw [Converts] at h
  split at h
  · rename_i fault hfault
    rw [hfault, h]
    rfl
  · rename_i hnone
    obtain ⟨a, rfl⟩ := h
    rw [hnone]
    exact hk a rfl

theorem map (h : Converts ns x) (g : α → β) : Converts ns (x >>= fun a => .ok (g a)) := by
  have hbind := h.bind fun a _ => Converts.pure (g a)
  rwa [List.append_nil] at hbind

theorem eq_error_iff {stop : Stop} (h : Converts ns x) :
    x = .error stop ↔ (ns.findSome? Numeral.fault?).map .fault = some stop := by
  rw [Converts] at h
  split at h
  · rename_i fault hfault
    rw [hfault, h, Option.map_some, Option.some.injEq, Except.error.injEq]
  · rename_i hnone
    obtain ⟨a, rfl⟩ := h
    rw [hnone]
    exact ⟨nofun, nofun⟩

end Converts

theorem converts_natural (digits : Text) : Converts [{ digits }] (natural digits) := by
  by_cases hshort : digits.length ≤ maxDigits
  · refine .of_none (Numeral.fault?_eq_none hshort nofun) (a := digitsValue digits) ?_
    rw [natural, Text.toNat, if_pos hshort]
    rfl
  · refine .of_fault (Numeral.fault?_of_overlong (Nat.not_le.mp hshort)) ?_
    rw [natural, Text.toNat, if_neg hshort]
    rfl

/-- A sign changes nothing about whether a number can be converted. -/
theorem integer_eq (digits : Text) : ∃ f : Nat → Int, (∀ n, (f n).natAbs = n) ∧
    integer digits = natural (withoutSign digits) >>= fun n => .ok (f n) := by
  obtain ⟨f, hf, habs⟩ := toInt_eq digits
  refine ⟨f, habs, ?_⟩
  rw [integer, natural, hf]
  cases toNat (withoutSign digits) <;> rfl

theorem converts_integer (digits : Text) : Converts [.signed digits] (integer digits) := by
  obtain ⟨f, -, hf⟩ := integer_eq digits
  rw [hf]
  exact (converts_natural (withoutSign digits)).map f

theorem converts_scaled (digits : Text) :
    Converts [.length digits] (scaled digits : Except Stop Float) := by
  obtain ⟨f, habs, hf⟩ := integer_eq digits
  by_cases hshort : (withoutSign digits).length ≤ maxDigits
  · obtain ⟨i, hi⟩ : ∃ i, i = f (digitsValue (withoutSign digits)) := ⟨_, rfl⟩
    have hsize : i.natAbs = digitsValue (withoutSign digits) := hi ▸ habs _
    have hscaled : (scaled digits : Except Stop Float) =
        converted ((Binary64.ofInt i).map (· / scaledPointsPerUnit)) := by
      rw [scaled, hf, natural, Text.toNat, if_pos hshort, hi]
      rfl
    rw [hscaled]
    cases hi : Binary64.ofInt i with
    | error fault =>
      obtain ⟨hlarge, rfl⟩ := Binary64.ofInt_eq_error_iff.mp hi
      exact .of_fault (Numeral.fault?_of_tooLarge hshort rfl (hsize ▸ hlarge)) rfl
    | ok x =>
      refine .of_none (Numeral.fault?_eq_none hshort fun _ => Nat.not_le.mp fun hlarge => ?_) rfl
      rw [Binary64.ofInt_eq_error_iff.mpr ⟨hsize ▸ hlarge, rfl⟩] at hi
      cases hi
  · refine .of_fault (Numeral.fault?_of_overlong (Nat.not_le.mp hshort)) ?_
    rw [scaled, hf, natural, Text.toNat, if_neg hshort]
    rfl

/-- A length can be converted exactly if nothing is wrong with its number. -/
theorem exists_scaled_iff {digits : Text} :
    (∃ x : Float, scaled digits = .ok x) ↔ (Numeral.length digits).fault? = none := by
  have hconverts := converts_scaled digits
  rw [Converts, List.findSome?_singleton] at hconverts
  split at hconverts
  · rename_i fault hfault
    rw [hconverts, hfault]
    exact ⟨nofun, nofun⟩
  · rename_i hnone
    exact ⟨fun _ => hnone, fun _ => hconverts⟩

theorem BoxFields.converts_block (f : BoxFields) (kind : BoxKind) (d : Document Float)
    (p : OpenPage Float) :
    Converts [{ digits := f.file }, { digits := f.line }, .length f.left, .length f.bottom,
      .length f.width, .length f.height, .signed f.depth] (f.block kind d p) :=
  (converts_natural f.file).bind fun _ _ => (converts_natural f.line).bind fun _ _ =>
    (converts_scaled f.left).bind fun _ _ => (converts_scaled f.bottom).bind fun _ _ =>
    (converts_scaled f.width).bind fun _ _ => (converts_scaled f.height).bind fun _ _ =>
    (converts_integer f.depth).map _

theorem converts_width (width : Option Text) :
    Converts (width.toList.map .length) (width.mapM scaled : Except Stop (Option Float)) := by
  cases width with
  | none => exact .pure none
  | some digits => exact (converts_scaled digits).map some

theorem ElementFields.converts_block (f : ElementFields) (fileNumber : Nat) (path : Text) (page : Int)
    (box : Block Float) :
    Converts ({ digits := f.line } :: .length f.left :: .length f.bottom :: f.width.toList.map .length)
      (f.block fileNumber path page box) :=
  (converts_natural f.line).bind fun _ _ => (converts_scaled f.left).bind fun _ _ =>
    (converts_scaled f.bottom).bind fun _ _ => (converts_width f.width).map _

/-- The axis of an offset, if it is none of a page. -/
def Record.unknownAxis? : Record → Option Char
  | .offset axis _ => if axis ∈ ['X', 'x', 'Y', 'y'] then none else some axis
  | _ => none

namespace Reading

/-- The numbers that are converted for a record, in order. -/
def numerals (r : Reading Float) : Record → List Numeral
  | .input number _ | .openPage number => [{ digits := number }]
  | .offset _ value => [.length value]
  | .closePage number => if r.page.isSome then [{ digits := number }] else []
  | .openBox _ f =>
    if r.page.isSome then
      [{ digits := f.file }, { digits := f.line }, .length f.left, .length f.bottom, .length f.width,
        .length f.height, .signed f.depth]
    else []
  | .closeBox => []
  | .element f =>
    if r.page.any (!·.stack.isEmpty) then
      { digits := f.file } ::
        if (r.document.files.get? (digitsValue f.file)).isSome then
          { digits := f.line } :: .length f.left :: .length f.bottom :: f.width.toList.map .length
        else []
    else []

/-- What stops the reading at a record. -/
def stop? (r : Reading Float) (record : Record) : Option Stop :=
  (((r.numerals record).findSome? Numeral.fault?).map .fault).or
    (record.unknownAxis?.map .unknownAxis)

theorem converts_openBox (kind : BoxKind) (f : BoxFields) (r : Reading Float) :
    Converts (r.numerals (.openBox kind f)) (r.openBox kind f) := by
  rw [numerals, openBox]
  cases r.page with
  | none => exact .pure r
  | some p => cases kind <;> exact (f.converts_block _ r.document p).map _

theorem converts_addElement (f : ElementFields) (r : Reading Float) :
    Converts (r.numerals (.element f)) (r.addElement f) := by
  rw [numerals, addElement]
  cases r.page with
  | none => exact .pure r
  | some p =>
    obtain ⟨number, boxes, stack⟩ := p
    cases stack with
    | nil => exact .pure r
    | cons box stack =>
      refine (converts_natural f.file).bind fun n hn => ?_
      rw [eq_of_natural hn]
      cases r.document.files.get? (digitsValue f.file) with
      | none => exact .pure r
      | some path => exact (f.converts_block _ path number box.head).map _

theorem setOffset_eq_error_iff {axis : Char} {digits : Text} {value : Float} {r : Reading Float}
    {stop : Stop} : r.setOffset axis value = .error stop ↔
      ((Record.offset axis digits).unknownAxis?).map .unknownAxis = some stop := by
  rw [setOffset, Record.unknownAxis?]
  by_cases hx : axis = 'X' ∨ axis = 'x'
  · have hknown : axis ∈ ['X', 'x', 'Y', 'y'] := by rcases hx with rfl | rfl <;> decide
    rw [if_pos hx, if_pos hknown]
    simp
  · by_cases hy : axis = 'Y' ∨ axis = 'y'
    · have hknown : axis ∈ ['X', 'x', 'Y', 'y'] := by rcases hy with rfl | rfl <;> decide
      rw [if_neg hx, if_pos hy, if_pos hknown]
      simp
    · have hunknown : axis ∉ ['X', 'x', 'Y', 'y'] := by
        simp only [List.mem_cons, List.not_mem_nil, or_false]
        tauto
      rw [if_neg hx, if_neg hy, if_neg hunknown, Option.map_some, Option.some.injEq,
        Except.error.injEq]

/-- A record stops the reading at the first of its numbers that cannot be converted, or with its axis. -/
theorem step_eq_error_iff {r : Reading Float} {record : Record} {stop : Stop} :
    r.step record = .error stop ↔ r.stop? record = some stop := by
  have hconverts (h : Converts (r.numerals record) (r.step record))
      (haxis : record.unknownAxis? = none) : r.step record = .error stop ↔ r.stop? record = some stop := by
    rw [h.eq_error_iff, stop?, haxis, Option.map_none, Option.or_none]
  cases record with
  | input number path => exact hconverts ((converts_natural number).map _) rfl
  | openPage number => exact hconverts ((converts_natural number).map _) rfl
  | closePage number =>
    refine hconverts ?_ rfl
    rw [numerals, step, closePage]
    cases r.page with
    | none => exact .pure r
    | some p => exact (converts_natural number).map _
  | openBox kind f => exact hconverts (converts_openBox kind f r) rfl
  | closeBox => exact hconverts (.pure r.closeBox) rfl
  | element f => exact hconverts (converts_addElement f r) rfl
  | offset axis digits =>
    have hnumerals : r.numerals (.offset axis digits) = [.length digits] := rfl
    have hstep : r.step (.offset axis digits) = scaled digits >>= fun v => r.setOffset axis v := rfl
    have hscaled := converts_scaled digits
    rw [Converts] at hscaled
    rw [hstep, stop?, hnumerals]
    split at hscaled
    · rename_i fault hfault
      rw [hfault, hscaled]
      show (.error (.fault fault) : Except Stop (Reading Float)) = _ ↔ some (Stop.fault fault) = _
      rw [Except.error.injEq, Option.some.injEq]
    · rename_i hnone
      obtain ⟨v, hv⟩ := hscaled
      rw [hnone, hv]
      exact setOffset_eq_error_iff

theorem run_eq_error_iff {records : List Record} {r : Reading Float} {stop : Stop} :
    run records r = .error stop ↔ ∃ before record after r', records = before ++ record :: after ∧
      run before r = .ok r' ∧ r'.stop? record = some stop := by
  induction records generalizing r with
  | nil =>
    refine ⟨nofun, ?_⟩
    rintro ⟨before, record, after, r', h, -⟩
    exact absurd h.symm (by simp)
  | cons record rest ih =>
    rw [run]
    constructor
    · intro h
      cases hstep : r.step record with
      | error other =>
        rw [hstep] at h
        cases h
        exact ⟨[], record, rest, r, rfl, rfl, step_eq_error_iff.mp hstep⟩
      | ok r₁ =>
        rw [hstep] at h
        obtain ⟨before, found, after, r', rfl, hrun, hstop⟩ := ih.mp h
        refine ⟨record :: before, found, after, r', rfl, ?_, hstop⟩
        rw [run, hstep]
        exact hrun
    · rintro ⟨before, found, after, r', h, hrun, hstop⟩
      cases before with
      | nil =>
        cases h
        cases hrun
        rw [step_eq_error_iff.mpr hstop]
        rfl
      | cons first before =>
        cases h
        obtain ⟨r₁, hstep, hrun⟩ := bind_ok hrun
        rw [hstep]
        exact ih.mpr ⟨before, found, after, r', rfl, hrun, hstop⟩

theorem stop?_eq_fault_iff {r : Reading Float} {record : Record} {fault : Fault} :
    r.stop? record = some (.fault fault) ↔ (r.numerals record).findSome? Numeral.fault? = some fault := by
  rw [stop?]
  cases (r.numerals record).findSome? Numeral.fault? with
  | some other => simp
  | none => cases record.unknownAxis? <;> simp

end Reading

/-- Up to a record the file is read, and there it comes to a number that cannot be converted. -/
def Document.Fails (body : Text) (fault : Fault) : Prop :=
  ∃ before record after r, recordsOf body = before ++ record :: after ∧
    Reading.run before (Reading.start body) = .ok r ∧
    (r.numerals record).findSome? Numeral.fault? = some fault

theorem Document.ofText_eq_fault_iff {body : Text} {fault : Fault} :
    (Document.ofText body : Except Stop (Document Float)) = .error (.fault fault) ↔
      Document.Fails body fault := by
  have hrun : (Document.ofText body : Except Stop (Document Float)) = .error (.fault fault) ↔
      Reading.run (recordsOf body) (Reading.start body : Reading Float) = .error (.fault fault) := by
    rw [Document.ofText_eq]
    cases Reading.run (recordsOf body) (Reading.start body : Reading Float) <;> simp [Except.map]
  rw [hrun, Reading.run_eq_error_iff, Document.Fails]
  simp only [Reading.stop?_eq_fault_iff]

end TypesetTrace.Sync
