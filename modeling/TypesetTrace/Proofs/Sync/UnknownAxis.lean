import TypesetTrace.Proofs.Sync.RecordDigits

/-! Files that are given up. Offsets are looked for anywhere on a line, and before pages, boxes and
elements, so only an input file on the same line or an offset in front can hide one. If all numbers can
be converted nothing else stops the reading. -/
namespace TypesetTrace.Sync
open Text

namespace Record

/-- The text starts with `Input:`, a number, a colon, and at least one more character of the line. -/
def StartsInput (s : Text) : Prop :=
  ∃ number path, s = "Input:".toList ++ (number ++ ':' :: path) ∧ number ≠ [] ∧
    (∀ c ∈ number, isAsciiDigit c) ∧ ∃ c ∈ path.head?, isInLine c

/-- The text starts with the letter of an axis and its offset, of which one digit is enough. -/
def StartsOffset (axis : Char) (s : Text) : Prop :=
  isAxis axis ∧ ∃ sign digit rest, s = axis :: (" Offset:".toList ++ (sign ++ digit :: rest)) ∧
    (sign = [] ∨ sign = ['-']) ∧ isAsciiDigit digit

/-- No input file is given on the line, and its first offset is one for an axis that pages do not have. -/
structure NamesUnknownAxis (axis : Char) (line : Text) : Prop where
  no_input : ∀ u v, line = u ++ v → ¬ StartsInput v
  unknown : axis ∉ ['X', 'x', 'Y', 'y']
  first_offset : ∃ u v, line = u ++ v ∧ StartsOffset axis v ∧
    ∀ u' v', line = u' ++ v' → u'.length < u.length → ∀ other, ¬ StartsOffset other v'

theorem inputAt?_isSome_iff {s : Text} : (inputAt? s).isSome ↔ StartsInput s := by
  constructor
  · intro h
    obtain ⟨⟨⟨number, path⟩, rest⟩, h⟩ := Option.isSome_iff_exists.mp h
    simp only [inputAt?, Option.bind_eq_bind, Option.bind_eq_some_iff] at h
    obtain ⟨a, ha, ⟨number, b⟩, hnumber, c, hc, ⟨path, d⟩, hd, h⟩ := h
    obtain ⟨rfl, hdigits⟩ := run?_eq_some hnumber
    refine ⟨number, c, ?_, ne_nil_of_run? hnumber, hdigits, run?_isSome_iff.mp (by rw [hd]; rfl)⟩
    rw [after?_eq_some ha, show b = ':' :: c from after?_eq_some hc]
  · rintro ⟨number, path, rfl, hne, hdigits, hpath⟩
    have hnumber : run? isAsciiDigit (number ++ ':' :: path) = some (number, ':' :: path) :=
      run?_append hne hdigits (by simp; decide)
    obtain ⟨⟨t, r⟩, ht⟩ := Option.isSome_iff_exists.mp (run?_isSome_iff.mpr hpath)
    rw [inputAt?, after?_append]
    simp [hnumber, ht, after?]

theorem offsetAt?_eq_some_iff {axis : Char} {s : Text} :
    (∃ value rest, offsetAt? s = some ((axis, value), rest)) ↔ StartsOffset axis s := by
  constructor
  · rintro ⟨value, rest, h⟩
    unfold offsetAt? at h
    split at h
    · rename_i letter s
      split at h
      · rename_i hletter
        simp only [Option.bind_eq_bind, Option.bind_eq_some_iff] at h
        obtain ⟨a, ha, ⟨value, b⟩, hvalue, h⟩ := h
        cases h
        obtain ⟨sign, digit, rest, rfl, hsign⟩ := signedRun?_isSome_iff.mp (Option.isSome_of_eq_some hvalue)
        exact ⟨hletter, sign, digit, rest, congrArg (axis :: ·) (after?_eq_some ha), hsign⟩
      · cases h
    · cases h
  · rintro ⟨haxis, sign, digit, rest, rfl, hsign⟩
    obtain ⟨⟨value, r⟩, hvalue⟩ := Option.isSome_iff_exists.mp
      (signedRun?_isSome_iff.mpr ⟨sign, digit, rest, rfl, hsign⟩)
    refine ⟨value, r, ?_⟩
    rw [offsetAt?, if_pos haxis, after?_append]
    simp [hvalue]

theorem offsetAt?_eq_none_iff {s : Text} : offsetAt? s = none ↔ ∀ axis, ¬ StartsOffset axis s := by
  simp only [← offsetAt?_eq_some_iff]
  constructor
  · rintro h axis ⟨value, rest, hsome⟩
    rw [h] at hsome
    cases hsome
  · intro h
    rw [Option.eq_none_iff_forall_ne_some]
    rintro ⟨⟨axis, value⟩, rest⟩ hsome
    exact h axis ⟨value, rest, hsome⟩

theorem find?_eq_none_iff {α : Type} {read : Text → Option (α × Text)} {s : Text} :
    find? read s = none ↔ ∀ u v, s = u ++ v → ¬ (read v).isSome := by
  rw [find?, Option.map_eq_none_iff, ← Option.not_isSome_iff_eq_none, anywhere_isSome_iff]
  simp only [not_exists, not_and]

theorem find?_eq_some_iff {α : Type} {read : Text → Option (α × Text)} {s : Text} {a : α} :
    find? read s = some a ↔ ∃ u v, s = u ++ v ∧ (∃ rest, read v = some (a, rest)) ∧
      ∀ u' v', s = u' ++ v' → u'.length < u.length → read v' = none := by
  rw [find?, Option.map_eq_some_iff]
  constructor
  · rintro ⟨⟨u, a, rest⟩, h, rfl⟩
    obtain ⟨v, hs, hv, hearlier⟩ := anywhere_eq_some_iff.mp h
    exact ⟨u, v, hs, ⟨rest, hv⟩, hearlier⟩
  · rintro ⟨u, v, hs, ⟨rest, hv⟩, hearlier⟩
    exact ⟨(u, a, rest), anywhere_eq_some_iff.mpr ⟨v, hs, hv, hearlier⟩, rfl⟩

/-- Where a line has neither an input file nor an offset, its record is of another kind. -/
private theorem other_of_ofLine? {line : Text} {record : Record} (hinput : find? inputAt? line = none)
    (hoffset : find? offsetAt? line = none) (h : ofLine? line = some record) :
    (∀ number path, record ≠ .input number path) ∧ ∀ axis value, record ≠ .offset axis value := by
  rw [ofLine?, hinput, hoffset] at h
  dsimp only at h
  split at h
  · cases h
    simp
  split at h
  · cases h
    simp
  split at h
  · cases h
    simp
  split at h
  · cases h
    simp
  split at h
  · cases h
    simp
  · obtain ⟨_, -, rfl⟩ := Option.map_eq_some_iff.mp h
    simp

theorem ofLine?_eq_input_iff {line number path : Text} :
    ofLine? line = some (.input number path) ↔ find? inputAt? line = some (number, path) := by
  cases hinput : find? inputAt? line with
  | some input => simp [ofLine?, hinput, Prod.ext_iff]
  | none =>
    refine ⟨fun h => ?_, by simp⟩
    cases hoffset : find? offsetAt? line with
    | some offset => simp [ofLine?, hinput, hoffset] at h
    | none => exact absurd rfl ((other_of_ofLine? hinput hoffset h).1 number path)

/-- Offsets come second: only an input record on the line hides one. -/
theorem ofLine?_eq_offset_iff {line : Text} {axis : Char} {value : Text} :
    ofLine? line = some (.offset axis value) ↔
      find? inputAt? line = none ∧ find? offsetAt? line = some (axis, value) := by
  cases hinput : find? inputAt? line with
  | some input => simp [ofLine?, hinput]
  | none =>
    cases hoffset : find? offsetAt? line with
    | some offset => simp [ofLine?, hinput, hoffset, Prod.ext_iff]
    | none =>
      refine ⟨fun h => ?_, by simp⟩
      exact absurd rfl ((other_of_ofLine? hinput hoffset h).2 axis value)

theorem path_ne_nil_of_ofLine? {line number path : Text} (h : ofLine? line = some (.input number path)) :
    path ≠ [] := by
  obtain ⟨s, r, -, hread⟩ := exists_of_find? (ofLine?_eq_input_iff.mp h)
  simp only [inputAt?, Option.bind_eq_bind, Option.bind_eq_some_iff] at hread
  obtain ⟨a, ha, ⟨number, b⟩, hnumber, c, hc, ⟨path, d⟩, hpath, he⟩ := hread
  cases he
  exact ne_nil_of_run? hpath

theorem unknownAxis?_eq_some_iff {record : Record} {axis : Char} :
    record.unknownAxis? = some axis ↔
      axis ∉ ['X', 'x', 'Y', 'y'] ∧ ∃ value, record = .offset axis value := by
  cases record with
  | offset other value =>
    rw [unknownAxis?]
    split
    · rename_i h
      refine ⟨by simp, ?_⟩
      rintro ⟨hunknown, v, hv⟩
      cases hv
      exact absurd h hunknown
    · rename_i h
      constructor
      · rintro h'
        cases h'
        exact ⟨h, value, rfl⟩
      · rintro ⟨-, v, hv⟩
        cases hv
        rfl
  | _ => simp [unknownAxis?]

theorem namesUnknownAxis_iff {line : Text} {axis : Char} : NamesUnknownAxis axis line ↔
    ∃ record, ofLine? line = some record ∧ record.unknownAxis? = some axis := by
  have hinput : find? inputAt? line = none ↔ ∀ u v, line = u ++ v → ¬ StartsInput v := by
    rw [find?_eq_none_iff]
    simp only [inputAt?_isSome_iff]
  have hoffset : (∃ value, find? offsetAt? line = some (axis, value)) ↔
      ∃ u v, line = u ++ v ∧ StartsOffset axis v ∧
        ∀ u' v', line = u' ++ v' → u'.length < u.length → ∀ other, ¬ StartsOffset other v' := by
    simp only [find?_eq_some_iff, offsetAt?_eq_none_iff, ← offsetAt?_eq_some_iff]
    constructor
    · rintro ⟨value, u, v, hs, hv, h⟩
      exact ⟨u, v, hs, ⟨value, hv⟩, h⟩
    · rintro ⟨u, v, hs, ⟨value, hv⟩, h⟩
      exact ⟨value, u, v, hs, hv, h⟩
  constructor
  · intro h
    obtain ⟨value, hvalue⟩ := hoffset.mpr h.first_offset
    exact ⟨.offset axis value, ofLine?_eq_offset_iff.mpr ⟨hinput.mpr h.no_input, hvalue⟩,
      unknownAxis?_eq_some_iff.mpr ⟨h.unknown, value, rfl⟩⟩
  · rintro ⟨record, hline, haxis⟩
    obtain ⟨hunknown, value, rfl⟩ := unknownAxis?_eq_some_iff.mp haxis
    obtain ⟨hnone, hvalue⟩ := ofLine?_eq_offset_iff.mp hline
    exact ⟨hinput.mp hnone, hunknown, hoffset.mp ⟨value, hvalue⟩⟩

def lengths : Record → List Text
  | .offset _ value => [value]
  | .openBox _ f => [f.left, f.bottom, f.width, f.height]
  | .element f => f.left :: f.bottom :: f.width.toList
  | _ => []

end Record

/-- Some record of the file is an offset for an unknown axis exactly if some line below the first has one. -/
theorem exists_unknownAxis?_iff {body : Text} :
    (∃ record ∈ recordsOf body, ∃ axis, record.unknownAxis? = some axis) ↔
      ∃ line ∈ (lines body).tail, ∃ axis, Record.NamesUnknownAxis axis (trimEnd (· == '\r') line) := by
  simp only [recordsOf, List.mem_filterMap, Record.namesUnknownAxis_iff, recordOf?]
  constructor
  · rintro ⟨record, ⟨line, hline, hrecord⟩, axis, haxis⟩
    exact ⟨line, hline, axis, record, hrecord, haxis⟩
  · rintro ⟨line, hline, axis, record, hrecord, haxis⟩
    exact ⟨record, ⟨line, hline, hrecord⟩, axis, haxis⟩

namespace Reading
variable {r r' : Reading Float}

theorem mem_lengths_of_mem_numerals {record : Record} {n : Numeral} (h : n ∈ r.numerals record)
    (hlength : n.isLength) : ∃ digits ∈ record.lengths, n = .length digits := by
  have hlengths : (r.numerals record).filter (·.isLength) <+: record.lengths.map .length := by
    cases record with
    | closePage number =>
      rw [numerals]
      split <;> exact List.prefix_refl _
    | openBox kind f =>
      rw [numerals]
      split
      · exact List.prefix_refl _
      · exact List.nil_prefix
    | element f =>
      rw [numerals]
      split
      · split
        · cases hwidth : f.width <;> rw [Record.lengths, hwidth] <;> exact List.prefix_refl _
        · exact List.nil_prefix
      · exact List.nil_prefix
    | _ => exact List.prefix_refl _
  obtain ⟨digits, hdigits, rfl⟩ := List.mem_map.mp (hlengths.subset (List.mem_filter.mpr ⟨h, hlength⟩))
  exact ⟨digits, hdigits, rfl⟩

/-- If all numbers of a record can be converted, only an unknown axis stops the reading at it. -/
theorem stop?_of_convertible {record : Record}
    (hdigits : ∀ digits ∈ record.digits, digits.length ≤ maxDigits)
    (hlengths : ∀ digits ∈ record.lengths, ∃ x : Float, scaled digits = .ok x) :
    r.stop? record = record.unknownAxis?.map .unknownAxis := by
  have hnone : (r.numerals record).findSome? Numeral.fault? = none := by
    rw [List.findSome?_eq_none_iff]
    intro n hn
    by_cases hlength : n.isLength
    · obtain ⟨digits, hmem, rfl⟩ := mem_lengths_of_mem_numerals hn hlength
      exact exists_scaled_iff.mp (hlengths digits hmem)
    · exact Numeral.fault?_eq_none (hdigits _ (mem_digits_of_mem_numerals hn)) fun h => absurd h hlength
  rw [stop?, hnone, Option.map_none, Option.none_or]

/-- Behind a record with an unknown axis nothing is read. -/
theorem unknownAxis?_of_run {records : List Record} (h : run records r = .ok r') :
    ∀ record ∈ records, record.unknownAxis? = none := by
  induction records generalizing r with
  | nil => exact nofun
  | cons record rest ih =>
    obtain ⟨r₁, hstep, hrest⟩ := bind_ok h
    refine List.forall_mem_cons.mpr ⟨?_, ih hrest⟩
    have hstop : r.stop? record = none := by
      rw [Option.eq_none_iff_forall_ne_some]
      intro stop hstop
      rw [step_eq_error_iff.mpr hstop] at hstep
      cases hstep
    exact Option.map_eq_none_iff.mp (Option.or_eq_none_iff.mp hstop).2

end Reading

/-- A file with convertible numbers only is given up exactly for an unknown axis. -/
theorem Document.ofText_eq_unknownAxis_iff {body : Text}
    (hdigits : ∀ digits, IsDigitsIn digits body → digits.length ≤ maxDigits)
    (hlengths : ∀ record ∈ recordsOf body, ∀ digits ∈ record.lengths, ∃ x : Float, scaled digits = .ok x) :
    (∀ fault, (Document.ofText body : Except Stop (Document Float)) ≠ .error (.fault fault)) ∧
      ((∃ axis, (Document.ofText body : Except Stop (Document Float)) = .error (.unknownAxis axis)) ↔
        ∃ line ∈ (lines body).tail, ∃ axis, Record.NamesUnknownAxis axis (trimEnd (· == '\r') line)) ∧
      ((∃ d : Document Float, Document.ofText body = .ok d) ↔
        ¬ ∃ line ∈ (lines body).tail, ∃ axis, Record.NamesUnknownAxis axis (trimEnd (· == '\r') line)) := by
  have hstop {record : Record} (h : record ∈ recordsOf body) (r : Reading Float) :
      r.stop? record = record.unknownAxis?.map .unknownAxis :=
    Reading.stop?_of_convertible (fun digits hd => hdigits digits (isDigitsIn_of_mem_recordsOf h digits hd))
      (hlengths record h)
  rw [Document.ofText_eq, ← exists_unknownAxis?_iff]
  cases hrun : Reading.run (recordsOf body) (Reading.start body : Reading Float) with
  | ok r =>
    have hnone : ¬ ∃ record ∈ recordsOf body, ∃ axis, record.unknownAxis? = some axis := by
      rintro ⟨record, hrecord, axis, haxis⟩
      rw [Reading.unknownAxis?_of_run hrun record hrecord] at haxis
      cases haxis
    exact ⟨nofun, ⟨nofun, fun h => absurd h hnone⟩, ⟨fun _ => hnone, fun _ => ⟨_, rfl⟩⟩⟩
  | error stop =>
    obtain ⟨before, record, after, r, hrecords, -, hrecord⟩ := Reading.run_eq_error_iff.mp hrun
    have hmem : record ∈ recordsOf body := by
      rw [hrecords]
      exact List.mem_append_right before List.mem_cons_self
    rw [hstop hmem] at hrecord
    obtain ⟨axis, haxis, rfl⟩ := Option.map_eq_some_iff.mp hrecord
    have hsome : ∃ record ∈ recordsOf body, ∃ axis, record.unknownAxis? = some axis :=
      ⟨record, hmem, axis, haxis⟩
    exact ⟨nofun, ⟨fun _ => hsome, fun _ => ⟨axis, rfl⟩⟩, ⟨nofun, fun h => absurd hsome h⟩⟩

/-- A box that closes nothing, an element outside of any box, an input file that hides an offset, one axis
behind another, and the axis `q`. -/
def strayLines : Text :=
  "\n]\nx9,9:9,9\nInput:1:Z Offset:3\nY Offset:4 Z Offset:3\nq Offset:-5 X Offset:1\r\r\n".toList

/-- The same without its last line is read, with nothing in it. -/
def hiddenLines : Text := "\n]\nx9,9:9,9\nInput:1:Z Offset:3\nY Offset:4 Z Offset:3".toList

private theorem recordsOf_hiddenLines : recordsOf hiddenLines =
    [.closeBox, .element ⟨'x', "9".toList, "9".toList, "9".toList, "9".toList, none⟩,
      .input "1".toList "Z Offset:3".toList, .offset 'Y' "4".toList] := by decide +kernel

private theorem recordsOf_strayLines :
    recordsOf strayLines = recordsOf hiddenLines ++ [.offset 'q' "-5".toList] := by
  rw [recordsOf_hiddenLines]
  decide +kernel

theorem Document.ofText_strayLines :
    (∃ axis, (Document.ofText strayLines : Except Stop (Document Float)) = .error (.unknownAxis axis)) ∧
      ∃ d : Document Float, Document.ofText hiddenLines = .ok d := by
  have hdigits {body : Text} (hshort : body.length ≤ maxDigits) :
      ∀ digits, IsDigitsIn digits body → digits.length ≤ maxDigits :=
    fun digits h => h.within.length_le.trans hshort
  have hlengths {body : Text} (hshort : ∀ record ∈ recordsOf body, ∀ digits ∈ record.lengths,
        (withoutSign digits).length ≤ Numeral.safeDigits) :
      ∀ record ∈ recordsOf body, ∀ digits ∈ record.lengths, ∃ x : Float, scaled digits = .ok x :=
    fun record hrecord digits h =>
      exists_scaled_iff.mpr (Numeral.fault?_eq_none_of_safe (hshort record hrecord digits h))
  obtain ⟨-, habort, -⟩ := ofText_eq_unknownAxis_iff (hdigits (by decide : strayLines.length ≤ maxDigits))
    (hlengths (by rw [recordsOf_strayLines, recordsOf_hiddenLines]; decide))
  obtain ⟨-, -, hread⟩ := ofText_eq_unknownAxis_iff (hdigits (by decide : hiddenLines.length ≤ maxDigits))
    (hlengths (by rw [recordsOf_hiddenLines]; decide))
  refine ⟨habort.mpr (exists_unknownAxis?_iff.mp ⟨.offset 'q' "-5".toList, ?_, 'q', rfl⟩), hread.mpr fun h => ?_⟩
  · rw [recordsOf_strayLines]
    exact List.mem_append_right _ List.mem_cons_self
  · obtain ⟨record, hrecord, axis, haxis⟩ := exists_unknownAxis?_iff.mpr h
    have hnone : ∀ record ∈ recordsOf hiddenLines, record.unknownAxis? = none := by
      rw [recordsOf_hiddenLines]
      decide
    rw [hnone record hrecord] at haxis
    cases haxis

end TypesetTrace.Sync
