import TypesetTrace.Proofs.Sync.Numerals
import TypesetTrace.Proofs.Text.Lines

/-! Where the numbers of a record stand. Each is a run of digits on the line of the record, behind a sign
or not, so a file without long runs of digits is read to its end or to an unknown axis. -/
namespace TypesetTrace.Sync
open Text

/-- The text is made of digits and stands somewhere in the other one. -/
structure IsDigitsIn (digits s : Text) : Prop where
  within : digits <:+: s
  isDigit : ∀ c ∈ digits, isAsciiDigit c

theorem IsDigitsIn.of_within {digits r s : Text} (h : IsDigitsIn digits r) (hr : r <:+: s) :
    IsDigitsIn digits s := ⟨h.within.trans hr, h.isDigit⟩

/-- A reader found these digits at the front of a text, and left `rest` over. -/
structure Reads (found : List Text) (rest s : Text) : Prop where
  suffix : rest <:+ s
  digits : ∀ d ∈ found, IsDigitsIn d s

namespace Reads
variable {ds es : List Text} {t r s : Text}

theorem trans (h : Reads ds r s) (hr : Reads es t r) : Reads (ds ++ es) t s where
  suffix := hr.suffix.trans h.suffix
  digits d hd := by
    rcases List.mem_append.mp hd with hd | hd
    · exact h.digits d hd
    · exact (hr.digits d hd).of_within h.suffix.isInfix

theorem of_suffix (h : r <:+ s) : Reads [] r s := ⟨h, nofun⟩

theorem of_after? {w : Text} (h : after? w s = some r) : Reads [] r s := of_suffix (suffix_of_after? h)

theorem of_run? (h : run? isAsciiDigit s = some (t, r)) : Reads [t] r s where
  suffix := suffix_of_run? h
  digits d hd := by
    obtain ⟨rfl, hdigits⟩ := run?_eq_some h
    rw [List.mem_singleton.mp hd]
    exact ⟨(List.prefix_append _ _).isInfix, hdigits⟩

theorem of_signedRun? (h : signedRun? s = some (t, r)) : Reads [withoutSign t] r s := by
  obtain ⟨u, hu, hrun⟩ := exists_of_signedRun? h
  exact (of_suffix hu).trans (of_run? hrun)

theorem of_corner? {file line left bottom : Text} (h : Record.corner? s = some ((file, line, left, bottom), r)) :
    Reads [file, line, withoutSign left, withoutSign bottom] r s := by
  simp only [Record.corner?, Option.bind_eq_bind, Option.bind_eq_some_iff] at h
  obtain ⟨⟨file, a⟩, hfile, b, hb, ⟨line, c⟩, hline, d, hd, ⟨left, e⟩, hleft, f, hf, ⟨bottom, g⟩, hbottom, h⟩ := h
  cases h
  exact (of_run? hfile).trans <| (of_after? hb).trans <| (of_run? hline).trans <|
    (of_after? hd).trans <| (of_signedRun? hleft).trans <| (of_after? hf).trans (of_signedRun? hbottom)

end Reads

namespace Record

/-- The digits of the numbers of a record, signs aside. -/
def digits : Record → List Text
  | .input number _ | .openPage number | .closePage number => [number]
  | .offset _ value => [withoutSign value]
  | .openBox _ f =>
    [f.file, f.line, withoutSign f.left, withoutSign f.bottom, withoutSign f.width, withoutSign f.height,
      withoutSign f.depth]
  | .closeBox => []
  | .element f =>
    [f.file, f.line, withoutSign f.left, withoutSign f.bottom] ++ f.width.toList.map withoutSign

theorem exists_of_find? {α : Type} {read : Text → Option (α × Text)} {s : Text} {a : α}
    (h : find? read s = some a) : ∃ t r, t <:+ s ∧ read t = some (a, r) := by
  obtain ⟨⟨t, b, r⟩, hread, rfl⟩ := Option.map_eq_some_iff.mp h
  obtain ⟨u, rfl, hu⟩ := shortest_eq_some hread
  exact ⟨u, r, List.suffix_append t u, hu⟩

private theorem reads_inputAt? {number path s r : Text} (h : inputAt? s = some ((number, path), r)) :
    Reads [number] r s := by
  simp only [inputAt?, Option.bind_eq_bind, Option.bind_eq_some_iff] at h
  obtain ⟨a, ha, ⟨number, b⟩, hnumber, c, hc, ⟨path, d⟩, hd, h⟩ := h
  cases h
  exact (Reads.of_after? ha).trans <| (Reads.of_run? hnumber).trans <| (Reads.of_after? hc).trans
    (Reads.of_suffix (suffix_of_run? hd))

private theorem reads_offsetAt? {axis : Char} {value s r : Text}
    (h : offsetAt? s = some ((axis, value), r)) : Reads [withoutSign value] r s := by
  unfold offsetAt? at h
  split at h
  · rename_i c t
    split at h
    · simp only [Option.bind_eq_bind, Option.bind_eq_some_iff] at h
      obtain ⟨a, ha, ⟨value, b⟩, hvalue, h⟩ := h
      cases h
      exact (Reads.of_suffix (List.suffix_cons _ t)).trans <| (Reads.of_after? ha).trans
        (Reads.of_signedRun? hvalue)
    · cases h
  · cases h

private theorem reads_pageAt? {brace : Char} {number s r : Text}
    (h : pageAt? brace s = some (number, r)) : Reads [number] r s := by
  simp only [pageAt?, Option.bind_eq_bind, Option.bind_eq_some_iff] at h
  obtain ⟨a, ha, ⟨number, b⟩, hnumber, h⟩ := h
  split at h
  · cases h
    exact (Reads.of_after? ha).trans (Reads.of_run? hnumber)
  · cases h

private theorem reads_boxAt? {kind : BoxKind} {f : BoxFields} {s r : Text}
    (h : boxAt? kind s = some (f, r)) : Reads (digits (.openBox kind f)) r s := by
  simp only [boxAt?, Option.bind_eq_bind, Option.bind_eq_some_iff] at h
  obtain ⟨a, ha, ⟨⟨file, line, left, bottom⟩, b⟩, hcorner, c, hc, ⟨width, d⟩, hwidth, e, he,
    ⟨height, g⟩, hheight, i, hi, ⟨depth, j⟩, hdepth, h⟩ := h
  cases h
  exact (Reads.of_after? ha).trans <| (Reads.of_corner? hcorner).trans <| (Reads.of_after? hc).trans <|
    (Reads.of_signedRun? hwidth).trans <| (Reads.of_after? he).trans <|
    (Reads.of_signedRun? hheight).trans <| (Reads.of_after? hi).trans (Reads.of_signedRun? hdepth)

private theorem reads_elementWidth? {width s r : Text} (h : elementWidth? s = some (width, r)) :
    Reads [withoutSign width] r s := by
  rcases Option.or_eq_some_iff.mp h with h | ⟨-, h⟩
  · obtain ⟨a, ha, h⟩ := Option.bind_eq_some_iff.mp h
    exact (Reads.of_after? ha).trans (Reads.of_signedRun? h)
  · exact Reads.of_signedRun? h

private theorem reads_elementAt? {f : ElementFields} {s r : Text} (h : elementAt? s = some (f, r)) :
    Reads (digits (.element f)) r s := by
  unfold elementAt? at h
  split at h
  · rename_i symbol t
    split at h
    · simp only [Option.bind_eq_bind, Option.bind_eq_some_iff] at h
      obtain ⟨⟨⟨file, line, left, bottom⟩, a⟩, hcorner, h⟩ := h
      have hfront := (Reads.of_suffix (List.suffix_cons symbol t)).trans (Reads.of_corner? hcorner)
      split at h
      · rename_i width b hwidth
        cases h
        exact hfront.trans (reads_elementWidth? hwidth)
      · cases h
        exact hfront
    · cases h
  · cases h

/-- The numbers of a record stand on its line. -/
theorem isDigitsIn_of_ofLine? {line : Text} {record : Record} (h : ofLine? line = some record) :
    ∀ d ∈ record.digits, IsDigitsIn d line := by
  have hread {α : Type} {read : Text → Option (α × Text)} {a : α} {ds : List Text}
      (hfind : find? read line = some a) (hreads : ∀ {s r}, read s = some (a, r) → Reads ds r s) :
      ∀ d ∈ ds, IsDigitsIn d line := by
    obtain ⟨t, r, ht, hr⟩ := exists_of_find? hfind
    exact fun d hd => ((hreads hr).digits d hd).of_within ht.isInfix
  rw [ofLine?] at h
  split at h
  · rename_i hfind
    cases h
    exact hread hfind reads_inputAt?
  split at h
  · rename_i hfind
    cases h
    exact hread hfind reads_offsetAt?
  split at h
  · rename_i hfind
    cases h
    exact hread hfind reads_pageAt?
  split at h
  · rename_i hfind
    cases h
    exact hread hfind reads_pageAt?
  split at h
  · rename_i hfind
    cases h
    exact hread hfind reads_boxAt?
  split at h
  · cases h
    exact nofun
  split at h
  · rename_i hfind
    cases h
    exact hread hfind reads_boxAt?
  · obtain ⟨f, hfind, rfl⟩ := Option.map_eq_some_iff.mp h
    exact hread hfind reads_elementAt?

end Record

/-- The numbers of the records of a file stand in it. -/
theorem isDigitsIn_of_mem_recordsOf {body : Text} {record : Record} (h : record ∈ recordsOf body) :
    ∀ d ∈ record.digits, IsDigitsIn d body := by
  obtain ⟨line, hline, hrecord⟩ := List.mem_filterMap.mp h
  have htrim : trimEnd (· == '\r') line <:+: line := by
    rw [trimEnd, ← List.reverse_infix, List.reverse_reverse]
    exact (List.dropWhile_suffix _).isInfix
  have hbody := htrim.trans (within_of_mem_lines (List.mem_of_mem_tail hline))
  exact fun d hd => (Record.isDigitsIn_of_ofLine? hrecord d hd).of_within hbody

/-- Only numbers of the record are converted. -/
theorem Reading.mem_digits_of_mem_numerals {r : Reading Float} {record : Record} {n : Numeral}
    (h : n ∈ r.numerals record) : n.digits ∈ record.digits := by
  have hmap : (r.numerals record).map (·.digits) <+: record.digits := by
    cases record with
    | closePage number =>
      rw [numerals]
      split
      · exact List.prefix_refl _
      · exact List.nil_prefix
    | openBox kind f =>
      rw [numerals]
      split
      · exact List.prefix_refl _
      · exact List.nil_prefix
    | element f =>
      rw [numerals]
      split
      · split
        · cases hwidth : f.width <;> rw [Record.digits, hwidth] <;> exact List.prefix_refl _
        · exact ⟨_, rfl⟩
      · exact List.nil_prefix
    | _ => exact List.prefix_refl _
  exact hmap.subset (List.mem_map_of_mem h)

/-- A file in which no more digits follow each other has no number that cannot be converted. -/
theorem Document.not_fails_of_safe {body : Text}
    (h : ∀ d, IsDigitsIn d body → d.length ≤ Numeral.safeDigits) (fault : Fault) :
    ¬ Document.Fails body fault := by
  rintro ⟨before, record, after, r, hrecords, -, hfault⟩
  have hrecord : record ∈ recordsOf body := by
    rw [hrecords]
    exact List.mem_append_right before List.mem_cons_self
  obtain ⟨n, hn, hnfault⟩ := List.exists_of_findSome?_eq_some hfault
  have hdigits := isDigitsIn_of_mem_recordsOf hrecord _ (Reading.mem_digits_of_mem_numerals hn)
  rw [Numeral.fault?_eq_none_of_safe (h _ hdigits)] at hnfault
  cases hnfault

end TypesetTrace.Sync
