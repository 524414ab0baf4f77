import TypesetTrace.Log.Session
import TypesetTrace.Proofs.Sync.Agreement
import TypesetTrace.Proofs.Text.Lines

/-! Line breaks may be feeds, or pairs of return and feed. A file is read without the returns at the ends of
its lines, however many there are. A log is cut at pairs as it is at feeds, which takes away one return in front
of each feed and no more. -/
namespace TypesetTrace
namespace Text

/-- The text with a pair of return and feed for every feed. -/
def withReturns (s : Text) : Text := s.flatMap fun c => if c = '\n' then ['\r', '\n'] else [c]

/-- With pairs for feeds, every line but the last one gets a return at its end. -/
theorem exists_lines_withReturns (s : Text) : ∃ before last,
    lines s = before ++ [last] ∧ lines (withReturns s) = before.map (· ++ ['\r']) ++ [last] := by
  induction s with
  | nil => exact ⟨[], [], rfl, rfl⟩
  | cons c s ih =>
    obtain ⟨before, last, hlines, hreturns⟩ := ih
    rw [withReturns, List.flatMap_cons]
    by_cases hc : c = '\n'
    · subst hc
      refine ⟨[] :: before, last, congrArg ([] :: ·) hlines, ?_⟩
      exact congrArg (['\r'] :: ·) hreturns
    · have hcut (t : Text) {piece : Text} {pieces : List Text} (ht : lines t = piece :: pieces) :
          lines (c :: t) = (c :: piece) :: pieces := by
        rw [lines] at ht
        rw [lines, cutAt, if_neg (by simpa using hc), ht]
      rw [if_neg hc]
      cases before with
      | nil => exact ⟨[], c :: last, hcut s hlines, hcut (withReturns s) hreturns⟩
      | cons first before => exact ⟨(c :: first) :: before, last, hcut s hlines, hcut (withReturns s) hreturns⟩

theorem dropReturn_concat (line : Text) : dropReturn (line ++ ['\r']) = line := by
  rw [dropReturn, List.reverse_append]
  exact List.reverse_reverse line

theorem dropReturn_eq_self {line : Text} (h : ¬ ['\r'] <:+ line) : dropReturn line = line := by
  rw [dropReturn]
  split
  · rename_i r hr
    refine absurd ⟨r.reverse, ?_⟩ h
    rw [← List.reverse_reverse line, hr, List.reverse_cons]
  · rfl

theorem linesOfEither_of_lines {s last : Text} {before : List Text} (h : lines s = before ++ [last]) :
    linesOfEither s = before.map dropReturn ++ [last] := by
  rw [linesOfEither, h, List.reverse_concat]
  simp

/-- Pairs of return and feed end lines as feeds do. -/
theorem linesOfEither_withReturns (s : Text) : linesOfEither (withReturns s) = lines s := by
  obtain ⟨before, last, hlines, hreturns⟩ := exists_lines_withReturns s
  have hdrop : dropReturn ∘ (· ++ ['\r']) = id := funext dropReturn_concat
  rw [linesOfEither_of_lines hreturns, List.map_map, hdrop, List.map_id, hlines]

/-- Where no return stands in front of a feed, there is none to take away. -/
theorem linesOfEither_eq_lines {s : Text} (h : ¬ ['\r', '\n'] <:+: s) : linesOfEither s = lines s := by
  obtain ⟨before, last, hlines, -⟩ := exists_lines_withReturns s
  have hkept : ∀ line ∈ before, dropReturn line = line := by
    intro line hline
    refine dropReturn_eq_self fun ⟨front, hfront⟩ => h ?_
    have hbreak : line ++ ['\n'] <:+: s := by
      rw [← join_lines s, hlines]
      exact infix_of_mem_before hline
    refine List.IsInfix.trans ⟨front, [], ?_⟩ hbreak
    rw [List.append_nil, ← hfront, List.append_assoc]
    rfl
  rw [linesOfEither_of_lines hlines, List.map_congr_left hkept, List.map_id', hlines]

theorem isSome_after?_concat {w : Text} {c : Char} (hc : c ∉ w) (s : Text) :
    (after? w (s ++ [c])).isSome = (after? w s).isSome := by
  rw [Bool.eq_iff_iff, after?_isSome_iff, after?_isSome_iff, List.prefix_concat_iff]
  refine or_iff_right fun hw => hc ?_
  rw [hw]
  exact List.mem_concat_self

/-- A character that is not in the word outlasts its removal at the end of a text. -/
theorem remove_concat {w : Text} {c : Char} (hc : c ∉ w) {n : Nat} {s : Text} (hn : n ≤ s.length) :
    remove w n (s ++ [c]) = remove w n s ++ [c] := by
  -- Of a word that was found, `n` characters are still to be passed over, and they lie in `s`.
  induction s generalizing n with
  | nil =>
    obtain rfl : n = 0 := Nat.le_zero.mp hn
    have hw : ¬ (w ≠ [] ∧ (after? w [c]).isSome) := by
      rintro ⟨hne, hfound⟩
      rw [← List.nil_append [c], isSome_after?_concat hc, after?_isSome_iff] at hfound
      exact hne (List.prefix_nil.mp hfound)
    show remove w 0 [c] = [c]
    rw [remove, if_neg hw]
    rfl
  | cons d s ih =>
    cases n with
    | succ n => exact ih (Nat.le_of_succ_le_succ hn)
    | zero =>
      have hfound := isSome_after?_concat hc (d :: s)
      rw [List.cons_append] at hfound ⊢
      rw [remove, remove, hfound]
      split
      · rename_i hw
        have hlength := (after?_isSome_iff.mp hw.2).length_le
        rw [List.length_cons] at hlength
        exact ih (by omega)
      · rw [ih (Nat.zero_le _)]
        rfl

end Text

namespace Sync
open Text
variable {K : Type} [Scalar K]

theorem recordOf?_concat (line : Text) : recordOf? (line ++ ['\r']) = recordOf? line := by
  rw [recordOf?, trimEnd_concat rfl, recordOf?]

theorem versionOf_concat (line : Text) : versionOf (line ++ ['\r']) = versionOf line := by
  rw [versionOf, remove_concat (by decide) (Nat.zero_le _), strip_concat rfl, versionOf]

theorem recordsOf_withReturns (body : Text) : recordsOf (withReturns body) = recordsOf body := by
  obtain ⟨before, last, hlines, hreturns⟩ := exists_lines_withReturns body
  rw [recordsOf, recordsOf, hlines, hreturns]
  cases before with
  | nil => rfl
  | cons first before =>
    have hrecord : recordOf? ∘ (· ++ ['\r']) = recordOf? := funext recordOf?_concat
    simp only [List.map_cons, List.cons_append, List.tail_cons, List.filterMap_append, List.filterMap_map,
      hrecord]

theorem Reading.start_withReturns (body : Text) :
    (Reading.start (withReturns body) : Reading K) = Reading.start body := by
  obtain ⟨before, last, hlines, hreturns⟩ := exists_lines_withReturns body
  rw [Reading.start, Reading.start, hlines, hreturns]
  cases before with
  | nil => rfl
  | cons first before =>
    show ({ document := { Document.blank with version := versionOf (first ++ ['\r']) } } : Reading K) = _
    rw [versionOf_concat]
    rfl

theorem Document.ofText_withReturns (body : Text) :
    (Document.ofText (withReturns body) : Except Stop (Document K)) = Document.ofText body := by
  rw [Document.ofText_eq, Document.ofText_eq, recordsOf_withReturns, Reading.start_withReturns]

end Sync

namespace Log
open Text

theorem diagnosticsOf_withReturns {log : Text} (h : ¬ ['\r', '\n'] <:+: log) (rootFile : Text)
    (working : Path.WorkingDirectory) :
    diagnosticsOf (withReturns log) rootFile working = diagnosticsOf log rootFile working := by
  rw [diagnosticsOf, diagnosticsOf, linesOfEither_withReturns, linesOfEither_eq_lines h]

end Log

open Text

/-- A file with pairs for its feeds is read as the file itself: as the same document, or not at all for the same
reason. So is a log, unless a feed of it has a return in front of it already: of two returns one is left over. -/
theorem read_alike_withReturns {K : Type} [Scalar K] :
    (∀ body, (Sync.Document.ofText (withReturns body) : Except Sync.Stop (Sync.Document K)) =
      Sync.Document.ofText body) ∧
      ∀ log rootFile working, ¬ ['\r', '\n'] <:+: log →
        Log.diagnosticsOf (withReturns log) rootFile working = Log.diagnosticsOf log rootFile working :=
  ⟨Sync.Document.ofText_withReturns,
    fun _ rootFile working h => Log.diagnosticsOf_withReturns h rootFile working⟩

example : (Log.diagnosticsOf (withReturns "! a\r\nb".toList) "/a.tex".toList).toOption ≠
    (Log.diagnosticsOf "! a\r\nb".toList "/a.tex".toList).toOption := by
  decide +kernel

/-- The log of an error, with a return inside a line. -/
def returningLog : Text := "./a\r.tex:3: Missing $ inserted.\nl.3 x\n\n".toList

theorem read_alike_returningLog : ¬ ['\r', '\n'] <:+: returningLog ∧
    Log.diagnosticsOf (withReturns returningLog) "/d/a.tex".toList =
      Log.diagnosticsOf returningLog "/d/a.tex".toList :=
  have h : ¬ ['\r', '\n'] <:+: returningLog := by decide +kernel
  ⟨h, (read_alike_withReturns (K := Float)).2 returningLog "/d/a.tex".toList .usual h⟩

end TypesetTrace
