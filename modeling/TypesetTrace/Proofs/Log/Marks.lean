import Mathlib.Data.List.Induction
import TypesetTrace.Log.Nesting

/-! Which files are open, told by matching parentheses. One stack of marks keeps for every open
parenthesis what it opened, while a nesting keeps the files and a number, and closes what has no name
first. So a nesting has every file that is open, and besides at most files that were closed inside a
parenthesis that names none. -/
namespace TypesetTrace.Log

/-- What an opening parenthesis opens. -/
inductive Mark where
  | file (path : Text)
  | anonymous
  deriving DecidableEq, Repr

inductive Parenthesis where
  | opening (mark : Mark)
  | closing
  deriving DecidableEq, Repr

def Mark.before (rest : Text) : Mark :=
  match Nesting.opened? rest with
  | some path => .file path
  | none => .anonymous

def Mark.path? : Mark → Option Text
  | .file path => some path
  | .anonymous => none

/-- The parentheses of a line, from left to right. -/
def parentheses : Text → List Parenthesis
  | [] => []
  | c :: rest =>
    if c = '(' then .opening (Mark.before rest) :: parentheses rest
    else if c = ')' then .closing :: parentheses rest
    else parentheses rest

abbrev Marks := List Mark

namespace Marks

/-- A closing parenthesis closes the most recent one that is open, if there is one. -/
def after (marks : Marks) : Parenthesis → Marks
  | .opening mark => mark :: marks
  | .closing => marks.tail

/-- What the lines leave open. -/
def scanAll (lines : List Text) (marks : Marks) : Marks :=
  (lines.flatMap parentheses).foldl after marks

def files (marks : Marks) : List Text := marks.filterMap Mark.path?

/-- The open files, and the number of open parentheses that name none. -/
def nesting (marks : Marks) : Nesting := { files := marks.files, anonymous := marks.count .anonymous }

/-- The parenthesis closes a file that was opened inside one that names none. -/
def ClosesInner (marks : Marks) : Parenthesis → Prop
  | .opening _ => False
  | .closing => ∃ path outer, marks = .file path :: outer ∧ .anonymous ∈ outer

@[simp] theorem files_file (path : Text) (marks : Marks) :
    files (.file path :: marks) = path :: files marks := rfl

@[simp] theorem files_anonymous (marks : Marks) : files (.anonymous :: marks) = files marks := rfl

theorem count_file (path : Text) (marks : Marks) :
    List.count .anonymous (.file path :: marks) = List.count .anonymous marks := by simp

theorem files_map_file (paths : List Text) : files (paths.map .file) = paths := by
  induction paths with
  | nil => rfl
  | cons path paths ih => rw [List.map_cons, files_file, ih]

theorem nesting_map_file (paths : List Text) : nesting (paths.map .file) = { files := paths } := by
  have hcount : (paths.map Mark.file).count .anonymous = 0 :=
    List.count_eq_zero.mpr fun h => by simp at h
  rw [nesting, files_map_file, hcount]
  rfl

theorem length_files_add_count (marks : Marks) :
    marks.files.length + marks.count .anonymous = marks.length := by
  induction marks with
  | nil => rfl
  | cons mark marks ih =>
    cases mark with
    | file path => rw [files_file, count_file, List.length_cons, List.length_cons]; omega
    | anonymous => rw [files_anonymous, List.count_cons_self, List.length_cons]; omega

end Marks

namespace Nesting

def after (n : Nesting) : Parenthesis → Nesting
  | .opening (.file path) => { n with files := path :: n.files }
  | .opening .anonymous => { n with anonymous := n.anonymous + 1 }
  | .closing => n.leave

def scanAll (lines : List Text) (n : Nesting) : Nesting := lines.foldl (fun n line => scan line n) n

theorem enter_eq (rest : Text) (n : Nesting) : enter rest n = n.after (.opening (Mark.before rest)) := by
  rw [enter, Mark.before]
  cases opened? rest <;> rfl

theorem scan_eq (line : Text) (n : Nesting) : scan line n = (parentheses line).foldl after n := by
  fun_induction scan line n with
  | case1 n => rfl
  | case2 n rest ih => rw [ih, enter_eq, parentheses, if_pos rfl, List.foldl_cons]
  | case3 n rest _ ih =>
    rw [ih, parentheses, if_neg (by decide), if_pos rfl, List.foldl_cons]
    rfl
  | case4 n c rest hopen hclose ih => rw [ih, parentheses, if_neg hopen, if_neg hclose]

theorem scanAll_eq (lines : List Text) (n : Nesting) :
    scanAll lines n = (lines.flatMap parentheses).foldl after n := by
  induction lines generalizing n with
  | nil => rfl
  | cons line lines ih =>
    rw [List.flatMap_cons, List.foldl_append, ← scan_eq, ← ih]
    rfl

/-- The nesting has as many parentheses open as the marks. However many of them are closed next, the
files that stay open in the marks stay in the nesting, which closes what has no name first. -/
structure Keeps (n : Nesting) (marks : Marks) : Prop where
  nonneg : 0 ≤ n.anonymous
  total : n.files.length + n.anonymous = marks.length
  files : ∀ k, (Marks.files (marks.drop k)).Sublist (n.files.drop (k - n.anonymous.toNat))

theorem keeps_map_file (paths : List Text) : ({ files := paths } : Nesting).Keeps (paths.map .file) where
  nonneg := Int.le_refl 0
  total := by rw [List.length_map, Int.add_zero]
  files k := by
    rw [← List.map_drop, Marks.files_map_file]
    exact List.Sublist.refl _

variable {n : Nesting} {marks : Marks}

private theorem keeps_file (h : n.Keeps marks) (path : Text) :
    (n.after (.opening (.file path))).Keeps (.file path :: marks) where
  nonneg := h.nonneg
  total := by
    have htotal := h.total
    simp only [after, List.length_cons]
    omega
  files k := by
    cases k with
    | zero =>
      have hall := h.files 0
      simpa [after] using hall
    | succ k =>
      have hrest := h.files k
      rw [List.drop_succ_cons, after]
      -- As long as there are parentheses without a name, closings take those and not the new file.
      by_cases hk : k < n.anonymous.toNat
      · have hdeep : k + 1 - n.anonymous.toNat = 0 := by omega
        have hsame : k - n.anonymous.toNat = 0 := by omega
        rw [hsame] at hrest
        simp only [hdeep, List.drop_zero] at hrest ⊢
        exact hrest.cons path
      · have hdeep : k + 1 - n.anonymous.toNat = k - n.anonymous.toNat + 1 := by omega
        simp only [hdeep, List.drop_succ_cons]
        exact hrest

private theorem keeps_anonymous (h : n.Keeps marks) :
    (n.after (.opening .anonymous)).Keeps (.anonymous :: marks) where
  nonneg := Int.add_nonneg h.nonneg (by decide)
  total := by
    have htotal := h.total
    simp only [after, List.length_cons]
    omega
  files k := by
    have hnonneg := h.nonneg
    cases k with
    | zero => simpa [after] using h.files 0
    | succ k =>
      have hsame : k + 1 - (n.anonymous + 1).toNat = k - n.anonymous.toNat := by omega
      simp only [after, hsame, List.drop_succ_cons]
      exact h.files k

private theorem keeps_closing (h : n.Keeps marks) :
    (n.after .closing).Keeps marks.tail := by
  have hnonneg := h.nonneg
  have htotal := h.total
  rw [after, leave]
  split
  · rename_i hpos
    refine ⟨by simp only; omega, by simp only [List.length_tail]; omega, fun k => ?_⟩
    have hsame : k - (n.anonymous - 1).toNat = k + 1 - n.anonymous.toNat := by omega
    rw [List.drop_tail]
    simp only [hsame]
    exact h.files (k + 1)
  · rename_i hzero
    have hnone : n.anonymous = 0 := by omega
    refine ⟨hnonneg, by simp only [List.length_tail]; omega, fun k => ?_⟩
    have hnext := h.files (k + 1)
    rw [hnone] at hnext
    simp only [hnone, List.drop_tail]
    exact hnext

theorem keeps_after (h : n.Keeps marks) (p : Parenthesis) :
    (n.after p).Keeps (marks.after p) := by
  cases p with
  | opening mark =>
    cases mark with
    | file path => exact keeps_file h path
    | anonymous => exact keeps_anonymous h
  | closing => exact keeps_closing h

theorem keeps_foldl (h : n.Keeps marks) (ps : List Parenthesis) :
    (ps.foldl after n).Keeps (ps.foldl Marks.after marks) := by
  induction ps generalizing n marks with
  | nil => exact h
  | cons p ps ih => exact ih (keeps_after h p)

theorem Keeps.files_sublist (h : n.Keeps marks) : marks.files.Sublist n.files := by
  have hall := h.files 0
  rwa [List.drop_zero, Nat.zero_sub, List.drop_zero] at hall

theorem Keeps.anonymous_le (h : n.Keeps marks) : n.anonymous ≤ marks.count .anonymous := by
  have hlength := marks.length_files_add_count
  have hfiles := h.files_sublist.length_le
  have htotal := h.total
  omega

/-- The number alone tells whether the files are right. -/
theorem Keeps.eq_nesting_iff (h : n.Keeps marks) :
    n = marks.nesting ↔ n.anonymous = marks.count .anonymous := by
  constructor
  · intro he
    rw [he, Marks.nesting]
  · intro he
    have hlength := marks.length_files_add_count
    have htotal := h.total
    have hfiles : marks.files = n.files := h.files_sublist.eq_of_length (by omega)
    rw [Marks.nesting, hfiles, ← he]

/-- One parenthesis does the same to both, unless it closes a file inside a parenthesis that names
none: the nesting closes that one first. -/
theorem after_nesting_iff (marks : Marks) (p : Parenthesis) :
    marks.nesting.after p = (marks.after p).nesting ↔ ¬ marks.ClosesInner p := by
  cases p with
  | opening mark =>
    refine iff_of_true ?_ id
    cases mark <;> simp [after, Marks.after, Marks.nesting]
  | closing =>
    rcases marks with _ | ⟨path | _, outer⟩
    · exact iff_of_true rfl nofun
    · by_cases hinner : .anonymous ∈ outer
      · refine iff_of_false ?_ (not_not_intro ⟨path, outer, rfl, hinner⟩)
        simp [after, leave, Marks.after, Marks.nesting, hinner]
      · have hnone : outer.count Mark.anonymous = 0 := List.count_eq_zero.mpr hinner
        refine iff_of_true ?_ ?_
        · simp [after, leave, Marks.after, Marks.nesting, hnone]
        · rintro ⟨_, _, he, hmem⟩
          cases he
          exact hinner hmem
    · refine iff_of_true ?_ nofun
      simp [after, leave, Marks.after, Marks.nesting]

/-- The two agree all the way exactly if no parenthesis on the way is of that sort. -/
theorem foldl_nesting_iff (marks : Marks) (ps : List Parenthesis) :
    (∀ before, before <+: ps → before.foldl after marks.nesting =
        (before.foldl Marks.after marks).nesting) ↔
      ∀ before p, before ++ [p] <+: ps → ¬ (before.foldl Marks.after marks).ClosesInner p := by
  constructor
  · intro h before p hp
    have hbefore := h before ((List.prefix_append before [p]).trans hp)
    have hnext := h (before ++ [p]) hp
    simp only [List.foldl_append, List.foldl_cons, List.foldl_nil, hbefore] at hnext
    exact (after_nesting_iff _ p).mp hnext
  · intro h before hbefore
    induction before using List.reverseRecOn with
    | nil => rfl
    | append_singleton before p ih =>
      have hsame := ih ((List.prefix_append before [p]).trans hbefore)
      simp only [List.foldl_append, List.foldl_cons, List.foldl_nil, hsame]
      exact (after_nesting_iff _ p).mpr (h before p hbefore)

/-- Whatever lines are read, the nesting has every file that is open in the marks, in their order, and
as many open parentheses as the marks; the number tells whether it agrees with them, and where every
open parenthesis names a file it does. It agrees all the way exactly if no file is closed inside a
parenthesis that names none: there the nesting keeps the file until the outer one is closed. -/
theorem scanAll_keeps_open_files (paths lines : List Text) :
    let ps := lines.flatMap parentheses
    let start : Marks := paths.map .file
    let marks := Marks.scanAll lines start
    let n := scanAll lines { files := paths }
    marks.files.Sublist n.files ∧ n.files.length + n.anonymous = marks.length ∧
      0 ≤ n.anonymous ∧ n.anonymous ≤ marks.count .anonymous ∧
      (n = marks.nesting ↔ n.anonymous = marks.count .anonymous) ∧
      (.anonymous ∉ marks → n = marks.nesting) ∧
      ((∀ before, before <+: ps → before.foldl after { files := paths } =
          (before.foldl Marks.after start).nesting) ↔
        ∀ before p, before ++ [p] <+: ps → ¬ (before.foldl Marks.after start).ClosesInner p) := by
  intro ps start marks n
  have h : n.Keeps marks := by
    rw [show n = _ from scanAll_eq lines _]
    exact keeps_foldl (keeps_map_file paths) ps
  refine ⟨h.files_sublist, h.total, h.nonneg, h.anonymous_le, h.eq_nesting_iff, fun hnamed => ?_, ?_⟩
  · have hcount : marks.count .anonymous = 0 := List.count_eq_zero.mpr hnamed
    have hnonneg := h.nonneg
    have hle := h.anonymous_le
    exact h.eq_nesting_iff.mpr (by omega)
  · rw [← Marks.nesting_map_file]
    exact foldl_nesting_iff start ps

/-- A remark in parentheses that names a chapter in parentheses: the chapter stays open behind it. -/
def remark : List Text := ["(see (./chapter.tex) for more".toList]

theorem remark_keeps_chapter :
    ¬ ∀ paths lines : List Text,
      scanAll lines { files := paths } = (Marks.scanAll lines (paths.map .file)).nesting := by
  intro h
  have hsame := h ["/main.tex".toList] remark
  have hfiles := congrArg (fun n => n.files.length) hsame
  exact absurd hfiles (by decide)

end Nesting
end TypesetTrace.Log
