import Mathlib.Data.List.Infix
import TypesetTrace.Proofs.Log.Marks

/-! How many parentheses are open. The parentheses of a text alone tell it, whatever stands between
them: an opening one adds one, a closing one takes one away where any is open. A nesting splits the
number between files and parentheses that name none, but never loses count, and the outermost files
stay for as long as the number does not fall below them. -/
namespace TypesetTrace.Log

def isParenthesis (c : Char) : Bool := c == '(' || c == ')'

/-- The number of open parentheses behind a character. -/
def depthStep (d : Int) (c : Char) : Int :=
  if c = '(' then d + 1 else if c = ')' then max 0 (d - 1) else d

def depthAfter (text : Text) (d : Int) : Int := text.foldl depthStep d

/-- The lowest that the number of open parentheses gets, before, in or behind a text. -/
def lowestDepth : Text → Int → Int
  | [], d => d
  | c :: rest, d => min d (lowestDepth rest (depthStep d c))

/-- What the text closes it has opened before, and in the end it has closed all that it opened. -/
def IsBalanced (text : Text) : Prop :=
  text.count '(' = text.count ')' ∧ ∀ front ∈ text.inits, front.count ')' ≤ front.count '('

instance (text : Text) : Decidable (IsBalanced text) := inferInstanceAs (Decidable (_ ∧ _))

theorem lowestDepth_le (text : Text) (d : Int) : lowestDepth text d ≤ d := by
  cases text with
  | nil => exact Int.le_refl d
  | cons c rest => exact Int.min_le_left _ _

/-- Only parentheses count. -/
theorem depthAfter_filter (text : Text) (d : Int) :
    depthAfter (text.filter isParenthesis) d = depthAfter text d := by
  induction text generalizing d with
  | nil => rfl
  | cons c rest ih =>
    by_cases hc : isParenthesis c
    · rw [List.filter_cons_of_pos hc]
      exact ih (depthStep d c)
    · have hsame : depthStep d c = d := by
        simp only [isParenthesis, Bool.or_eq_true, beq_iff_eq, not_or] at hc
        rw [depthStep, if_neg hc.1, if_neg hc.2]
      rw [List.filter_cons_of_neg hc, ih, depthAfter, depthAfter, List.foldl_cons, hsame]

/-- Where a text closes nothing that was open before it, the number is that of a plain count. -/
theorem depthAfter_eq_count {text : Text} {d : Int} (hd : 0 ≤ d)
    (h : ∀ front, front <+: text → front.count ')' ≤ front.count '(') :
    depthAfter text d = d + text.count '(' - text.count ')' := by
  -- From the end, since the condition is about what stands before.
  induction text using List.reverseRecOn with
  | nil => simp [depthAfter]
  | append_singleton front c ih =>
    have hwhole := h (front ++ [c]) (List.prefix_refl _)
    have hfront := ih fun inner hinner => h inner (hinner.trans (List.prefix_append front [c]))
    have hcount (a : Char) : (front ++ [c]).count a = front.count a + if c = a then 1 else 0 := by
      rw [List.count_append, List.count_singleton]
      simp only [beq_iff_eq]
    rw [depthAfter] at hfront
    rw [hcount, hcount] at hwhole
    rw [depthAfter, List.foldl_concat, hfront, depthStep, hcount, hcount]
    by_cases hopen : c = '('
    · have hclose : c ≠ ')' := by rw [hopen]; decide
      rw [if_pos hopen, if_pos hopen, if_neg hclose]
      omega
    · by_cases hclose : c = ')'
      · rw [if_pos hclose, if_neg hopen] at hwhole
        rw [if_neg hopen, if_pos hclose, if_neg hopen, if_pos hclose]
        omega
      · rw [if_neg hopen, if_neg hclose, if_neg hopen, if_neg hclose]
        omega

theorem IsBalanced.depthAfter_eq {text : Text} (h : IsBalanced text) {d : Int} (hd : 0 ≤ d) :
    depthAfter text d = d := by
  rw [depthAfter_eq_count hd fun front hfront => h.2 front ((List.mem_inits front text).mpr hfront), h.1]
  omega

namespace Nesting
variable {n : Nesting}

/-- The number of open parentheses, with and without a name. -/
def depth (n : Nesting) : Int := n.files.length + n.anonymous

def outermost (n : Nesting) : List Text := n.files.reverse

theorem anonymous_enter (h : 0 ≤ n.anonymous) (rest : Text) : 0 ≤ (n.enter rest).anonymous := by
  rw [enter]
  split
  · exact h
  · exact Int.le_add_one h

theorem anonymous_leave (h : 0 ≤ n.anonymous) : 0 ≤ n.leave.anonymous := by
  rw [leave]
  split
  · rename_i hpos
    exact Int.le_sub_one_of_lt hpos
  · exact h

theorem anonymous_scan (h : 0 ≤ n.anonymous) (line : Text) : 0 ≤ (scan line n).anonymous := by
  induction line generalizing n with
  | nil => exact h
  | cons c rest ih =>
    rw [scan]
    split
    · exact ih (anonymous_enter h rest)
    · split
      · exact ih (anonymous_leave h)
      · exact ih h

theorem depth_nonneg (h : 0 ≤ n.anonymous) : 0 ≤ n.depth :=
  Int.add_nonneg (Int.natCast_nonneg _) h

theorem depth_enter (rest : Text) (n : Nesting) : (n.enter rest).depth = n.depth + 1 := by
  rw [enter]
  split <;> simp only [depth, List.length_cons] <;> omega

theorem depth_leave (h : 0 ≤ n.anonymous) : n.leave.depth = max 0 (n.depth - 1) := by
  rw [leave]
  split <;> simp only [depth, List.length_tail] <;> omega

theorem depth_scan (h : 0 ≤ n.anonymous) (line : Text) :
    (scan line n).depth = depthAfter line n.depth := by
  induction line generalizing n with
  | nil => rfl
  | cons c rest ih =>
    rw [scan, depthAfter, List.foldl_cons, depthStep, ← depthAfter]
    split
    · rw [ih (anonymous_enter h rest), depth_enter]
    · split
      · rw [ih (anonymous_leave h), depth_leave h]
      · exact ih h

theorem depth_scanAll (h : 0 ≤ n.anonymous) (lines : List Text) :
    (scanAll lines n).depth = depthAfter lines.flatten n.depth := by
  induction lines generalizing n with
  | nil => rfl
  | cons line rest ih =>
    have hline := depth_scan h line
    rw [List.flatten_cons, depthAfter, List.foldl_append, ← depthAfter, ← depthAfter, ← hline]
    exact ih (anonymous_scan h line)

theorem outermost_enter {i : Nat} (hi : i < n.files.length) (rest : Text) :
    (n.enter rest).outermost[i]? = n.outermost[i]? := by
  rw [enter]
  split
  · rw [outermost, List.reverse_cons]
    exact List.getElem?_append_left (by rwa [List.length_reverse])
  · rfl

/-- Only where every open parenthesis names a file a file is closed, and then the innermost one. -/
theorem outermost_leave {i : Nat} (h : 0 ≤ n.anonymous) (hi : (i : Int) < n.leave.depth) :
    n.leave.outermost[i]? = n.outermost[i]? := by
  rw [leave] at hi ⊢
  split
  · rfl
  · rename_i hnone
    have hzero : n.anonymous = 0 := by omega
    rw [if_neg hnone, depth, hzero, Int.add_zero] at hi
    rw [outermost, outermost]
    cases hfiles : n.files with
    | nil => rfl
    | cons file files =>
      rw [hfiles, List.tail_cons] at hi
      rw [List.tail_cons, List.reverse_cons, List.getElem?_append_left]
      rw [List.length_reverse]
      exact Int.ofNat_lt.mp hi

/-- Closing takes no more than the files above a depth that is kept. -/
theorem lt_length_leave {i : Nat} (hfiles : i < n.files.length) (hi : (i : Int) < n.leave.depth) :
    i < n.leave.files.length := by
  rw [leave] at hi ⊢
  split
  · exact hfiles
  · rename_i hnone
    rw [if_neg hnone, depth] at hi
    dsimp only at hi ⊢
    omega

theorem outermost_scan {i : Nat} (h : 0 ≤ n.anonymous) (line : Text) (hfiles : i < n.files.length)
    (hi : (i : Int) < lowestDepth line n.depth) :
    (scan line n).outermost[i]? = n.outermost[i]? := by
  -- The place is counted from the outermost file, so that what is opened and closed above does not move it.
  induction line generalizing n with
  | nil => rfl
  | cons c rest ih =>
    have hrest : (i : Int) < lowestDepth rest (depthStep n.depth c) :=
      Int.lt_of_lt_of_le hi (Int.min_le_right _ _)
    rw [scan]
    rw [depthStep] at hrest
    split
    · rename_i hopen
      rw [if_pos hopen, ← depth_enter rest] at hrest
      have hlength : i < (n.enter rest).files.length := by
        rw [enter]
        split
        · exact Nat.lt_succ_of_lt hfiles
        · exact hfiles
      rw [ih (anonymous_enter h rest) hlength hrest, outermost_enter hfiles]
    · rename_i hopen
      rw [if_neg hopen] at hrest
      split
      · rename_i hclose
        rw [if_pos hclose, ← depth_leave h] at hrest
        have hleft : (i : Int) < n.leave.depth := Int.lt_of_lt_of_le hrest (lowestDepth_le _ _)
        rw [ih (anonymous_leave h) (lt_length_leave hfiles hleft) hrest, outermost_leave h hleft]
      · rename_i hclose
        rw [if_neg hclose] at hrest
        exact ih h hfiles hrest

/-- A line changes the number of open parentheses as its own parentheses say, whatever they open and
close, and no more are closed of those without a name than were opened. The files that were open stay in
their places as far as the number never falls below them. So a text with balanced parentheses leaves the
number as it was, into whatever lines it is cut, also if something else than a parenthesis is lost
between the lines. -/
theorem scan_keeps_depth {n : Nesting} (h : 0 ≤ n.anonymous) :
    (∀ line : Text,
      (scan line n).depth = depthAfter line n.depth ∧ 0 ≤ (scan line n).anonymous ∧
        ∀ i : Nat, (i : Int) < min (n.files.length : Int) (lowestDepth line n.depth) →
          (scan line n).outermost[i]? = n.outermost[i]?) ∧
      ∀ (text : Text) (lines : List Text), IsBalanced text →
        lines.flatten.filter isParenthesis = text.filter isParenthesis →
        (scanAll lines n).depth = n.depth := by
  constructor
  · intro line
    refine ⟨depth_scan h line, anonymous_scan h line, fun i hi => ?_⟩
    obtain ⟨hfiles, hlow⟩ := Int.lt_min.mp hi
    exact outermost_scan h line (Int.ofNat_lt.mp hfiles) hlow
  · intro text lines hbalanced hsame
    calc (scanAll lines n).depth
        = depthAfter lines.flatten n.depth := depth_scanAll h lines
      _ = depthAfter text n.depth := by rw [← depthAfter_filter, hsame, depthAfter_filter]
      _ = n.depth := hbalanced.depthAfter_eq (depth_nonneg h)

def crowded : Nesting := ⟨["/c.tex".toList, "/b.tex".toList, "/a.tex".toList], 1⟩

/-- Of the three files a line closes two and puts another one in their place. -/
theorem crowded_keeps_depth :
    let line := "))) (./d.tex (see".toList
    let text := "(./e.tex [1]\r\n(f) )\n".toList
    0 ≤ crowded.anonymous ∧ lowestDepth line crowded.depth = 1 ∧
      (scan line crowded).depth = 3 ∧ (scan line crowded).outermost[0]? = some "/a.tex".toList ∧
      IsBalanced text ∧ (scanAll (Text.linesOfEither text) crowded).depth = 4 := by
  intro line text
  have hanonymous : 0 ≤ crowded.anonymous := by decide
  have hlow : lowestDepth line crowded.depth = 1 := by decide
  have hbalanced : IsBalanced text := by decide
  obtain ⟨hline, hlines⟩ := scan_keeps_depth hanonymous
  obtain ⟨hdepth, -, hfiles⟩ := hline line
  refine ⟨hanonymous, hlow, ?_, ?_, hbalanced, ?_⟩
  · rw [hdepth]
    decide
  · rw [hfiles 0 (by rw [hlow]; decide)]
    rfl
  · rw [hlines text (Text.linesOfEither text) hbalanced (by decide)]
    rfl

end Nesting
end TypesetTrace.Log
