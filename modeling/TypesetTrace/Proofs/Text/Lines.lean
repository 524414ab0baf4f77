import TypesetTrace.Proofs.Text.Match

/-! Texts that are put together from lines fall into the same lines again, and a word in front of a
text is taken away without touching the text. -/
namespace TypesetTrace.Text

private theorem cutAt_ne_nil (p : Char → Bool) (s : Text) : cutAt p s ≠ [] := by
  cases s with
  | nil => simp [cutAt]
  | cons c s =>
    rw [cutAt]
    split
    · simp
    · split <;> simp

private theorem cutAt_eq_self {p : Char → Bool} {s : Text} (h : ∀ c ∈ s, p c = false) :
    cutAt p s = [s] := by
  induction s with
  | nil => rfl
  | cons c s ih => simp [cutAt, h c (by simp), ih fun d hd => h d (by simp [hd])]

/-- A cut falls into the cuts on its two sides. -/
theorem cutAt_append_cons {p : Char → Bool} {c : Char} (hc : p c) (s t : Text) :
    cutAt p (s ++ c :: t) = cutAt p s ++ cutAt p t := by
  induction s with
  | nil => simp [cutAt, hc]
  | cons d s ih =>
    rw [List.cons_append, cutAt, cutAt, ih]
    by_cases hd : p d
    · simp only [hd, if_true, List.cons_append]
    · obtain ⟨piece, pieces, hcut⟩ := List.exists_cons_of_ne_nil (cutAt_ne_nil p s)
      simp only [hd, if_false, hcut, List.cons_append, Bool.false_eq_true]

theorem not_mem_of_mem_cutAt {p : Char → Bool} {s piece : Text} (h : piece ∈ cutAt p s) :
    ∀ c ∈ piece, p c = false := by
  induction s generalizing piece with
  | nil =>
    rw [List.mem_singleton.mp h]
    nofun
  | cons c s ih =>
    obtain ⟨first, rest, hcut⟩ := List.exists_cons_of_ne_nil (cutAt_ne_nil p s)
    rw [hcut] at ih
    rw [cutAt, hcut] at h
    split at h
    · rcases List.mem_cons.mp h with rfl | h
      · nofun
      · exact ih h
    · rename_i hc
      rcases List.mem_cons.mp h with rfl | h
      · exact List.forall_mem_cons.mpr ⟨eq_false_of_ne_true hc, ih List.mem_cons_self⟩
      · exact ih (List.mem_cons_of_mem _ h)

/-- The pieces of a text stand in it, the first one at its front. -/
private theorem cutAt_within (p : Char → Bool) (s : Text) :
    ∃ piece pieces, cutAt p s = piece :: pieces ∧ piece <+: s ∧ ∀ l ∈ pieces, l <:+: s := by
  induction s with
  | nil => exact ⟨[], [], rfl, List.prefix_refl _, nofun⟩
  | cons c s ih =>
    obtain ⟨piece, pieces, hcut, hfirst, hmore⟩ := ih
    have hwithin (l : Text) (hl : l <:+: s) : l <:+: c :: s := hl.trans (List.suffix_cons c s).isInfix
    rw [cutAt, hcut]
    split
    · refine ⟨[], piece :: pieces, rfl, List.nil_prefix, fun l hl => hwithin l ?_⟩
      rcases List.mem_cons.mp hl with rfl | hl
      · exact hfirst.isInfix
      · exact hmore l hl
    · exact ⟨c :: piece, pieces, rfl, List.cons_prefix_cons.mpr ⟨rfl, hfirst⟩,
        fun l hl => hwithin l (hmore l hl)⟩

private theorem dropReturn_within (line : Text) : dropReturn line <:+: line := by
  rw [dropReturn]
  split
  · rename_i r hr
    have hline : line = r.reverse ++ ['\r'] := by
      rw [← List.reverse_reverse line, hr, List.reverse_cons]
    rw [hline]
    exact (List.prefix_append _ _).isInfix
  · exact List.infix_rfl

theorem within_of_mem_lines {line s : Text} (h : line ∈ lines s) : line <:+: s := by
  obtain ⟨piece, pieces, hcut, hfirst, hmore⟩ := cutAt_within (· == '\n') s
  rw [lines, hcut] at h
  rcases List.mem_cons.mp h with rfl | h
  · exact hfirst.isInfix
  · exact hmore line h

/-- Every line of a text stands in it. -/
theorem within_of_mem_linesOfEither {line s : Text} (h : line ∈ linesOfEither s) : line <:+: s := by
  rw [linesOfEither] at h
  split at h
  · cases h
  · rename_i last before hreverse
    have hmem (l : Text) (hl : l ∈ last :: before) : l ∈ lines s := by
      rw [← hreverse] at hl
      exact List.mem_reverse.mp hl
    rcases List.mem_cons.mp (List.mem_reverse.mp h) with rfl | h
    · exact within_of_mem_lines (hmem _ List.mem_cons_self)
    · obtain ⟨l, hl, rfl⟩ := List.mem_map.mp h
      exact (dropReturn_within l).trans (within_of_mem_lines (hmem l (List.mem_cons_of_mem _ hl)))

/-- Texts that are put together with a character between them fall apart there. -/
theorem cutAt_join {c : Char} {pieces : List Text} (hne : pieces ≠ []) (h : ∀ s ∈ pieces, c ∉ s) :
    cutAt (· == c) (join [c] pieces) = pieces := by
  have hself (s : Text) (hs : s ∈ pieces) : cutAt (· == c) s = [s] :=
    cutAt_eq_self fun d hd => beq_eq_false_iff_ne.mpr fun e => h s hs (e ▸ hd)
  induction pieces with
  | nil => exact absurd rfl hne
  | cons s pieces ih =>
    cases pieces with
    | nil => exact hself s List.mem_cons_self
    | cons t pieces =>
      have hrest := ih (List.cons_ne_nil _ _) (fun u hu => h u (List.mem_cons_of_mem s hu))
        fun u hu => hself u (List.mem_cons_of_mem s hu)
      have hcut := cutAt_append_cons (p := (· == c)) (beq_self_eq_true c) s (join [c] (t :: pieces))
      rw [hself s List.mem_cons_self, hrest] at hcut
      rw [join, List.append_assoc, List.singleton_append]
      · exact hcut
      · exact List.cons_ne_nil _ _

theorem lines_join {ls : List Text} (hne : ls ≠ []) (h : ∀ l ∈ ls, '\n' ∉ l) :
    lines (join ['\n'] ls) = ls := cutAt_join hne h

theorem join_cons_cons (sep s t : Text) (rest : List Text) :
    join sep (s :: t :: rest) = s ++ sep ++ join sep (t :: rest) := rfl

/-- A text is its lines with a line break between them. -/
theorem join_lines (s : Text) : join ['\n'] (lines s) = s := by
  induction s with
  | nil => rfl
  | cons c s ih =>
    obtain ⟨piece, pieces, hcut⟩ := List.exists_cons_of_ne_nil (cutAt_ne_nil (· == '\n') s)
    rw [lines, hcut] at ih
    rw [lines, cutAt, hcut]
    split
    · rename_i hc
      rw [join_cons_cons, ih, beq_iff_eq.mp hc]
      rfl
    · calc join ['\n'] ((c :: piece) :: pieces)
          = c :: join ['\n'] (piece :: pieces) := by cases pieces <;> rfl
        _ = c :: s := by rw [ih]

/-- Behind every line but the last one there is a line break. -/
theorem infix_of_mem_before {line last : Text} {before : List Text} (h : line ∈ before) :
    line ++ ['\n'] <:+: join ['\n'] (before ++ [last]) := by
  induction before with
  | nil => cases h
  | cons first before ih =>
    obtain ⟨next, rest, hrest⟩ : ∃ next rest, before ++ [last] = next :: rest :=
      List.exists_cons_of_ne_nil (List.concat_ne_nil last before)
    rw [hrest] at ih
    rw [List.cons_append, hrest, join_cons_cons]
    rcases List.mem_cons.mp h with rfl | h
    · exact (List.prefix_append _ _).isInfix
    · exact (ih h).trans (List.suffix_append _ _).isInfix

theorem join_cons (sep s : Text) (rest : List Text) :
    join sep (s :: rest) = s ++ rest.flatMap (sep ++ ·) := by
  induction rest generalizing s with
  | nil => simp [join]
  | cons t rest ih =>
    rw [join, ih, List.flatMap_cons, List.append_assoc, List.append_assoc]
    exact List.cons_ne_nil t rest

theorem remove_eq_self {w s : Text} (h : ¬ w <:+: s) : remove w 0 s = s := by
  induction s with
  | nil => rfl
  | cons c s ih =>
    have hw : ¬ (w ≠ [] ∧ (after? w (c :: s)).isSome) := by
      rintro ⟨-, hs⟩
      obtain ⟨t, ht⟩ := Option.isSome_iff_exists.mp hs
      exact h (after?_eq_some ht ▸ ⟨[], t, by simp⟩)
    rw [remove, if_neg hw, ih fun hi => h (hi.trans (List.suffix_cons c s).isInfix)]

theorem remove_length_append (w t s : Text) : remove w t.length (t ++ s) = remove w 0 s := by
  induction t with
  | nil => rfl
  | cons c t ih => exact ih

theorem remove_append {w : Text} (hw : w ≠ []) (s : Text) : remove w 0 (w ++ s) = remove w 0 s := by
  cases w with
  | nil => exact absurd rfl hw
  | cons a w =>
    have h : (after? (a :: w) (a :: w ++ s)).isSome := by rw [after?_append]; rfl
    rw [List.cons_append, remove, if_pos ⟨hw, h⟩]
    exact remove_length_append _ _ _

end TypesetTrace.Text
