import TypesetTrace.Text.Match

/-! What the readers of a text find at its front, and what they leave over. -/
namespace TypesetTrace.Text

theorem after?_append (w s : Text) : after? w (w ++ s) = some s := by
  induction w with
  | nil => cases s <;> rfl
  | cons a w ih => simpa [after?] using ih

theorem after?_eq_some {w s t : Text} (h : after? w s = some t) : s = w ++ t := by
  induction w generalizing s with
  | nil =>
    cases s <;> simpa [after?] using h
  | cons a w ih =>
    cases s with
    | nil => simp [after?] at h
    | cons c s =>
      simp only [after?] at h
      split at h
      · rename_i hc
        rw [hc, List.cons_append, ih h]
      · cases h

theorem suffix_of_after? {w s t : Text} (h : after? w s = some t) : t <:+ s :=
  ⟨w, (after?_eq_some h).symm⟩

/-- A run ends in front of the first character that is not its own. -/
theorem span_append {p : Char → Bool} {t r : Text} (hp : ∀ c ∈ t, p c) (hr : ∀ c ∈ r.head?, p c = false) :
    (t ++ r).takeWhile p = t ∧ (t ++ r).dropWhile p = r := by
  rw [List.takeWhile_append_of_pos hp, List.dropWhile_append_of_pos hp]
  cases r with
  | nil => simp
  | cons c r => simp [hr c (by simp)]

theorem run?_append {p : Char → Bool} {t r : Text} (ht : t ≠ []) (hp : ∀ c ∈ t, p c)
    (hr : ∀ c ∈ r.head?, p c = false) : run? p (t ++ r) = some (t, r) := by
  obtain ⟨htake, hdrop⟩ := span_append hp hr
  rw [run?, htake, hdrop]
  cases t with
  | nil => exact absurd rfl ht
  | cons c t => rfl

theorem run?_eq_some {p : Char → Bool} {s t r : Text} (h : run? p s = some (t, r)) :
    s = t ++ r ∧ ∀ c ∈ t, p c := by
  rw [run?] at h
  split at h
  · cases h
  · cases h
    exact ⟨List.takeWhile_append_dropWhile.symm, fun _ hc => (List.all_eq_true.mp List.all_takeWhile) _ hc⟩

theorem ne_nil_of_run? {p : Char → Bool} {s t r : Text} (h : run? p s = some (t, r)) : t ≠ [] := by
  rw [run?] at h
  split at h
  · cases h
  · rename_i hne
    cases h
    exact hne

/-- A run starts with a character of its own. -/
theorem run?_isSome_iff {p : Char → Bool} {s : Text} : (run? p s).isSome ↔ ∃ c ∈ s.head?, p c := by
  cases s with
  | nil => simp [run?]
  | cons c s => by_cases hc : p c <;> simp [run?, hc]

theorem suffix_of_run? {p : Char → Bool} {s t r : Text} (h : run? p s = some (t, r)) : r <:+ s :=
  ⟨t, (run?_eq_some h).1.symm⟩

/-- What was read after a longest run was read from what the run left over. -/
theorem longest_eq_some {α : Type} {p : Char → Bool} {k : Text → Option α} {s t : Text} {a : α}
    (h : longest p k s = some (t, a)) : (∀ c ∈ t, p c) ∧ ∃ r, s = t ++ r ∧ k r = some a := by
  induction s generalizing t with
  | nil =>
    obtain ⟨b, hb, he⟩ := Option.map_eq_some_iff.mp h
    cases he
    exact ⟨nofun, [], rfl, hb⟩
  | cons c s ih =>
    rw [longest] at h
    split at h
    · rename_i u b hlonger
      cases h
      split at hlonger
      · rename_i hc
        obtain ⟨hu, r, hr, hk⟩ := ih hlonger
        exact ⟨List.forall_mem_cons.mpr ⟨hc, hu⟩, r, congrArg (c :: ·) hr, hk⟩
      · cases hlonger
    · obtain ⟨b, hb, he⟩ := Option.map_eq_some_iff.mp h
      cases he
      exact ⟨nofun, c :: s, rfl, hb⟩

theorem longestNonempty_eq_some {α : Type} {p : Char → Bool} {k : Text → Option α} {s t : Text}
    {a : α} (h : longestNonempty p k s = some (t, a)) :
    (∀ c ∈ t, p c) ∧ ∃ r, s = t ++ r ∧ k r = some a := by
  cases s with
  | nil => cases h
  | cons c s =>
    rw [longestNonempty] at h
    split at h
    · rename_i hc
      obtain ⟨⟨u, b⟩, hlonger, he⟩ := Option.map_eq_some_iff.mp h
      cases he
      obtain ⟨hu, r, hr, hk⟩ := longest_eq_some hlonger
      exact ⟨List.forall_mem_cons.mpr ⟨hc, hu⟩, r, congrArg (c :: ·) hr, hk⟩
    · cases h

/-- What was read after a shortest run was read from what the run left over. -/
theorem shortest_eq_some {α : Type} {p : Char → Bool} {k : Text → Option α} {s t : Text} {a : α}
    (h : shortest p k s = some (t, a)) : ∃ r, s = t ++ r ∧ k r = some a := by
  induction s generalizing t with
  | nil =>
    obtain ⟨b, hb, he⟩ := Option.map_eq_some_iff.mp h
    cases he
    exact ⟨[], rfl, hb⟩
  | cons c s ih =>
    rw [shortest] at h
    split at h
    · rename_i b hb
      cases h
      exact ⟨c :: s, rfl, hb⟩
    · split at h
      · obtain ⟨⟨u, b⟩, hu, he⟩ := Option.map_eq_some_iff.mp h
        cases he
        obtain ⟨r, hr, hk⟩ := ih hu
        exact ⟨r, congrArg (c :: ·) hr, hk⟩
      · cases h

/-- A run is the shortest one if nothing can be read in front of its end. -/
theorem shortest_append {α : Type} {p : Char → Bool} {k : Text → Option α} {t r : Text} {a : α}
    (ht : ∀ c ∈ t, p c) (hk : k r = some a) (hearlier : ∀ v, v ≠ [] → v <:+ t → k (v ++ r) = none) :
    shortest p k (t ++ r) = some (t, a) := by
  induction t with
  | nil => cases r <;> simp [shortest, hk]
  | cons c t ih =>
    have hnone : k (c :: (t ++ r)) = none := hearlier (c :: t) (List.cons_ne_nil c t) (List.suffix_refl _)
    have htail := ih (fun d hd => ht d (List.mem_cons_of_mem c hd))
      fun v hv hsuffix => hearlier v hv (hsuffix.trans (List.suffix_cons c t))
    rw [List.cons_append, shortest, hnone]
    simp only [ht c List.mem_cons_self, if_true, htail, Option.map_some]

/-- Some run is found if the end of the text can be read. -/
theorem exists_shortest {α : Type} {p : Char → Bool} {k : Text → Option α} {s : Text}
    (hs : ∀ c ∈ s, p c) (hk : (k []).isSome) : ∃ t a, shortest p k s = some (t, a) := by
  induction s with
  | nil =>
    obtain ⟨a, ha⟩ := Option.isSome_iff_exists.mp hk
    exact ⟨[], a, by rw [shortest, ha]; rfl⟩
  | cons c s ih =>
    obtain ⟨t, a, hlonger⟩ := ih fun d hd => hs d (List.mem_cons_of_mem c hd)
    rw [shortest]
    cases k (c :: s) with
    | some b => exact ⟨[], b, rfl⟩
    | none => exact ⟨c :: t, a, by simp only [hs c List.mem_cons_self, if_true, hlonger, Option.map_some]⟩

/-- A run is the longest one if nothing can be read behind its end. -/
theorem longest_append {α : Type} {p : Char → Bool} {k : Text → Option α} {t r : Text} {a : α}
    (ht : ∀ c ∈ t, p c) (hk : k r = some a) (hlater : ∀ v, v <:+ r → v ≠ r → k v = none) :
    longest p k (t ++ r) = some (t, a) := by
  induction t with
  | nil =>
    cases r with
    | nil => simp [longest, hk]
    | cons c r =>
      have hlonger : (if p c then longest p k r else none) = none := by
        rw [Option.eq_none_iff_forall_ne_some]
        rintro ⟨t, b⟩ h
        split at h
        · obtain ⟨-, v, rfl, hv⟩ := longest_eq_some h
          have hsuffix : v <:+ c :: (t ++ v) := (List.suffix_append t v).trans (List.suffix_cons c _)
          rw [hlater v hsuffix fun he => absurd (congrArg List.length he) (by simp; omega)] at hv
          cases hv
        · cases h
      rw [List.nil_append, longest, hlonger, hk]
      rfl
  | cons c t ih =>
    rw [List.cons_append, longest]
    simp only [ht c List.mem_cons_self, if_true, ih fun d hd => ht d (List.mem_cons_of_mem c hd)]

theorem anywhere_of_read {α : Type} {k : Text → Option α} {s : Text} {a : α} (h : k s = some a) :
    anywhere k s = some ([], a) := by
  cases s <;> simp [anywhere, shortest, h]

theorem anywhere_cons {α : Type} {k : Text → Option α} {c : Char} {s : Text} (h : k (c :: s) = none) :
    anywhere k (c :: s) = (anywhere k s).map fun (t, a) => (c :: t, a) := by
  simp only [anywhere, shortest, h, if_true]

/-- No place before the first one can be read. -/
theorem eq_none_of_anywhere {α : Type} {k : Text → Option α} {s t u v : Text} {a : α}
    (h : anywhere k s = some (t, a)) (hs : s = u ++ v) (hlt : u.length < t.length) : k v = none := by
  induction u generalizing s t with
  | nil =>
    cases hk : k v with
    | none => rfl
    | some b =>
      rw [hs, List.nil_append, anywhere_of_read hk] at h
      cases h
      cases hlt
  | cons c u ih =>
    subst hs
    cases hk : k (c :: (u ++ v)) with
    | some b =>
      rw [List.cons_append, anywhere_of_read hk] at h
      cases h
      cases hlt
    | none =>
      rw [List.cons_append, anywhere_cons hk] at h
      obtain ⟨⟨t, b⟩, ht, he⟩ := Option.map_eq_some_iff.mp h
      cases he
      exact ih ht rfl (Nat.lt_of_succ_lt_succ hlt)

/-- What is found is read at the leftmost place that can be read. -/
theorem anywhere_eq_some_iff {α : Type} {k : Text → Option α} {s t : Text} {a : α} :
    anywhere k s = some (t, a) ↔ ∃ r, s = t ++ r ∧ k r = some a ∧
      ∀ u v, s = u ++ v → u.length < t.length → k v = none := by
  constructor
  · intro h
    obtain ⟨r, hr, hk⟩ := shortest_eq_some h
    exact ⟨r, hr, hk, fun u v hs hlt => eq_none_of_anywhere h hs hlt⟩
  · rintro ⟨r, rfl, hk, hearlier⟩
    refine shortest_append (fun _ _ => rfl) hk fun v hv hsuffix => ?_
    obtain ⟨u, rfl⟩ := hsuffix
    refine hearlier u (v ++ r) (List.append_assoc ..) ?_
    rw [List.length_append]
    exact Nat.lt_add_of_pos_right (List.length_pos_iff.mpr hv)

theorem anywhere_isSome_iff {α : Type} {k : Text → Option α} {s : Text} :
    (anywhere k s).isSome ↔ ∃ t r, s = t ++ r ∧ (k r).isSome := by
  constructor
  · intro h
    obtain ⟨⟨t, a⟩, ha⟩ := Option.isSome_iff_exists.mp h
    obtain ⟨r, hr, hk⟩ := shortest_eq_some ha
    exact ⟨t, r, hr, Option.isSome_iff_exists.mpr ⟨a, hk⟩⟩
  · rintro ⟨t, r, rfl, hk⟩
    induction t with
    | nil =>
      obtain ⟨a, ha⟩ := Option.isSome_iff_exists.mp hk
      rw [List.nil_append, anywhere_of_read ha]
      rfl
    | cons c t ih =>
      rw [List.cons_append, anywhere, shortest]
      split
      · rfl
      · rw [if_pos rfl, Option.isSome_map]
        exact ih

theorem after?_isSome_iff {w s : Text} : (after? w s).isSome ↔ w <+: s := by
  constructor
  · intro h
    obtain ⟨t, ht⟩ := Option.isSome_iff_exists.mp h
    exact ⟨t, (after?_eq_some ht).symm⟩
  · rintro ⟨t, rfl⟩
    rw [after?_append]
    rfl

theorem anywhere_after?_isSome_iff {w s : Text} : (anywhere (after? w) s).isSome ↔ w <:+: s := by
  rw [anywhere_isSome_iff]
  constructor
  · rintro ⟨t, r, rfl, h⟩
    obtain ⟨u, rfl⟩ := after?_isSome_iff.mp h
    exact ⟨t, u, List.append_assoc ..⟩
  · rintro ⟨t, u, rfl⟩
    exact ⟨t, w ++ u, List.append_assoc .., after?_isSome_iff.mpr ⟨u, rfl⟩⟩

/-- A word whose first character does not come again in it starts nowhere else in front of itself. -/
theorem not_prefix_append {c : Char} {w v s : Text} (hc : c ∉ w) (hv : v ≠ []) (h : ¬ (c :: w) <+: v) :
    ¬ (c :: w) <+: v ++ (c :: s) := by
  intro hstarts
  rcases List.prefix_or_prefix_of_prefix hstarts (List.prefix_append v _) with hwithin | ⟨u, hu⟩
  · exact h hwithin
  obtain ⟨d, v, rfl⟩ := List.exists_cons_of_ne_nil hv
  rw [List.cons_append, List.cons.injEq] at hu
  obtain ⟨rfl, rfl⟩ := hu
  cases u with
  | nil =>
    rw [List.append_nil] at h
    exact h (List.prefix_refl _)
  | cons e u =>
    rw [List.cons_append, List.cons_prefix_cons] at hstarts
    have hfront := (List.prefix_append_right_inj v).mp hstarts.2
    rw [(List.cons_prefix_cons.mp hfront).1] at hc
    exact hc (by simp)

/-- A word is found behind characters that cannot start it. -/
theorem infix_of_infix_append {c : Char} {w front s : Text} (hc : c ∉ front) (h : c :: w <:+: front ++ s) :
    c :: w <:+: s := by
  induction front with
  | nil => exact h
  | cons d front ih =>
    rw [List.mem_cons, not_or] at hc
    rcases List.infix_cons_iff.mp h with hfront | hwithin
    · exact absurd (List.cons_prefix_cons.mp hfront).1 hc.1
    · exact ih hc.2 hwithin

theorem isInLine_of_mem {s : Text} (hs : '\n' ∉ s) {c : Char} (hc : c ∈ s) : isInLine c :=
  bne_iff_ne.mpr fun he => hs (he ▸ hc)

theorem restOfLine?_eq_self {s : Text} (hs : '\n' ∉ s) : restOfLine? s = some (s, []) := by
  obtain ⟨htake, hdrop⟩ := span_append (r := []) (fun _ => isInLine_of_mem hs) nofun
  rw [List.append_nil] at htake hdrop
  rw [restOfLine?, htake, hdrop]
  rfl

theorem eq_nil_of_endsLine {s : Text} (h : endsLine s) (hs : '\n' ∉ s) : s = [] := by
  cases s with
  | nil => rfl
  | cons c s =>
    cases s with
    | nil => exact absurd (by rw [beq_iff_eq.mp h]; exact List.mem_singleton_self _) hs
    | cons d s => cases h

/-- A text is cut at the last place of a character in one way only. -/
theorem append_cons_inj {c : Char} {a b s t : Text} (hs : c ∉ s) (ht : c ∉ t)
    (h : a ++ c :: s = b ++ c :: t) : a = b ∧ s = t := by
  rcases List.append_eq_append_iff.mp h with ⟨u, rfl, hu⟩ | ⟨u, rfl, hu⟩
  · cases u with
    | nil => exact ⟨(List.append_nil a).symm, (List.cons.inj hu).2⟩
    | cons d u =>
      rw [(List.cons.inj hu).2] at hs
      exact absurd (List.mem_append_right u List.mem_cons_self) hs
  · cases u with
    | nil => exact ⟨List.append_nil b, (List.cons.inj hu).2.symm⟩
    | cons d u =>
      rw [(List.cons.inj hu).2] at ht
      exact absurd (List.mem_append_right u List.mem_cons_self) ht

theorem trimEnd_eq_self {p : Char → Bool} {s : Text} (h : ∀ c ∈ s.getLast?, p c = false) :
    trimEnd p s = s := by
  cases hs : s.reverse with
  | nil => rw [List.reverse_eq_nil_iff] at hs; rw [hs]; rfl
  | cons c t =>
    have hc : p c = false := h c (by rw [← List.head?_reverse, hs]; rfl)
    rw [trimEnd, hs, List.dropWhile_cons_of_neg (by simp [hc]), ← hs, List.reverse_reverse]

/-- A text without blanks at its ends is left as it is. -/
theorem strip_eq_self {s : Text} (hfirst : ∀ c ∈ s.head?, isBlank c = false)
    (hlast : ∀ c ∈ s.getLast?, isBlank c = false) : strip s = s := by
  have hfront : s.dropWhile isBlank = s := by
    cases s with
    | nil => rfl
    | cons c s => rw [List.dropWhile_cons_of_neg (by simp [hfirst c rfl])]
  rw [strip, hfront, trimEnd_eq_self hlast]

theorem trimEnd_concat {p : Char → Bool} {c : Char} (hc : p c) (s : Text) :
    trimEnd p (s ++ [c]) = trimEnd p s := by
  rw [trimEnd, trimEnd, List.reverse_append, List.reverse_singleton, List.singleton_append,
    List.dropWhile_cons_of_pos hc]

/-- A blank at the end is stripped away like any other. -/
theorem strip_concat {c : Char} (hc : isBlank c) (s : Text) : strip (s ++ [c]) = strip s := by
  rw [strip, strip, List.dropWhile_append]
  split
  · rename_i h
    rw [List.isEmpty_iff.mp h, List.dropWhile_cons_of_pos hc]
    rfl
  · exact trimEnd_concat hc _

end TypesetTrace.Text
