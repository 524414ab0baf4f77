import Mathlib.Data.List.TakeWhile
import TypesetTrace.Path
import TypesetTrace.Proofs.Text.Lines

/-! A path from the root has one normal spelling. It is not changed again, and whatever is reached below a
path is reached below its normal spelling too. -/
namespace TypesetTrace.Path
open Text

/-- A component that leads one step down. -/
structure IsStep (c : Text) : Prop where
  ne_nil : c ≠ []
  ne_here : c ≠ here
  ne_up : c ≠ up
  inside : '/' ∉ c

/-- The steps that a path from the root takes, last first. -/
def taken (p : Text) : List Text := (components p).foldl (descend true) []

section
variable {p r x c : Text} {ns : List Text}

theorem components_append (p x : Text) : components (p ++ '/' :: x) = components p ++ components x :=
  cutAt_append_cons (p := (· == '/')) (beq_self_eq_true '/') p x

theorem taken_append (p x : Text) :
    taken (p ++ '/' :: x) = (components x).foldl (descend true) (taken p) := by
  rw [taken, components_append, List.foldl_append, taken]

/-- One slash, or two. -/
def IsRoot (r : Text) : Prop := r = ['/'] ∨ r = ['/', '/']

theorem isRoot_root (h : isAbsolute p) : IsRoot (root p) := by
  unfold isAbsolute at h
  split at h
  · unfold root
    split
    · exact .inl rfl
    · exact .inr rfl
    · exact .inl rfl
    · rename_i hnone
      exact absurd rfl (hnone _)
  · cases h

theorem normalise_of_isAbsolute (h : isAbsolute p) : normalise p = spell (root p) (taken p).reverse := by
  have hrooted : (root p != []) = true := by
    rcases isRoot_root h with hroot | hroot <;> rw [hroot] <;> rfl
  rw [normalise, hrooted, taken]

theorem isStep_of_mem_descend {steps : List Text} (hc : '/' ∉ c) (h : ∀ n ∈ steps, IsStep n) :
    ∀ n ∈ descend true steps c, IsStep n := by
  unfold descend
  split
  · exact h
  rename_i hstay
  rw [not_or] at hstay
  split
  · cases steps with
    | nil => nofun
    | cons last rest =>
      obtain ⟨hlast, hrest⟩ := List.forall_mem_cons.mp h
      simp only [if_neg hlast.ne_up]
      exact hrest
  · rename_i hup
    exact List.forall_mem_cons.mpr ⟨⟨hstay.1, hstay.2, hup, hc⟩, h⟩

theorem isStep_of_mem_foldl {cs steps : List Text} (hcs : ∀ c ∈ cs, '/' ∉ c) (h : ∀ n ∈ steps, IsStep n) :
    ∀ n ∈ cs.foldl (descend true) steps, IsStep n := by
  induction cs generalizing steps with
  | nil => exact h
  | cons c cs ih =>
    obtain ⟨hc, hcs⟩ := List.forall_mem_cons.mp hcs
    exact ih hcs (isStep_of_mem_descend hc h)

theorem isStep_of_mem_taken : ∀ n ∈ taken p, IsStep n := by
  apply isStep_of_mem_foldl
  · intro c hc hslash
    exact absurd (not_mem_of_mem_cutAt hc '/' hslash) (by decide)
  · nofun

theorem foldl_descend (h : ∀ n ∈ ns, IsStep n) (steps : List Text) :
    ns.foldl (descend true) steps = ns.reverse ++ steps := by
  induction ns generalizing steps with
  | nil => rfl
  | cons n ns ih =>
    obtain ⟨hn, hns⟩ := List.forall_mem_cons.mp h
    have hdown : descend true steps n = n :: steps := by
      unfold descend
      rw [if_neg (not_or.mpr ⟨hn.ne_nil, hn.ne_here⟩), if_neg hn.ne_up]
    rw [List.foldl_cons, hdown, ih hns, List.reverse_cons, List.append_assoc, List.singleton_append]

theorem spell_of_isRoot (hr : IsRoot r) (ns : List Text) : spell r ns = r ++ Text.join ['/'] ns := by
  rcases hr with rfl | rfl <;> rfl

theorem taken_spell (hr : IsRoot r) (h : ∀ n ∈ ns, IsStep n) : taken (spell r ns) = ns.reverse := by
  have hjoined : taken (Text.join ['/'] ns) = ns.reverse := by
    by_cases hne : ns = []
    · rw [hne]
      rfl
    · rw [taken, components, cutAt_join hne fun n hn => (h n hn).inside, foldl_descend h, List.append_nil]
  rw [spell_of_isRoot hr]
  rcases hr with rfl | rfl <;> exact hjoined

theorem root_spell (hr : IsRoot r) (h : ∀ n ∈ ns, IsStep n) : root (spell r ns) = r := by
  rw [spell_of_isRoot hr]
  cases ns with
  | nil => rcases hr with rfl | rfl <;> rfl
  | cons n ns =>
    have hn := h n List.mem_cons_self
    obtain ⟨c, n, rfl⟩ := List.exists_cons_of_ne_nil hn.ne_nil
    have hc : c ≠ '/' := fun hc => hn.inside (hc ▸ List.mem_cons_self)
    rw [join_cons, List.cons_append]
    rcases hr with rfl | rfl <;> simp [root, hc]

theorem isAbsolute_spell (hr : IsRoot r) (ns : List Text) : isAbsolute (spell r ns) := by
  rw [spell_of_isRoot hr]
  rcases hr with rfl | rfl <;> rfl

/-- The normal spelling has the same slashes in front and takes the same steps. -/
theorem normalise_keeps (h : isAbsolute p) :
    isAbsolute (normalise p) ∧ root (normalise p) = root p ∧ taken (normalise p) = taken p := by
  have hsteps : ∀ n ∈ (taken p).reverse, IsStep n := fun n hn => isStep_of_mem_taken n (List.mem_reverse.mp hn)
  rw [normalise_of_isAbsolute h]
  refine ⟨isAbsolute_spell (isRoot_root h) _, root_spell (isRoot_root h) hsteps, ?_⟩
  rw [taken_spell (isRoot_root h) hsteps, List.reverse_reverse]

theorem normalise_normalise (h : isAbsolute p) : normalise (normalise p) = normalise p := by
  obtain ⟨hrooted, hroot, htaken⟩ := normalise_keeps h
  rw [normalise_of_isAbsolute hrooted, hroot, htaken, normalise_of_isAbsolute h]

theorem root_append (h : isAbsolute p) (hp : ¬ IsRoot p) (x : Text) : root (p ++ '/' :: x) = root p := by
  rw [IsRoot, not_or] at hp
  unfold isAbsolute at h
  split at h
  · rename_i q
    cases q with
    | nil => exact absurd rfl hp.1
    | cons c q =>
      by_cases hc : c = '/'
      · subst hc
        cases q with
        | nil => exact absurd rfl hp.2
        | cons d q => by_cases hd : d = '/' <;> simp [root, hd]
      · simp [root, hc]
  · cases h

/-- What lies below a path other than the root lies below its normal spelling. -/
theorem normalise_append (h : isAbsolute p) (hp : ¬ IsRoot (normalise p)) (x : Text) :
    normalise (p ++ '/' :: x) = normalise (normalise p ++ '/' :: x) := by
  obtain ⟨hrooted, hroot, htaken⟩ := normalise_keeps h
  have hbelow : ¬ IsRoot p := by
    rintro (rfl | rfl)
    · exact hp (.inl rfl)
    · exact hp (.inr rfl)
  rw [normalise_of_isAbsolute (isAbsolute_append h _), root_append h hbelow, taken_append,
    normalise_of_isAbsolute (isAbsolute_append hrooted _), root_append hrooted hp, taken_append, hroot, htaken]

theorem join_append (hp : p ≠ []) (dir x : Text) : join dir (p ++ '/' :: x) = join dir p ++ '/' :: x := by
  obtain ⟨c, p, rfl⟩ := List.exists_cons_of_ne_nil hp
  have hfirst : isAbsolute (c :: p ++ '/' :: x) = isAbsolute (c :: p) := by
    unfold isAbsolute
    split <;> split <;> simp_all
  rw [join, join, hfirst]
  split
  · rfl
  · split <;> simp only [List.append_assoc, List.cons_append]

/-- The path leads from the root and has its normal spelling. -/
structure IsNormal (p : Text) : Prop where
  isAbsolute : isAbsolute p
  normalise : normalise p = p

theorem IsNormal.ne_nil (h : IsNormal p) : p ≠ [] := by
  rintro rfl
  exact absurd h.isAbsolute (by decide)

variable {working : WorkingDirectory}

theorem isNormal_absolute (p : Text) : IsNormal (absolute working p) := by
  have hjoined : isAbsolute (join working.path p) := isAbsolute_join working.isAbsolute_path p
  exact ⟨(normalise_keeps hjoined).1, normalise_normalise hjoined⟩

/-- What is reached below a directory depends on its absolute path only. -/
theorem absolute_append (hp : p ≠ []) (h : ¬ IsRoot (absolute working p)) (x : Text) :
    absolute working (p ++ '/' :: x) = normalise (absolute working p ++ '/' :: x) := by
  rw [absolute, join_append hp]
  exact normalise_append (isAbsolute_join working.isAbsolute_path p) h x

theorem trimEnd_append {f : Char → Bool} {d : Char} {s : Text} (hd : d ∈ s) (hf : f d = false) (p : Text) :
    trimEnd f (p ++ s) = p ++ trimEnd f s ∧ trimEnd f s ≠ [] := by
  have hne : s.reverse.dropWhile f ≠ [] := by
    intro h
    have hall := List.dropWhile_eq_nil_iff.mp h d (List.mem_reverse.mpr hd)
    rw [hf] at hall
    cases hall
  rw [trimEnd, trimEnd, List.reverse_append, List.dropWhile_append, if_neg (by rwa [List.isEmpty_iff]),
    List.reverse_append, List.reverse_reverse]
  exact ⟨rfl, mt List.reverse_eq_nil_iff.mp hne⟩

/-- Only the last component has an extension to lose. -/
theorem withoutExtension_append (p : Text) {n : Text} (hn : '/' ∉ n) :
    withoutExtension (p ++ '/' :: n) = p ++ '/' :: withoutExtension n := by
  have hinside : ∀ d ∈ n.reverse, (d != '/') = true := fun d hd =>
    bne_iff_ne.mpr fun he => hn (he ▸ List.mem_reverse.mp hd)
  have hname : ((p ++ '/' :: n).reverse.takeWhile (· != '/')).reverse = n := by
    have hfront : ∀ d ∈ ('/' :: p.reverse).head?, (d != '/') = false := fun d hd => by cases hd; rfl
    rw [List.reverse_append, List.reverse_cons, List.append_assoc, List.singleton_append,
      (span_append hinside hfront).1, List.reverse_reverse]
  have hself : (n.reverse.takeWhile (· != '/')).reverse = n := by
    rw [List.takeWhile_eq_self_iff.mpr hinside, List.reverse_reverse]
  rw [withoutExtension, withoutExtension, hname, hself]
  cases hstem : n.dropWhile (· == '.') with
  | nil => rfl
  | cons d stem =>
    dsimp only
    split
    · rename_i hdot
      have hmem : '.' ∈ n := by
        apply (List.dropWhile_suffix (· == '.')).subset
        rw [hstem]
        exact List.contains_iff_mem.mp hdot
      obtain ⟨htrim, hne⟩ := trimEnd_append (f := (· != '.')) hmem rfl (p ++ ['/'])
      rw [List.append_assoc, List.append_assoc, List.singleton_append, List.singleton_append] at htrim
      rw [htrim, List.dropLast_append_of_ne_nil (List.cons_ne_nil _ _), List.dropLast_cons_of_ne_nil hne]
    · rfl

end
end TypesetTrace.Path
