import Mathlib.Data.List.Induction
import TypesetTrace.Keyed

/-! What associations hold after they were built from lists or changed: entries sorted by a key,
entries added one by one, and the value that a key has. -/
namespace TypesetTrace.Keyed
variable {ι κ β γ α : Type}

theorem eq_of_pairs {m n : Keyed ι β} (h : m.pairs = n.pairs) : m = n := by
  cases m; cases n; cases h; rfl

/-- The same entries under other names. -/
def renamed (f : ι → κ) (hf : Function.Injective f) (g : ι → β → γ) (m : Keyed ι β) :
    Keyed κ γ where
  pairs := m.pairs.map fun (k, b) => (f k, g k b)
  distinct := by
    have h : (m.keys.map f).Nodup := List.Pairwise.map f (fun a b hab e => hab (hf e)) m.distinct
    simpa [keys, Function.comp_def] using h

/-- The same keys with other values. -/
def mapValues (g : β → γ) (m : Keyed ι β) : Keyed ι γ :=
  m.renamed id Function.injective_id fun _ => g

theorem pairs_mapValues (g : β → γ) (m : Keyed ι β) :
    (m.mapValues g).pairs = m.pairs.map fun p => (p.1, g p.2) := rfl

theorem keys_mapValues (g : β → γ) (m : Keyed ι β) : (m.mapValues g).keys = m.keys := by
  rw [keys, pairs_mapValues, List.map_map]
  rfl

variable [DecidableEq ι]

private theorem lookup_cons_eq (j a : ι) (b : β) (l : List (ι × β)) :
    ((a, b) :: l).lookup j = if j = a then some b else l.lookup j := by
  rw [List.lookup_cons]
  by_cases h : j = a
  · rw [if_pos h, beq_iff_eq.mpr h]
  · rw [if_neg h, beq_eq_false_iff_ne.mpr h]

private theorem mem_iff_lookup {l : List (ι × β)} (h : (l.map Prod.fst).Nodup) {k : ι} {b : β} :
    (k, b) ∈ l ↔ l.lookup k = some b := by
  induction l with
  | nil => simp
  | cons x l ih =>
    obtain ⟨a, c⟩ := x
    rw [List.map_cons, List.nodup_cons] at h
    rw [List.mem_cons, lookup_cons_eq, Prod.mk.injEq]
    split
    · rename_i hk
      subst hk
      have hnew : (k, b) ∉ l := fun hmem => h.1 (List.mem_map.mpr ⟨_, hmem, rfl⟩)
      simp [hnew, eq_comm]
    · rename_i hk
      simp only [hk, false_and, false_or]
      exact ih h.2

theorem mem_pairs_iff {m : Keyed ι β} {k : ι} {b : β} : (k, b) ∈ m.pairs ↔ m.get? k = some b :=
  mem_iff_lookup m.distinct

theorem mem_keys_iff {m : Keyed ι β} {k : ι} : k ∈ m.keys ↔ ∃ b, m.get? k = some b := by
  simp [keys, ← mem_pairs_iff]

theorem get?_mapValues (g : β → γ) (m : Keyed ι β) (k : ι) :
    (m.mapValues g).get? k = (m.get? k).map g := by
  rw [get?, pairs_mapValues, get?]
  induction m.pairs with
  | nil => rfl
  | cons x l ih =>
    obtain ⟨a, b⟩ := x
    rw [List.map_cons, lookup_cons_eq, lookup_cons_eq, ih]
    split <;> rfl

private theorem lookup_altered (k j : ι) (f : Option β → β) (l : List (ι × β)) :
    (altered k f l).lookup j = if j = k then some (f (l.lookup k)) else l.lookup j := by
  induction l with
  | nil => rw [altered, lookup_cons_eq]; rfl
  | cons x l ih =>
    obtain ⟨a, b⟩ := x
    rw [altered]
    split
    · rename_i ha
      subst ha
      simp only [lookup_cons_eq, if_pos]
      split <;> rfl
    · rename_i ha
      simp only [lookup_cons_eq, ih, if_neg (Ne.symm ha)]
      by_cases hj : j = a
      · rw [if_pos hj, if_pos hj, if_neg fun hk => ha (hj.symm.trans hk)]
      · rw [if_neg hj, if_neg hj]

/-- Only the value of the key that is altered is another one. -/
theorem get?_alter (k j : ι) (f : Option β → β) (m : Keyed ι β) :
    (m.alter k f).get? j = if j = k then some (f (m.get? k)) else m.get? j :=
  lookup_altered k j f m.pairs

theorem eraseDups_concat (l : List ι) (a : ι) :
    (l ++ [a]).eraseDups = if a ∈ l then l.eraseDups else l.eraseDups ++ [a] := by
  rw [List.eraseDups_append]
  by_cases h : a ∈ l <;> simp [List.removeAll, h, List.eraseDups_cons]

theorem nodup_eraseDups (l : List ι) : l.eraseDups.Nodup := by
  induction l using List.reverseRecOn with
  | nil => simp
  | append_singleton l a ih =>
    rw [eraseDups_concat]
    split
    · exact ih
    · rename_i h
      rw [List.nodup_append]
      refine ⟨ih, by simp, fun b hb c hc e => h ?_⟩
      rw [List.mem_singleton.mp hc] at e
      exact e ▸ List.mem_eraseDups.mp hb

/-- The members of a list by a key, the keys in the order in which they first come, and of the
members with one key whatever `value` makes of them. -/
def grouped (key : α → ι) (value : List α → β) (l : List α) : Keyed ι β where
  pairs := (l.map key).eraseDups.map fun k => (k, value (l.filter (key · = k)))
  distinct := by simpa [List.map_map, Function.comp_def] using nodup_eraseDups (l.map key)

theorem altered_of_notMem {k : ι} (f : Option β → β) {l : List (ι × β)}
    (h : k ∉ l.map Prod.fst) : altered k f l = l ++ [(k, f none)] := by
  induction l with
  | nil => rfl
  | cons x l ih =>
    obtain ⟨a, b⟩ := x
    simp only [List.map_cons, List.mem_cons, not_or] at h
    rw [altered, if_neg (Ne.symm h.1), ih h.2, List.cons_append]

theorem pairs_put {k : ι} (b : β) {m : Keyed ι β} (h : k ∉ m.keys) :
    (m.put k b).pairs = m.pairs ++ [(k, b)] :=
  altered_of_notMem _ h

theorem keys_put {k : ι} (b : β) {m : Keyed ι β} (h : k ∉ m.keys) :
    (m.put k b).keys = m.keys ++ [k] := by
  rw [keys, pairs_put b h, List.map_append]
  rfl

theorem get?_eq_none {k : ι} {m : Keyed ι β} (h : k ∉ m.keys) : m.get? k = none := by
  refine List.lookup_eq_none_iff.mpr fun p hp => bne_iff_ne.mpr ?_
  rintro rfl
  exact h (List.mem_map_of_mem hp)

private theorem pairs_foldl_put (l : List (ι × β)) (m : Keyed ι β)
    (h : (m.keys ++ l.map Prod.fst).Nodup) :
    (l.foldl (fun m (k, b) => m.put k b) m).pairs = m.pairs ++ l := by
  induction l generalizing m with
  | nil => simp
  | cons x l ih =>
    obtain ⟨k, b⟩ := x
    have hk : k ∉ m.keys := fun hk => (List.nodup_append.mp h).2.2 k hk k (by simp) rfl
    have hput := pairs_put b hk
    rw [List.foldl_cons, ih, hput, List.append_assoc, List.singleton_append]
    rw [keys, hput]
    simpa [keys] using h

/-- Nothing is lost or moved where no key comes twice. -/
theorem ofList_pairs (m : Keyed ι β) : ofList m.pairs = m := by
  apply eq_of_pairs
  exact pairs_foldl_put m.pairs empty m.distinct

private theorem altered_map (ks : List ι) (hks : ks.Nodup) {k : ι} (hk : k ∈ ks)
    (f : Option β → β) (v w : ι → β) (hw : ∀ j ∈ ks, j ≠ k → w j = v j)
    (hf : f (some (v k)) = w k) :
    altered k f (ks.map fun j => (j, v j)) = ks.map fun j => (j, w j) := by
  induction ks with
  | nil => cases hk
  | cons j ks ih =>
    rw [List.nodup_cons] at hks
    rw [List.map_cons, List.map_cons, altered]
    split
    · rename_i e
      subst e
      rw [hf]
      congr 1
      apply List.map_congr_left
      intro i hi
      rw [hw i (by simp [hi]) fun e => hks.1 (e ▸ hi)]
    · rename_i e
      rw [ih hks.2 ((List.mem_cons.mp hk).resolve_left (Ne.symm e)) fun i hi => hw i (by simp [hi]),
        hw j (by simp) e]

/-- One more member at the end changes the entry of its key alone. -/
theorem alter_grouped (key : α → ι) (value : List α → β) (l : List α) (a : α) (f : Option β → β)
    (h0 : f none = value [a]) (hf : ∀ m, f (some (value m)) = value (m ++ [a])) :
    (grouped key value l).alter (key a) f = grouped key value (l ++ [a]) := by
  apply eq_of_pairs
  simp only [alter, grouped, List.map_append, List.map_cons, List.map_nil, eraseDups_concat,
    List.filter_append]
  split
  · rename_i hk
    refine altered_map _ (nodup_eraseDups _) (List.mem_eraseDups.mpr hk) f _ _ ?_ ?_
    · intro j _ hj
      simp [Ne.symm hj]
    · simp [hf]
  · rename_i hk
    rw [altered_of_notMem _ (by simpa [Function.comp_def] using hk), h0, List.map_append]
    congr 1
    · apply List.map_congr_left
      intro j hj
      have hne : key a ≠ j := fun e => hk (e ▸ List.mem_eraseDups.mp hj)
      simp [hne]
    · have hl : l.filter (key · = key a) = [] := by
        rw [List.filter_eq_nil_iff]
        exact fun b hb e => hk (of_decide_eq_true e ▸ List.mem_map_of_mem hb)
      simp [hl]

/-- Every key with its value. -/
def All (P : ι → β → Prop) (m : Keyed ι β) : Prop := ∀ k b, m.get? k = some b → P k b

theorem all_empty (P : ι → β → Prop) : (empty : Keyed ι β).All P := nofun

theorem All.imp {P Q : ι → β → Prop} {m : Keyed ι β} (h : m.All P) (hPQ : ∀ k b, P k b → Q k b) :
    m.All Q :=
  fun k b hb => hPQ k b (h k b hb)

/-- What holds of all values stays so where the new value is like the old one. -/
theorem All.alter {P : ι → β → Prop} {m : Keyed ι β} (h : m.All P) {k : ι} {f : Option β → β}
    (hf : ∀ old, (∀ b ∈ old, P k b) → P k (f old)) : (m.alter k f).All P := by
  intro j b hb
  rw [get?_alter] at hb
  split at hb
  · rename_i hj
    cases hb
    rw [hj]
    exact hf _ fun b hb => h k b hb
  · exact h j b hb

theorem keys_alter_ne_nil (k : ι) (f : Option β → β) (m : Keyed ι β) : (m.alter k f).keys ≠ [] :=
  List.ne_nil_of_mem (mem_keys_iff.mpr ⟨_, (get?_alter k k f m).trans (if_pos rfl)⟩)

/-- What all the values hold, one after the other. -/
def contents (f : β → List γ) (m : Keyed ι β) : List γ := m.pairs.flatMap fun p => f p.2

private theorem flatMap_altered (f : β → List γ) (k : ι) (g : Option β → β) (l : List (ι × β)) :
    ((altered k g l).flatMap (fun p => f p.2) ++ ((l.lookup k).map f).getD []).Perm
      (l.flatMap (fun p => f p.2) ++ f (g (l.lookup k))) := by
  induction l with
  | nil => simp [altered]
  | cons x l ih =>
    obtain ⟨a, b⟩ := x
    rw [altered]
    split
    · rename_i e
      subst e
      simp only [List.lookup_cons_self, List.flatMap_cons, Option.map_some, Option.getD_some]
      refine List.perm_append_comm.trans ?_
      rw [List.append_assoc]
      exact List.perm_append_comm.append_left (f b)
    · rename_i e
      rw [List.lookup_cons, beq_eq_false_iff_ne.mpr (Ne.symm e), List.flatMap_cons,
        List.flatMap_cons, List.append_assoc, List.append_assoc]
      exact ih.append_left (f b)

/-- The new value of a key comes in and the old one goes out. -/
theorem contents_alter (f : β → List γ) (k : ι) (g : Option β → β) (m : Keyed ι β) :
    ((m.alter k g).contents f ++ ((m.get? k).map f).getD []).Perm
      (m.contents f ++ f (g (m.get? k))) :=
  flatMap_altered f k g m.pairs

theorem contents_put (f : β → List γ) (k : ι) (b : β) (m : Keyed ι β) :
    ((m.put k b).contents f ++ ((m.get? k).map f).getD []).Perm (m.contents f ++ f b) :=
  contents_alter f k (fun _ => b) m

/-- A change that adds one thing to the value of a key adds it to the whole. -/
theorem contents_alter_concat {f : β → List γ} (k : ι) {g : Option β → β} {c : γ} (m : Keyed ι β)
    (h : ∀ b, (f (g b)).Perm ((b.map f).getD [] ++ [c])) :
    ((m.alter k g).contents f).Perm (m.contents f ++ [c]) := by
  have halter := (contents_alter f k g m).trans ((h (m.get? k)).append_left _)
  rw [← List.perm_append_right_iff ((m.get? k).map f |>.getD []), List.append_assoc]
  exact halter.trans (List.perm_append_comm.append_left _)

end TypesetTrace.Keyed
