/-! Associations of keys with values that keep the order in which the keys first came. -/
namespace TypesetTrace
variable {ι β : Type}

/-- Pairs in order, no key twice. -/
structure Keyed (ι β : Type) where
  pairs : List (ι × β)
  distinct : (pairs.map Prod.fst).Nodup

namespace Keyed

def empty : Keyed ι β := ⟨[], List.nodup_nil⟩

instance : Inhabited (Keyed ι β) := ⟨empty⟩

def keys (m : Keyed ι β) : List ι := m.pairs.map Prod.fst

variable [DecidableEq ι]

def get? (k : ι) (m : Keyed ι β) : Option β := m.pairs.lookup k

def altered (k : ι) (f : Option β → β) : List (ι × β) → List (ι × β)
  | [] => [(k, f none)]
  | (a, b) :: rest => if a = k then (a, f (some b)) :: rest else (a, b) :: altered k f rest

theorem map_fst_altered (k : ι) (f : Option β → β) (l : List (ι × β)) :
    (altered k f l).map Prod.fst =
      if k ∈ l.map Prod.fst then l.map Prod.fst else l.map Prod.fst ++ [k] := by
  induction l with
  | nil => simp [altered]
  | cons x l ih =>
    obtain ⟨a, b⟩ := x
    by_cases h : a = k
    · simp [altered, h]
    · have h' : ¬ k = a := fun e => h e.symm
      simp only [altered, if_neg h, List.map_cons, ih, List.mem_cons, h', false_or]
      split <;> simp

theorem nodup_altered {k : ι} {f : Option β → β} {l : List (ι × β)}
    (h : (l.map Prod.fst).Nodup) : ((altered k f l).map Prod.fst).Nodup := by
  rw [map_fst_altered]
  split
  · exact h
  · rename_i hk
    rw [List.nodup_append]
    exact ⟨h, by simp, fun a ha b hb e => hk (by simp at hb; subst hb; exact e ▸ ha)⟩

/-- Changes the value of `k`, which is `none` for `f` where there is no value yet. -/
def alter (k : ι) (f : Option β → β) (m : Keyed ι β) : Keyed ι β :=
  ⟨altered k f m.pairs, nodup_altered m.distinct⟩

/-- Gives `k` a value; a value that it had is replaced in its place. -/
def put (k : ι) (b : β) (m : Keyed ι β) : Keyed ι β := m.alter k fun _ => b

def erase (k : ι) (m : Keyed ι β) : Keyed ι β :=
  ⟨m.pairs.filter (·.1 ≠ k), (m.distinct.sublist (List.filter_sublist.map Prod.fst))⟩

/-- The last value of every key counts. -/
def ofList (l : List (ι × β)) : Keyed ι β := l.foldl (fun m (k, b) => m.put k b) empty

end Keyed
end TypesetTrace
