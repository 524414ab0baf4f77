import TypesetTrace.Proofs.Sync.Views

/-! What the views of a document have in common. The tree never holds more than the index and the list
of horizontal boxes, and it holds as much as the index where pages and boxes are closed as they are
opened: the records alone tell that nothing is dropped. -/
namespace TypesetTrace.Sync
open Text
variable {K : Type}

/-- The number of open boxes behind a record, or none where no page is open. -/
def Record.depthAfter (depth : Option Nat) : Record → Option Nat
  | .openPage _ => some 0
  | .closePage _ => none
  | .openBox _ _ => depth.map (· + 1)
  | .closeBox => depth.map (· - 1)
  | _ => depth

/-- A page is opened where none is open, and closed where no box is open. -/
def Record.IsOrderly (depth : Option Nat) : Record → Prop
  | .openPage _ => depth = none
  | .closePage _ => ∀ n ∈ depth, n = 0
  | _ => True

instance (depth : Option Nat) : (record : Record) → Decidable (record.IsOrderly depth)
  | .openPage _ => inferInstanceAs (Decidable (depth = none))
  | .closePage _ => inferInstanceAs (Decidable (∀ n ∈ depth, n = 0))
  | .input _ _ | .offset _ _ | .openBox _ _ | .closeBox | .element _ => .isTrue trivial

/-- The number under which a record closes the open page. -/
def Record.closing? (depth : Option Nat) : Record → Option Int
  | .closePage number => depth.map fun _ => (digitsValue number : Int)
  | _ => none

/-- Every page is closed before the next one is opened, and before that every box on it. -/
def AreOrderly : Option Nat → List Record → Prop
  | depth, [] => depth = none
  | depth, record :: rest => record.IsOrderly depth ∧ AreOrderly (record.depthAfter depth) rest

instance decidableAreOrderly : (depth : Option Nat) → (records : List Record) →
    Decidable (AreOrderly depth records)
  | depth, [] => inferInstanceAs (Decidable (depth = none))
  | depth, record :: rest =>
    have := decidableAreOrderly (record.depthAfter depth) rest
    inferInstanceAs (Decidable (_ ∧ _))

/-- The numbers under which pages are closed; where no page is open nothing is closed. -/
def closings : Option Nat → List Record → List Int
  | _, [] => []
  | depth, record :: rest =>
    (record.closing? depth).toList ++ closings (record.depthAfter depth) rest

namespace Reading

def depth (r : Reading K) : Option Nat := r.page.map fun p => p.stack.length

private theorem dropped_eq_nil {r : Reading K} {record : Record} (horderly : record.IsOrderly r.depth)
    (hnew : ∀ n ∈ record.closing? r.depth, n ∉ r.document.pages.keys) :
    r.dropped record = [] := by
  cases record with
  | openPage number =>
    have hp : r.page = none := Option.map_eq_none_iff.mp horderly
    rw [dropped, hp]
    rfl
  | closePage number =>
    rw [dropped]
    split
    · rfl
    · rename_i p hp
      have hs : p.stack = [] := List.length_eq_zero_iff.mp (horderly _ (by rw [depth, hp]; rfl))
      have hkey : r.document.pages.get? (digitsValue number : Int) = none :=
        Keyed.get?_eq_none (hnew _ (by rw [depth, hp]; rfl))
      simp only [OpenPage.openParts, hs, hkey]
      rfl
  | _ => rfl

variable [Scalar K] {r r' : Reading K}

/-- The records tell how many boxes are open and under which numbers pages are closed. -/
private theorem depth_keys_step {record : Record} (h : r.step record = .ok r')
    (hnew : ∀ n ∈ record.closing? r.depth, n ∉ r.document.pages.keys) :
    r'.depth = record.depthAfter r.depth ∧
      r'.document.pages.keys = r.document.pages.keys ++ (record.closing? r.depth).toList := by
  cases record with
  | input number path =>
    obtain ⟨n, -, h⟩ := bind_ok h
    cases h
    exact ⟨rfl, (List.append_nil _).symm⟩
  | offset axis value =>
    obtain ⟨v, -, h⟩ := bind_ok h
    obtain ⟨x, y, rfl⟩ := eq_of_setOffset h
    exact ⟨rfl, (List.append_nil _).symm⟩
  | openPage number =>
    obtain ⟨n, -, h⟩ := bind_ok h
    cases h
    exact ⟨rfl, (List.append_nil _).symm⟩
  | closePage number =>
    rcases closePage_cases h with ⟨hp, rfl⟩ | ⟨p, hp, rfl⟩
    · have hdepth : r'.depth = none := by rw [depth, hp]; rfl
      rw [hdepth]
      exact ⟨rfl, (List.append_nil _).symm⟩
    · have hclosing : (Record.closePage number).closing? r.depth = some (digitsValue number : Int) := by
        rw [depth, hp]
        rfl
      rw [hclosing] at hnew ⊢
      exact ⟨rfl, Keyed.keys_put _ (hnew _ rfl)⟩
  | openBox kind f =>
    rcases openBox_cases h with ⟨hp, -, rfl⟩ | ⟨p, head, hp, -, rfl⟩
    · exact ⟨by simp [depth, Record.depthAfter, hp], (List.append_nil _).symm⟩
    · refine ⟨by simp [depth, Record.depthAfter, hp], ?_⟩
      split <;> exact (List.append_nil _).symm
  | closeBox =>
    cases h
    rcases closeBox_cases r with ⟨hnone, hclose⟩ | ⟨p, box, hp, hs, hclose⟩ |
      ⟨p, box, outer, stack, hp, hs, hclose⟩ <;> rw [hclose]
    · refine ⟨?_, (List.append_nil _).symm⟩
      cases hp : r.page with
      | none => simp [depth, Record.depthAfter, hp]
      | some p => simp [depth, Record.depthAfter, hp, hnone p hp]
    · exact ⟨by simp [depth, Record.depthAfter, hp, hs], (List.append_nil _).symm⟩
    · exact ⟨by simp [depth, Record.depthAfter, hp, hs], (List.append_nil _).symm⟩
  | element f =>
    rcases addElement_cases h with ⟨-, -, rfl⟩ | ⟨p, box, stack, path, e, hp, hs, -, -, -, rfl⟩
    · exact ⟨rfl, (List.append_nil _).symm⟩
    · refine ⟨by simp [depth, Record.depthAfter, hp, hs], ?_⟩
      split <;> exact (List.append_nil _).symm

/-- Where pages and boxes are closed in order, and no page twice, nothing is lost. -/
theorem droppedBy_eq_nil {records : List Record} (h : run records r = .ok r')
    (horderly : AreOrderly r.depth records)
    (hnumbers : (r.document.pages.keys ++ closings r.depth records).Nodup) :
    r'.page = none ∧ droppedBy records r = [] := by
  -- Along the run the records that are left stay in order, and their numbers new to the pages so far.
  induction records generalizing r with
  | nil =>
    cases h
    exact ⟨Option.map_eq_none_iff.mp horderly, rfl⟩
  | cons record rest ih =>
    obtain ⟨r₁, hstep, h⟩ := bind_ok h
    rw [closings, ← List.append_assoc] at hnumbers
    have hnew : ∀ n ∈ record.closing? r.depth, n ∉ r.document.pages.keys := by
      intro n hn hkey
      have hfirst := (List.nodup_append.mp hnumbers).1
      exact (List.nodup_append.mp hfirst).2.2 n hkey n (Option.mem_toList.mpr hn) rfl
    obtain ⟨hdepth, hkeys⟩ := depth_keys_step hstep hnew
    obtain ⟨hpage, hdropped⟩ := ih h (hdepth ▸ horderly.2) (by rw [hkeys, hdepth]; exact hnumbers)
    refine ⟨hpage, ?_⟩
    rw [droppedBy, dropped_eq_nil horderly.1 hnew, hstep]
    exact hdropped

end Reading

def recordsOf (body : Text) : List Record := (lines body).tail.filterMap recordOf?

section
variable [Scalar K]

/-- A file before its first record. -/
def Reading.start (body : Text) : Reading K :=
  { document := { Document.blank with version := versionOf ((lines body).head?.getD []) } }

theorem Document.ofText_eq (body : Text) : (Document.ofText body : Except Stop (Document K)) =
    (Reading.run (recordsOf body) (Reading.start body)).map (·.document) := by
  unfold Document.ofText
  rw [recordsOf, Reading.start]
  split
  · rfl
  · rename_i hl
    rw [hl]
    rfl
  · rename_i hl
    rw [hl]
    exact bind_pure_comp _ _

/-- The views of every document that is read agree: the tree holds no element more often than the
index, and the list of horizontal boxes has every horizontal box of the tree and every element of the
index that stands for one. Index and list have all that was met, the list in the order of the records.
Where pages and boxes are closed as they are opened, and no two pages under one number, the tree and
the index hold the same elements. -/
theorem Document.views_agree {body : Text} {d : Document K} (h : Document.ofText body = .ok d) :
    let records := recordsOf body
    let ps : List (Part K) := Reading.met records (Reading.start body)
    d.treeElements.Subperm d.indexed ∧
      ((d.treeBoxes ++ d.indexed).filter Block.isHorizontal).Subperm d.horizontals ∧
      d.indexed.Perm (ps.filterMap Part.element?) ∧
      d.horizontals = (ps.map Part.block).filter Block.isHorizontal ∧
      (∃ shown, shown.Sublist records ∧ List.Forall₂ Record.Shows shown ps) ∧
      (AreOrderly none records → (closings none records).Nodup → d.treeElements.Perm d.indexed) := by
  intro records ps
  rw [Document.ofText_eq] at h
  cases hrun : Reading.run records (Reading.start body : Reading K) with
  | error _ => rw [hrun] at h; cases h
  | ok r =>
    rw [hrun] at h
    cases h
    have hgains := Reading.gains_run hrun
    have hparts : (r.parts ++ Reading.droppedBy records (Reading.start body)).Perm ps := hgains.parts
    have hindexed : r.document.indexed.Perm (ps.filterMap Part.element?) := hgains.indexed
    have hhorizontals : r.document.horizontals = (ps.map Part.block).filter Block.isHorizontal :=
      hgains.horizontals
    -- What stands on the pages at the end is among all that was ever met.
    have hkept (f : Part K → Option (Block K)) :
        (r.document.parts.filterMap f).Subperm (ps.filterMap f) := by
      have hsub : r.document.parts.Sublist
          (r.parts ++ Reading.droppedBy records (Reading.start body)) :=
        (List.sublist_append_left _ _).trans (List.sublist_append_left _ _)
      exact (hsub.filterMap f).subperm.trans (hparts.filterMap f).subperm
    refine ⟨(hkept Part.element?).trans hindexed.symm.subperm, ?_, hindexed, hhorizontals,
      Reading.met_shown records _, ?_⟩
    · rw [hhorizontals]
      have hboth := ((hkept Part.box?).append hindexed.subperm).trans
        (Part.boxes_append_elements ps).subperm
      exact hboth.filter _
    · intro horderly hnumbers
      obtain ⟨hpage, hdropped⟩ := Reading.droppedBy_eq_nil hrun horderly hnumbers
      have htree : r.document.parts.Perm ps := by
        rw [hdropped, List.append_nil, Reading.parts, hpage, Option.map_none, Option.getD_none,
          List.append_nil] at hparts
        exact hparts
      exact (htree.filterMap _).trans hindexed.symm

end

def twoPages : Text :=
  ("SyncTeX Version:1\nInput:1:a.tex\n\x7b1\n[1,1:0,0:0,0,0\nx1,2:5,5\n(1,2:0,0:9,9,9\nh1,3:5,5:0\n)\n]\n" ++
    "\x7d1\n\x7b2\n(1,4:0,0:9,9,9\nx1,5:1,1\n)\n\x7d2").toList

theorem Document.views_agree_twoPages : ∃ d : Document Float, Document.ofText twoPages = .ok d ∧
    d.treeElements.Perm d.indexed ∧ d.indexed.length = 3 ∧ d.horizontals.length = 3 := by
  have hlengths : (Document.ofText twoPages : Except Stop (Document Float)).toOption.map
      (fun d => (d.indexed.length, d.horizontals.length)) = some (3, 3) := by decide +kernel
  cases h : (Document.ofText twoPages : Except Stop (Document Float)) with
  | error _ => rw [h] at hlengths; cases hlengths
  | ok d =>
    rw [h] at hlengths
    obtain ⟨hindexed, hhorizontals⟩ := Prod.mk.inj (Option.some.inj hlengths)
    have hsame := (Document.views_agree h).2.2.2.2.2 (by decide +kernel) (by decide +kernel)
    exact ⟨d, rfl, hsame, hindexed, hhorizontals⟩

/-- An element in a box that is still open when its page is closed stands in the index alone. -/
example : (Document.ofText "\nInput:1:a.tex\n\x7b1\n[1,1:0,0:0,0,0\nx1,2:5,5\n\x7d1".toList :
    Except Stop (Document Float)).toOption.map (fun d => (d.treeElements.length, d.indexed.length)) =
      some (0, 1) := by decide +kernel
end TypesetTrace.Sync
