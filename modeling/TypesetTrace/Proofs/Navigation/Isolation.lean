import TypesetTrace.Proofs.Navigation.Eligible
import TypesetTrace.Proofs.Sync.PageRecords

/-! What other pages have to do with the origin of a point. They do not change which blocks are met on
its page, but the order in which lines first come in the whole file is the order in which the blocks are
met, and a later block takes over from one with the same rectangle. -/
namespace TypesetTrace.Sync
variable {K : Type}

/-- All recorded lines with their files, in the order of the index. -/
def Document.places (d : Document K) : List (Text × Int) :=
  d.index.pairs.flatMap fun (path, lines) => lines.keys.map fun line => (path, line)

/-- The lines of which the page shows text, with their files, in the order of the index. -/
def Document.shownOn (page : Int) (d : Document K) : List (Text × Int) :=
  d.places.filter fun (path, line) => (d.bucket path line page).any Block.isEligible

end TypesetTrace.Sync

namespace TypesetTrace.Navigation
open Sync
variable {K : Type}

private theorem flatMap_filter_of_nil {α β : Type} {p : α → Bool} {f : α → List β} {l : List α}
    (h : ∀ a ∈ l, p a = false → f a = []) : (l.filter p).flatMap f = l.flatMap f := by
  induction l with
  | nil => rfl
  | cons a l ih =>
    have hrest := ih fun b hb => h b (List.mem_cons_of_mem a hb)
    cases hp : p a with
    | true => rw [List.filter_cons_of_pos hp, List.flatMap_cons, List.flatMap_cons, hrest]
    | false =>
      rw [List.filter_cons_of_neg (by simp [hp]), List.flatMap_cons, h a List.mem_cons_self hp,
        List.nil_append, hrest]

/-- The blocks that are met on a page, bucket by bucket. -/
theorem blocksOn_eq (page : Int) (d : Document K) : blocksOn page d.index =
    (d.shownOn page).flatMap fun (path, line) =>
      ((d.bucket path line page).filter Block.isEligible).map fun b => (path, line, b) := by
  have hunshown : ∀ place ∈ d.places, (d.bucket place.1 place.2 page).any Block.isEligible = false →
      (((d.bucket place.1 place.2 page).filter Block.isEligible).map fun b => (place.1, place.2, b)) = [] := by
    intro place _ hnone
    rw [List.filter_eq_nil_iff.mpr (by simpa using hnone), List.map_nil]
  rw [Document.shownOn, flatMap_filter_of_nil hunshown, Document.places, List.flatMap_assoc, blocksOn]
  refine List.flatMap_congr fun file hpath => ?_
  obtain ⟨path, lines⟩ := file
  show _ = (lines.keys.map fun line => (path, line)).flatMap _
  rw [Keyed.keys, List.map_map, List.flatMap_map]
  refine List.flatMap_congr fun recorded hline => ?_
  obtain ⟨line, pages⟩ := recorded
  have hbucket : d.bucket path line page = (pages.get? page).getD [] := by
    rw [Document.bucket, Keyed.mem_pairs_iff.mp hpath, Option.bind_some, Keyed.mem_pairs_iff.mp hline,
      Option.bind_some]
  simp only [Function.comp, hbucket]

/-- The order of the lines that a page shows, and its buckets, make up what is met on it. -/
theorem blocksOn_congr {d d' : Document K} {page : Int} (horder : d.shownOn page = d'.shownOn page)
    (hbucket : ∀ path line, (d.bucket path line page).map Block.alone =
      (d'.bucket path line page).map Block.alone) :
    (blocksOn page d.index).map (fun (path, line, b) => (path, line, b.alone)) =
      (blocksOn page d'.index).map fun (path, line, b) => (path, line, b.alone) := by
  have halone (path : Text) (line : Int) (bs : List (Block K)) :
      (((bs.filter Block.isEligible).map fun b => (path, line, b)).map
        fun (path, line, b) => (path, line, b.alone)) =
          ((bs.map Block.alone).filter Block.isEligible).map fun b => (path, line, b) := by
    rw [List.filter_map, List.map_map, List.map_map]
    rfl
  rw [blocksOn_eq, blocksOn_eq, List.map_flatMap, List.map_flatMap, horder]
  refine List.flatMap_congr fun place _ => ?_
  rw [halone, halone, hbucket]

variable [Scalar K]

/-- Nothing is asked of a block that the box around it could tell. -/
theorem foldl_consider_alone (x y : K) (candidates : List (Text × Int × Block K)) (best : Best K) :
    (candidates.map fun (path, line, b) => (path, line, b.alone)).foldl (Best.consider x y) best =
      candidates.foldl (Best.consider x y) best := by
  rw [List.foldl_map]
  rfl

/-- The origin of a point is the same in two documents with the same offsets, if the records on its page
are the same and come from the same files, and if the lines that the page shows stand in the same order
in both indexes. What stands on other pages only counts for that order. -/
theorem Navigator.inverse_of_same_page (nav : Navigator) (fs : Files) (source : Text)
    {slot slot' : Slot K} {d d' : Document K} (hd : (nav.load fs source slot).result = .ok (some d))
    (hd' : (nav.load fs source slot').result = .ok (some d')) {body body' : Text}
    (hbody : Document.ofText body = .ok d) (hbody' : Document.ofText body' = .ok d')
    (hx : d.offsetX = d'.offsetX) (hy : d.offsetY = d'.offsetY) {page : Int}
    (hrecords : recordsOn page (recordsOf body) .empty none = recordsOn page (recordsOf body') .empty none)
    (horder : d.shownOn page = d'.shownOn page) (x y : K) :
    (nav.inverse fs source page x y slot).result = (nav.inverse fs source page x y slot').result := by
  have hbucket (path : Text) (line : Int) : (d.bucket path line page).map Block.alone =
      (d'.bucket path line page).map Block.alone := by
    rw [Document.bucket_of_ofText hbody, Document.bucket_of_ofText hbody', hrecords]
  have hbest : bestAt d page x y = bestAt d' page x y := by
    rw [bestAt, bestAt, ← foldl_consider_alone, ← foldl_consider_alone _ _ (blocksOn page d'.index),
      blocksOn_congr horder hbucket, hx, hy]
  rw [inverse_of_load hd, inverse_of_load hd', origin?, origin?, hbest]

def onePlace : Forest :=
  .box ⟨.vertical, 1, 1, 0, 0, 0, 5, 0⟩ (.element ⟨'x', 1, 20, 5, 5, none⟩
    (.element ⟨'x', 1, 10, 5, 5, none⟩ .nil)) .nil

def oneLine (line : Nat) : Forest :=
  .box ⟨.vertical, 1, 1, 0, 0, 0, 5, 0⟩ (.element ⟨'x', 1, line, 5, 5, none⟩ .nil) .nil

def withPages (pages : Keyed Nat Forest) : Outline where
  version := ['1']
  files := .ofList [(1, "a.tex".toList)]
  offsetX := 0
  offsetY := 0
  pages := pages

def onlyPage : Outline := withPages (.ofList [(1, onePlace)])

/-- The same page behind one on which line 10 comes first. -/
def precededPage : Outline := withPages (.ofList [(2, oneLine 10), (1, onePlace)])

/-- The same page in front of another one. -/
def followedPage : Outline := withPages (.ofList [(1, onePlace), (2, oneLine 10)])

def placeFiles : Files := ({} : Files).write "/a.tex".toList (.bytes [])

def slotOf (o : Outline) : Slot Float := some ("/a.tex".toList, o.document)

/-- Of two lines at one place the one that comes later in the whole file is found. -/
theorem precededPage_decides :
    ¬ ∀ (body body' : Text) (d d' : Document Float), Document.ofText body = .ok d →
      Document.ofText body' = .ok d' → d.files = d'.files → d.offsetX = d'.offsetX →
        d.offsetY = d'.offsetY → ∀ page,
          recordsOn page (recordsOf body) .empty none = recordsOn page (recordsOf body') .empty none →
            ∀ (nav : Navigator) (fs : Files) (source : Text) (slot slot' : Slot Float),
              (nav.load fs source slot).result = .ok (some d) →
                (nav.load fs source slot').result = .ok (some d') → ∀ x y,
                  (nav.inverse fs source page x y slot).result =
                    (nav.inverse fs source page x y slot').result := by
  intro h
  have hsame := h onlyPage.text precededPage.text onlyPage.document precededPage.document rfl rfl rfl rfl rfl
    1 (by decide +kernel) {} placeFiles "/a.tex".toList (slotOf onlyPage) (slotOf precededPage) rfl rfl 0.0 0.0
  rw [Navigator.inverse_of_load (d := onlyPage.document) rfl,
    Navigator.inverse_of_load (d := precededPage.document) rfl] at hsame
  exact absurd (Except.ok.inj hsame) (by decide +kernel)

theorem followedPage_isolated :
    (({} : Navigator).load placeFiles "/a.tex".toList (slotOf followedPage)).result =
        .ok (some followedPage.document) ∧
      (({} : Navigator).inverse placeFiles "/a.tex".toList 1 0.0 0.0 (slotOf onlyPage)).result =
        (({} : Navigator).inverse placeFiles "/a.tex".toList 1 0.0 0.0 (slotOf followedPage)).result :=
  ⟨rfl, Navigator.inverse_of_same_page {} placeFiles "/a.tex".toList rfl rfl
    (rfl : Document.ofText onlyPage.text = .ok onlyPage.document)
    (rfl : Document.ofText followedPage.text = .ok followedPage.document) rfl rfl
    (by decide +kernel) (by decide +kernel) 0.0 0.0⟩

end TypesetTrace.Navigation
