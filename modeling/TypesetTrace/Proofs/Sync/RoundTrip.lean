import TypesetTrace.Proofs.Sync.RecordLine
import TypesetTrace.Proofs.Sync.Views
import TypesetTrace.Proofs.Text.Lines

/-! Reading undoes printing: the document read from a printed outline is the one that the outline
describes, with the tree of its boxes, the index of its elements and the list of its horizontal
boxes. The invariant of the reading is that both flat views show the blocks met so far. -/
namespace TypesetTrace.Sync
open Text
variable {K : Type}

/-- The document with both flat views made of a list of blocks. -/
def Document.showing (d : Document K) (bs : List (Block K)) : Document K :=
  { d with index := indexOf (bs.filter Block.isElement), horizontals := bs.filter Block.isHorizontal }

/-- One more element at the end of the index. -/
private theorem indexOf_concat (es : List (Block K)) (e : Block K) :
    (indexOf es).alter (e.file.getD []) (fun lines => (lines.getD .empty).alter e.line fun pages =>
      (pages.getD .empty).alter e.page fun bucket => bucket.getD [] ++ [e]) =
        indexOf (es ++ [e]) := by
  have hpage (m : List (Block K)) :
      (Keyed.grouped (fun e => e.page) (fun bucket => bucket) m).alter e.page
        (fun bucket => bucket.getD [] ++ [e]) =
          Keyed.grouped (fun e => e.page) (fun bucket => bucket) (m ++ [e]) :=
    Keyed.alter_grouped (fun e : Block K => e.page) (fun bucket => bucket) m e _ rfl fun _ => rfl
  have hline (m : List (Block K)) :
      (Keyed.grouped (fun e => e.line)
        (Keyed.grouped (fun e => e.page) fun bucket => bucket) m).alter e.line (fun pages =>
          (pages.getD .empty).alter e.page fun bucket => bucket.getD [] ++ [e]) =
            Keyed.grouped (fun e => e.line)
              (Keyed.grouped (fun e => e.page) fun bucket => bucket) (m ++ [e]) :=
    Keyed.alter_grouped (fun e : Block K => e.line) _ m e _ (hpage []) hpage
  exact Keyed.alter_grouped (fun e : Block K => e.file.getD []) _ es e _ (hline []) hline

private theorem showing_element (d : Document K) (bs : List (Block K)) {e : Block K} {path : Text}
    {symbol : Char} (hfile : e.file = some path) (hrole : e.role = .element [symbol]) :
    (if symbol = 'h' then ((d.showing bs).record path e).addHorizontal e
      else (d.showing bs).record path e) = d.showing (bs ++ [e]) := by
  have hindex := indexOf_concat (bs.filter Block.isElement) e
  rw [hfile] at hindex
  split <;> rename_i hs <;>
    simp [Document.record, Document.addHorizontal, Document.showing, ← hindex, Block.isElement,
      Block.isHorizontal, hrole, hs]

variable [Scalar K]

private theorem showing_box (d : Document K) (bs : List (Block K)) (b : BoxOutline)
    (enclosing : Option (Block K)) (n : Nat) :
    (match b.kind with
      | .vertical => d.showing bs
      | .horizontal => (d.showing bs).addHorizontal (b.block d.files n enclosing)) =
        d.showing (bs ++ [b.block d.files n enclosing]) := by
  cases hk : b.kind <;>
    simp [Document.addHorizontal, Document.showing, Block.isElement, Block.isHorizontal,
      BoxOutline.block, hk]

private theorem natural_ofNat {n : Nat} (h : IsWritable n) : natural (ofNat n) = .ok n := by
  rw [natural, toNat_ofNat h]
  rfl

private theorem integer_ofInt {i : Int} (h : IsWritable i.natAbs) : integer (ofInt i) = .ok i := by
  rw [integer, toInt_ofInt h]
  rfl

private theorem scaled_ofInt {i : Int} (h : IsConvertible K i) :
    (scaled (ofInt i) : Except Stop K) = .ok (coordinate i) := by
  obtain ⟨hw, hk⟩ := h
  rw [scaled, integer_ofInt hw, coordinate]
  cases hc : (Scalar.ofScaledPoints i : Except Fault K) with
  | error _ => rw [hc] at hk; cases hk
  | ok k =>
    show converted (Scalar.ofScaledPoints i) = _
    rw [hc]
    rfl

private theorem box_fields_block {b : BoxOutline} (h : b.IsPrintable K) (d : Document K) (n : Nat)
    (boxes : List (Box K)) (stack : List (OpenBox K)) :
    b.fields.block b.kind d ⟨n, boxes, stack⟩ =
      .ok (b.block d.files n (stack.head?.map (·.head))) := by
  obtain ⟨hn, hi⟩ := h
  simp only [List.mem_cons, List.not_mem_nil, or_false, forall_eq_or_imp, forall_eq] at hn hi
  rw [BoxFields.block, BoxOutline.fields, natural_ofNat hn.1, natural_ofNat hn.2.1,
    scaled_ofInt hi.1, scaled_ofInt hi.2.1, scaled_ofInt hi.2.2.1, scaled_ofInt hi.2.2.2,
    integer_ofInt hn.2.2]
  rfl

private theorem element_fields_block {e : ElementOutline} (h : e.IsPrintable K) {path : Text}
    (n : Nat) (box : Block K) {files : Keyed Nat Text} (hf : files.get? e.file = some path) :
    ∃ block, e.block? files n box = some block ∧ e.fields.block e.file path n box = .ok block ∧
      block.file = some path ∧ block.role = .element [e.symbol] := by
  obtain ⟨-, hn, hi⟩ := h
  simp only [List.mem_cons, List.not_mem_nil, or_false, forall_eq_or_imp, forall_eq] at hn hi
  have hwidth : (e.width.map ofInt).mapM (scaled : Text → Except Stop K) =
      .ok (e.width.map coordinate) := by
    cases he : e.width with
    | none => rfl
    | some width =>
      show some <$> scaled (ofInt width) = _
      rw [scaled_ofInt (hi.2.2 width (by simp [he]))]
      rfl
  refine ⟨_, by rw [ElementOutline.block?, hf]; rfl, ?_, rfl, rfl⟩
  rw [ElementFields.block, ElementOutline.fields, natural_ofNat hn.2, scaled_ofInt hi.1,
    scaled_ofInt hi.2.1]
  show (e.width.map ofInt).mapM (scaled : Text → Except Stop K) >>= _ = _
  rw [hwidth]
  rfl

namespace Reading

private theorem run_cons {r r' : Reading K} {record : Record} (rest : List Record)
    (h : r.step record = .ok r') : run (record :: rest) r = run rest r' := by
  rw [run, h]
  rfl

private theorem run_append {r r' : Reading K} {records : List Record} (rest : List Record)
    (h : run records r = .ok r') : run (records ++ rest) r = run rest r' := by
  rw [run_append_eq, h]
  rfl

private theorem step_openBox {b : BoxOutline} (h : b.IsPrintable K) (d : Document K)
    (bs : List (Block K)) (n : Nat) (boxes : List (Box K)) (stack : List (OpenBox K)) :
    step ⟨d.showing bs, some ⟨n, boxes, stack⟩⟩ (.openBox b.kind b.fields) =
      let head : Block K := b.block d.files n (stack.head?.map (·.head))
      .ok ⟨d.showing (bs ++ [head]), some ⟨n, boxes, { head } :: stack⟩⟩ := by
  have hblock := box_fields_block h (d.showing bs) n boxes stack
  show (b.fields.block b.kind (d.showing bs) ⟨n, boxes, stack⟩ >>= fun _ => _) = _
  rw [hblock]
  show _ = Except.ok (⟨d.showing (bs ++ [b.block d.files n _]), _⟩ : Reading K)
  rw [← showing_box]
  cases b.kind <;> rfl

private theorem step_element {e : ElementOutline} (h : e.IsPrintable K) (d : Document K)
    (bs : List (Block K)) (n : Nat) (boxes : List (Box K)) (box : OpenBox K)
    (stack : List (OpenBox K)) :
    step ⟨d.showing bs, some ⟨n, boxes, box :: stack⟩⟩ (.element e.fields) =
      let met := (e.block? d.files n box.head).toList
      .ok ⟨d.showing (bs ++ met),
        some ⟨n, boxes, { box with elements := box.elements ++ met } :: stack⟩⟩ := by
  have hn : natural e.fields.file = .ok e.file := natural_ofNat (h.2.1 _ (by simp))
  show (natural e.fields.file >>= fun _ => _) = _
  rw [hn]
  cases hf : (d.showing bs).files.get? e.file with
  | none =>
    have hmet : e.block? d.files n box.head = none := congrArg (Option.map _) hf
    simp [bind, Except.bind, hf, hmet, pure, Except.pure]
  | some path =>
    obtain ⟨block, hmet, hblock, hfile, hrole⟩ := element_fields_block h n box.head hf
    have hmet : e.block? d.files n box.head = some block := hmet
    simp only [bind, Except.bind, hf]
    rw [hblock, hmet]
    show _ = Except.ok (⟨d.showing (bs ++ [block]), _⟩ : Reading K)
    rw [← showing_element d bs hfile hrole]
    rfl

private theorem step_closeBox_inner (d : Document K) (n : Int) (boxes : List (Box K))
    (inner outer : OpenBox K) (stack : List (OpenBox K)) :
    step ⟨d, some ⟨n, boxes, inner :: outer :: stack⟩⟩ .closeBox =
      .ok ⟨d, some ⟨n, boxes, { outer with
        boxes := outer.boxes ++ [⟨inner.head, inner.elements, inner.boxes⟩] } :: stack⟩⟩ := rfl

private theorem step_closeBox_outer (d : Document K) (n : Int) (boxes : List (Box K))
    (outer : OpenBox K) :
    step ⟨d, some ⟨n, boxes, [outer]⟩⟩ .closeBox =
      .ok ⟨d, some ⟨n, boxes ++ [⟨outer.head, outer.elements, outer.boxes⟩], []⟩⟩ := rfl

/-- What stands in a box is read into the box on top of the open ones. -/
private theorem run_content {f : Forest} (h : f.IsPrintable K) (d : Document K)
    (bs : List (Block K)) (n : Nat) (boxes : List (Box K)) (box : OpenBox K)
    (stack : List (OpenBox K)) :
    run f.records ⟨d.showing bs, some ⟨n, boxes, box :: stack⟩⟩ =
      .ok ⟨d.showing (bs ++ f.blocks d.files n (some box.head)),
        some ⟨n, boxes, ⟨box.head, box.elements ++ f.elements d.files n box.head,
          box.boxes ++ f.boxes d.files n (some box.head)⟩ :: stack⟩⟩ := by
  induction f generalizing bs box stack with
  | nil => simp [Forest.records, Forest.blocks, Forest.elements, Forest.boxes, run]
  | element e rest ih =>
    rw [Forest.records, run_cons _ (step_element h.1 d bs n boxes box stack), ih h.2]
    simp [Forest.blocks, Forest.elements, Forest.boxes]
  | box b content rest ihContent ih =>
    rw [Forest.records, run_cons _ (step_openBox h.1 d bs n boxes _),
      run_append _ (ihContent h.2.1 _ _ _), run_cons _ (step_closeBox_inner _ _ _ _ _ _), ih h.2.2]
    simp [Forest.blocks, Forest.elements, Forest.boxes]

/-- What stands on a page is read onto the page; an element outside every box leaves no trace. -/
private theorem run_forest {f : Forest} (h : f.IsPrintable K) (d : Document K)
    (bs : List (Block K)) (n : Nat) (boxes : List (Box K)) :
    run f.records ⟨d.showing bs, some ⟨n, boxes, []⟩⟩ =
      .ok ⟨d.showing (bs ++ f.blocks d.files n none),
        some ⟨n, boxes ++ f.boxes d.files n none, []⟩⟩ := by
  induction f generalizing bs boxes with
  | nil => simp [Forest.records, Forest.blocks, Forest.boxes, run]
  | element e rest ih =>
    have hnothing : step ⟨d.showing bs, some ⟨n, boxes, []⟩⟩ (.element e.fields) =
        .ok ⟨d.showing bs, some ⟨n, boxes, []⟩⟩ := rfl
    rw [Forest.records, run_cons _ hnothing, ih h.2]
    simp [Forest.blocks, Forest.boxes]
  | box b content rest _ ih =>
    rw [Forest.records, run_cons _ (step_openBox h.1 d bs n boxes []),
      run_append _ (run_content h.2.1 _ _ _ _ _ _), run_cons _ (step_closeBox_outer _ _ _ _), ih h.2.2]
    simp [Forest.blocks, Forest.boxes]

end Reading

/-- The document after one more page. -/
private def Document.withPage (d : Document K) (number : Nat) (f : Forest) : Document K :=
  { d with
    pages := d.pages.put number ⟨number, f.boxes d.files number none⟩
    pageCount := max d.pageCount number }

namespace Reading

private theorem run_pageRecords {f : Forest} (h : f.IsPrintable K) (d : Document K)
    (bs : List (Block K)) {n : Nat} (hn : IsWritable n) :
    run (pageRecords n f) ⟨d.showing bs, none⟩ =
      .ok ⟨(d.withPage n f).showing (bs ++ f.blocks d.files n none), none⟩ := by
  have hcount (c : Int) : (if c < n then (n : Int) else c) = max c n := by omega
  have hopen : step ⟨d.showing bs, none⟩ (.openPage (ofNat n)) =
      .ok ⟨({ d with pageCount := max d.pageCount n } : Document K).showing bs,
        some ⟨n, [], []⟩⟩ := by
    rw [step, natural_ofNat hn, ← hcount]
    rfl
  have hclose (d : Document K) (boxes : List (Box K)) :
      step ⟨d, some ⟨n, boxes, []⟩⟩ (.closePage (ofNat n)) =
        .ok ⟨{ d with pages := d.pages.put n ⟨n, boxes⟩ }, none⟩ := by
    rw [step, closePage, natural_ofNat hn]
    rfl
  rw [pageRecords, run_cons _ hopen, run_append _ (run_forest h _ _ _ _), run_cons _ (hclose _ _)]
  rfl

private theorem run_pages {ps : List (Nat × Forest)}
    (h : ∀ p ∈ ps, IsWritable p.1 ∧ p.2.IsPrintable K) (d : Document K) (bs : List (Block K)) :
    run (ps.flatMap fun (number, f) => pageRecords number f) ⟨d.showing bs, none⟩ =
      .ok ⟨(ps.foldl (fun d (number, f) => d.withPage number f) d).showing
        (bs ++ ps.flatMap fun (number, f) => f.blocks d.files number none), none⟩ := by
  induction ps generalizing d bs with
  | nil => simp [run]
  | cons p ps ih =>
    have hp := h p (by simp)
    rw [List.flatMap_cons, run_append _ (run_pageRecords hp.2 d bs hp.1),
      ih fun q hq => h q (by simp [hq])]
    simp [Document.withPage]

private theorem run_files {fs : List (Nat × Text)} (h : ∀ f ∈ fs, IsWritable f.1) (d : Document K) :
    run (fs.map fun (number, path) => .input (ofNat number) path) ⟨d, none⟩ =
      .ok ⟨{ d with files := fs.foldl (fun m (number, path) => m.put number path) d.files }, none⟩ := by
  induction fs generalizing d with
  | nil => rfl
  | cons f fs ih =>
    have hf : step ⟨d, none⟩ (.input (ofNat f.1) f.2) =
        .ok ⟨{ d with files := d.files.put f.1 f.2 }, none⟩ := by
      rw [step, natural_ofNat (h f (by simp))]
      rfl
    rw [List.map_cons, run_cons _ hf, ih fun g hg => h g (by simp [hg])]
    rfl

end Reading

private theorem foldl_withPage (ps : List (Nat × Forest)) (d : Document K) :
    ps.foldl (fun d (number, f) => d.withPage number f) d =
      { d with
        pages := (ps.map fun (number, f) => ((number : Int),
          (⟨number, f.boxes d.files number none⟩ : Page K))).foldl (fun m (k, b) => m.put k b) d.pages
        pageCount := (ps.map Prod.fst).foldl (fun (count : Int) (number : Nat) => max count number) d.pageCount } := by
  induction ps generalizing d with
  | nil => rfl
  | cons p ps ih => rw [List.foldl_cons, ih]; rfl

private theorem foldl_max (ns : List Nat) (n : Nat) :
    ns.foldl (fun (count : Int) (number : Nat) => max count number) n = (ns.foldl max n : Nat) := by
  induction ns generalizing n with
  | nil => rfl
  | cons m ns ih => rw [List.foldl_cons, List.foldl_cons, ← ih]; congr 1; omega

private theorem versionOf_label {version : Text} (hs : strip version = version)
    (hl : ¬ versionLabel <:+: version) : versionOf (versionLabel ++ version) = version := by
  rw [versionOf, remove_append (by decide), remove_eq_self hl, hs]

/-- The records of an outline build its document. -/
private theorem run_records {o : Outline} (h : o.IsPrintable K) :
    Reading.run o.records ⟨{ Document.blank with version := o.version }, none⟩ =
      .ok ⟨(o.document : Document K), none⟩ := by
  have hx (d : Document K) : Reading.step ⟨d, none⟩ (.offset 'X' (ofInt o.offsetX)) =
      .ok ⟨{ d with offsetX := coordinate o.offsetX }, none⟩ := by
    rw [Reading.step, scaled_ofInt h.offsets.1]
    rfl
  have hy (d : Document K) : Reading.step ⟨d, none⟩ (.offset 'Y' (ofInt o.offsetY)) =
      .ok ⟨{ d with offsetY := coordinate o.offsetY }, none⟩ := by
    rw [Reading.step, scaled_ofInt h.offsets.2]
    rfl
  have hfiles : o.files.pairs.foldl (fun m (number, path) => m.put number path) .empty = o.files :=
    Keyed.ofList_pairs o.files
  have hpages := Reading.run_pages h.pages ({ Document.blank with
    version := o.version, files := o.files
    offsetX := coordinate o.offsetX, offsetY := coordinate o.offsetY } : Document K) []
  rw [Outline.records, Reading.run_append _ (Reading.run_files (fun f hf => (h.files f hf).1) _),
    Reading.run_cons _ (hx _), Reading.run_cons _ (hy _)]
  show Reading.run _ ⟨{ Document.blank with
    version := o.version, files := o.files.pairs.foldl (fun m (number, path) => m.put number path) .empty
    offsetX := coordinate o.offsetX, offsetY := coordinate o.offsetY }, none⟩ = _
  rw [hfiles]
  refine hpages.trans (congrArg (fun d : Document K => (Except.ok ⟨d, none⟩ : Except Stop (Reading K))) ?_)
  rw [foldl_withPage]
  show Document.mk _ _ _ _ _ _ _ _ = _
  rw [Outline.document]
  congr 1
  · exact Keyed.ofList_pairs ((o.document : Document K).pages)
  · refine (foldl_max o.pages.keys 0).trans ?_
    rw [List.foldl_max, Nat.zero_max]

private theorem ofText_of_run {body first : Text} {rest : List Text} {r : Reading K}
    (hf : first ≠ []) (hl : lines body = first :: rest)
    (hr : Reading.run (rest.filterMap recordOf?)
      ⟨{ Document.blank with version := versionOf first }, none⟩ = .ok r) :
    Document.ofText body = .ok r.document := by
  have hne : body ≠ [] := by
    rintro rfl
    exact hf (List.cons.inj hl).1.symm
  unfold Document.ofText
  split
  · exact absurd rfl hne
  · rename_i hnil
    rw [hl] at hnil
    cases hnil
  · rename_i hcons
    rw [hl] at hcons
    cases hcons
    show (Reading.run _ _ >>= fun r => pure r.document) = _
    rw [hr]
    rfl

private theorem join_concat_nil {ls : List Text} (h : ls ≠ []) :
    Text.join ['\n'] ls ++ ['\n'] = Text.join ['\n'] (ls ++ [[]]) := by
  induction ls with
  | nil => exact absurd rfl h
  | cons l ls ih =>
    cases ls with
    | nil => simp [Text.join]
    | cons m ls =>
      simp only [Text.join, List.cons_append, List.append_assoc] at ih ⊢
      rw [ih (by simp)]

/-- The text of an outline may end with a line break, or with its last line. -/
private theorem exists_lines_text (o : Outline) {ending : Text} (he : ending = [] ∨ ending = ['\n']) :
    ∃ last : List Text, (∀ l ∈ last, l = []) ∧
      o.text ++ ending = Text.join ['\n'] (o.lines ++ last) := by
  rcases he with rfl | rfl
  · exact ⟨[], by simp, by simp [Outline.text]⟩
  · exact ⟨[[]], by simp, join_concat_nil (List.cons_ne_nil _ _)⟩

/-- Reading undoes printing, whether or not the last line is ended by a line break. -/
theorem Document.ofText_text (o : Outline) (h : o.IsPrintable K) (ending : Text)
    (he : ending = [] ∨ ending = ['\n']) :
    Document.ofText (o.text ++ ending) = .ok (o.document : Document K) := by
  obtain ⟨last, hlast, htext⟩ := exists_lines_text o he
  have hbreak : ∀ l ∈ o.lines ++ last, '\n' ∉ l := fun l hl =>
    (List.mem_append.mp hl).elim (Outline.newline_notMem (K := K) h l) fun hm => by simp [hlast l hm]
  have hlines : lines (o.text ++ ending) = (versionLabel ++ o.version) :: (o.lines.tail ++ last) := by
    rw [htext, lines_join (by simp [Outline.lines]) hbreak]
    rfl
  have hempty : last.filterMap recordOf? = [] :=
    List.filterMap_eq_nil_iff.mpr fun l hl => by rw [hlast l hl]; rfl
  refine ofText_of_run (r := ⟨o.document, none⟩)
    (List.append_ne_nil_of_left_ne_nil (by decide) _) hlines ?_
  rw [List.filterMap_append, Outline.filterMap_lines h, hempty, List.append_nil,
    versionOf_label h.version_stripped h.version_unlabelled]
  exact run_records h

/-- A page with a box in a box, an element that looks like a box, one that stands for an empty box,
one of a file that is not known, and an empty page before it. -/
def nestedOutline : Outline where
  version := ['1']
  files := ⟨[(1, "./a.tex".toList), (2, "b c:.tex".toList)], by decide⟩
  offsetX := 0
  offsetY := -12
  pages := ⟨[(3, .nil), (1, .box ⟨.vertical, 1, 4, 10, -20, 30, 40, 5⟩
    (.element ⟨'[', 1, 4, 10, 20, none⟩
      (.box ⟨.horizontal, 2, 7, 10, 20, 30, 40, -5⟩
        (.element ⟨'h', 2, 7, 10, 20, some 3⟩ (.element ⟨'x', 9, 7, 10, 20, none⟩ .nil)) .nil))
    .nil)], by decide⟩

theorem Document.ofText_nestedOutline :
    nestedOutline.IsPrintable Float ∧
      Document.ofText (nestedOutline.text ++ ['\n']) =
        .ok (nestedOutline.document : Document Float) := by
  have h : nestedOutline.IsPrintable Float := by constructor <;> decide +kernel
  exact ⟨h, Document.ofText_text nestedOutline h ['\n'] (.inr rfl)⟩

end TypesetTrace.Sync
