import TypesetTrace.Proofs.Sync.Agreement

/-! Where an element stands in the index, and what it says itself. Each is indexed under its own file,
line and page, and its file is the one that had its number when it was read, whatever else went wrong
in between. The invariant of a run keeps for every number the record that gave it last. -/
namespace TypesetTrace.Sync
open Text
variable {K : Type}

/-- The element is in the list for the line and the page of the file. -/
def Document.IsIndexed (d : Document K) (path : Text) (line page : Int) (b : Block K) : Prop :=
  ∃ lines pages bucket, d.index.get? path = some lines ∧ lines.get? line = some pages ∧
    pages.get? page = some bucket ∧ b ∈ bucket

/-- The last of the records that give the number to a file gives it to this one. -/
def IsGiven (records : List Record) (n : Nat) (path : Text) : Prop :=
  ∃ before digits between, records = before ++ .input digits path :: between ∧
    digitsValue digits = n ∧ ∀ other q, .input other q ∈ between → digitsValue other ≠ n

theorem isGiven_concat (records : List Record) (digits path : Text) :
    IsGiven (records ++ [.input digits path]) (digitsValue digits) path :=
  ⟨records, digits, [], rfl, rfl, nofun⟩

theorem IsGiven.concat {records : List Record} {n : Nat} {path : Text} (h : IsGiven records n path)
    {record : Record} (hne : ∀ other q, record = .input other q → digitsValue other ≠ n) :
    IsGiven (records ++ [record]) n path := by
  obtain ⟨before, digits, between, rfl, hn, hlast⟩ := h
  refine ⟨before, digits, between ++ [record], by simp, hn, fun other q hmem => ?_⟩
  rcases List.mem_append.mp hmem with hmem | hmem
  · exact hlast other q hmem
  · exact hne other q (List.mem_singleton.mp hmem).symm

/-- Such a block belongs under this file, line and page of the index. It lies in a box, and a record
shows it; its file had its number then. -/
structure Block.IsEntry [Scalar K] (records : List Record) (pageCount : Int) (path : Text)
    (line page : Int) (b : Block K) : Prop where
  file_eq : b.file = some path
  line_eq : b.line = line
  page_eq : b.page = page
  element : ∃ symbol, b.role = .element symbol
  boxed : ∃ box kind, b.enclosing = some box ∧ box.role = .box kind ∧ b.height = box.height
  page_le : page ≤ pageCount
  given : ∃ before f after, records = before ++ .element f :: after ∧
    (Record.element f).Shows (.element b) ∧ IsGiven before b.fileNumber path

/-- No list and no map of the index is empty, and every element in it has the property. -/
def Document.EveryEntry (P : Text → Int → Int → Block K → Prop) (d : Document K) : Prop :=
  d.index.All fun path lines => lines.keys ≠ [] ∧ lines.All fun line pages => pages.keys ≠ [] ∧
    pages.All fun page bucket => bucket ≠ [] ∧ ∀ b ∈ bucket, P path line page b

theorem Document.EveryEntry.imp {P Q : Text → Int → Int → Block K → Prop} {d : Document K}
    (h : d.EveryEntry P) (hPQ : ∀ path line page b, P path line page b → Q path line page b) :
    d.EveryEntry Q :=
  Keyed.All.imp h fun path _ ⟨hlines, h⟩ => ⟨hlines, h.imp fun line _ ⟨hpages, h⟩ =>
    ⟨hpages, h.imp fun page _ ⟨hbucket, h⟩ => ⟨hbucket, fun b hb => hPQ path line page b (h b hb)⟩⟩⟩

theorem Document.EveryEntry.of_isIndexed {P : Text → Int → Int → Block K → Prop} {d : Document K}
    (h : d.EveryEntry P) {path : Text} {line page : Int} {b : Block K}
    (hb : d.IsIndexed path line page b) : P path line page b := by
  obtain ⟨lines, pages, bucket, hpath, hline, hpage, hb⟩ := hb
  have hpages := (h path lines hpath).2 line pages hline
  exact (hpages.2 page bucket hpage).2 b hb

theorem Document.EveryEntry.record {P : Text → Int → Int → Block K → Prop} {d : Document K}
    (h : d.EveryEntry P) {path : Text} {e : Block K} (he : P path e.line e.page e) :
    (d.record path e).EveryEntry P := by
  refine Keyed.All.alter h fun lines hlines => ⟨Keyed.keys_alter_ne_nil _ _ _, Keyed.All.alter ?_ ?_⟩
  · cases lines with
    | none => exact Keyed.all_empty _
    | some lines => exact (hlines lines rfl).2
  intro pages hpages
  refine ⟨Keyed.keys_alter_ne_nil _ _ _, Keyed.All.alter ?_ ?_⟩
  · cases pages with
    | none => exact Keyed.all_empty _
    | some pages => exact (hpages pages rfl).2
  intro bucket hbucket
  refine ⟨by simp, fun b hb => ?_⟩
  rcases List.mem_append.mp hb with hb | hb
  · cases bucket with
    | none => cases hb
    | some bucket => exact (hbucket bucket rfl).2 b hb
  · rw [List.mem_singleton.mp hb]
    exact he

variable [Scalar K]

theorem Block.IsEntry.concat {records : List Record} {pageCount count : Int} {path : Text}
    {line page : Int} {b : Block K} (h : b.IsEntry records pageCount path line page)
    (hle : pageCount ≤ count) (record : Record) :
    b.IsEntry (records ++ [record]) count path line page where
  file_eq := h.file_eq
  line_eq := h.line_eq
  page_eq := h.page_eq
  element := h.element
  boxed := h.boxed
  page_le := Int.le_trans h.page_le hle
  given := by
    obtain ⟨before, f, after, rfl, hshown⟩ := h.given
    exact ⟨before, f, after ++ [record], by simp, hshown⟩

/-- An element has its height from its box and its page from the open one. -/
theorem ElementFields.of_block {f : ElementFields} {n : Nat} {path : Text} {page : Int}
    {box e : Block K} (h : f.block n path page box = .ok e) :
    e.file = some path ∧ e.page = page ∧ e.enclosing = some box ∧ e.height = box.height := by
  obtain ⟨line, -, h⟩ := Reading.bind_ok h
  obtain ⟨left, -, h⟩ := Reading.bind_ok h
  obtain ⟨bottom, -, h⟩ := Reading.bind_ok h
  obtain ⟨width, -, h⟩ := Reading.bind_ok h
  cases h
  exact ⟨rfl, rfl, rfl, rfl⟩

namespace Reading

/-- What holds of a reading behind the records. -/
structure IsCoherent (records : List Record) (r : Reading K) : Prop where
  entries : r.document.EveryEntry (Block.IsEntry records r.document.pageCount)
  files : ∀ n path, r.document.files.get? n = some path → IsGiven records n path
  page : ∀ p ∈ r.page, p.number ≤ r.document.pageCount
  boxes : ∀ p ∈ r.page, ∀ box ∈ p.stack, ∃ kind, box.head.role = .box kind

variable {records : List Record} {r r' : Reading K}

private theorem isCoherent_start (body : Text) : IsCoherent [] (start body : Reading K) :=
  ⟨nofun, nofun, nofun, nofun⟩

/-- A record that leaves index and file numbers alone, and opens at most a box. -/
private theorem IsCoherent.of_same {record : Record} (h : r.IsCoherent records)
    (hrecord : ∀ digits q, record ≠ .input digits q)
    (hindex : r'.document.index = r.document.index) (hfiles : r'.document.files = r.document.files)
    (hcount : r.document.pageCount ≤ r'.document.pageCount)
    (hpage : ∀ p ∈ r'.page, p.number ≤ r'.document.pageCount)
    (hboxes : ∀ p ∈ r'.page, ∀ box ∈ p.stack, ∃ kind, box.head.role = .box kind) :
    r'.IsCoherent (records ++ [record]) where
  entries := by
    rw [Document.EveryEntry, hindex]
    exact h.entries.imp fun _ _ _ _ he => he.concat hcount record
  files n path hn := by
    rw [hfiles] at hn
    exact (h.files n path hn).concat fun other q he => absurd he (hrecord other q)
  page := hpage
  boxes := hboxes

private theorem isCoherent_input (h : r.IsCoherent records) {digits path : Text}
    (hs : r.step (.input digits path) = .ok r') : r'.IsCoherent (records ++ [.input digits path]) := by
  obtain ⟨n, hn, hs⟩ := bind_ok hs
  cases hs
  refine ⟨h.entries.imp fun _ _ _ _ he => he.concat (Int.le_refl _) _, fun m q hm => ?_, h.page, h.boxes⟩
  rw [Keyed.put, Keyed.get?_alter] at hm
  split at hm
  · rename_i hmn
    cases hm
    rw [hmn, eq_of_natural hn]
    exact isGiven_concat records digits path
  · rename_i hmn
    refine (h.files m q hm).concat fun other q he hother => hmn ?_
    cases he
    rw [← hother, eq_of_natural hn]

private theorem isCoherent_closeBox (h : r.IsCoherent records) :
    r.closeBox.IsCoherent (records ++ [.closeBox]) := by
  rcases closeBox_cases r with ⟨-, hclose⟩ | ⟨p, box, hp, hs, hclose⟩ |
    ⟨p, box, outer, stack, hp, hs, hclose⟩ <;> rw [hclose]
  · exact h.of_same nofun rfl rfl (Int.le_refl _) h.page h.boxes
  · refine h.of_same nofun rfl rfl (Int.le_refl _) (fun q hq => ?_) fun q hq box hbox => ?_
    · cases hq
      exact h.page p hp
    · cases hq
      cases hbox
  · refine h.of_same nofun rfl rfl (Int.le_refl _) (fun q hq => ?_) fun q hq inner hinner => ?_
    · cases hq
      exact h.page p hp
    · cases hq
      have hold := h.boxes p hp
      rw [hs] at hold
      rcases List.mem_cons.mp hinner with rfl | hinner
      · exact hold outer (by simp)
      · exact hold inner (by simp [hinner])

private theorem isCoherent_openBox (h : r.IsCoherent records) {kind : BoxKind} {f : BoxFields}
    (hs : r.openBox kind f = .ok r') : r'.IsCoherent (records ++ [.openBox kind f]) := by
  rcases openBox_cases hs with ⟨-, -, rfl⟩ | ⟨p, head, hp, hpart, rfl⟩
  · exact h.of_same nofun rfl rfl (Int.le_refl _) h.page h.boxes
  · refine h.of_same nofun ?_ ?_ ?_ (fun q hq => ?_) fun q hq box hbox => ?_
    · split <;> rfl
    · split <;> rfl
    · split <;> exact Int.le_refl _
    · cases hq
      have hle := h.page p hp
      split <;> exact hle
    · cases hq
      rcases List.mem_cons.mp hbox with rfl | hbox
      · exact ⟨kind, (shows_part hpart).1⟩
      · exact h.boxes p hp box hbox

private theorem isCoherent_element (h : r.IsCoherent records) {f : ElementFields}
    (hs : r.addElement f = .ok r') : r'.IsCoherent (records ++ [.element f]) := by
  rcases addElement_cases hs with ⟨-, -, rfl⟩ |
    ⟨p, box, stack, path, e, hp, hstack, hpart, hfile, he, rfl⟩
  · exact h.of_same nofun rfl rfl (Int.le_refl _) h.page h.boxes
  obtain ⟨hfileOf, hpageOf, henclosing, hheight⟩ := ElementFields.of_block he
  obtain ⟨hrole, hnumber, -⟩ := shows_part hpart
  have hbox : ∃ kind, box.head.role = .box kind := h.boxes p hp box (by simp [hstack])
  have hle : p.number ≤ r.document.pageCount := h.page p hp
  have hentry : e.IsEntry (records ++ [.element f]) r.document.pageCount path e.line e.page := by
    refine ⟨hfileOf, rfl, rfl, ⟨_, hrole⟩, ?_, hpageOf ▸ hle, records, f, [], rfl, shows_part hpart, ?_⟩
    · obtain ⟨kind, hkind⟩ := hbox
      exact ⟨box.head, kind, henclosing, hkind, hheight⟩
    · rw [hnumber]
      exact h.files _ path hfile
  have hentries : (r.document.record path e).EveryEntry
      (Block.IsEntry (records ++ [.element f]) r.document.pageCount) :=
    (h.entries.imp fun _ _ _ _ hb => hb.concat (Int.le_refl _) _).record hentry
  have hfiles (n : Nat) (q : Text) (hn : r.document.files.get? n = some q) :
      IsGiven (records ++ [.element f]) n q := (h.files n q hn).concat nofun
  have hboxes : ∀ inner ∈ { box with elements := box.elements ++ [e] } :: stack,
      ∃ kind, inner.head.role = .box kind := by
    intro inner hinner
    rcases List.mem_cons.mp hinner with rfl | hinner
    · exact hbox
    · exact h.boxes p hp inner (by simp [hstack, hinner])
  split <;> exact ⟨hentries, hfiles, fun q hq => by cases hq; exact hle,
    fun q hq => by cases hq; exact hboxes⟩

/-- Every record keeps the index coherent. -/
theorem isCoherent_step (h : r.IsCoherent records) {record : Record} (hs : r.step record = .ok r') :
    r'.IsCoherent (records ++ [record]) := by
  cases record with
  | input digits path => exact isCoherent_input h hs
  | offset axis value =>
    obtain ⟨v, -, hs⟩ := bind_ok hs
    obtain ⟨x, y, rfl⟩ := eq_of_setOffset hs
    exact h.of_same nofun rfl rfl (Int.le_refl _) h.page h.boxes
  | openPage number =>
    obtain ⟨n, -, hs⟩ := bind_ok hs
    cases hs
    refine h.of_same nofun rfl rfl ?_ (fun p hp => ?_) fun p hp box hbox => ?_
    · simp only [openPage]
      split <;> omega
    · cases hp
      simp only [openPage]
      split <;> omega
    · cases hp
      cases hbox
  | closePage number =>
    rcases closePage_cases hs with ⟨-, rfl⟩ | ⟨p, -, rfl⟩
    · exact h.of_same nofun rfl rfl (Int.le_refl _) h.page h.boxes
    · exact h.of_same nofun rfl rfl (Int.le_refl _) nofun nofun
  | openBox kind f => exact isCoherent_openBox h hs
  | closeBox =>
    cases hs
    exact isCoherent_closeBox h
  | element f => exact isCoherent_element h hs

theorem isCoherent_run {rest : List Record} (h : r.IsCoherent records) (hr : run rest r = .ok r') :
    r'.IsCoherent (records ++ rest) := by
  induction rest generalizing r records with
  | nil =>
    cases hr
    rwa [List.append_nil]
  | cons record rest ih =>
    obtain ⟨r₁, hstep, hr⟩ := bind_ok hr
    have hrest := ih (isCoherent_step h hstep) hr
    rwa [List.append_assoc] at hrest

end Reading

theorem Document.everyEntry_of_ofText {body : Text} {d : Document K}
    (h : Document.ofText body = .ok d) :
    d.EveryEntry (Block.IsEntry (recordsOf body) d.pageCount) := by
  rw [Document.ofText_eq] at h
  cases hrun : Reading.run (recordsOf body) (Reading.start body : Reading K) with
  | error _ => rw [hrun] at h; cases h
  | ok r =>
    rw [hrun] at h
    cases h
    exact (Reading.isCoherent_run (Reading.isCoherent_start body) hrun).entries

/-- However malformed a file is, no list and no map of its index is empty, and every block in it is an
element indexed under its own file, line and page, as high as its box. The page is counted, and the
file is the one to which the last record before the element's gave its number. -/
theorem Document.index_coherent {body : Text} {d : Document K} (h : Document.ofText body = .ok d) :
    (∀ path lines, d.index.get? path = some lines → lines.keys ≠ [] ∧
        ∀ line pages, lines.get? line = some pages → pages.keys ≠ [] ∧
          ∀ page bucket, pages.get? page = some bucket → bucket ≠ []) ∧
      ∀ path line page b, d.IsIndexed path line page b →
        b.IsEntry (recordsOf body) d.pageCount path line page := by
  have hentries := Document.everyEntry_of_ofText h
  constructor
  · intro path lines hpath
    refine ⟨(hentries path lines hpath).1, fun line pages hline => ?_⟩
    have hpages := (hentries path lines hpath).2 line pages hline
    exact ⟨hpages.1, fun page bucket hpage => (hpages.2 page bucket hpage).1⟩
  · intro path line page b hb
    exact hentries.of_isIndexed hb

/-- A file whose number goes to another one between two elements of a page that is closed under a
number of its own, before its box is. -/
def redeclared : Text :=
  ("SyncTeX Version:1\nInput:1:a.tex\n\x7b2\n[1,1:0,0:0,5,0\nx1,2:5,5\nInput:1:b.tex\nx1,3:5,5\n" ++
    "\x7d7\n]\n").toList

theorem Document.index_coherent_redeclared : ∃ d : Document Float,
    Document.ofText redeclared = .ok d ∧
      ∃ b, d.IsIndexed "b.tex".toList 3 2 b ∧
        b.IsEntry (recordsOf redeclared) d.pageCount "b.tex".toList 3 2 := by
  have hfound : (Document.ofText redeclared : Except Stop (Document Float)).toOption.map
      (fun d => (((d.index.get? "b.tex".toList).bind (·.get? 3)).bind (·.get? 2)).map List.isEmpty) =
        some (some false) := by decide +kernel
  cases h : (Document.ofText redeclared : Except Stop (Document Float)) with
  | error _ => rw [h] at hfound; cases hfound
  | ok d =>
    rw [h] at hfound
    obtain ⟨bucket, hbucket, hfull⟩ := Option.map_eq_some_iff.mp (Option.some.inj hfound)
    obtain ⟨pages, hpages, hpage⟩ := Option.bind_eq_some_iff.mp hbucket
    obtain ⟨lines, hpath, hline⟩ := Option.bind_eq_some_iff.mp hpages
    obtain ⟨b, hb⟩ := List.exists_mem_of_ne_nil bucket (List.isEmpty_eq_false_iff.mp hfull)
    have hindexed : d.IsIndexed "b.tex".toList 3 2 b :=
      ⟨lines, pages, bucket, hpath, hline, hpage, hb⟩
    exact ⟨d, rfl, b, hindexed, (Document.index_coherent h).2 _ _ _ _ hindexed⟩

end TypesetTrace.Sync
