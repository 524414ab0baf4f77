import TypesetTrace.Proofs.Sync.Coherence

/-! What a file records on one page. The elements that the index has for a page come from the records on
that page alone, given the files that their numbers stand for. The invariant of a run is that the boxes
which these records leave open are those of the page, as far as an element takes anything from them. -/
namespace TypesetTrace.Sync
open Text
variable {K : Type}

/-- The indexed elements of a line of a file on a page. -/
def Document.bucket (d : Document K) (path : Text) (line page : Int) : List (Block K) :=
  (((d.index.get? path).bind (·.get? line)).bind (·.get? page)).getD []

private theorem get?_getD_empty {ι β : Type} [DecidableEq ι] (m : Option (Keyed ι β)) (k : ι) :
    (m.getD .empty).get? k = m.bind (·.get? k) := by
  cases m <;> rfl

/-- An element comes to the end of the bucket that it belongs to. -/
theorem Document.bucket_record (d : Document K) (path : Text) (e : Block K) (path' : Text)
    (line page : Int) : (d.record path e).bucket path' line page =
      d.bucket path' line page ++ if path' = path ∧ line = e.line ∧ page = e.page then [e] else [] := by
  simp only [bucket, record, Keyed.get?_alter]
  by_cases hpath : path' = path
  · by_cases hline : line = e.line
    · by_cases hpage : page = e.page
      · simp [hpath, hline, hpage, Keyed.get?_alter, get?_getD_empty]
      · simp [hpath, hline, hpage, Keyed.get?_alter, get?_getD_empty]
    · simp [hpath, hline, Keyed.get?_alter, get?_getD_empty]
  · simp [hpath]

/-- The block without what lies around it. -/
def Block.alone (b : Block K) : Block K := { b with enclosing := none }

namespace Record

def nextFiles (files : Keyed Nat Text) : Record → Keyed Nat Text
  | .input number path => files.put (digitsValue number) path
  | _ => files

def nextPage (current : Option Int) : Record → Option Int
  | .openPage number => some (digitsValue number)
  | .closePage _ => none
  | _ => current

/-- The record opens the page, or stands on it and opens, closes or fills a box. -/
def isOn (page : Int) (current : Option Int) : Record → Bool
  | .openPage number => page = digitsValue number
  | .openBox .. | .closeBox | .element _ => current = some page
  | .input .. | .offset .. | .closePage _ => false

def file? (files : Keyed Nat Text) : Record → Option Text
  | .element f => files.get? (digitsValue f.file)
  | _ => none

end Record

/-- The records on a page, with the files that their elements come from. -/
def recordsOn (page : Int) : List Record → Keyed Nat Text → Option Int → List (Record × Option Text)
  | [], _, _ => []
  | record :: rest, files, current =>
    (if record.isOn page current then [(record, record.file? files)] else []) ++
      recordsOn page rest (record.nextFiles files) (record.nextPage current)

namespace Reading
variable {r r' : Reading K} {page : Int} {stack : List (Block K)}

/-- The boxes that are open on the page have the heights of those in the stack. -/
def Follows (page : Int) (stack : List (Block K)) (r : Reading K) : Prop :=
  ∀ p ∈ r.page, p.number = page → p.stack.map (·.head.height) = stack.map (·.height)

private theorem follows_of_ne (h : r.page.map (·.number) ≠ some page) : r.Follows page stack := by
  intro p hp hpage
  rw [hp, Option.map_some, hpage] at h
  exact absurd rfl h

/-- From one reading to the next the page gains the elements, and then has the stack. -/
structure Adds (page : Int) (stack es : List (Block K)) (r r' : Reading K) : Prop where
  follows : r'.Follows page stack
  bucket : ∀ path line, (r'.document.bucket path line page).map Block.alone =
    (r.document.bucket path line page).map Block.alone ++
      es.filter fun e => e.file = some path ∧ e.line = line

private theorem Adds.of_index (hfollows : r'.Follows page stack)
    (hindex : r'.document.index = r.document.index) : Adds page stack [] r r' where
  follows := hfollows
  bucket path line := by rw [Document.bucket, Document.bucket, hindex]; simp

private theorem adds_closeBox (hf : r.Follows page stack) : Adds page stack.tail [] r r.closeBox := by
  rcases closeBox_cases r with ⟨hempty, hclose⟩ | ⟨p, box, hp, hs, hclose⟩ |
    ⟨p, box, outer, rest, hp, hs, hclose⟩ <;> rw [hclose]
  · refine .of_index (fun p hp hpage => ?_) rfl
    rw [List.map_tail, ← hf p hp hpage, hempty p hp]
    rfl
  · refine .of_index (fun q hq hpage => ?_) rfl
    cases hq
    rw [List.map_tail, ← hf p hp hpage, hs]
    rfl
  · refine .of_index (fun q hq hpage => ?_) rfl
    cases hq
    rw [List.map_tail, ← hf p hp hpage, hs]
    rfl

private theorem bucket_element {d : Document K} {path : Text} {e : Block K} (he : e.file = some path)
    {symbol : Char} (path' : Text) (line page : Int) :
    (if symbol = 'h' then (d.record path e).addHorizontal e else d.record path e).bucket path' line page =
      d.bucket path' line page ++
        if page = e.page then [e].filter fun e => e.file = some path' ∧ e.line = line else [] := by
  have hsame : (path' = path ∧ line = e.line ∧ page = e.page) ↔
      page = e.page ∧ e.file = some path' ∧ e.line = line := by
    rw [he, Option.some_inj]
    constructor
    · rintro ⟨rfl, rfl, rfl⟩
      exact ⟨rfl, rfl, rfl⟩
    · rintro ⟨rfl, rfl, rfl⟩
      exact ⟨rfl, rfl, rfl⟩
  have hbucket : (if symbol = 'h' then (d.record path e).addHorizontal e else d.record path e).bucket
      path' line page = (d.record path e).bucket path' line page := by
    split <;> rfl
  rw [hbucket, d.bucket_record]
  simp only [hsame, List.filter_singleton]
  by_cases hpage : page = e.page <;> simp [hpage]

end Reading

variable [Scalar K]

def stackAfter (page : Int) (stack : List (Block K)) : Record → List (Block K)
  | .openPage _ => []
  | .openBox kind f => (f.block kind .blank { number := page }).toOption.toList ++ stack
  | .closeBox => stack.tail
  | _ => stack

def elementIn (page : Int) (stack : List (Block K)) (file : Option Text) : Record → Option (Block K)
  | .element f => do
    let path ← file
    let box ← stack.head?
    (f.block (digitsValue f.file) path page box).toOption.map Block.alone
  | _ => none

def elementsOn (page : Int) : List (Record × Option Text) → List (Block K) → List (Block K)
  | [], _ => []
  | (record, file) :: rest, stack =>
    (elementIn page stack file record).toList ++ elementsOn page rest (stackAfter page stack record)

/-- What an element takes from the box around it, apart from the box itself, is the height. -/
private theorem alone_of_height {f : ElementFields} {n : Nat} {path : Text} {page : Int}
    {box box' e : Block K} (hheight : box.height = box'.height) (h : f.block n path page box = .ok e) :
    ((f.block n path page box').toOption.map Block.alone) = some e.alone := by
  obtain ⟨line, hline, h⟩ := Reading.bind_ok h
  obtain ⟨left, hleft, h⟩ := Reading.bind_ok h
  obtain ⟨bottom, hbottom, h⟩ := Reading.bind_ok h
  obtain ⟨width, hwidth, h⟩ := Reading.bind_ok h
  cases h
  rw [ElementFields.block, hline, hleft, hbottom, hwidth, hheight]
  rfl

private theorem height_of_block {f : BoxFields} {kind : BoxKind} {d : Document K} {p : OpenPage K}
    {head : Block K} (d' : Document K) (p' : OpenPage K) (h : f.block kind d p = .ok head) :
    ∃ head', f.block kind d' p' = .ok head' ∧ head'.height = head.height := by
  obtain ⟨number, hnumber, h⟩ := Reading.bind_ok h
  obtain ⟨line, hline, h⟩ := Reading.bind_ok h
  obtain ⟨left, hleft, h⟩ := Reading.bind_ok h
  obtain ⟨bottom, hbottom, h⟩ := Reading.bind_ok h
  obtain ⟨width, hwidth, h⟩ := Reading.bind_ok h
  obtain ⟨height, hheight, h⟩ := Reading.bind_ok h
  obtain ⟨depth, hdepth, h⟩ := Reading.bind_ok h
  cases h
  rw [BoxFields.block, hnumber, hline, hleft, hbottom, hwidth, hheight, hdepth]
  exact ⟨_, rfl, rfl⟩

namespace Reading
variable {r r' : Reading K} {page : Int} {stack : List (Block K)} {record : Record}

/-- The file numbers and the open page after a record depend on those before it alone. -/
theorem files_and_page_step (h : r.step record = .ok r') :
    r'.document.files = record.nextFiles r.document.files ∧
      r'.page.map (·.number) = record.nextPage (r.page.map (·.number)) := by
  cases record with
  | input number path =>
    obtain ⟨n, hn, h⟩ := bind_ok h
    cases h
    rw [Record.nextFiles, ← eq_of_natural hn]
    exact ⟨rfl, rfl⟩
  | offset axis value =>
    obtain ⟨v, -, h⟩ := bind_ok h
    obtain ⟨x, y, rfl⟩ := eq_of_setOffset h
    exact ⟨rfl, rfl⟩
  | openPage number =>
    obtain ⟨n, hn, h⟩ := bind_ok h
    cases h
    rw [Record.nextPage, ← eq_of_natural hn]
    exact ⟨rfl, rfl⟩
  | closePage number =>
    rcases closePage_cases h with ⟨hp, rfl⟩ | ⟨p, -, rfl⟩
    · rw [hp]
      exact ⟨rfl, rfl⟩
    · exact ⟨rfl, rfl⟩
  | openBox kind f =>
    rcases openBox_cases h with ⟨-, -, rfl⟩ | ⟨p, head, hp, -, rfl⟩
    · exact ⟨rfl, rfl⟩
    · rw [hp]
      exact ⟨by dsimp only; split <;> rfl, rfl⟩
  | closeBox =>
    cases h
    rcases closeBox_cases r with ⟨-, hclose⟩ | ⟨p, box, hp, -, hclose⟩ | ⟨p, box, outer, rest, hp, -, hclose⟩ <;>
      rw [hclose]
    · exact ⟨rfl, rfl⟩
    · rw [hp]
      exact ⟨rfl, rfl⟩
    · rw [hp]
      exact ⟨rfl, rfl⟩
  | element f =>
    rcases addElement_cases h with ⟨-, -, rfl⟩ | ⟨p, box, rest, path, e, hp, -, -, -, -, rfl⟩
    · exact ⟨rfl, rfl⟩
    · rw [hp]
      exact ⟨by dsimp only; split <;> rfl, rfl⟩

private theorem adds_openBox (hf : r.Follows page stack) {kind : BoxKind} {f : BoxFields}
    (h : r.openBox kind f = .ok r') : Adds page (stackAfter page stack (.openBox kind f)) [] r r' := by
  rcases openBox_cases h with ⟨hp, -, rfl⟩ | ⟨p, head, hp, hpart, rfl⟩
  · exact .of_index (by rw [Follows, hp]; exact nofun) rfl
  · have hhead : f.block kind r.document p = .ok head := by
      rw [part?, hp] at hpart
      cases hblock : f.block kind r.document p with
      | error _ => simp [hblock, Except.toOption] at hpart
      | ok b => simpa [hblock, Except.toOption] using hpart
    refine .of_index (fun q hq hpage => ?_) (by dsimp only; split <;> rfl)
    cases hq
    obtain ⟨head', hblock, hheight⟩ := height_of_block .blank { number := page } hhead
    rw [stackAfter, hblock]
    simp [hheight, hf p hp hpage, Except.toOption]

private theorem adds_element (hf : r.Follows page stack) {f : ElementFields}
    (h : r.addElement f = .ok r') (hon : r.page.map (·.number) = some page) :
    Adds page stack (elementIn page stack (r.document.files.get? (digitsValue f.file)) (.element f)).toList
      r r' := by
  obtain ⟨p, hp, hpage⟩ := Option.map_eq_some_iff.mp hon
  have hstack := hf p hp hpage
  rcases addElement_cases h with ⟨hunknown, -, rfl⟩ | ⟨q, box, rest, path, e, hq, hs, -, hfile, he, rfl⟩
  · have hnone : elementIn page stack (r'.document.files.get? (digitsValue f.file)) (.element f) = none := by
      cases stack with
      | nil => cases r'.document.files.get? (digitsValue f.file) <;> rfl
      | cons b stack =>
        rw [hunknown p hp (by rintro hs; rw [hs] at hstack; cases hstack)]
        rfl
    rw [hnone]
    exact .of_index hf rfl
  · rw [hp] at hq
    cases hq
    obtain ⟨hpath, hnumber, -⟩ := ElementFields.of_block he
    rw [hs] at hstack
    cases stack with
    | nil => cases hstack
    | cons b stack =>
      obtain ⟨hheight, hrest⟩ := List.cons.inj hstack
      have halone := alone_of_height hheight (hpage ▸ he)
      have hin : elementIn page (b :: stack) (r.document.files.get? (digitsValue f.file)) (.element f) =
          some e.alone := by
        rw [hfile]
        exact halone
      rw [hin]
      refine ⟨fun q hq _ => ?_, fun path' line => ?_⟩
      · cases hq
        exact hstack
      · rw [bucket_element hpath, if_pos (hnumber.trans hpage).symm, List.map_append]
        congr 1
        simp only [List.filter_singleton, Option.toList_some]
        show _ = bif decide (e.file = some path' ∧ e.line = line) then [e.alone] else []
        cases decide (e.file = some path' ∧ e.line = line) <;> rfl

private theorem adds_element_elsewhere {f : ElementFields} (h : r.addElement f = .ok r')
    (hoff : r'.page.map (·.number) ≠ some page) : Adds page stack [] r r' := by
  refine ⟨follows_of_ne hoff, fun path line => ?_⟩
  rcases addElement_cases h with ⟨-, -, rfl⟩ | ⟨p, box, rest, path, e, -, -, -, -, he, rfl⟩
  · simp
  · obtain ⟨hpath, hnumber, -⟩ := ElementFields.of_block he
    have hne : page ≠ e.page := fun hpage => hoff (by rw [hpage, hnumber]; rfl)
    rw [bucket_element hpath, if_neg hne]
    simp

/-- A record on the page adds what it comes to, and any other record adds nothing. -/
private theorem adds_step (hf : r.Follows page stack) (h : r.step record = .ok r') :
    if record.isOn page (r.page.map (·.number)) then
      Adds page (stackAfter page stack record)
        (elementIn page stack (record.file? r.document.files) record).toList r r'
    else Adds page stack [] r r' := by
  have hpage := (files_and_page_step h).2
  split
  · rename_i hon
    cases record with
    | openPage number =>
      obtain ⟨n, -, h⟩ := bind_ok h
      cases h
      exact .of_index (fun p hp _ => by cases hp; rfl) rfl
    | openBox kind f => exact adds_openBox hf h
    | closeBox =>
      cases h
      exact adds_closeBox hf
    | element f => exact adds_element hf h (of_decide_eq_true hon)
    | input | offset | closePage => cases hon
  · rename_i hoff
    cases record with
    | input number path =>
      obtain ⟨n, -, h⟩ := bind_ok h
      cases h
      exact .of_index hf rfl
    | offset axis value =>
      obtain ⟨v, -, h⟩ := bind_ok h
      obtain ⟨x, y, rfl⟩ := eq_of_setOffset h
      exact .of_index hf rfl
    | closePage number =>
      rcases closePage_cases h with ⟨-, rfl⟩ | ⟨p, -, rfl⟩
      · exact .of_index hf rfl
      · exact .of_index nofun rfl
    | openPage number =>
      have hother : r'.page.map (·.number) ≠ some page := by
        rw [hpage]
        exact fun he => hoff (decide_eq_true (Option.some.inj he).symm)
      obtain ⟨n, -, h⟩ := bind_ok h
      cases h
      exact .of_index (follows_of_ne hother) rfl
    | openBox kind f =>
      have hother : r'.page.map (·.number) ≠ some page := hpage ▸ fun he => hoff (decide_eq_true he)
      exact ⟨follows_of_ne hother, (adds_openBox hf h).bucket⟩
    | closeBox =>
      have hother : r'.page.map (·.number) ≠ some page := hpage ▸ fun he => hoff (decide_eq_true he)
      cases h
      exact ⟨follows_of_ne hother, (adds_closeBox hf).bucket⟩
    | element f => exact adds_element_elsewhere h (hpage ▸ fun he => hoff (decide_eq_true he))

/-- Over a whole run a page gains what its own records come to. -/
theorem adds_run {records : List Record} (hf : r.Follows page stack) (h : run records r = .ok r')
    (path : Text) (line : Int) :
    (r'.document.bucket path line page).map Block.alone =
      (r.document.bucket path line page).map Block.alone ++
        (elementsOn page (recordsOn page records r.document.files (r.page.map (·.number))) stack).filter
          fun e => e.file = some path ∧ e.line = line := by
  induction records generalizing r stack with
  | nil =>
    cases h
    simp [recordsOn, elementsOn]
  | cons record rest ih =>
    obtain ⟨r₁, hstep, h⟩ := bind_ok h
    obtain ⟨hfiles, hpage⟩ := files_and_page_step hstep
    have hadds := adds_step hf hstep
    rw [recordsOn, ← hfiles, ← hpage]
    split at hadds
    · rename_i hon
      rw [if_pos hon, List.singleton_append, elementsOn, List.filter_append, ← List.append_assoc,
        ← hadds.bucket]
      exact ih hadds.follows h
    · rename_i hoff
      have hbucket := hadds.bucket path line
      rw [List.filter_nil, List.append_nil] at hbucket
      rw [if_neg hoff, List.nil_append, ← hbucket]
      exact ih hadds.follows h

end Reading

theorem Document.bucket_of_ofText {body : Text} {d : Document K} (h : Document.ofText body = .ok d)
    (path : Text) (line page : Int) : (d.bucket path line page).map Block.alone =
      (elementsOn page (recordsOn page (recordsOf body) .empty none) []).filter
        fun e => e.file = some path ∧ e.line = line := by
  rw [Document.ofText_eq] at h
  cases hrun : Reading.run (recordsOf body) (Reading.start body : Reading K) with
  | error _ => rw [hrun] at h; cases h
  | ok r =>
    rw [hrun] at h
    cases h
    have hstart : Reading.Follows page [] (Reading.start body : Reading K) := nofun
    exact Reading.adds_run hstart hrun path line

end TypesetTrace.Sync
