import TypesetTrace.Proofs.Sync.Outline

/-! Every printed line is read as the record that it was printed for: no kind of record that is
tried earlier can be found on it. -/
namespace TypesetTrace.Sync
open Text Record

namespace Record
variable {α : Type} {read : Text → Option (α × Text)} {p : Char → Bool}

theorem find?_of_read {s t : Text} {a : α} (h : read s = some (a, t)) :
    find? read s = some a := by
  cases s <;> simp [find?, anywhere, shortest, h]

theorem find?_nil (h : read [] = none) : find? read [] = none := by
  simp [find?, anywhere, shortest, h]

theorem find?_cons (c : Char) (s : Text) (h : read (c :: s) = none) :
    find? read (c :: s) = find? read s := by
  simp only [find?, anywhere, shortest, h, if_true, Option.map_map]
  rfl

/-- A reader that needs another character at the front finds nothing among characters in `p`. -/
theorem find?_eq_none {s : Text} (h0 : read [] = none)
    (hp : ∀ c t, p c → read (c :: t) = none) (hs : ∀ c ∈ s, p c) : find? read s = none := by
  induction s with
  | nil => exact find?_nil h0
  | cons c s ih =>
    rw [find?_cons c s (hp c s (hs c (by simp)))]
    exact ih fun d hd => hs d (by simp [hd])

end Record

def BoxOutline.fields (b : BoxOutline) : BoxFields :=
  ⟨ofNat b.file, ofNat b.line, ofInt b.left, ofInt b.bottom, ofInt b.width, ofInt b.height,
    ofInt b.depth⟩

def ElementOutline.fields (e : ElementOutline) : ElementFields :=
  ⟨e.symbol, ofNat e.file, ofNat e.line, ofInt e.left, ofInt e.bottom, e.width.map ofInt⟩

/-- The records of what stands on a page or in a box. -/
def Forest.records : Forest → List Record
  | .nil => []
  | .element e rest => .element e.fields :: rest.records
  | .box b content rest => .openBox b.kind b.fields :: (content.records ++ .closeBox :: rest.records)

private theorem corner?_cornerText (file line : Nat) (left bottom : Int) {r : Text}
    (hr : ∀ c ∈ r.head?, isAsciiDigit c = false) :
    corner? (cornerText file line left bottom ++ r) =
      some ((ofNat file, ofNat line, ofInt left, ofInt bottom), r) := by
  have hfile := run?_ofNat file (r := ',' :: (ofNat line ++ ':' :: (ofInt left ++ ',' ::
    (ofInt bottom ++ r)))) (by simp; decide)
  have hline := run?_ofNat line (r := ':' :: (ofInt left ++ ',' :: (ofInt bottom ++ r)))
    (by simp; decide)
  have hleft := signedRun?_ofInt left (r := ',' :: (ofInt bottom ++ r)) (by simp; decide)
  have hbottom := signedRun?_ofInt bottom hr
  simp [corner?, cornerText, hfile, hline, hleft, hbottom, after?]

private theorem boxAt?_text (b : BoxOutline) : boxAt? b.kind b.text = some (b.fields, []) := by
  have hcorner := corner?_cornerText b.file b.line b.left b.bottom (r := ':' :: (ofInt b.width ++
    ',' :: (ofInt b.height ++ ',' :: ofInt b.depth))) (by simp; decide)
  have hwidth := signedRun?_ofInt b.width (r := ',' :: (ofInt b.height ++ ',' :: ofInt b.depth))
    (by simp; decide)
  have hheight := signedRun?_ofInt b.height (r := ',' :: ofInt b.depth) (by simp; decide)
  have hdepth := signedRun?_ofInt b.depth (r := []) (by simp)
  rw [List.append_nil] at hdepth
  simp [boxAt?, BoxOutline.text, BoxOutline.fields, hcorner, hwidth, hheight, hdepth, after?]

private theorem elementWidth?_widthText (e : ElementOutline) :
    elementWidth? e.widthText = e.width.map fun width => (ofInt width, []) := by
  cases he : e.width with
  | none => simp [ElementOutline.widthText, he, elementWidth?, after?, signedRun?]
  | some width =>
    have h := signedRun?_ofInt width (r := []) (by simp)
    rw [List.append_nil] at h
    simp [ElementOutline.widthText, he, elementWidth?, after?, h]

private theorem widthText_head (e : ElementOutline) :
    ∀ c ∈ e.widthText.head?, isAsciiDigit c = false := by
  cases he : e.width with
  | none => simp [ElementOutline.widthText, he]
  | some width => simp [ElementOutline.widthText, he]; decide

private theorem elementAt?_text (e : ElementOutline) (h : e.symbol ≠ '\n') :
    elementAt? e.text = some (e.fields, []) := by
  have hc : isInLine e.symbol := by simpa [isInLine] using h
  have hcorner := corner?_cornerText e.file e.line e.left e.bottom (widthText_head e)
  have hwidth := elementWidth?_widthText e
  cases he : e.width with
  | none =>
    have ht : e.widthText = [] := by rw [ElementOutline.widthText, he]
    rw [ht, List.append_nil] at hcorner
    rw [ht, he] at hwidth
    simp [elementAt?, ElementOutline.text, ElementOutline.fields, hc, hcorner, hwidth, he, ht]
  | some width =>
    rw [he] at hwidth
    simp [elementAt?, ElementOutline.text, ElementOutline.fields, hc, hcorner, hwidth, he]

/-- The characters that numbers and the marks between them are made of. -/
def isFieldChar (c : Char) : Bool := isAsciiDigit c || c == ',' || c == ':' || c == '-'

private theorem field_of_mem_ofNat {n : Nat} {c : Char} (h : c ∈ ofNat n) : isFieldChar c := by
  simp [isFieldChar, isAsciiDigit_of_mem_ofNat h]

private theorem field_of_mem_ofInt {i : Int} {c : Char} (h : c ∈ ofInt i) : isFieldChar c := by
  cases i with
  | ofNat n => exact field_of_mem_ofNat h
  | negSucc n =>
    rcases List.mem_cons.mp h with rfl | h
    · decide
    · exact field_of_mem_ofNat h

private theorem field_of_mem_cornerText {file line : Nat} {left bottom : Int} {c : Char}
    (h : c ∈ cornerText file line left bottom) : isFieldChar c := by
  simp only [cornerText, List.mem_append, List.mem_cons] at h
  rcases h with h | rfl | h | rfl | h | rfl | h
  · exact field_of_mem_ofNat h
  · decide
  · exact field_of_mem_ofNat h
  · decide
  · exact field_of_mem_ofInt h
  · decide
  · exact field_of_mem_ofInt h

private theorem field_of_mem_widthText {e : ElementOutline} {c : Char} (h : c ∈ e.widthText) :
    isFieldChar c := by
  cases he : e.width with
  | none => simp [ElementOutline.widthText, he] at h
  | some width =>
    simp only [ElementOutline.widthText, he, List.mem_cons] at h
    rcases h with rfl | h
    · decide
    · exact field_of_mem_ofInt h

theorem after?_of_head_ne {a c : Char} (w s : Text) (h : a ≠ c) :
    after? (a :: w) (c :: s) = none := if_neg h

/-- A reader that starts with a mark of its own reads nothing from a field. -/
private theorem input_field {c : Char} (t : Text) (h : isFieldChar c) : inputAt? (c :: t) = none := by
  have hc : 'I' ≠ c := by rintro rfl; exact absurd h (by decide)
  have ha : after? "Input:".toList (c :: t) = none := after?_of_head_ne _ _ hc
  rw [inputAt?, ha]
  rfl

private theorem not_axis_of_field {c : Char} (h : isFieldChar c) : isAxis c = false := by
  have hle : c.toNat ≤ 58 := by
    simp only [isFieldChar, isAsciiDigit, Bool.or_eq_true, Bool.and_eq_true, decide_eq_true_eq,
      beq_iff_eq] at h
    rcases h with ((⟨-, h⟩ | rfl) | rfl) | rfl
    · exact Nat.le_trans h (by decide)
    all_goals decide
  simp only [isAxis, Char.le_def, UInt32.le_iff_toNat_le, Bool.or_eq_false_iff,
    Bool.and_eq_false_iff, decide_eq_false_iff_not, Nat.not_le]
  exact ⟨.inl (Nat.lt_of_le_of_lt hle (by decide)), .inl (Nat.lt_of_le_of_lt hle (by decide))⟩

private theorem offset_field {c : Char} (t : Text) (h : isFieldChar c) : offsetAt? (c :: t) = none := by
  simp [offsetAt?, not_axis_of_field h]

private theorem page_field {brace c : Char} (hb : isFieldChar brace = false) (t : Text)
    (h : isFieldChar c) : pageAt? brace (c :: t) = none := by
  have hc : brace ≠ c := by rintro rfl; simp [h] at hb
  simp [pageAt?, after?_of_head_ne _ _ hc]

private theorem box_field (kind : BoxKind) {c : Char} (t : Text) (h : isFieldChar c) :
    boxAt? kind (c :: t) = none := by
  have hc : kind.bracket ≠ c := by rintro rfl; cases kind <;> exact absurd h (by decide)
  simp [boxAt?, after?_of_head_ne _ _ hc]

private theorem close_field (kind : BoxKind) {c : Char} (t : Text) (h : isFieldChar c) :
    closeAt? kind (c :: t) = none := by
  have hc : kind.closingBracket ≠ c := by rintro rfl; cases kind <;> exact absurd h (by decide)
  simp [closeAt?, after?_of_head_ne _ _ hc]

theorem endsLine_cons {a : Char} (s : Text) (h : a ≠ '\n') : endsLine (a :: s) = false := by
  cases s <;> simp [endsLine, h]

/-! Behind any first character, numbers keep the earlier kinds of record away. -/
section
variable (c : Char) (file line : Nat) (left bottom : Int) (r : Text)

private theorem exists_digit_front :
    ∃ d t, cornerText file line left bottom ++ r = d :: t ∧ isAsciiDigit d := by
  obtain ⟨d, t, he, hd, -⟩ := exists_ofNat_eq_cons file
  exact ⟨d, _, by rw [cornerText, he]; rfl, hd⟩

private theorem input_front : inputAt? (c :: (cornerText file line left bottom ++ r)) = none := by
  obtain ⟨d, t, he, hd⟩ := exists_digit_front file line left bottom r
  have hn : 'n' ≠ d := by rintro rfl; exact absurd hd (by decide)
  have ha : after? "Input:".toList (c :: d :: t) = none := by
    show (if 'I' = c then after? ('n' :: "put:".toList) (d :: t) else none) = none
    rw [after?_of_head_ne _ _ hn, ite_self]
  rw [he, inputAt?, ha]
  rfl

private theorem offset_front : offsetAt? (c :: (cornerText file line left bottom ++ r)) = none := by
  obtain ⟨d, t, he, hd⟩ := exists_digit_front file line left bottom r
  have hn : ' ' ≠ d := by rintro rfl; exact absurd hd (by decide)
  have ha : after? " Offset:".toList (d :: t) = none := after?_of_head_ne _ _ hn
  rw [he, offsetAt?, ha]
  exact ite_self _

private theorem page_front (brace : Char) :
    pageAt? brace (c :: (cornerText file line left bottom ++ r)) = none := by
  have hrun := run?_ofNat file (r := ',' :: (ofNat line ++ ':' :: (ofInt left ++ ',' ::
    (ofInt bottom ++ r)))) (by simp; decide)
  by_cases hc : brace = c
  · simp [pageAt?, after?, hc, cornerText, hrun, endsLine_cons]
  · rw [pageAt?, after?_of_head_ne _ _ hc]
    rfl

private theorem close_front (kind : BoxKind) :
    closeAt? kind (c :: (cornerText file line left bottom ++ r)) = none := by
  obtain ⟨d, t, he, hd⟩ := exists_digit_front file line left bottom r
  have hn : d ≠ '\n' := by rintro rfl; exact absurd hd (by decide)
  by_cases hc : kind.closingBracket = c
  · simp [closeAt?, after?, hc, he, endsLine_cons, hn]
  · rw [closeAt?, after?_of_head_ne _ _ hc]
    rfl

end

private theorem box_front (kind : BoxKind) (e : ElementOutline) : boxAt? kind e.text = none := by
  by_cases hc : kind.bracket = e.symbol
  · have hcorner := corner?_cornerText e.file e.line e.left e.bottom (widthText_head e)
    cases he : e.width with
    | none =>
      have ht : e.widthText = [] := by rw [ElementOutline.widthText, he]
      rw [ht, List.append_nil] at hcorner
      simp [boxAt?, ElementOutline.text, hc, hcorner, after?, ht]
    | some width =>
      have ht : e.widthText = ':' :: ofInt width := by rw [ElementOutline.widthText, he]
      have hwidth := signedRun?_ofInt width (r := []) (by simp)
      rw [List.append_nil] at hwidth
      rw [ht] at hcorner
      simp [boxAt?, ElementOutline.text, hc, hcorner, after?, ht, hwidth]
  · rw [boxAt?, ElementOutline.text, after?_of_head_ne _ _ hc]
    rfl

/-- A kind of record that is neither at the front of a line nor starts in a field is not on it. -/
private theorem find?_none {α : Type} {read : Text → Option (α × Text)} {c : Char} {t : Text}
    (h0 : read [] = none) (hf : ∀ d u, isFieldChar d → read (d :: u) = none)
    (ht : ∀ d ∈ t, isFieldChar d) (h : read (c :: t) = none) : find? read (c :: t) = none := by
  rw [find?_cons c t h]
  exact find?_eq_none h0 hf ht

/-- Only an opening box or an element can be on a line that starts with any character and the
numbers of a corner. -/
private theorem ofLine?_corner (c : Char) (file line : Nat) (left bottom : Int) {r : Text}
    (hr : ∀ d ∈ r, isFieldChar d) {s : Text} (hs : s = c :: (cornerText file line left bottom ++ r)) :
    Record.ofLine? s =
      match find? (boxAt? .vertical) s with
      | some fields => some (.openBox .vertical fields)
      | none => match find? (boxAt? .horizontal) s with
        | some fields => some (.openBox .horizontal fields)
        | none => (find? elementAt? s).map .element := by
  have ht : ∀ d ∈ cornerText file line left bottom ++ r, isFieldChar d := fun d hd =>
    (List.mem_append.mp hd).elim field_of_mem_cornerText (hr d)
  have hinput := find?_none rfl (fun _ => input_field) ht (input_front c _ _ _ _ _)
  have hoffset := find?_none rfl (fun _ => offset_field) ht (offset_front c _ _ _ _ _)
  have hpage (brace : Char) (hb : isFieldChar brace = false) :=
    find?_none rfl (fun _ => page_field hb) ht (page_front c _ _ _ _ _ brace)
  have hclose (kind : BoxKind) :=
    find?_none rfl (fun _ => close_field kind) ht (close_front c _ _ _ _ _ kind)
  rw [← hs] at hinput hoffset hpage hclose
  rw [Record.ofLine?, hinput, hoffset, hpage _ (by decide), hpage _ (by decide), hclose, hclose]
  rfl

private theorem ofLine?_element (e : ElementOutline) (h : e.symbol ≠ '\n') :
    Record.ofLine? e.text = some (.element e.fields) := by
  have ht : ∀ d ∈ cornerText e.file e.line e.left e.bottom ++ e.widthText, isFieldChar d := fun d hd =>
    (List.mem_append.mp hd).elim field_of_mem_cornerText field_of_mem_widthText
  have hbox (kind : BoxKind) : find? (boxAt? kind) e.text = none :=
    find?_none rfl (fun _ => box_field kind) ht (box_front kind e)
  rw [ofLine?_corner (s := e.text) e.symbol _ _ _ _ (fun _ => field_of_mem_widthText) rfl, hbox, hbox,
    find?_of_read (elementAt?_text e h)]
  rfl

private theorem field_of_mem_extent {width height depth : Int} {d : Char}
    (h : d ∈ ':' :: (ofInt width ++ ',' :: (ofInt height ++ ',' :: ofInt depth))) : isFieldChar d := by
  simp only [List.mem_append, List.mem_cons] at h
  rcases h with rfl | h | rfl | h | rfl | h
  · decide
  · exact field_of_mem_ofInt h
  · decide
  · exact field_of_mem_ofInt h
  · decide
  · exact field_of_mem_ofInt h

private theorem ofLine?_box (b : BoxOutline) :
    Record.ofLine? b.text = some (.openBox b.kind b.fields) := by
  have hread := find?_of_read (boxAt?_text b)
  rw [ofLine?_corner (s := b.text) b.kind.bracket _ _ _ _ (fun _ => field_of_mem_extent) rfl]
  cases hk : b.kind with
  | vertical => rw [hk] at hread; rw [hread]
  | horizontal =>
    have ht : ∀ d ∈ b.text.tail, isFieldChar d := fun d hd =>
      (List.mem_append.mp hd).elim field_of_mem_cornerText field_of_mem_extent
    have hvertical : find? (boxAt? .vertical) b.text = none := by
      refine find?_none rfl (fun _ => box_field .vertical) ht ?_
      rw [boxAt?, hk]
      rfl
    rw [hk] at hread
    rw [hvertical, hread]

private theorem pageAt?_ofNat (brace : Char) (n : Nat) :
    pageAt? brace (brace :: ofNat n) = some (ofNat n, []) := by
  have hrun := run?_ofNat n (r := []) (by simp)
  rw [List.append_nil] at hrun
  simp [pageAt?, after?, hrun, endsLine]

/-- A reader that finds nothing at a brace finds nothing on the line of the brace. -/
private theorem find?_brace {α : Type} {read : Text → Option (α × Text)} {brace : Char} (n : Nat)
    (h0 : read [] = none) (hf : ∀ d u, isFieldChar d → read (d :: u) = none)
    (h : read (brace :: ofNat n) = none) : find? read (brace :: ofNat n) = none :=
  find?_none h0 hf (fun _ => field_of_mem_ofNat) h

private theorem ofLine?_openPage (n : Nat) :
    Record.ofLine? ('\x7b' :: ofNat n) = some (.openPage (ofNat n)) := by
  rw [Record.ofLine?, find?_brace n rfl (fun _ => input_field) rfl,
    find?_brace n rfl (fun _ => offset_field) rfl, find?_of_read (pageAt?_ofNat _ n)]

private theorem ofLine?_closePage (n : Nat) :
    Record.ofLine? ('\x7d' :: ofNat n) = some (.closePage (ofNat n)) := by
  rw [Record.ofLine?, find?_brace n rfl (fun _ => input_field) rfl,
    find?_brace n rfl (fun _ => offset_field) rfl,
    find?_brace n rfl (fun _ => page_field (by decide)) rfl, find?_of_read (pageAt?_ofNat _ n)]

private theorem ofLine?_input (n : Nat) {path : Text} (hne : path ≠ []) (hline : '\n' ∉ path) :
    Record.ofLine? (inputText n path) = some (.input (ofNat n) path) := by
  have hnumber := run?_ofNat n (r := ':' :: path) (by simp; decide)
  have hpath : run? isInLine path = some (path, []) := by
    have h := run?_append (p := isInLine) (r := []) hne
      (fun c hc => bne_iff_ne.mpr fun e => hline (e ▸ hc)) (by simp)
    rwa [List.append_nil] at h
  have hread : inputAt? (inputText n path) = some ((ofNat n, path), []) := by
    have hlabel : after? "Input:".toList (inputText n path) = some (ofNat n ++ ':' :: path) :=
      after?_append _ _
    rw [inputAt?, hlabel]
    simp [hnumber, hpath, after?]
  rw [Record.ofLine?, find?_of_read hread]

private theorem ofLine?_offset {axis : Char} (haxis : isAxis axis) (hI : axis ≠ 'I') (i : Int) :
    Record.ofLine? (offsetText axis i) = some (.offset axis (ofInt i)) := by
  have hinput : find? inputAt? (offsetText axis i) = none := by
    refine find?_eq_none (p := (· != 'I')) rfl ?_ ?_
    · intro c t hc
      have hne : 'I' ≠ c := (bne_iff_ne.mp hc).symm
      have ha : after? "Input:".toList (c :: t) = none := after?_of_head_ne _ _ hne
      rw [inputAt?, ha]
      rfl
    · intro c hc
      simp only [offsetText, List.mem_cons, List.mem_append] at hc
      rcases hc with rfl | hc | hc
      · simpa using hI
      · rw [bne_iff_ne]
        rintro rfl
        exact absurd hc (by decide)
      · have hf := field_of_mem_ofInt hc
        simp only [bne_iff_ne]
        rintro rfl
        exact absurd hf (by decide)
  have hvalue := signedRun?_ofInt i (r := []) (by simp)
  rw [List.append_nil] at hvalue
  have hread : offsetAt? (offsetText axis i) = some ((axis, ofInt i), []) := by
    simp only [offsetAt?, offsetText, if_pos haxis, after?_append]
    simp [hvalue]
  rw [Record.ofLine?, hinput, find?_of_read hread]

private theorem recordOf?_eq {s : Text} (h : ∀ c ∈ s.getLast?, (c == '\r') = false) :
    recordOf? s = Record.ofLine? s := by
  rw [recordOf?, trimEnd_eq_self h]

private theorem recordOf?_fields {c : Char} {t : Text} (hne : t ≠ []) (ht : ∀ d ∈ t, isFieldChar d) :
    recordOf? (c :: t) = Record.ofLine? (c :: t) := by
  apply recordOf?_eq
  intro d hd
  rw [List.getLast?_cons_of_ne_nil hne] at hd
  have hf := ht d (List.mem_of_getLast? hd)
  rw [beq_eq_false_iff_ne]
  rintro rfl
  exact absurd hf (by decide)

theorem recordOf?_element (e : ElementOutline) (h : e.symbol ≠ '\n') :
    recordOf? e.text = some (.element e.fields) := by
  obtain ⟨d, t, he, -⟩ := exists_digit_front e.file e.line e.left e.bottom e.widthText
  rw [← ofLine?_element e h]
  exact recordOf?_fields (by simp [he]) fun d hd =>
    (List.mem_append.mp hd).elim field_of_mem_cornerText field_of_mem_widthText

theorem recordOf?_openBox (b : BoxOutline) : recordOf? b.text = some (.openBox b.kind b.fields) := by
  rw [← ofLine?_box b]
  exact recordOf?_fields (by simp) fun d hd =>
    (List.mem_append.mp hd).elim field_of_mem_cornerText field_of_mem_extent

theorem recordOf?_closeBox (kind : BoxKind) : recordOf? [kind.closingBracket] = some .closeBox := by
  cases kind <;> rfl

theorem recordOf?_openPage (n : Nat) :
    recordOf? ('\x7b' :: ofNat n) = some (.openPage (ofNat n)) := by
  rw [← ofLine?_openPage n]
  exact recordOf?_fields (ofNat_ne_nil n) fun _ => field_of_mem_ofNat

theorem recordOf?_closePage (n : Nat) :
    recordOf? ('\x7d' :: ofNat n) = some (.closePage (ofNat n)) := by
  rw [← ofLine?_closePage n]
  exact recordOf?_fields (ofNat_ne_nil n) fun _ => field_of_mem_ofNat

private theorem getLast?_append (s : Text) {t : Text} {c : Char} (h : t.getLast? = some c) :
    (s ++ t).getLast? = some c := by
  rw [List.getLast?_append, h]
  rfl

theorem recordOf?_input (n : Nat) {path : Text} (h : IsPathText path) :
    recordOf? (inputText n path) = some (.input (ofNat n) path) := by
  obtain ⟨hne, hline, hlast⟩ := h
  rw [← ofLine?_input n hne hline]
  apply recordOf?_eq
  intro c hc
  have hd := List.getLast?_eq_some_getLast hne
  have he : (inputText n path).getLast? = some (path.getLast hne) :=
    getLast?_append _ (getLast?_append _ (getLast?_append [':'] hd))
  rw [he] at hc
  cases hc
  exact beq_eq_false_iff_ne.mpr fun e => hlast (e ▸ hd)

theorem recordOf?_offset {axis : Char} (haxis : isAxis axis) (hI : axis ≠ 'I') (i : Int) :
    recordOf? (offsetText axis i) = some (.offset axis (ofInt i)) := by
  rw [← ofLine?_offset haxis hI i]
  apply recordOf?_eq
  intro c hc
  have hne : ofInt i ≠ [] := by cases i <;> simp [ofInt, ofNat_ne_nil]
  have hd := List.getLast?_eq_some_getLast hne
  have he : (offsetText axis i).getLast? = some ((ofInt i).getLast hne) := by
    rw [offsetText, List.getLast?_cons, getLast?_append _ hd]
    rfl
  rw [he] at hc
  cases hc
  have hf := field_of_mem_ofInt (List.mem_of_getLast? hd)
  rw [beq_eq_false_iff_ne]
  exact fun e => absurd (e ▸ hf) (by decide)

variable {K : Type} [Scalar K]

theorem Forest.filterMap_lines {f : Forest} (h : f.IsPrintable K) :
    f.lines.filterMap recordOf? = f.records := by
  induction f with
  | nil => rfl
  | element e rest ih =>
    rw [lines, List.filterMap_cons_some (recordOf?_element e h.1.1), ih h.2, records]
  | box b content rest ihContent ih =>
    rw [lines, List.filterMap_cons_some (recordOf?_openBox b), List.filterMap_append,
      ihContent h.2.1, List.filterMap_cons_some (recordOf?_closeBox b.kind), ih h.2.2, records]

def pageRecords (number : Nat) (f : Forest) : List Record :=
  .openPage (ofNat number) :: (f.records ++ [.closePage (ofNat number)])

/-- The records of a whole file; its first line carries none. -/
def Outline.records (o : Outline) : List Record :=
  o.files.pairs.map (fun (number, path) => .input (ofNat number) path) ++
    .offset 'X' (ofInt o.offsetX) :: .offset 'Y' (ofInt o.offsetY) ::
      o.pages.pairs.flatMap fun (number, f) => pageRecords number f

private theorem filterMap_pageLines (number : Nat) {f : Forest} (h : f.IsPrintable K) :
    (pageLines number f).filterMap recordOf? = pageRecords number f := by
  rw [pageLines, List.filterMap_cons_some (recordOf?_openPage number), List.filterMap_append,
    Forest.filterMap_lines h, List.filterMap_cons_some (recordOf?_closePage number)]
  rfl

private theorem filterMap_pages {ps : List (Nat × Forest)} (h : ∀ p ∈ ps, p.2.IsPrintable K) :
    (ps.flatMap fun (number, f) => pageLines number f).filterMap recordOf? =
      ps.flatMap fun (number, f) => pageRecords number f := by
  induction ps with
  | nil => rfl
  | cons p ps ih =>
    rw [List.flatMap_cons, List.filterMap_append, filterMap_pageLines p.1 (h p (by simp)),
      ih fun q hq => h q (by simp [hq]), List.flatMap_cons]

private theorem filterMap_files {fs : List (Nat × Text)} (h : ∀ f ∈ fs, IsPathText f.2) :
    (fs.map fun (number, path) => inputText number path).filterMap recordOf? =
      fs.map fun (number, path) => .input (ofNat number) path := by
  induction fs with
  | nil => rfl
  | cons f fs ih =>
    rw [List.map_cons, List.filterMap_cons_some (recordOf?_input f.1 (h f (by simp))),
      ih fun g hg => h g (by simp [hg]), List.map_cons]

theorem Outline.filterMap_lines {o : Outline} (h : o.IsPrintable K) :
    o.lines.tail.filterMap recordOf? = o.records := by
  rw [lines, List.tail_cons, List.filterMap_append, filterMap_files fun f hf => (h.files f hf).2,
    List.filterMap_cons_some (recordOf?_offset (by decide) (by decide) _),
    List.filterMap_cons_some (recordOf?_offset (by decide) (by decide) _),
    filterMap_pages fun p hp => (h.pages p hp).2, records]

private theorem newline_notMem_cons {c : Char} {t : Text} (hc : c ≠ '\n')
    (ht : ∀ d ∈ t, isFieldChar d) : '\n' ∉ c :: t := by
  rw [List.mem_cons, not_or]
  exact ⟨hc.symm, fun h => absurd (ht _ h) (by decide)⟩

private theorem Forest.newline_notMem {f : Forest} (h : f.IsPrintable K) :
    ∀ l ∈ f.lines, '\n' ∉ l := by
  induction f with
  | nil => simp [lines]
  | element e rest ih =>
    intro l hl
    rcases List.mem_cons.mp hl with rfl | hl
    · exact newline_notMem_cons h.1.1 fun d hd =>
        (List.mem_append.mp hd).elim field_of_mem_cornerText field_of_mem_widthText
    · exact ih h.2 l hl
  | box b content rest ihContent ih =>
    intro l hl
    simp only [lines, List.mem_cons, List.mem_append] at hl
    rcases hl with rfl | hl | rfl | hl
    · exact newline_notMem_cons (by cases b.kind <;> decide) fun d hd =>
        (List.mem_append.mp hd).elim field_of_mem_cornerText field_of_mem_extent
    · exact ihContent h.2.1 l hl
    · cases b.kind <;> decide
    · exact ih h.2.2 l hl

private theorem newline_notMem_pageLines {number : Nat} {f : Forest} (h : f.IsPrintable K) :
    ∀ l ∈ pageLines number f, '\n' ∉ l := by
  intro l hl
  simp only [pageLines, List.mem_cons, List.mem_append, List.not_mem_nil, or_false] at hl
  rcases hl with rfl | hl | rfl
  · exact newline_notMem_cons (by decide) fun _ => field_of_mem_ofNat
  · exact Forest.newline_notMem h l hl
  · exact newline_notMem_cons (by decide) fun _ => field_of_mem_ofNat

/-- No line is broken. -/
theorem Outline.newline_notMem {o : Outline} (h : o.IsPrintable K) : ∀ l ∈ o.lines, '\n' ∉ l := by
  have hversion : '\n' ∉ versionLabel := by decide
  have hinput : '\n' ∉ "Input:".toList := by decide
  have hoffset {axis : Char} (ha : '\n' ≠ axis) (i : Int) : '\n' ∉ offsetText axis i := by
    have hlabel : '\n' ∉ " Offset:".toList := by decide
    refine List.not_mem_cons_of_ne_of_not_mem ha (List.not_mem_append hlabel fun hi => ?_)
    exact absurd (field_of_mem_ofInt hi) (by decide)
  intro l hl
  simp only [lines, List.mem_cons, List.mem_append, List.mem_map, List.mem_flatMap] at hl
  rcases hl with rfl | ⟨f, hf, rfl⟩ | rfl | rfl | ⟨p, hp, hl⟩
  · exact List.not_mem_append hversion h.version_inLine
  · refine List.not_mem_append hinput (List.not_mem_append (fun hn => ?_) ?_)
    · exact absurd (field_of_mem_ofNat hn) (by decide)
    · exact List.not_mem_cons_of_ne_of_not_mem (by decide) (h.files f hf).2.2.1
  · exact hoffset (by decide) _
  · exact hoffset (by decide) _
  · exact newline_notMem_pageLines (h.pages p hp).2 l hl

end TypesetTrace.Sync
