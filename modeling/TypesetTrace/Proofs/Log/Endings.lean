import TypesetTrace.Fault
import TypesetTrace.Log.Notice.Warning
import TypesetTrace.Proofs.Text.Match

/-! How a line of a package's message ends. Its first line and its further lines are read by readers of
their own, but in the same way: the text is as short as it can be before a line number and a stop. -/
namespace TypesetTrace.Log
open Text

/-- What a reader finds at the end of a line: a stop, or a number and a stop behind words of its own. -/
structure IsEnd (isFront : Text → Prop) (s : Text) (line : Option Text) (stop rest : Text) : Prop where
  ends : endsLine rest
  space : ' ' ∉ stop
  parts : line = none ∧ s = stop ++ rest ∨ ∃ front digits, line = some digits ∧ isFront front ∧
    (∀ c ∈ digits, isDigit c) ∧ s = front ++ (" line ".toList ++ (digits ++ (stop ++ rest)))

/-- Where no line break follows, nothing is left over. -/
theorem IsEnd.rest_eq_nil {isFront : Text → Prop} {s stop rest : Text} {line : Option Text}
    (h : IsEnd isFront s line stop rest) (hs : '\n' ∉ s) : rest = [] := by
  refine eq_nil_of_endsLine h.ends fun hn => hs ?_
  obtain ⟨-, rfl⟩ | ⟨front, digits, -, -, -, rfl⟩ := h.parts
  · exact List.mem_append_right stop hn
  · have htail : '\n' ∈ digits ++ (stop ++ rest) := List.mem_append_right digits (List.mem_append_right stop hn)
    exact List.mem_append_right front (List.mem_append_right _ htail)

/-- Everything that `k` finds is the end of a line. -/
def ReadsEnds {σ : Type} (isFront : Text → Prop) (shown : σ → Text)
    (k : Text → Option (Option Text × σ × Text)) : Prop :=
  ∀ {s line stop rest}, k s = some (line, stop, rest) → IsEnd isFront s line (shown stop) rest

/-- The words that the first line may have in front of the number, up to the last one. -/
def IsAnnouncedFront (front : Text) : Prop := front = " on".toList ∨ front = " on input".toList

def IsContinuedFront (front : Text) : Prop :=
  ∃ spaces : Text, (∀ c ∈ spaces, c = ' ') ∧ front = spaces ++ "on input".toList

theorem stop?_eq_some {s stop rest : Text} (h : stop? s = some (stop, rest)) :
    s = stop ++ rest ∧ endsLine rest ∧ ' ' ∉ stop := by
  cases s with
  | nil =>
    cases h
    exact ⟨rfl, rfl, nofun⟩
  | cons c r =>
    rw [stop?] at h
    split at h
    · rename_i hc
      cases h
      rw [Bool.and_eq_true] at hc
      refine ⟨rfl, hc.2, fun hspace => ?_⟩
      rw [← List.mem_singleton.mp hspace] at hc
      exact absurd hc.1 (by decide)
    · split at h
      · rename_i hends
        cases h
        exact ⟨rfl, hends, nofun⟩
      · cases h

theorem inputLine?_eq_some {s digits rest : Text} (h : inputLine? s = some (digits, rest)) :
    ∃ front, IsAnnouncedFront front ∧ (∀ c ∈ digits, isDigit c) ∧
      s = front ++ (" line ".toList ++ (digits ++ rest)) := by
  simp only [inputLine?, Option.bind_eq_bind, Option.bind_eq_some_iff] at h
  obtain ⟨a, ha, b, hb, hrun⟩ := h
  have ha : s = " on".toList ++ a := after?_eq_some ha
  obtain ⟨rfl, hdigits⟩ := run?_eq_some hrun
  cases hinput : after? " input".toList a with
  | none =>
    rw [hinput, Option.getD_none] at hb
    exact ⟨_, .inl rfl, hdigits, by rw [ha, after?_eq_some hb]⟩
  | some r =>
    rw [hinput, Option.getD_some] at hb
    refine ⟨_, .inr rfl, hdigits, ?_⟩
    rw [ha, after?_eq_some hinput, after?_eq_some hb]
    rfl

theorem readsEnds_announcementEnd? : ReadsEnds IsAnnouncedFront id announcementEnd? := by
  intro s line stop rest h
  rcases Option.or_eq_some_iff.mp h with h | ⟨-, h⟩
  · simp only [Option.bind_eq_bind, Option.bind_eq_some_iff] at h
    obtain ⟨⟨digits, r⟩, hline, ⟨_, _⟩, hstop, he⟩ := h
    cases he
    obtain ⟨front, hfront, hdigits, rfl⟩ := inputLine?_eq_some hline
    obtain ⟨rfl, hends, hspace⟩ := stop?_eq_some hstop
    exact ⟨hends, hspace, .inr ⟨front, digits, rfl, hfront, hdigits, rfl⟩⟩
  · obtain ⟨⟨_, _⟩, hstop, he⟩ := Option.map_eq_some_iff.mp h
    cases he
    obtain ⟨rfl, hends, hspace⟩ := stop?_eq_some hstop
    exact ⟨hends, hspace, .inl ⟨rfl, rfl⟩⟩

def dot (stopped : Bool) : Text := if stopped then ['.'] else []

theorem fullStop?_eq_some {s rest : Text} {stopped : Bool} (h : fullStop? s = some (stopped, rest)) :
    s = dot stopped ++ rest ∧ endsLine rest ∧ ' ' ∉ dot stopped := by
  rw [fullStop?.eq_def] at h
  split at h <;> split at h
  · rename_i hends
    cases h
    exact ⟨rfl, hends, by decide⟩
  · cases h
  · rename_i hends
    cases h
    exact ⟨rfl, hends, nofun⟩
  · cases h

theorem laterInputLine?_eq_some {s digits rest : Text} (h : laterInputLine? s = some (digits, rest)) :
    ∃ front, IsContinuedFront front ∧ (∀ c ∈ digits, isDigit c) ∧
      s = front ++ (" line ".toList ++ (digits ++ rest)) := by
  simp only [laterInputLine?, Option.bind_eq_bind, Option.bind_eq_some_iff] at h
  obtain ⟨⟨spaces, a⟩, ha, b, hb, hrun⟩ := h
  have hb : a = "on input line ".toList ++ b := after?_eq_some hb
  obtain ⟨rfl, hspaces⟩ := run?_eq_some ha
  obtain ⟨rfl, hdigits⟩ := run?_eq_some hrun
  refine ⟨_, ⟨spaces, fun c hc => beq_iff_eq.mp (hspaces c hc), rfl⟩, hdigits, ?_⟩
  rw [hb, List.append_assoc]
  rfl

theorem readsEnds_continuationEnd? : ReadsEnds IsContinuedFront dot continuationEnd? := by
  intro s line stopped rest h
  rcases Option.or_eq_some_iff.mp h with h | ⟨-, h⟩
  · simp only [Option.bind_eq_bind, Option.bind_eq_some_iff] at h
    obtain ⟨⟨digits, r⟩, hline, ⟨_, _⟩, hstop, he⟩ := h
    cases he
    obtain ⟨front, hfront, hdigits, rfl⟩ := laterInputLine?_eq_some hline
    obtain ⟨rfl, hends, hspace⟩ := fullStop?_eq_some hstop
    exact ⟨hends, hspace, .inr ⟨front, digits, rfl, hfront, hdigits, rfl⟩⟩
  · obtain ⟨⟨_, _⟩, hstop, he⟩ := Option.map_eq_some_iff.mp h
    cases he
    obtain ⟨rfl, hends, hspace⟩ := fullStop?_eq_some hstop
    exact ⟨hends, hspace, .inl ⟨rfl, rfl⟩⟩

/-- The text of one line of a message. It has no blanks at its ends and names no line of the source. -/
structure IsBody (b : Text) : Prop where
  inLine : '\n' ∉ b
  head : ∃ c ∈ b.head?, isBlank c = false
  last : ∃ c ∈ b.getLast?, isBlank c = false
  unnumbered : ¬ " line ".toList <:+: b

/-- Digits that can be converted to a number. -/
structure IsNumeral (number : Text) : Prop where
  ne_nil : number ≠ []
  digits : ∀ c ∈ number, isDigit c
  length_le : number.length ≤ maxDigits

theorem isBody_iff {b : Text} : IsBody b ↔ '\n' ∉ b ∧ b.head?.any (!isBlank ·) ∧
    b.getLast?.any (!isBlank ·) ∧ ¬ (anywhere (after? " line ".toList) b).isSome := by
  simp only [Option.any_eq_true, Bool.not_eq_true', anywhere_after?_isSome_iff]
  exact ⟨fun ⟨hinLine, hhead, hlast, hnone⟩ => ⟨hinLine, hhead, hlast, hnone⟩,
    fun ⟨hinLine, hhead, hlast, hnone⟩ => ⟨hinLine, hhead, hlast, hnone⟩⟩

instance (b : Text) : Decidable (IsBody b) := decidable_of_iff _ isBody_iff.symm

theorem isNumeral_iff {number : Text} :
    IsNumeral number ↔ number ≠ [] ∧ number.all isDigit ∧ number.length ≤ maxDigits := by
  rw [List.all_eq_true]
  exact ⟨fun ⟨hne, hdigits, hlength⟩ => ⟨hne, hdigits, hlength⟩,
    fun ⟨hne, hdigits, hlength⟩ => ⟨hne, hdigits, hlength⟩⟩

instance (number : Text) : Decidable (IsNumeral number) := decidable_of_iff _ isNumeral_iff.symm

def endingWords : Text := " on input line ".toList

def ending (number : Text) : Text := endingWords ++ (number ++ ['.'])

namespace IsNumeral
variable {number v : Text}

/-- No other characters than those of the number are added to the fixed ones. -/
theorem not_mem_ending (h : IsNumeral number) {c : Char} (hdigit : isDigit c = false)
    (hfixed : c ∉ ending []) : c ∉ ending number := by
  have hnumber : c ∉ number := fun hc => absurd (h.digits c hc) (by rw [hdigit]; exact Bool.false_ne_true)
  rw [ending, List.mem_append, List.nil_append, not_or] at hfixed
  exact List.not_mem_append hfixed.1 (List.not_mem_append hnumber hfixed.2)

theorem run?_concat (h : IsNumeral number) :
    run? isDigit (number ++ ['.']) = some (number, ['.']) :=
  run?_append h.ne_nil h.digits fun c hc => (Option.some.inj hc : '.' = c) ▸ by decide

/-- The last space of a line is the one in front of the number. So the words in front of the number are
found, whatever stands before them. -/
theorem front_of_isEnd (h : IsNumeral number) {isFront : Text → Prop} {line : Option Text}
    {stop rest : Text} (hv : '\n' ∉ v) (hend : IsEnd isFront (v ++ ending number) line stop rest) :
    isFront (v ++ " on input".toList) := by
  have hrest : rest = [] :=
    hend.rest_eq_nil (List.not_mem_append hv (h.not_mem_ending (by decide) (by decide)))
  subst hrest
  obtain ⟨-, heq⟩ | ⟨front, digits, -, hfront, hdigits, heq⟩ := hend.parts
  · refine absurd ?_ hend.space
    rw [List.append_nil] at heq
    rw [← heq]
    exact List.mem_append_right v List.mem_cons_self
  · have hnumber : ' ' ∉ number ++ ['.'] :=
      List.not_mem_append (fun hn => absurd (h.digits ' ' hn) (by decide)) (by decide)
    have htail : ' ' ∉ digits ++ stop :=
      List.not_mem_append (fun hn => absurd (hdigits ' ' hn) (by decide)) hend.space
    have hcut : (v ++ " on input".toList ++ " line".toList) ++ ' ' :: (number ++ ['.']) =
        (front ++ " line".toList) ++ ' ' :: (digits ++ stop) := by
      rw [List.append_nil] at heq
      rw [List.append_assoc, List.append_assoc, List.append_assoc]
      exact heq
    rw [List.append_cancel_right (append_cons_inj hnumber htail hcut).1]
    exact hfront

end IsNumeral

namespace IsBody
variable {b : Text}

theorem isInLine (h : IsBody b) : ∀ c ∈ b, Text.isInLine c = true :=
  fun _ hc => bne_iff_ne.mpr fun he => h.inLine (he ▸ hc)

theorem head_append (h : IsBody b) (t : Text) : ∃ c ∈ (b ++ t).head?, isBlank c = false := by
  obtain ⟨c, hc, hblank⟩ := h.head
  refine ⟨c, ?_, hblank⟩
  rw [List.head?_append, Option.mem_def.mp hc]
  rfl

/-- Without an ending a line is read to its end, though a stop is told apart from the text. -/
theorem read_alone (h : IsBody b) {σ : Type} {isFront : Text → Prop} {shown : σ → Text}
    {k : Text → Option (Option Text × σ × Text)} (hk : ReadsEnds isFront shown k) (hnil : (k []).isSome) :
    ∃ body stop, shortest Text.isInLine k b = some (body, none, stop, []) ∧ body ++ shown stop = b := by
  obtain ⟨body, ⟨line, stop, rest⟩, hread⟩ := exists_shortest h.isInLine hnil
  obtain ⟨r, hr, hend⟩ := shortest_eq_some hread
  have hrest : rest = [] := (hk hend).rest_eq_nil fun hn => h.inLine (hr ▸ List.mem_append_right body hn)
  subst hrest
  obtain ⟨rfl, rfl⟩ | ⟨front, digits, -, -, -, rfl⟩ := (hk hend).parts
  · exact ⟨body, stop, hread, by rw [hr, List.append_nil]⟩
  · refine absurd ?_ h.unnumbered
    rw [hr, ← List.append_assoc]
    exact (List.prefix_append _ _).isInfix.trans (List.suffix_append _ _).isInfix

/-- No part of the text is taken for words in front of the number. -/
theorem read_ending (h : IsBody b) {number : Text} (hnumber : IsNumeral number) {σ : Type}
    {isFront : Text → Prop} {shown : σ → Text} {k : Text → Option (Option Text × σ × Text)} {stop : σ}
    (hk : ReadsEnds isFront shown k) (hread : k (ending number) = some (some number, stop, []))
    (hfront : ∀ v, v ≠ [] → v <:+ b → ¬ isFront (v ++ " on input".toList)) :
    shortest Text.isInLine k (b ++ ending number) = some (b, some number, stop, []) := by
  refine shortest_append h.isInLine hread fun v hv hsuffix => ?_
  rw [Option.eq_none_iff_forall_ne_some]
  rintro ⟨line, stop, rest⟩ hend
  exact hfront v hv hsuffix (hnumber.front_of_isEnd (fun hn => h.inLine (hsuffix.subset hn)) (hk hend))

theorem announced_ending (h : IsBody b) {number : Text} (hnumber : IsNumeral number) :
    shortest Text.isInLine announcementEnd? (b ++ ending number) = some (b, some number, ['.'], []) := by
  refine h.read_ending hnumber readsEnds_announcementEnd? ?_ fun v hv _ hfront => ?_
  · have hline : inputLine? (ending number) = run? Text.isDigit (number ++ ['.']) := rfl
    rw [announcementEnd?, hline, hnumber.run?_concat]
    rfl
  · have hpos : 0 < v.length := List.length_pos_iff.mpr hv
    have hlength : (v ++ " on input".toList).length ≤ 9 := by
      rcases hfront with hfront | hfront <;> rw [hfront] <;> decide
    rw [List.length_append] at hlength
    exact absurd hlength (by simp; omega)

theorem continued_ending (h : IsBody b) {number : Text} (hnumber : IsNumeral number) :
    shortest Text.isInLine continuationEnd? (b ++ ending number) = some (b, some number, true, []) := by
  refine h.read_ending hnumber readsEnds_continuationEnd? ?_ fun v hv hsuffix => ?_
  · have hline : laterInputLine? (ending number) = run? Text.isDigit (number ++ ['.']) := rfl
    rw [continuationEnd?, hline, hnumber.run?_concat]
    rfl
  -- The end of the text would be all spaces.
  · rintro ⟨spaces, hspaces, heq⟩
    have hall : (v ++ [' ']) ++ "on input".toList = spaces ++ "on input".toList := by
      rw [List.append_assoc]
      exact heq
    have hv' : v ++ [' '] = spaces := List.append_cancel_right hall
    obtain ⟨d, hd, hblank⟩ := h.last
    obtain ⟨u, rfl⟩ := hsuffix
    rw [List.getLast?_append, List.getLast?_eq_some_getLast hv, Option.some_or, Option.mem_some_iff] at hd
    have hspace : d = ' ' := hspaces d (hv' ▸ List.mem_append_left _ (hd ▸ List.getLast_mem hv))
    rw [hspace] at hblank
    cases hblank

end IsBody
end TypesetTrace.Log
