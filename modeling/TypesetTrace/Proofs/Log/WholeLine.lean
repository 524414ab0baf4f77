import TypesetTrace.Proofs.Log.Ownership
import TypesetTrace.Proofs.Log.Packed

/-! A line is read to its end. The looks at a line are limited in number, but the limit never stops
them: what a look leaves is a shorter end of what it was given, so the last look, which leaves nothing,
comes within the limit. -/
namespace TypesetTrace.Log
open Text

private theorem shorter_behind {line rest a : Text} {c : Char} (hrest : rest <:+ a)
    (ha : c :: a <:+ line) : rest <:+ line ∧ rest.length < line.length :=
  ⟨hrest.trans ((List.suffix_cons c a).trans ha), Nat.lt_of_le_of_lt hrest.length_le ha.length_le⟩

theorem Pass.rest?_eq_some {p : Pass} {rest : Text} (h : p.rest? = some rest) : p = .again rest := by
  cases p with
  | again r => exact congrArg Pass.again (Option.some.inj h)
  | finished => cases h
  | failed fault => cases h

/-- Whatever the switches are set to, what a look leaves is shorter. -/
theorem Switches.shorter_of_look {line rest : Text} {w w' : Switches}
    (h : look line w = (w', some rest)) : rest <:+ line ∧ rest.length < line.length := by
  rw [look] at h
  split at h
  · cases h
  split at h
  · cases h
  split at h
  · cases h
  · rename_i notice hn
    split at h
    · cases h
    · obtain ⟨c, a, hrest, ha⟩ := suffix_of_leftOver hn (Pass.rest?_eq_some (Prod.mk.inj h).2)
      exact shorter_behind hrest ha

namespace Session

/-- The looks at a line without a limit on their number, and what they come to. Each one but the last
leaves a rest for the next; the last one leaves nothing, or a number cannot be converted. -/
inductive ReadsUp : Text → Session → List (Text × Session) → Session × Option Fault → Prop where
  | finished {line : Text} {s s' : Session} (h : pass line s = (s', .finished)) :
    ReadsUp line s [(line, s)] (s', none)
  | failed {line : Text} {s s' : Session} {fault : Fault} (h : pass line s = (s', .failed fault)) :
    ReadsUp line s [(line, s)] (s', some fault)
  | again {line rest : Text} {s s' : Session} {looks : List (Text × Session)}
    {r : Session × Option Fault} (h : pass line s = (s', .again rest)) (hrest : ReadsUp rest s' looks r) :
    ReadsUp line s ((line, s) :: looks) r

variable {line : Text} {s : Session} {looks : List (Text × Session)} {r : Session × Option Fault}

theorem readsUp_feed (line : Text) (s : Session) : ReadsUp line s (looksOn line s) (feed line s) := by
  induction line, s using looksOn.induct with
  | case1 line s ih =>
    rw [looksOn_eq, feed_eq]
    rcases hpass : pass line s with ⟨s', _ | rest | fault⟩
    · exact .finished hpass
    · exact .again hpass (ih s' rest hpass)
    · exact .failed hpass

/-- Without a limit there is only one way to read a line. -/
theorem ReadsUp.eq_feed (h : ReadsUp line s looks r) : looks = looksOn line s ∧ r = feed line s := by
  induction h with
  | finished hpass =>
    rw [looksOn_eq, feed_eq, hpass]
    exact ⟨rfl, rfl⟩
  | failed hpass =>
    rw [looksOn_eq, feed_eq, hpass]
    exact ⟨rfl, rfl⟩
  | again hpass _ ih =>
    rw [looksOn_eq, feed_eq, hpass, ih.1, ih.2]
    exact ⟨rfl, rfl⟩

/-- A limit that admits all looks changes nothing. -/
theorem ReadsUp.passes_eq (h : ReadsUp line s looks r) {n : Nat} (hn : looks.length ≤ n) :
    passes n line s = r := by
  induction h generalizing n with
  | finished hpass =>
    obtain ⟨n, rfl⟩ := Nat.exists_eq_add_of_le' hn
    rw [List.length_singleton, passes, hpass]
  | failed hpass =>
    obtain ⟨n, rfl⟩ := Nat.exists_eq_add_of_le' hn
    rw [List.length_singleton, passes, hpass]
  | again hpass _ ih =>
    rw [List.length_cons] at hn
    obtain ⟨m, rfl⟩ := Nat.exists_eq_add_of_le' (Nat.le_trans (Nat.le_add_left 1 _) hn)
    rw [passes, hpass]
    exact ih (Nat.le_of_succ_le_succ hn)

theorem ReadsUp.length_le (h : ReadsUp line s looks r) : looks.length ≤ line.length + 1 := by
  induction h with
  | finished _ => exact Nat.le_add_left 1 _
  | failed _ => exact Nat.le_add_left 1 _
  | again hpass _ ih =>
    -- A text of no characters is looked at too: that is the one look more than there are characters.
    have hshorter := length_of_pass hpass
    rw [List.length_cons]
    omega

theorem ReadsUp.finished_last {s' : Session} (h : ReadsUp line s looks (s', none)) :
    ∃ look ∈ looks.getLast?, pass look.1 look.2 = (s', .finished) := by
  generalize hr : (s', (none : Option Fault)) = r at h
  induction h with
  | finished hpass => cases hr; exact ⟨_, rfl, hpass⟩
  | failed _ => cases hr
  | again _ hrest ih =>
    obtain ⟨look, hlast, hpass⟩ := ih hr
    refine ⟨look, ?_, hpass⟩
    rw [List.getLast?_cons, Option.mem_def.mp hlast]
    rfl

/-- What a look leaves is always an end of what it was given and shorter, in whatever state it finds
the session, and also where the switches are set as no mode sets them. So reading a line comes to what
the looks at it come to without a limit on their number: the limit admits all of them, and where no
number is too long the last of them leaves nothing. -/
theorem feed_reads_whole_line (line : Text) (s : Session) :
    (∀ t u u' rest, pass t u = (u', .again rest) → rest <:+ t ∧ rest.length < t.length) ∧
      (∀ t w w' rest, Switches.look t w = (w', some rest) → rest <:+ t ∧ rest.length < t.length) ∧
      (∀ looks r, ReadsUp line s looks r ↔ looks = looksOn line s ∧ r = feed line s) ∧
      (looksOn line s).length ≤ line.length + 1 ∧
      (∀ s', feed line s = (s', none) →
        ∃ look ∈ (looksOn line s).getLast?, pass look.1 look.2 = (s', .finished)) ∧
      ∀ n, (looksOn line s).length ≤ n → passes n line s = feed line s := by
  have hread : ReadsUp line s (looksOn line s) (feed line s) := readsUp_feed line s
  refine ⟨fun t u u' rest h => ?_, fun t w w' rest h => Switches.shorter_of_look h,
    fun looks r => ⟨fun h => h.eq_feed, ?_⟩, hread.length_le, fun s' h => ?_,
    fun n hn => hread.passes_eq hn⟩
  · obtain ⟨c, a, hrest, ha⟩ := suffix_of_pass h
    exact shorter_behind hrest ha
  · rintro ⟨rfl, rfl⟩
    exact hread
  · rw [h] at hread
    exact hread.finished_last

def wantedKey : PackedNotice := .unlistedKey " ".toList "a".toList

def pageBox : PackedNotice := .box .overfull true "3pt too high".toList "3".toList

/-- One look at both on a line would not be enough, and the last of the three is at the empty text. -/
theorem keyAndBox_read_whole :
    let line := wantedKey.text ++ pageBox.text
    let s := new "/a.tex".toList
    let s₁ := s.start (wantedKey.entry s.currentFile)
    let s₂ := s₁.start (pageBox.entry s₁.currentFile)
    let inError : Switches := { inError := true }
    (pass line s = (s₁, .again pageBox.text) ∧ pageBox.text.length < line.length) ∧
      (Switches.look line inError = (inError, some pageBox.text) ∧ pageBox.text <:+ line) ∧
      looksOn line s = [(line, s), (pageBox.text, s₁), ([], s₂)] ∧
      (feed line s = (s₂, none) ∧
        ∃ look ∈ (looksOn line s).getLast?, pass look.1 look.2 = (s₂, .finished)) ∧
      passes 3 line s = feed line s ∧ passes 1 line s ≠ feed line s := by
  intro line s s₁ s₂ inError
  have hwanted : wantedKey.IsWellFormed := by decide +kernel
  have hpage : pageBox.IsWellFormed := by decide +kernel
  have hkey : pass line s = (s₁, .again pageBox.text) := pass_packed rfl hwanted pageBox.text
  have hbox : pass pageBox.text s₁ = (s₂, .again []) := by
    have hbox := pass_packed (s := s₁) rfl hpage []
    rwa [List.append_nil] at hbox
  have hend : pass [] s₂ = (s₂, .finished) := rfl
  have hswitches : Switches.look line inError = (inError, some pageBox.text) := by
    have hnotice : Notice.ofLine? line = some (wantedKey.notice pageBox.text) :=
      PackedNotice.ofLine?_append hwanted pageBox.text
    rw [Switches.look, hnotice]
    rfl
  obtain ⟨hpass, hlook, hread, -, hlast, hlimit⟩ := feed_reads_whole_line line s
  obtain ⟨hlooks, hfeed⟩ := (hread [(line, s), (pageBox.text, s₁), ([], s₂)] (s₂, none)).mp
    (.again hkey (.again hbox (.finished hend)))
  have hthree : passes 3 line s = feed line s := hlimit 3 (by rw [← hlooks]; decide)
  refine ⟨⟨hkey, (hpass _ _ _ _ hkey).2⟩, ⟨hswitches, (hlook _ _ _ _ hswitches).1⟩, hlooks.symm,
    ⟨hfeed.symm, hlast s₂ hfeed.symm⟩, hthree, fun hone => ?_⟩
  rw [← hfeed, passes, hkey] at hone
  have hentries : s₁.entries.length = s₂.entries.length := congrArg (·.1.entries.length) hone
  exact absurd hentries (by decide)

end Session
end TypesetTrace.Log
