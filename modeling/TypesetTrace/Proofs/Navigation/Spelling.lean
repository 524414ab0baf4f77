import TypesetTrace.Proofs.Navigation.LineMap
import TypesetTrace.Proofs.Path

/-! Two spellings of a directory lead to the same answers. The file that is read for a source file stands
beside it, so it too is found below both spellings, and recorded paths are taken from the absolute path. -/
namespace TypesetTrace

namespace Files

/-- Two spellings of a path, about which nothing differs that decides what is read. -/
structure AreAlike (working : Path.WorkingDirectory) (p q : Text) : Prop where
  absolute : Path.absolute working p = Path.absolute working q
  usable : isUsable p = isUsable q
  last : p.getLast? = q.getLast?
  compressed : isCompressed p = isCompressed q

section
variable {fs : Files} {p q : Text}

theorem AreAlike.resolve_eq (h : AreAlike fs.working p q) : fs.resolve p = fs.resolve q := by
  rw [Files.resolve, Files.resolve, h.absolute]

theorem AreAlike.isFile_eq (h : AreAlike fs.working p q) : fs.isFile p = fs.isFile q := by
  rw [Files.isFile, Files.isFile, h.usable, h.last, h.resolve_eq]

theorem AreAlike.readMaybeCompressed?_eq (h : AreAlike fs.working p q) :
    fs.readMaybeCompressed? p = fs.readMaybeCompressed? q := by
  rw [Files.readMaybeCompressed?, Files.readMaybeCompressed?, read, read, h.isFile_eq, h.resolve_eq,
    h.compressed]
  rcases (if fs.isFile q then fs.stored.get? (fs.resolve q) else none) with _ | _ | _ <;> rfl

theorem isCompressed_iff : isCompressed p ↔ ".gz".toList <:+ p := by
  rw [isCompressed, Text.after?_isSome_iff, List.reverse_prefix]

theorem isCompressed_append (p t : Text) : isCompressed (p ++ '/' :: t) = isCompressed ('/' :: t) := by
  rw [Bool.eq_iff_iff, isCompressed_iff, isCompressed_iff]
  constructor
  · intro h
    rcases List.suffix_or_suffix_of_suffix h (List.suffix_append p _) with hwithin | hwithin
    · exact hwithin
    · exact absurd (hwithin.subset List.mem_cons_self) (by decide)
  · exact fun h => h.trans (List.suffix_append p _)

theorem isUsable_append (hp : '\x00' ∉ p) (t : Text) : isUsable (p ++ '/' :: t) = isUsable ('/' :: t) := by
  have hnul : (p ++ '/' :: t).contains '\x00' = ('/' :: t).contains '\x00' := by
    rw [Bool.eq_iff_iff, List.contains_iff_mem, List.contains_iff_mem, List.mem_append, or_iff_right hp]
  rw [isUsable, isUsable, hnul]
  cases p <;> rfl

end
end Files

namespace Navigation
open Sync Files

/-- Two spellings of a directory other than the root. -/
structure AreSpellings (working : Path.WorkingDirectory) (d d' : Text) : Prop where
  ne_nil : d ≠ [] ∧ d' ≠ []
  inside : '\x00' ∉ d ∧ '\x00' ∉ d'
  same : Path.absolute working d = Path.absolute working d'
  ne_root : Path.absolute working d ≠ ['/'] ∧ Path.absolute working d ≠ ['/', '/']

instance (working : Path.WorkingDirectory) (d d' : Text) : Decidable (AreSpellings working d d') :=
  decidable_of_iff ((d ≠ [] ∧ d' ≠ []) ∧ ('\x00' ∉ d ∧ '\x00' ∉ d') ∧
      Path.absolute working d = Path.absolute working d' ∧
        Path.absolute working d ≠ ['/'] ∧ Path.absolute working d ≠ ['/', '/'])
    ⟨fun ⟨hne, hinside, hsame, hroot⟩ => ⟨hne, hinside, hsame, hroot⟩,
      fun ⟨hne, hinside, hsame, hroot⟩ => ⟨hne, hinside, hsame, hroot⟩⟩

section
variable {working : Path.WorkingDirectory} {d d' n : Text}

theorem AreSpellings.absolute_append (h : AreSpellings working d d') (t : Text) :
    Path.absolute working (d ++ '/' :: t) = Path.absolute working (d' ++ '/' :: t) := by
  have hroot : ¬ Path.IsRoot (Path.absolute working d) := not_or.mpr h.ne_root
  rw [Path.absolute_append h.ne_nil.1 hroot, Path.absolute_append h.ne_nil.2 (h.same ▸ hroot), h.same]

/-- What is read below a directory is the same below its other spellings. -/
theorem AreSpellings.areAlike (h : AreSpellings working d d') (t : Text) :
    AreAlike working (d ++ '/' :: t) (d' ++ '/' :: t) where
  absolute := h.absolute_append t
  usable := (isUsable_append h.inside.1 t).trans (isUsable_append h.inside.2 t).symm
  last := by rw [List.getLast?_append, List.getLast?_append, List.getLast?_cons, Option.some_or, Option.some_or]
  compressed := (isCompressed_append d t).trans (isCompressed_append d' t).symm

variable {K : Type}

theorem syncFile?_append (suffixes : List Text) (fs : Files) (d : Text) (hn : '/' ∉ n) :
    syncFile? suffixes fs (d ++ '/' :: n) =
      (suffixes.find? fun suffix => fs.isFile (d ++ '/' :: (Path.withoutExtension n ++ suffix))).map
        fun suffix => d ++ '/' :: (Path.withoutExtension n ++ suffix) := by
  have hcandidates : candidates suffixes (d ++ '/' :: n) =
      suffixes.map fun suffix => d ++ '/' :: (Path.withoutExtension n ++ suffix) := by
    rw [candidates, Path.withoutExtension_append d hn]
    simp only [List.append_assoc, List.cons_append]
  rw [syncFile?, hcandidates, List.find?_map]
  rfl

theorem recordedPath?_congr {source source' : Text}
    (h : Path.absolute working source = Path.absolute working source') (doc : Document K) : recordedPath? working source doc = recordedPath? working source' doc := by
  rw [recordedPath?, recordedPath?, h]

theorem linesOf?_congr {source source' : Text}
    (h : Path.absolute working source = Path.absolute working source') (doc : Document K) : linesOf? working source doc = linesOf? working source' doc := by
  rw [linesOf?, linesOf?, recordedPath?_congr h]

variable [Scalar K]

theorem AreSpellings.fetch_eq {fs : Files} (h : AreSpellings fs.working d d') (suffixes : List Text)
    (hn : '/' ∉ n) :
    (fetch (K := K) suffixes fs (d ++ '/' :: n)).1 = (Navigation.fetch suffixes fs (d' ++ '/' :: n)).1 := by
  have hfiles : (fun suffix => fs.isFile (d ++ '/' :: (Path.withoutExtension n ++ suffix))) =
      fun suffix => fs.isFile (d' ++ '/' :: (Path.withoutExtension n ++ suffix)) :=
    funext fun suffix => (h.areAlike _).isFile_eq
  rw [Navigation.fetch, Navigation.fetch, syncFile?_append suffixes fs d hn, syncFile?_append suffixes fs d' hn,
    hfiles]
  cases suffixes.find? fun suffix => fs.isFile (d' ++ '/' :: (Path.withoutExtension n ++ suffix)) with
  | none => rfl
  | some suffix =>
    have hread := (h.areAlike (Path.withoutExtension n ++ suffix)).readMaybeCompressed?_eq
    simp only [Option.map_some, readDocument, hread]

theorem position_congr {source source' : Text} (h : Path.absolute working source = Path.absolute working source')
    (line : Int) (doc : Document K) : position working source line doc = position working source' line doc := by
  rw [position, position, linesOf?_congr h]

theorem anchors_congr {source source' : Text} (h : Path.absolute working source = Path.absolute working source')
    (doc : Document K) : anchors working source doc = anchors working source' doc := by
  rw [anchors, anchors, linesOf?_congr h]

theorem origin?_congr {fs : Files} {source source' : Text}
    (h : Path.absolute fs.working source = Path.absolute fs.working source') (page : Int) (x y : K)
    (doc : Document K) :
    origin? fs source page x y doc = origin? fs source' page x y doc := by
  rw [origin?, origin?, h]

end

/-- With nothing in the slot, the answers about a source file do not depend on how its directory is
spelled. -/
theorem Navigator.answers_of_spellings {K : Type} [Scalar K] (nav : Navigator) (fs : Files) {d d' n : Text}
    (h : AreSpellings fs.working d d') (hn : '/' ∉ n) :
    let source := d ++ '/' :: n
    let source' := d' ++ '/' :: n
    (nav.load fs source (none : Slot K)).result = (nav.load fs source' none).result ∧
      (∀ line, (nav.forward fs source line (none : Slot K)).result = (nav.forward fs source' line none).result) ∧
      (∀ page x y, (nav.inverse fs source page x y (none : Slot K)).result =
        (nav.inverse fs source' page x y none).result) ∧
      (nav.lineMap fs source (none : Slot K)).result = (nav.lineMap fs source' none).result := by
  intro source source'
  have hsame : Path.absolute fs.working source = Path.absolute fs.working source' := h.absolute_append n
  have hload : (nav.load fs source (none : Slot K)).result = (nav.load fs source' none).result := by
    rw [load, load, (load_of_miss rfl).1, (load_of_miss rfl).1]
    exact h.fetch_eq nav.suffixes hn
  have hbind {α : Type} {f g : Option (Document K) → Except Fault α} (hfg : f = g) :
      ((nav.load fs source none).bind f).result = ((nav.load fs source' none).bind g).result := by
    rw [hfg]
    exact congrArg (·.bind g) hload
  refine ⟨hload, fun line => hbind ?_, fun page x y => hbind ?_, hbind ?_⟩
  · funext doc
    cases doc with
    | none => rfl
    | some doc => exact position_congr hsame line doc
  · funext doc
    rw [funext (origin?_congr hsame page x y)]
  · funext doc
    rw [funext (anchors_congr hsame)]

/-- The spaced lines as a file in the working directory. -/
def workingFiles : Files :=
  (({} : Files).write "a.tex".toList (.bytes [])).write "a.sync".toList
    (.bytes (spaced.text.map fun c => UInt8.ofNat c.toNat))

theorem answers_of_dottedSpelling :
    AreSpellings .usual "x/..".toList "/cwd/.//".toList ∧ '/' ∉ "a.tex".toList ∧
      (∃ p, (({} : Navigator).forward workingFiles "x/../a.tex".toList 6 (none : Slot Float)).result =
          .ok (some p) ∧
        (({} : Navigator).forward workingFiles "/cwd/.///a.tex".toList 6 (none : Slot Float)).result =
          .ok (some p)) := by
  have hspelled : AreSpellings .usual "x/..".toList "/cwd/.//".toList := by decide +kernel
  have hname : '/' ∉ "a.tex".toList := by decide
  obtain ⟨-, hforward, -⟩ := Navigator.answers_of_spellings (K := Float) {} workingFiles hspelled hname
  obtain ⟨p, hp⟩ : ∃ p, (({} : Navigator).forward workingFiles "x/../a.tex".toList 6 (none : Slot Float)).result =
      .ok (some p) := ⟨_, rfl⟩
  exact ⟨hspelled, hname, p, hp, (hforward 6).symm.trans hp⟩

end Navigation
end TypesetTrace
