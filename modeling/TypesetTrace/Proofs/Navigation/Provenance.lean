import Mathlib.Data.List.Induction
import TypesetTrace.Number.Scalar
import TypesetTrace.Proofs.Navigation.Interleaving

/-! Where the documents come from that loads pass to one another through the slot. A document is
followed from the load that reads it to the slot and to the loads that find it there; the invariant
of all runs is that it never changes its source file on the way. -/
namespace TypesetTrace.Navigation
open Sync
variable {K : Type}

/-- The document that a load has come to, whether or not it is stored. -/
def Stage.found? : Stage K → Option (Found K)
  | .read f => some f
  | .returned (.ok r) => r
  | _ => none

theorem eq_of_found?_ofFetched {clears : Nat} {r : Except Fault (Option (Document K))} {f : Found K}
    (h : (Stage.ofFetched clears r).found? = some f) : r = .ok (some f.document) := by
  rcases r with fault | _ | d
  · cases h
  · cases h
  · cases h
    rfl

theorem Slot.eq_of_get? {slot : Slot K} {source : Text} {d : Document K}
    (h : slot.get? source = some d) : slot = some (source, d) := by
  rcases slot with _ | ⟨path, kept⟩
  · cases h
  · rw [Slot.get?] at h
    split at h
    · rename_i hpath
      rw [hpath, Option.some.inj h]
    · cases h

theorem exists_of_fetch [Scalar K] {suffixes : List Text} {fs : Files} {source : Text}
    {d : Document K} (h : (fetch suffixes fs source).1 = .ok (some d)) :
    ∃ path body, syncFile? suffixes fs source = some path ∧
      fs.readMaybeCompressed? path = some body ∧ Document.ofText body = .ok d := by
  rw [fetch] at h
  split at h
  · cases h
  · rename_i path hpath
    simp only [readDocument] at h
    split at h
    · cases h
    · rename_i body hbody
      split at h <;> cases h
      rename_i hparse
      exact ⟨path, body, hpath, hbody, hparse⟩

/-- The loads that read what there is: the document in the slot, and the one that each load has. -/
structure Readers where
  slot : Option Nat := none
  found : Nat → Option Nat := fun _ => none

namespace Readers

def withFound (id : Nat) (reader : Option Nat) (r : Readers) : Readers :=
  { r with found := Function.update r.found id reader }

/-- Only a load that misses reads; otherwise documents are passed on. -/
def step (w : World K) (r : Readers) : Event → Readers
  | .get id source =>
    match w.loads id with
    | none => r.withFound id ((w.slot.get? source).bind fun _ => r.slot)
    | some _ => r
  | .read id =>
    match w.loads id with
    | some ⟨_, _, .missed⟩ => r.withFound id (some id)
    | _ => r
  | .store id =>
    match w.loads id with
    | some ⟨_, _, .read _⟩ => { r with slot := r.found id }
    | _ => r
  | .clear => { r with slot := none }
  | .write _ _ | .delete _ => r

end Readers

namespace World

private theorem source_withLoad {w : World K} {id j : Nat} {l m : Load K}
    (hl : w.loads id = some l) (hm : ∀ l', w.loads j = some l' → m.source = l'.source) :
    ∃ l', (w.withLoad j m).loads id = some l' ∧ l'.source = l.source := by
  by_cases hj : id = j
  · subst hj
    exact ⟨m, loads_withLoad .., hm l hl⟩
  · exact ⟨l, (Function.update_of_ne hj ..).trans hl, rfl⟩

section
variable [Scalar K] (suffixes : List Text) (files : Files)

/-- A run from the start, with the loads that read what there is at its end. -/
def runWithReaders (events : List Event) : World K × Readers :=
  events.foldl (fun p e => (step suffixes p.1 e, p.2.step p.1 e)) ({ files }, {})

/-- At some moment of the run the load missed and read its file: the first there was of those that
belong to the source file. The document is what the file said at that moment. -/
def HasRead (events : List Event) (id : Nat) (source : Text) (d : Document K) : Prop :=
  ∃ before after askedAt path body, events = before ++ .read id :: after ∧
    let w : World K := run suffixes before { files }
    w.loads id = some ⟨source, askedAt, .missed⟩ ∧
      syncFile? suffixes w.files source = some path ∧
        w.files.readMaybeCompressed? path = some body ∧ Document.ofText body = .ok d

/-- The load read the document for the source file, and reads for no other one. -/
def IsReader (events : List Event) (id : Nat) (source : Text) (d : Document K) : Prop :=
  HasRead suffixes files events id source d ∧
    ∀ source' d', HasRead (K := K) suffixes files events id source' d' → source' = source

/-- Whatever is in the slot or in the hands of a load was read by a load of the same source file. -/
structure IsAttributed (events : List Event) (w : World K) (r : Readers) : Prop where
  slot : ∀ {source d}, w.slot = some (source, d) →
    ∃ reader, r.slot = some reader ∧ HasRead suffixes files events reader source d
  loads : ∀ {id l f}, w.loads id = some l → l.stage.found? = some f →
    ∃ reader, r.found id = some reader ∧ HasRead suffixes files events reader l.source f.document

end

variable [Scalar K] {suffixes : List Text} {files : Files} {events : List Event} {w : World K}
  {r : Readers}

private theorem run_concat (events : List Event) (e : Event) (w : World K) :
    run suffixes (events ++ [e]) w = step suffixes (run suffixes events w) e := by
  rw [run, List.foldl_append]
  rfl

private theorem runWithReaders_concat (events : List Event) (e : Event) :
    runWithReaders suffixes files (events ++ [e]) =
      let p : World K × Readers := runWithReaders suffixes files events
      (step suffixes p.1 e, p.2.step p.1 e) := by
  rw [runWithReaders, List.foldl_append]
  rfl

theorem runWithReaders_fst (suffixes : List Text) (files : Files) (events : List Event) :
    (runWithReaders suffixes files events).1 = run (K := K) suffixes events { files } := by
  induction events using List.reverseRecOn with
  | nil => rfl
  | append_singleton events e ih => rw [runWithReaders_concat, run_concat, ← ih]

/-- A load keeps its source file. -/
private theorem source_step (suffixes : List Text) {id : Nat} {l : Load K} (hl : w.loads id = some l)
    (e : Event) : ∃ l', (step suffixes w e).loads id = some l' ∧ l'.source = l.source := by
  cases e with
  | get j source =>
    rw [step]
    split
    · rename_i hj
      exact source_withLoad hl fun l' hl' => by rw [hj] at hl'; cases hl'
    · exact ⟨l, hl, rfl⟩
  | read j =>
    rw [step]
    split
    · rename_i hj
      exact source_withLoad hl fun l' hl' => by rw [hj] at hl'; cases hl'; rfl
    · exact ⟨l, hl, rfl⟩
  | store j =>
    rw [step]
    split
    · rename_i f hj
      exact source_withLoad hl fun l' hl' => by rw [hj] at hl'; cases hl'; rfl
    · exact ⟨l, hl, rfl⟩
  | clear => exact ⟨l, hl, rfl⟩
  | write path content => exact ⟨l, hl, rfl⟩
  | delete path => exact ⟨l, hl, rfl⟩

private theorem source_run (suffixes : List Text) {id : Nat} {l : Load K} (hl : w.loads id = some l)
    (events : List Event) :
    ∃ l', (run suffixes events w).loads id = some l' ∧ l'.source = l.source := by
  refine run_induction (P := fun w : World K => ∃ l', w.loads id = some l' ∧ l'.source = l.source)
    (fun w e hw => ?_) events ⟨l, hl, rfl⟩
  obtain ⟨l', hl', hs⟩ := hw
  obtain ⟨m, hm, hms⟩ := source_step suffixes hl' e
  exact ⟨m, hm, hms.trans hs⟩

theorem HasRead.isReader {id : Nat} {source : Text} {d : Document K}
    (h : HasRead suffixes files events id source d) : IsReader suffixes files events id source d := by
  refine ⟨h, fun source' d' h' => ?_⟩
  obtain ⟨before, after, askedAt, -, -, he, hl, -⟩ := h
  obtain ⟨before', after', askedAt', -, -, he', hl', -⟩ := h'
  have hb : before <+: events := he ▸ List.prefix_append ..
  have hb' : before' <+: events := he' ▸ List.prefix_append ..
  -- The load is the same at both moments, whichever comes first.
  rcases List.prefix_or_prefix_of_prefix hb hb' with ⟨between, rfl⟩ | ⟨between, rfl⟩
  · obtain ⟨l, hlater, hs⟩ := source_run suffixes hl between
    rw [run, List.foldl_append] at hl'
    cases hlater.symm.trans hl'
    exact hs
  · obtain ⟨l, hlater, hs⟩ := source_run suffixes hl' between
    rw [run, List.foldl_append] at hl
    cases hlater.symm.trans hl
    exact hs.symm

private theorem HasRead.concat {id : Nat} {source : Text} {d : Document K}
    (h : HasRead suffixes files events id source d) (e : Event) :
    HasRead suffixes files (events ++ [e]) id source d := by
  obtain ⟨before, after, askedAt, path, body, rfl, h⟩ := h
  exact ⟨before, after ++ [e], askedAt, path, body, by simp, h⟩

private theorem IsAttributed.concat (h : IsAttributed suffixes files events w r) (e : Event) :
    IsAttributed suffixes files (events ++ [e]) w r where
  slot hs := by
    obtain ⟨reader, hr, hread⟩ := h.slot hs
    exact ⟨reader, hr, hread.concat e⟩
  loads hl hf := by
    obtain ⟨reader, hr, hread⟩ := h.loads hl hf
    exact ⟨reader, hr, hread.concat e⟩

private theorem isAttributed_withLoad (h : IsAttributed suffixes files events w r) {id : Nat}
    {l : Load K} {reader : Option Nat}
    (hl : ∀ {f}, l.stage.found? = some f →
      ∃ n, reader = some n ∧ HasRead suffixes files events n l.source f.document) :
    IsAttributed suffixes files events (w.withLoad id l) (r.withFound id reader) where
  slot := h.slot
  loads {j m f} hm hf := by
    by_cases hj : j = id
    · subst hj
      rw [loads_withLoad] at hm
      cases hm
      obtain ⟨n, hn, hread⟩ := hl hf
      exact ⟨n, (Function.update_self ..).trans hn, hread⟩
    · rw [withLoad] at hm
      obtain ⟨n, hn, hread⟩ := h.loads ((Function.update_of_ne hj ..).symm.trans hm) hf
      exact ⟨n, (Function.update_of_ne hj ..).trans hn, hread⟩

private theorem isAttributed_get (h : IsAttributed suffixes files events w r) (id : Nat)
    (source : Text) :
    IsAttributed suffixes files events (w.get id source)
      (r.withFound id ((w.slot.get? source).bind fun _ => r.slot)) := by
  apply isAttributed_withLoad h
  cases hs : w.slot.get? source with
  | none => exact nofun
  | some d =>
    intro f hf
    cases hf
    exact h.slot (Slot.eq_of_get? hs)

private theorem isAttributed_read (h : IsAttributed suffixes files events w r)
    (hw : w = run suffixes events { files }) {id askedAt : Nat} {source : Text}
    (hl : w.loads id = some ⟨source, askedAt, .missed⟩) :
    IsAttributed suffixes files (events ++ [.read id])
      (w.withLoad id ⟨source, askedAt, .ofFetched w.clears (fetch suffixes w.files source).1⟩)
      (r.withFound id (some id)) := by
  apply isAttributed_withLoad (h.concat _)
  intro f hf
  obtain ⟨path, body, hpath, hbody, hparse⟩ := exists_of_fetch (eq_of_found?_ofFetched hf)
  exact ⟨id, rfl, events, [], askedAt, path, body, rfl, hw ▸ ⟨hl, hpath, hbody, hparse⟩⟩

private theorem isAttributed_store (h : IsAttributed suffixes files events w r) {id askedAt : Nat}
    {source : Text} {f : Found K} (hl : w.loads id = some ⟨source, askedAt, .read f⟩) :
    IsAttributed suffixes files events (w.store id source askedAt f) { r with slot := r.found id } := by
  obtain ⟨reader, hr, hread⟩ := h.loads hl rfl
  have hload : IsAttributed suffixes files events
      (w.withLoad id ⟨source, askedAt, .returned (.ok (some f))⟩) (r.withFound id (some reader)) := by
    apply isAttributed_withLoad h
    intro g hg
    cases hg
    exact ⟨reader, rfl, hread⟩
  rw [← hr, Readers.withFound, Function.update_eq_self] at hload
  refine ⟨fun hs => ?_, hload.loads⟩
  cases hs
  exact ⟨reader, hr, hread⟩

/-- Whatever happens next, documents keep their source files. -/
theorem isAttributed_step (h : IsAttributed suffixes files events w r)
    (hw : w = run suffixes events { files }) (e : Event) :
    IsAttributed suffixes files (events ++ [e]) (step suffixes w e) (r.step w e) := by
  have hsame := h.concat e
  cases e with
  | get id source =>
    rw [step, Readers.step]
    cases w.loads id with
    | none => exact isAttributed_get hsame id source
    | some l => exact hsame
  | read id =>
    rw [step, Readers.step]
    rcases hl : w.loads id with _ | ⟨source, askedAt, _ | f | result⟩
    · exact hsame
    · exact isAttributed_read h hw hl
    · exact hsame
    · exact hsame
  | store id =>
    rw [step, Readers.step]
    rcases hl : w.loads id with _ | ⟨source, askedAt, _ | f | result⟩
    · exact hsame
    · exact hsame
    · exact isAttributed_store hsame hl
    · exact hsame
  | clear =>
    refine ⟨fun hs => ?_, hsame.loads⟩
    cases hs
  | write path content => exact ⟨hsame.slot, hsame.loads⟩
  | delete path => exact ⟨hsame.slot, hsame.loads⟩

theorem isAttributed_run (suffixes : List Text) (files : Files) (events : List Event) :
    let p : World K × Readers := runWithReaders suffixes files events
    IsAttributed suffixes files events p.1 p.2 := by
  induction events using List.reverseRecOn with
  | nil => exact ⟨nofun, nofun⟩
  | append_singleton events e ih =>
    rw [runWithReaders_concat]
    exact isAttributed_step ih (runWithReaders_fst suffixes files events) e

/-- A load that returns a document returns one that was read, by itself or by another load, for the
same source file, and the slot holds such a document for its path. -/
theorem returned_read_for_source (suffixes : List Text) (files : Files) (events : List Event) :
    let w : World K := run suffixes events { files }
    let r := (runWithReaders (K := K) suffixes files events).2
    (∀ id l f, w.loads id = some l → l.stage = .returned (.ok (some f)) →
      ∃ reader, r.found id = some reader ∧
        IsReader suffixes files events reader l.source f.document) ∧
      ∀ source d, w.slot = some (source, d) →
        ∃ reader, r.slot = some reader ∧ IsReader suffixes files events reader source d := by
  intro w r
  have h : IsAttributed suffixes files events w r := by
    rw [show w = _ from (runWithReaders_fst suffixes files events).symm]
    exact isAttributed_run suffixes files events
  constructor
  · intro id l f hl hf
    obtain ⟨reader, hr, hread⟩ := h.loads (f := f) hl (by rw [hf]; rfl)
    exact ⟨reader, hr, hread.isReader⟩
  · intro source d hs
    obtain ⟨reader, hr, hread⟩ := h.slot hs
    exact ⟨reader, hr, hread.isReader⟩

end World

/-- Two loads race, each for its own file. The slot is cleared and one of the files is written anew
before both store what they read, and a third load finds what was stored last. -/
def racing : List Event :=
  [.get 0 "/a.tex".toList, .get 1 "/b.tex".toList, .read 0, .read 1, .clear,
    .write "/a.sync".toList (.bytes [0x63]), .store 1, .store 0, .get 2 "/a.tex".toList]

def twoFiles : Files :=
  (({} : Files).write "/a.sync".toList (.bytes [0x61])).write "/b.sync".toList (.bytes [0x62])

def documentOfVersion (version : Text) : Document Float := { Document.blank with version }

private theorem racing_ends :
    let w : World Float := World.run defaultSuffixes racing { files := twoFiles }
    w.loads 2 =
        some ⟨"/a.tex".toList, 1, .returned (.ok (some ⟨documentOfVersion ['a'], 0, some 1⟩))⟩ ∧
      w.slot = some ("/a.tex".toList, documentOfVersion ['a']) :=
  ⟨rfl, rfl⟩

theorem racing_read_for_source :
    let w : World Float := World.run defaultSuffixes racing { files := twoFiles }
    let r := (World.runWithReaders (K := Float) defaultSuffixes twoFiles racing).2
    let d := documentOfVersion ['a']
    (∃ l f, w.loads 2 = some l ∧ l.stage = .returned (.ok (some f)) ∧ r.found 2 = some 0 ∧
        World.IsReader defaultSuffixes twoFiles racing 0 l.source f.document) ∧
      w.slot = some ("/a.tex".toList, d) ∧ r.slot = some 0 ∧
        World.IsReader defaultSuffixes twoFiles racing 0 "/a.tex".toList d := by
  have h := World.returned_read_for_source (K := Float) defaultSuffixes twoFiles racing
  have hfound : (World.runWithReaders (K := Float) defaultSuffixes twoFiles racing).2.found 2 = some 0 := rfl
  have hslot : (World.runWithReaders (K := Float) defaultSuffixes twoFiles racing).2.slot = some 0 := rfl
  obtain ⟨reader, hr, hread⟩ := h.1 2 _ _ racing_ends.1 rfl
  obtain ⟨reader', hr', hread'⟩ := h.2 _ _ racing_ends.2
  cases hfound.symm.trans hr
  cases hslot.symm.trans hr'
  exact ⟨⟨_, _, racing_ends.1, rfl, hfound, hread⟩, racing_ends.2, hslot, hread'⟩

end TypesetTrace.Navigation
