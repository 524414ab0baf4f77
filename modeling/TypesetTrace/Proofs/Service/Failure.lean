import TypesetTrace.Proofs.Navigation.Failure
import TypesetTrace.Service.Endpoint

/-! Internal failures of the service. A request that only looks something up is answered with one exactly
if the question that it asks is not answered, that is if the numbers of a synchronisation file cannot be
converted. -/
namespace TypesetTrace.Service
open Navigation Sync

def asked {α : Type} (fields : Checked α) (file : α → Text) (query : α → Query Float) :
    Option (Query Float) :=
  match fields with
  | .error _ => none
  | .ok fields =>
    if file fields ≠ [] ∧ Path.isAbsolute (file fields) then some (query fields) else none

def Endpoint.query? (e : Endpoint) (r : Request) : Option (Query Float) :=
  match e with
  | .forward => asked (r.file.both r.line) (·.1) fun (file, line) => .forward file line
  | .inverse =>
    asked (r.file.both (r.page.both ((r.coordinate "x").both (r.coordinate "y")))) (·.1)
      fun (file, page, x, y) => .inverse file page x y
  | .lineMap => asked r.file id .lineMap
  | .diagnostics | .cache => none

/-- The values that the objections are about can be sent. -/
def Checked.AreSendable {α : Type} (c : Checked α) : Prop :=
  ∀ objections, c = .error objections → objections.all (isSendable ·.given)

theorem Checked.AreSendable.both {α β : Type} {a : Checked α} {b : Checked β} (ha : a.AreSendable)
    (hb : b.AreSendable) : (a.both b).AreSendable := by
  intro objections h
  rcases a with es | a <;> rcases b with es' | b
  · cases h
    rw [List.all_append, ha es rfl, hb es' rfl]
    rfl
  · cases h
    exact ha _ rfl
  · cases h
    exact hb _ rfl
  · cases h

/-- What is missing or cannot be read in a query is not sent back. -/
theorem areSendable_required {α : Type} (r : Request) (name : String) (read : Text → Except Complaint α) :
    (r.required name read).AreSendable := by
  intro objections h
  rw [Request.required] at h
  split at h
  · cases h
    rfl
  · rename_i s _
    cases hread : read s with
    | ok a =>
      rw [hread] at h
      cases h
    | error complaint =>
      rw [hread] at h
      cases h
      rfl

theorem answered_status_iff {α : Type} {a : Access Float α} {g : α → Answer Float}
    (hg : ∀ x, (g x).status ≠ 500) :
    (answered a g).1.status = 500 ↔ ∃ fault, a.result = .error fault := by
  rw [answered]
  cases a.result with
  | ok x => exact ⟨fun h => absurd h (hg x), fun ⟨_, h⟩ => nomatch h⟩
  | error fault => exact ⟨fun _ => ⟨fault, rfl⟩, fun _ => rfl⟩

theorem asking_status_iff {α : Type} {fields : Checked α} {file : α → Text} {query : α → Query Float}
    {slot : Slot Float} {ask : α → Answer Float × Slot Float} (hfields : fields.AreSendable)
    {P : Query Float → Prop} (hask : ∀ x, (ask x).1.status = 500 ↔ P (query x)) :
    (asking fields file slot ask).1.status = 500 ↔ ∃ q, asked fields file query = some q ∧ P q := by
  -- Whatever is refused beforehand asks nothing.
  have hrefused {answer : Answer Float} (hstatus : answer.status ≠ 500) :
      answer.status = 500 ↔ ∃ q, (none : Option (Query Float)) = some q ∧ P q := by
    simp [hstatus]
  rcases fields with objections | x
  · rw [asking, objected, if_pos (hfields objections rfl)]
    exact hrefused (show 422 ≠ 500 by decide)
  · rw [asking, asked, sourceFile]
    by_cases hnil : file x = []
    · rw [if_pos hnil, if_neg fun h => h.1 hnil]
      exact hrefused (show 400 ≠ 500 by decide)
    · cases habsolute : Path.isAbsolute (file x) with
      | false =>
        have hrelative : ¬ (file x ≠ [] ∧ false = true) := fun h => Bool.false_ne_true h.2
        rw [if_neg hnil, if_neg hrelative]
        exact hrefused (show 400 ≠ 500 by decide)
      | true =>
        have hvalid : file x ≠ [] ∧ true = true := ⟨hnil, rfl⟩
        rw [if_neg hnil, if_pos hvalid]
        refine (hask x).trans ⟨fun h => ⟨query x, rfl, h⟩, ?_⟩
        rintro ⟨q, hq, h⟩
        cases hq
        exact h

theorem orNoData_status_ne {α : Type} {f : α → Answer Float} (hf : ∀ x, (f x).status = 200)
    (found : Option α) : (orNoData f found).status ≠ 500 := by
  cases found with
  | none => exact nofun
  | some x =>
    show (f x).status ≠ 500
    rw [hf]
    decide

/-- At the endpoints that look something up the answer is an internal failure exactly if the question
that the request asks is not answered. -/
theorem Endpoint.answer_status_iff {e : Endpoint} (he : e.method = "GET") (fs : Files) (r : Request)
    (slot : Slot Float) : (e.answer fs r slot).1.status = 500 ↔
      ∃ q, e.query? r = some q ∧ ∃ fault, (({} : Navigator).ask fs slot q).result = .error fault := by
  have hask (q : Query Float) {α : Type} {a : Access Float α} {g : α → Answer Float}
      (hg : ∀ x, (g x).status ≠ 500) (ha : ∀ {fault : Fault}, a.result = .error fault ↔
        (({} : Navigator).load fs q.source slot).result = .error fault) :
      (answered a g).1.status = 500 ↔ ∃ fault, (({} : Navigator).ask fs slot q).result = .error fault := by
    rw [answered_status_iff hg]
    exact exists_congr fun fault => ha.trans Navigator.ask_eq_error_iff.symm
  have hfile : r.file.AreSendable := areSendable_required r "file" .ok
  cases e with
  | diagnostics => exact absurd he (by decide)
  | cache => exact absurd he (by decide)
  | forward =>
    refine asking_status_iff (hfile.both (areSendable_required r "line" _)) fun (file, line) => ?_
    exact hask (.forward file line) (orNoData_status_ne fun _ => rfl) Navigator.forward_eq_error_iff
  | inverse =>
    have hpoint (name : String) : (r.coordinate name).AreSendable := areSendable_required r name _
    refine asking_status_iff (hfile.both ((areSendable_required r "page" _).both
      ((hpoint "x").both (hpoint "y")))) fun (file, page, x, y) => ?_
    exact hask (.inverse file page x y) (orNoData_status_ne fun _ => rfl) Navigator.inverse_eq_error_iff
  | lineMap =>
    refine asking_status_iff hfile fun file => ?_
    exact hask (.lineMap file) (fun _ => nofun) Navigator.lineMap_eq_error_iff

theorem Endpoint.method_of_query? {e : Endpoint} {r : Request} {q : Query Float}
    (h : e.query? r = some q) : e.method = "GET" := by
  cases e with
  | diagnostics => cases h
  | cache => cases h
  | _ => rfl

theorem answer_status_iff {fs : Files} {r : Request} {slot : Slot Float} (hget : r.verb = "GET") :
    (answer fs r slot).1.status = 500 ↔
      ∃ e q, Target.ofLocation? (location r.path) = some (.endpoint e) ∧ e.query? r = some q ∧
        ∃ fault, (({} : Navigator).ask fs slot q).result = .error fault := by
  rw [answer]
  cases Target.ofLocation? (location r.path) with
  | none =>
    refine ⟨fun h => ?_, fun ⟨_, _, h, _⟩ => nomatch h⟩
    dsimp only at h
    split at h <;> cases h
  | some t =>
    cases t with
    | page p =>
      refine ⟨fun h => ?_, fun ⟨_, _, h, _⟩ => nomatch h⟩
      dsimp only at h
      split at h <;> cases h
    | endpoint e =>
      dsimp only
      by_cases he : e.method = "GET"
      · have hmethods : r.verb ∈ (Target.endpoint e).methods := by
          rw [hget, ← he]
          exact List.mem_singleton_self _
        rw [if_neg (not_not_intro hmethods), Endpoint.answer_status_iff he]
        constructor
        · rintro ⟨q, hq, h⟩
          exact ⟨e, q, rfl, hq, h⟩
        · rintro ⟨_, q, ht, hq, h⟩
          cases ht
          exact ⟨q, hq, h⟩
      · have hmethods : r.verb ∉ (Target.endpoint e).methods := by
          rw [hget]
          exact fun h => he (List.mem_singleton.mp h).symm
        rw [if_pos hmethods]
        refine ⟨nofun, ?_⟩
        rintro ⟨_, q, ht, hq, -⟩
        cases ht
        exact absurd (Endpoint.method_of_query? hq) he

/-- A question about a source file is not answered exactly if its document is not in the slot and the
synchronisation file that is read for it comes to a number that cannot be converted; where there is no
document it is answered with nothing. No file comes to such a number that has no more than 308 digits in
a row, whatever else is in it. The service answers a request that looks
something up with an internal failure exactly if the question of the request is not answered. -/
theorem fails_only_at_unconvertible (fs : Files) :
    (∀ (nav : Navigator) (slot : Slot Float) (q : Query Float) (fault : Fault),
      (nav.ask fs slot q).result = .error fault ↔
        slot.path? ≠ some q.source ∧ FailsFor nav.suffixes fs q.source fault) ∧
      (∀ (nav : Navigator) (slot : Slot Float) (q : Query Float),
        (nav.load fs q.source slot).result = .ok none → (nav.ask fs slot q).result = .ok q.nothing) ∧
      (∀ suffixes source, (∀ path body, syncFile? suffixes fs source = some path →
        fs.readMaybeCompressed? path = some body →
          ∀ digits, IsDigitsIn digits body → digits.length ≤ Numeral.safeDigits) →
        ∀ fault, ¬ FailsFor suffixes fs source fault) ∧
      ∀ (r : Request) (slot : Slot Float), r.verb = "GET" →
        ((answer fs r slot).1.status = 500 ↔
          ∃ e q fault, Target.ofLocation? (location r.path) = some (.endpoint e) ∧
            e.query? r = some q ∧ slot.path? ≠ some q.source ∧
            FailsFor defaultSuffixes fs q.source fault) := by
  refine ⟨fun nav slot q fault => nav.ask_fails_iff fs slot q fault,
    fun nav slot q => Navigator.ask_of_load_none, ?_, fun r slot hget => ?_⟩
  · rintro suffixes source hsafe fault ⟨path, body, hpath, hbody, hfails⟩
    exact Document.not_fails_of_safe (hsafe path body hpath hbody) fault hfails
  · rw [answer_status_iff hget]
    simp only [Navigator.ask_fails_iff, exists_and_left]

def offsetBody (count : Nat) : Text := "\nX Offset:".toList ++ List.replicate count '1'

def offsetFiles (count : Nat) : Files :=
  Files.write "/a.sync".toList (.bytes ((offsetBody count).map fun c => UInt8.ofNat c.toNat)) {}

def anchorsRequest : Request :=
  { method := "GET", path := "/synctex/linemap".toList, query := [("file".toList, "/a.tex".toList)] }

theorem anchorsRequest_verb : anchorsRequest.verb = "GET" := by decide +kernel

theorem anchorsRequest_asks :
    Target.ofLocation? (location anchorsRequest.path) = some (.endpoint .lineMap) ∧
      Endpoint.lineMap.query? anchorsRequest = some (.lineMap "/a.tex".toList) := by
  have hfield : anchorsRequest.queryField? "file" = some "/a.tex".toList := by decide +kernel
  refine ⟨by decide +kernel, ?_⟩
  rw [Endpoint.query?, Request.file, Request.required, hfield]
  rfl

/-- An offset of 310 digits is beyond the doubles. -/
theorem wideOffset_fails :
    FailsFor defaultSuffixes (offsetFiles 310) "/a.tex".toList .integerTooLarge := by
  have hrecords : recordsOf (offsetBody 310) = [.offset 'X' (List.replicate 310 '1')] := by decide +kernel
  have hfault : (Numeral.length (List.replicate 310 '1')).fault? = some .integerTooLarge := by
    decide +kernel
  refine ⟨"/a.sync".toList, offsetBody 310, by decide +kernel, by decide +kernel, ?_⟩
  refine ⟨[], _, [], _, hrecords, rfl, ?_⟩
  rw [Reading.numerals, List.findSome?_singleton, hfault]

/-- With three digits the file is read, with 310 it is not. -/
theorem offsetFiles_answered :
    (({} : Navigator).ask (offsetFiles 3) (none : Slot Float) (.lineMap "/b.tex".toList)).result =
        .ok (.anchors []) ∧
      (∀ fault, ¬ FailsFor defaultSuffixes (offsetFiles 3) "/a.tex".toList fault) ∧
      (({} : Navigator).ask (offsetFiles 310) (none : Slot Float) (.lineMap "/a.tex".toList)).result =
        .error .integerTooLarge ∧
      (answer (offsetFiles 310) anchorsRequest none).1.status = 500 := by
  obtain ⟨-, hnone, hsafe, -⟩ := fails_only_at_unconvertible (offsetFiles 3)
  obtain ⟨hask, -, -, hget⟩ := fails_only_at_unconvertible (offsetFiles 310)
  obtain ⟨htarget, hquery⟩ := anchorsRequest_asks
  have hbody : (syncFile? defaultSuffixes (offsetFiles 3) "/a.tex".toList).bind
      (offsetFiles 3).readMaybeCompressed? = some (offsetBody 3) := by decide +kernel
  refine ⟨hnone {} none (.lineMap "/b.tex".toList) ?_, hsafe _ _ fun path body hpath h digits hdigits => ?_,
    ?_, ?_⟩
  · have hfile : syncFile? defaultSuffixes (offsetFiles 3) "/b.tex".toList = none := by decide +kernel
    show (load defaultSuffixes (offsetFiles 3) "/b.tex".toList none).result = .ok none
    rw [(load_of_miss rfl).1, fetch, hfile]
  · rw [hpath, Option.bind_some, h] at hbody
    have hlength := hdigits.within.length_le
    rw [Option.some.inj hbody] at hlength
    exact hlength.trans (by decide +kernel)
  · exact (hask {} none _ _).mpr ⟨nofun, wideOffset_fails⟩
  · exact (hget anchorsRequest none anchorsRequest_verb).mpr
      ⟨.lineMap, _, .integerTooLarge, htarget, hquery, nofun, wideOffset_fails⟩

/-- Neither the question nor the request is answered then. -/
theorem wideOffset_unanswered :
    (¬ ∀ (fs : Files) (nav : Navigator) (slot : Slot Float) (q : Query Float),
      ∃ reply, (nav.ask fs slot q).result = .ok reply) ∧
      ¬ ∀ (fs : Files) (r : Request) (slot : Slot Float), r.verb = "GET" →
        (answer fs r slot).1.status ≠ 500 := by
  have hfails : (({} : Navigator).ask (offsetFiles 310) (none : Slot Float)
      (.lineMap "/a.tex".toList)).result = .error .integerTooLarge :=
    (Navigator.ask_fails_iff {} _ none _ _).mpr ⟨nofun, wideOffset_fails⟩
  obtain ⟨htarget, hquery⟩ := anchorsRequest_asks
  constructor
  · intro h
    obtain ⟨reply, hreply⟩ := h (offsetFiles 310) {} none (.lineMap "/a.tex".toList)
    rw [hreply] at hfails
    cases hfails
  · intro h
    refine h (offsetFiles 310) anchorsRequest none anchorsRequest_verb ?_
    exact (answer_status_iff anchorsRequest_verb).mpr ⟨_, _, htarget, hquery, _, hfails⟩

end TypesetTrace.Service
