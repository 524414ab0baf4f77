import TypesetTrace.Proofs.Text.Match
import TypesetTrace.Text.Numeral

/-! Numbers that are written in decimal are read back, and which can be read at all. -/
namespace TypesetTrace.Text

/-- A number is written with no more digits than are converted. -/
def IsWritable (n : Nat) : Prop := (ofNat n).length ≤ maxDigits

instance (n : Nat) : Decidable (IsWritable n) := inferInstanceAs (Decidable (_ ≤ _))

theorem isAsciiDigit_of_mem_ofNat {n : Nat} {c : Char} (h : c ∈ ofNat n) : isAsciiDigit c := by
  have hd := Nat.isDigit_of_mem_toDigits (by decide) (by decide) h
  simpa [isAsciiDigit, Char.isDigit, Char.le_def, UInt32.le_iff_toNat_le] using hd

theorem isDigit_eq_false_of_isBlank {c : Char} (h : isBlank c) : isDigit c = false := by
  let blanks : List Nat := List.range' 0x09 5 ++ List.range' 0x1C 5 ++ List.range' 0x2000 11 ++
    [0x85, 0xA0, 0x1680, 0x2028, 0x2029, 0x202F, 0x205F, 0x3000]
  have hblank : c.toNat ∈ blanks := by
    simp only [isBlank, Bool.or_eq_true, Bool.and_eq_true, decide_eq_true_eq, beq_iff_eq] at h
    simp only [blanks, List.mem_append, List.mem_range'_1, List.mem_cons, List.not_mem_nil, or_false]
    omega
  have hnone : ∀ n ∈ blanks, isDigit (Char.ofNat n) = false := by decide +kernel
  have hc := hnone c.toNat hblank
  rwa [Char.ofNat_toNat] at hc

theorem ofNat_ne_nil (n : Nat) : ofNat n ≠ [] := Nat.toDigits_ne_nil

theorem digitsValue_ofNat (n : Nat) : digitsValue (ofNat n) = n := by
  have he : ∀ (s : Text) (v : Nat), (∀ c ∈ s, isAsciiDigit c) →
      s.foldl (fun v c => 10 * v + (digitValue? c).getD 0) v = Nat.ofDigitChars 10 s v := by
    intro s
    induction s with
    | nil => intro v _; rfl
    | cons c s ih =>
      intro v hs
      have hc : digitValue? c = some (c.toNat - '0'.toNat) := if_pos (hs c (by simp))
      rw [Nat.ofDigitChars_cons, ← ih _ fun d hd => hs d (by simp [hd]), List.foldl_cons, hc]
      rfl
  rw [digitsValue, he _ _ fun c hc => isAsciiDigit_of_mem_ofNat hc]
  exact Nat.ofDigitChars_ten_toDigits

theorem toNat_ofNat {n : Nat} (h : IsWritable n) : toNat (ofNat n) = .ok n := by
  rw [toNat, if_pos (show (ofNat n).length ≤ maxDigits from h), digitsValue_ofNat]

/-- A number starts with a digit, so what is left of it after its first character matters only for
its value. -/
theorem exists_ofNat_eq_cons (n : Nat) : ∃ c s, ofNat n = c :: s ∧ isAsciiDigit c ∧ c ≠ '-' := by
  cases he : ofNat n with
  | nil => exact absurd he (ofNat_ne_nil n)
  | cons c s =>
    have hc := isAsciiDigit_of_mem_ofNat (n := n) (he ▸ List.mem_cons_self)
    exact ⟨c, s, rfl, hc, fun e => absurd (e ▸ hc) (by decide)⟩

theorem toInt_ofInt {i : Int} (h : IsWritable i.natAbs) : toInt (ofInt i) = .ok i := by
  cases i with
  | ofNat n =>
    obtain ⟨c, s, he, -, hc⟩ := exists_ofNat_eq_cons n
    have hn : toNat (ofNat n) = .ok n := toNat_ofNat h
    rw [ofInt, he, toInt, ← he, hn]
    · rfl
    · exact fun _ e => hc (List.cons.inj e).1
  | negSucc n =>
    have hn : toNat (ofNat (n + 1)) = .ok (n + 1) := toNat_ofNat h
    rw [ofInt, toInt, hn]
    rfl

/-- The digits of a number behind its sign. -/
def withoutSign : Text → Text
  | '-' :: digits => digits
  | digits => digits

theorem withoutSign_eq_self {s : Text} (h : ∀ digits, s ≠ '-' :: digits) : withoutSign s = s := by
  unfold withoutSign
  split
  · exact absurd rfl (h _)
  · rfl

/-- A sign changes a number to its opposite, and nothing about whether it can be converted. -/
theorem toInt_eq (s : Text) :
    ∃ f : Nat → Int, toInt s = (toNat (withoutSign s)).map f ∧ ∀ n, (f n).natAbs = n := by
  unfold toInt
  split
  · rename_i digits
    refine ⟨fun n => -n, ?_, fun n => Int.natAbs_neg n⟩
    show _ = (toNat digits).map _
    cases toNat digits <;> rfl
  · rename_i hsign
    refine ⟨fun n => n, ?_, fun n => rfl⟩
    rw [withoutSign_eq_self hsign]
    cases toNat s <;> rfl

theorem digitValue?_le {c : Char} {n : Nat} (h : digitValue? c = some n) : n ≤ 9 := by
  rw [digitValue?] at h
  split at h
  · rename_i hc
    rw [isAsciiDigit, Bool.and_eq_true, decide_eq_true_iff, decide_eq_true_iff] at hc
    have h0 : '0'.toNat = 48 := rfl
    have h9 : '9'.toNat = 57 := rfl
    have hn := Option.some.inj h
    omega
  · obtain ⟨z, hz, rfl⟩ := Option.map_eq_some_iff.mp h
    have hz := List.find?_some hz
    rw [Bool.and_eq_true, decide_eq_true_iff, decide_eq_true_iff] at hz
    omega

theorem digitsValue_lt (digits : Text) : digitsValue digits < Nat.pow 10 digits.length := by
  -- The induction is on the digits that are still to be added to a value.
  have hfrom (v : Nat) :
      digits.foldl (fun v c => 10 * v + (digitValue? c).getD 0) v <
        (v + 1) * Nat.pow 10 digits.length := by
    induction digits generalizing v with
    | nil => exact Nat.lt_of_lt_of_eq (Nat.lt_succ_self v) (Nat.mul_one (v + 1)).symm
    | cons c digits ih =>
      have hc : (digitValue? c).getD 0 ≤ 9 := by
        cases h : digitValue? c with
        | none => exact Nat.zero_le 9
        | some n => exact digitValue?_le h
      calc (c :: digits).foldl (fun v c => 10 * v + (digitValue? c).getD 0) v
          < (10 * v + (digitValue? c).getD 0 + 1) * Nat.pow 10 digits.length := ih _
        _ ≤ ((v + 1) * 10) * Nat.pow 10 digits.length := Nat.mul_le_mul_right _ (by omega)
        _ = (v + 1) * (Nat.pow 10 digits.length * 10) := by rw [Nat.mul_assoc, Nat.mul_comm 10]
  have := hfrom 0
  rwa [Nat.zero_add, Nat.one_mul] at this

theorem run?_ofNat (n : Nat) {r : Text} (hr : ∀ c ∈ r.head?, isAsciiDigit c = false) :
    run? isAsciiDigit (ofNat n ++ r) = some (ofNat n, r) :=
  run?_append (ofNat_ne_nil n) (fun _ hc => isAsciiDigit_of_mem_ofNat hc) hr

theorem withoutSign_cons {c : Char} (hc : isAsciiDigit c) (s : Text) : withoutSign (c :: s) = c :: s := by
  refine withoutSign_eq_self fun digits h => ?_
  rw [(List.cons.inj h).1] at hc
  exact absurd hc (by decide)

/-- Behind a sign a run of digits is read. -/
theorem exists_of_signedRun? {s t r : Text} (h : signedRun? s = some (t, r)) :
    ∃ u, u <:+ s ∧ run? isAsciiDigit u = some (withoutSign t, r) := by
  unfold signedRun? at h
  split at h
  · rename_i u
    refine ⟨u, List.suffix_cons '-' u, ?_⟩
    cases htake : u.takeWhile isAsciiDigit with
    | nil =>
      rw [htake] at h
      cases h
    | cons c digits =>
      rw [htake] at h
      cases h
      rw [run?, htake]
      rfl
  · refine ⟨s, List.suffix_refl s, ?_⟩
    cases htake : s.takeWhile isAsciiDigit with
    | nil =>
      rw [htake] at h
      cases h
    | cons c digits =>
      rw [htake] at h
      cases h
      have hc : c ∈ s.takeWhile isAsciiDigit := htake ▸ List.mem_cons_self
      rw [run?, htake, withoutSign_cons (List.all_eq_true.mp List.all_takeWhile c hc)]

/-- One digit is enough behind the sign. -/
theorem signedRun?_isSome_iff {s : Text} : (signedRun? s).isSome ↔
    ∃ sign digit rest, s = sign ++ digit :: rest ∧ (sign = [] ∨ sign = ['-']) ∧ isAsciiDigit digit := by
  constructor
  · intro h
    unfold signedRun? at h
    split at h
    · rename_i u
      cases u with
      | nil => cases h
      | cons c u =>
        by_cases hc : isAsciiDigit c
        · exact ⟨['-'], c, u, rfl, .inr rfl, hc⟩
        · simp [hc] at h
    · cases s with
      | nil => cases h
      | cons c s =>
        by_cases hc : isAsciiDigit c
        · exact ⟨[], c, s, rfl, .inl rfl, hc⟩
        · simp [hc] at h
  · rintro ⟨sign, digit, rest, rfl, hsign, hdigit⟩
    have hne : digit ≠ '-' := by
      rintro rfl
      exact absurd hdigit (by decide)
    rcases hsign with rfl | rfl
    · simp [signedRun?, hdigit, hne]
    · simp [signedRun?, hdigit]

theorem signedRun?_ofInt (i : Int) {r : Text} (hr : ∀ c ∈ r.head?, isAsciiDigit c = false) :
    signedRun? (ofInt i ++ r) = some (ofInt i, r) := by
  cases i with
  | ofNat n =>
    obtain ⟨c, s, he, -, hc⟩ := exists_ofNat_eq_cons n
    obtain ⟨ht, hd⟩ := span_append (t := ofNat n) (fun _ => isAsciiDigit_of_mem_ofNat) hr
    rw [ofInt, signedRun?, ht, hd, he]
    exact fun _ e => hc (by rw [he] at e; exact (List.cons.inj e).1)
  | negSucc n =>
    obtain ⟨c, s, he, -⟩ := exists_ofNat_eq_cons (n + 1)
    obtain ⟨ht, hd⟩ := span_append (t := ofNat (n + 1)) (fun _ => isAsciiDigit_of_mem_ofNat) hr
    rw [ofInt, List.cons_append, signedRun?, ht, hd, he]

end TypesetTrace.Text
