import CodeMentor.Json.Record
import CodeMentor.Proofs.Json.Printing
import CodeMentor.Proofs.Number.Range
import CodeMentor.Proofs.Text.Pieces
import Mathlib.Data.List.TakeWhile

/-!
# Numbers and their numerals

A natural number is written with its digits, which are a numeral and read as the same number; as a
binary number it is finite, so a value that holds it can be held as a whole. A binary number is
written with digits, a point and an exponent, which are a numeral as well. Whether it reads back as
itself is a property of the number.
-/

namespace CodeMentor.Json

open CodeMentor.Number

/-! ## Natural numbers -/

theorem digitsValue_toDigits (n : Nat) : digitsValue (Nat.toDigits 10 n) = n := by
  have hvalue : ∀ ds, digitsValue ds = Nat.ofDigitChars 10 ds 0 := by
    intro ds
    simp only [digitsValue, Nat.ofDigitChars, Nat.mul_comm]
    rfl
  rw [hvalue, Nat.ofDigitChars_ten_toDigits]

theorem isDigits_toDigits (n : Nat) : IsDigits (Nat.toDigits 10 n) :=
  ⟨Nat.toDigits_ne_nil, fun _ hc ↦ Nat.isDigit_of_mem_toDigits (by decide) (by decide) hc⟩

/-- Digits are put behind those of a tenth, which is not zero, so no zero comes to stand in front. -/
theorem isInteger_toDigits (n : Nat) : IsInteger (Nat.toDigits 10 n) := by
  refine ⟨isDigits_toDigits n, ?_⟩
  induction n using Nat.strong_induction_on with
  | _ n ih =>
      rw [Nat.toDigits_eq_if (by decide)]
      split
      · simp
      next hge =>
        intro hzero
        rw [List.head?_append_of_ne_nil _ Nat.toDigits_ne_nil] at hzero
        have hvalue := digitsValue_toDigits (n / 10)
        rw [ih (n / 10) (by omega) hzero] at hvalue
        simp [digitsValue] at hvalue
        omega

theorem isNumeral_toDigits (n : Nat) : IsNumeral (Nat.toDigits 10 n) :=
  .inl ⟨Nat.toDigits 10 n, [], [], by simp, isInteger_toDigits n, .inl rfl, .inl rfl⟩

@[simp] theorem natural?_ofNat (n : Nat) : natural? (ofNat n) = some n := by
  obtain ⟨hne, hall⟩ := isDigits_toDigits n
  simp only [natural?, ofNat, digitsValue_toDigits]
  rw [if_neg]
  simpa [hne] using hall

theorem below?_ofNat {bound n : Nat} (h : n < bound) : below? bound (ofNat n) = some n := by
  simp [below?, h]

@[simp] theorem uint8?_ofNat (n : UInt8) : uint8? (ofNat n.toNat) = some n := by
  simp [uint8?, below?_ofNat n.toNat_lt]

@[simp] theorem uint32?_ofNat (n : UInt32) : uint32? (ofNat n.toNat) = some n := by
  simp [uint32?, below?_ofNat n.toNat_lt]

@[simp] theorem uint64?_ofNat (n : UInt64) : uint64? (ofNat n.toNat) = some n := by
  simp [uint64?, below?_ofNat n.toNat_lt]

/-! ## Natural numbers as binary numbers -/

theorem le_foldl_digits (ds : List Char) (significand : Nat) :
    significand ≤ ds.foldl (fun n c ↦ n * 10 + (c.toNat - 48)) significand := by
  induction ds generalizing significand with
  | nil => exact le_rfl
  | cons c ds ih =>
      have hstep : significand ≤ significand * 10 + (c.toNat - 48) := by omega
      exact hstep.trans (ih _)

theorem absorbDigits_of_lt {ds : List Char} {significand : Nat}
    (h : ds.foldl (fun n c ↦ n * 10 + (c.toNat - 48)) significand < UInt64.size) :
    absorbDigits significand ds =
      (ds.foldl (fun n c ↦ n * 10 + (c.toNat - 48)) significand, []) := by
  induction ds generalizing significand with
  | nil => rfl
  | cons c ds ih =>
      have hnext := (le_foldl_digits ds _).trans_lt h
      simp only [absorbDigits, hnext, if_true]
      exact ih h

theorem magnitude?_of_digits {ds : List Char} (hdigits : IsDigits ds)
    (hlt : digitsValue ds < UInt64.size) :
    magnitude? ds = scaleByTen 8 (Binary64.ofNat (digitsValue ds)) 0 := by
  have htake : ds.takeWhile Char.isDigit = ds := List.takeWhile_eq_self_iff.mpr hdigits.2
  have hdrop : ds.dropWhile Char.isDigit = [] := List.dropWhile_eq_nil_iff.mpr hdigits.2
  have habsorb : absorbDigits 0 ds = (digitsValue ds, []) := absorbDigits_of_lt hlt
  simp [magnitude?, htake, hdrop, habsorb, absorbDigits]

theorem isSome_binary64?_ofNat {n : Nat} (h : n < UInt64.size) :
    (binary64? (ofNat n)).isSome = true := by
  obtain ⟨d, ds, hds, hd⟩ := (isDigits_toDigits n).exists_cons
  have hsign : binary64? (ofNat n) = magnitude? (Nat.toDigits 10 n) := by
    rw [ofNat, hds]
    exact binary64?.eq_2 _ (by rintro text ⟨⟩; simp at hd)
  have hfinite : ((Binary64.ofNat n).mul (Binary64.ofNat 1)).isFinite = true :=
    (Binary64.atMost_ofNat (e := 64) h).isFinite_mul (Binary64.atMost_ofNat (e := 1) (by decide))
      (by decide)
  rw [hsign, magnitude?_of_digits (isDigits_toDigits n) (by rwa [digitsValue_toDigits]),
    digitsValue_toDigits, scaleByTen]
  simp [hfinite]

/-! ## Binary numbers -/

/-- Digits of which the first is not zero, or a zero alone at the power zero. -/
def Proper (d : Decimal) : Prop :=
  IsDigits d.digits ∧ (d.digits.head? = some '0' → d = ⟨['0'], 0⟩)

theorem head?_toDigits {n : Nat} (h : n ≠ 0) : (Nat.toDigits 10 n).head? ≠ some '0' := by
  intro hzero
  have hvalue := digitsValue_toDigits n
  rw [(isInteger_toDigits n).2 hzero] at hvalue
  exact h hvalue.symm

/-- Zeros at the end are left out; the first digit stays. -/
theorem proper_of_digits {n : Nat} (h : n ≠ 0) (exponent : Int) :
    Proper ⟨match ((Nat.toDigits 10 n).reverse.dropWhile (· == '0')).reverse with
      | [] => ['0']
      | ds => ds, exponent⟩ := by
  obtain ⟨c, cs, hcs, hc⟩ := (isDigits_toDigits n).exists_cons
  have hne := head?_toDigits h
  rw [hcs, List.head?_cons, ne_eq, Option.some.injEq] at hne
  have hhead : ((Nat.toDigits 10 n).reverse.dropWhile (· == '0')).reverse.head? = some c :=
    Text.head?_dropEndWhile (by rw [hcs, List.head?_cons]) (by simpa using hne)
  have hkept : ∀ d ∈ ((Nat.toDigits 10 n).reverse.dropWhile (· == '0')).reverse,
      d.isDigit = true := by
    intro d hd
    rw [List.mem_reverse] at hd
    exact (isDigits_toDigits n).2 d (List.mem_reverse.mp ((List.dropWhile_sublist _).mem hd))
  generalize ((Nat.toDigits 10 n).reverse.dropWhile (· == '0')).reverse = ds at hhead hkept
  cases ds with
  | nil => cases hhead
  | cons d ds =>
      obtain rfl := Option.some.inj hhead
      refine ⟨⟨by simp, hkept⟩, ?_⟩
      intro hzero
      exact absurd (Option.some.inj hzero) hne

/-- Of two candidates, of which none, one or both fit, one that fits is taken. -/
theorem eq_of_choice {α : Type} {below above : Bool} {prefers : Prop} [Decidable prefers]
    {x y z : α}
    (h : (if below && above then if prefers then some x else some y
      else if below then some x else if above then some y else none) = some z) :
    z = x ∧ below = true ∨ z = y := by
  cases below <;> cases above <;> by_cases hp : prefers <;> simp_all

theorem proper_of_decimalWithin? {low num high den : Nat} {closed : Bool} {exponent : Int}
    {count : Nat} {d : Decimal} (hlow : 0 < low)
    (h : Binary64.decimalWithin? low num high den closed exponent count = some d) :
    Proper d := by
  rw [Binary64.decimalWithin?] at h
  rcases eq_of_choice h with ⟨rfl, hfits⟩ | rfl
  · apply proper_of_digits
    intro hzero
    have hdown : 0 < Nat.pow 10 (-(exponent - (count : Int) + 1)).toNat :=
      Nat.pow_pos (by decide)
    have hpos := Nat.mul_pos hlow hdown
    simp only [hzero, Nat.zero_mul] at hfits
    cases closed
    · simp at hfits
    · simp at hfits
      omega
  · exact proper_of_digits (Nat.succ_ne_zero _) _

theorem significand_pos {x : Binary64} (h : x.magnitude ≠ 0) : 0 < x.significand := by
  rw [Binary64.significand]
  split
  · omega
  · exact Nat.add_pos_left (Nat.pow_pos (by decide)) _

theorem proper_shortest {x : Binary64} (h : x.magnitude ≠ 0) : Proper x.shortest := by
  have hpos := significand_pos h
  rw [Binary64.shortest]
  generalize hfound : List.findSome? _ (List.range 17) = found
  cases found with
  | none => exact ⟨⟨by simp, by simp⟩, fun _ ↦ rfl⟩
  | some d =>
      obtain ⟨n, -, hd⟩ := List.exists_of_findSome?_eq_some hfound
      refine proper_of_decimalWithin? ?_ hd
      apply Nat.mul_pos
      · split <;> omega
      · exact Nat.pow_pos (by decide)

theorem IsDigits.sublist {ds es : List Char} (h : IsDigits ds) (hsub : es.Sublist ds)
    (hne : es ≠ []) : IsDigits es :=
  ⟨hne, fun c hc ↦ h.2 c (hsub.mem hc)⟩

theorem isDigit_of_mem_zeros {n : Nat} {c : Char} (h : c ∈ List.replicate n '0') :
    c.isDigit = true := by
  rw [List.eq_of_mem_replicate h]
  rfl

theorem isInteger_singleton {c : Char} (h : c.isDigit = true) : IsInteger [c] := by
  refine ⟨⟨by simp, by simpa using h⟩, ?_⟩
  intro hzero
  rw [Option.some.inj hzero]

namespace Proper

variable {d : Decimal} (h : Proper d)

include h

theorem isMagnitude_scientific {mark : Char} (hmark : mark = '+' ∨ mark = '-') :
    IsMagnitude (d.digits.take 1 ++ (match d.digits.drop 1 with
      | [] => []
      | ds => '.' :: ds) ++ 'e' :: mark :: Nat.toDigits 10 d.exponent.natAbs) := by
  obtain ⟨c, cs, hcs, hc⟩ := h.1.exists_cons
  have hpower : IsPower (mark :: Nat.toDigits 10 d.exponent.natAbs) := by
    refine .inr ⟨Nat.toDigits 10 d.exponent.natAbs, ?_, isDigits_toDigits _⟩
    rcases hmark with rfl | rfl
    · exact .inl rfl
    · exact .inr rfl
  refine ⟨d.digits.take 1, _, _, rfl, ?_, ?_, .inr ⟨_, .inl rfl, hpower⟩⟩
  · rw [hcs]
    exact isInteger_singleton hc
  · split
    · exact .inl rfl
    next hne => exact .inr ⟨_, rfl, h.1.sublist (List.drop_sublist 1 _) hne⟩

theorem isMagnitude_fraction (n : Nat) :
    IsMagnitude ('0' :: '.' :: List.replicate n '0' ++ d.digits) := by
  refine ⟨['0'], '.' :: (List.replicate n '0' ++ d.digits), [], by simp, isInteger_singleton rfl,
    .inr ⟨_, rfl, ?_, ?_⟩, .inl rfl⟩
  · exact List.append_ne_nil_of_right_ne_nil _ h.1.1
  · intro c hc
    rcases List.mem_append.mp hc with hc | hc
    · exact isDigit_of_mem_zeros hc
    · exact h.1.2 c hc

/-- A zero alone is not followed by more zeros, because its power is zero. -/
theorem isMagnitude_whole :
    IsMagnitude (d.digits ++
      List.replicate (d.exponent.toNat + 1 - d.digits.length) '0' ++ ['.', '0']) := by
  refine ⟨_, ['.', '0'], [], (List.append_nil _).symm, ⟨⟨?_, ?_⟩, ?_⟩,
    .inr ⟨['0'], rfl, by simp [IsDigits]⟩, .inl rfl⟩
  · exact List.append_ne_nil_of_left_ne_nil h.1.1 _
  · intro c hc
    rcases List.mem_append.mp hc with hc | hc
    · exact h.1.2 c hc
    · exact isDigit_of_mem_zeros hc
  · intro hzero
    rw [List.head?_append_of_ne_nil _ h.1.1] at hzero
    rw [h.2 hzero]
    rfl

theorem isMagnitude_split (hcount : d.exponent.toNat + 1 < d.digits.length) :
    IsMagnitude (d.digits.take (d.exponent.toNat + 1) ++
      '.' :: d.digits.drop (d.exponent.toNat + 1)) := by
  have htake : d.digits.take (d.exponent.toNat + 1) ≠ [] := by simp [h.1.1]
  have hdrop : d.digits.drop (d.exponent.toNat + 1) ≠ [] := by simpa using hcount
  refine ⟨_, '.' :: d.digits.drop (d.exponent.toNat + 1), [], by simp,
    ⟨h.1.sublist (List.take_sublist _ _) htake, ?_⟩,
    .inr ⟨_, rfl, h.1.sublist (List.drop_sublist _ _) hdrop⟩, .inl rfl⟩
  intro hzero
  rw [List.head?_take, if_neg (by omega)] at hzero
  rw [h.2 hzero] at hcount
  simp at hcount

end Proper

theorem isNumeral_text (x : Binary64) : IsNumeral x.text := by
  have hsign : ∀ body, IsMagnitude body →
      IsNumeral ((if x.negative then ['-'] else []) ++ body) := by
    intro body hbody
    cases x.negative with
    | true => exact .inr ⟨body, rfl, hbody⟩
    | false => exact .inl hbody
  rw [Binary64.text]
  apply hsign
  split
  · exact ⟨['0'], ['.', '0'], [], rfl, isInteger_singleton rfl,
      .inr ⟨['0'], rfl, by simp [IsDigits]⟩, .inl rfl⟩
  next hmagnitude =>
    have hproper := proper_shortest (by simpa using hmagnitude)
    simp only
    split
    · apply hproper.isMagnitude_scientific
      split
      · exact .inr rfl
      · exact .inl rfl
    · split
      · exact hproper.isMagnitude_fraction _
      · split
        next => exact hproper.isMagnitude_whole
        next hcount => exact hproper.isMagnitude_split (by omega)

/-- The text of the number is read as the number. -/
def ReadsBack (x : Binary64) : Prop :=
  (parse? (ofBinary64 x).compact).bind binary64? = some x

instance (x : Binary64) : Decidable (ReadsBack x) :=
  inferInstanceAs (Decidable (_ = some x))

theorem ReadsBack.numeral {x : Binary64} (h : ReadsBack x) :
    ofBinary64 x = .number x.text ∧ binary64? (ofBinary64 x) = some x := by
  rw [ReadsBack] at h
  by_cases hfinite : x.isFinite = true
  · have hnumber : ofBinary64 x = .number x.text := if_pos hfinite
    rw [hnumber, parse?_compact (.number (isNumeral_text x)), Option.bind_some] at h
    exact ⟨hnumber, by rwa [hnumber]⟩
  · have hnull : ofBinary64 x = .null := if_neg hfinite
    rw [hnull, parse?_compact .null] at h
    cases h

end CodeMentor.Json
