import CodeMentor.Proofs.Source.Interludes
import Mathlib.Algebra.Ring.Nat
import Mathlib.Order.Bounds.Basic
import Mathlib.Data.List.Infix

/-!
# Net nesting

The scanner for braces counts a level that never falls below zero and remembers the deepest one.
What it ends with can be said without a scanner: it is the greatest number of opening braces less
closing ones in any segment of the braces in code. The invariant pairs the two numbers with two
maxima. The level is the greatest net nesting of a segment that ends with the last brace read, the
deepest level that of any segment. So what stands in front of some braces never makes them less
deep, and a closing brace that closes nothing makes no difference at all.
-/

namespace CodeMentor.Source

/-- Opening braces less closing ones. -/
def net (braces : List Brace) : ℤ :=
  braces.count .opening - braces.count .closing

@[simp] theorem net_nil : net [] = 0 := rfl

@[simp] theorem net_append (a b : List Brace) : net (a ++ b) = net a + net b := by
  simp only [net, List.count_append]
  omega

@[simp] theorem net_opening : net [.opening] = 1 := rfl

@[simp] theorem net_closing : net [.closing] = -1 := rfl

/-! ## One brace -/

/-- The level and the deepest level behind the braces that were read, as greatest net nestings. -/
structure Walked (read : List Brace) (level top : ℕ) : Prop where
  level : IsGreatest (net '' {segment | segment <:+ read}) level
  top : IsGreatest (net '' {segment | segment <:+: read}) top

namespace Walked

variable {read : List Brace} {level top : ℕ}

theorem nil : Walked [] 0 0 := by
  constructor
  · constructor
    · exact ⟨[], List.suffix_rfl, rfl⟩
    · rintro _ ⟨segment, hsegment, rfl⟩
      simp [List.suffix_nil.mp hsegment]
  · constructor
    · exact ⟨[], List.infix_rfl, rfl⟩
    · rintro _ ⟨segment, hsegment, rfl⟩
      simp [List.infix_nil.mp hsegment]

theorem level_le_top (h : Walked read level top) : level ≤ top := by
  obtain ⟨segment, hsegment, hnet⟩ := h.level.1
  have hle := h.top.2 ⟨segment, hsegment.isInfix, hnet⟩
  omega

/-- A segment that ends with the next brace is empty or goes on from one that ended before it. So
the level takes the brace in, but does not fall below zero. -/
theorem step (h : Walked read level top) {brace : Brace} {next : ℕ}
    (hnext : (next : ℤ) = max 0 (level + net [brace])) :
    Walked (read ++ [brace]) next (max top next) := by
  have hlevel : IsGreatest (net '' {segment | segment <:+ read ++ [brace]}) next := by
    rw [hnext]
    constructor
    · rcases le_total 0 (level + net [brace]) with hle | hle
      · obtain ⟨segment, hsegment, hnet⟩ := h.level.1
        refine ⟨segment ++ [brace], List.suffix_concat_iff.mpr (.inr ⟨segment, rfl, hsegment⟩), ?_⟩
        rw [net_append, hnet, max_eq_right hle]
      · exact ⟨[], List.nil_suffix, (max_eq_left hle).symm⟩
    · rintro _ ⟨segment, hsegment, rfl⟩
      rcases List.suffix_concat_iff.mp hsegment with rfl | ⟨front, rfl, hfront⟩
      · exact le_max_left _ _
      · have hle := h.level.2 ⟨front, hfront, rfl⟩
        rw [net_append]
        omega
  refine ⟨hlevel, ?_, ?_⟩
  · rcases le_total top next with hle | hle
    · obtain ⟨segment, hsegment, hnet⟩ := hlevel.1
      rw [max_eq_right hle]
      exact ⟨segment, hsegment.isInfix, hnet⟩
    · obtain ⟨segment, hsegment, hnet⟩ := h.top.1
      rw [max_eq_left hle]
      exact ⟨segment, List.infix_concat_iff.mpr (.inr hsegment), hnet⟩
  · rintro _ ⟨segment, hsegment, rfl⟩
    rcases List.infix_concat_iff.mp hsegment with hsuffix | hinfix
    · exact (hlevel.2 ⟨segment, hsuffix, rfl⟩).trans (by omega)
    · exact (h.top.2 ⟨segment, hinfix, rfl⟩).trans (by omega)

theorem opening (h : Walked read level top) :
    Walked (read ++ [.opening]) (level + 1) (max top (level + 1)) := by
  apply h.step
  rw [net_opening]
  omega

theorem closing (h : Walked read level top) : Walked (read ++ [.closing]) (level - 1) top := by
  have hkept : max top (level - 1) = top := max_eq_left (h.level_le_top.trans' (Nat.sub_le _ _))
  have hstep : Walked (read ++ [.closing]) (level - 1) (max top (level - 1)) := by
    apply h.step
    rw [net_closing]
    omega
  rwa [hkept] at hstep

end Walked

/-! ## Counters -/

/-- What two counters of 32 bits hold for a level and the deepest level of all. The deepest level is
cut off at the greatest number of a counter, and the level is right as long as nothing is cut off. -/
structure Counted (level top : ℕ) (counter greatest : UInt32) : Prop where
  level : top < 2 ^ 32 → counter.toNat = level
  top : greatest.toNat = min top (2 ^ 32 - 1)

namespace Counted

variable {level top : ℕ} {counter greatest : UInt32}

theorem zero : Counted 0 0 0 0 :=
  ⟨fun _ ↦ rfl, rfl⟩

/-- The counter of the level falls back to zero only when the deepest level is at its limit. -/
theorem opening (h : Counted level top counter greatest) (hle : level ≤ top) :
    Counted (level + 1) (max top (level + 1)) (counter + 1) (max greatest (counter + 1)) := by
  obtain ⟨hlevel, htop⟩ := h
  have hnext : (counter + 1).toNat = (counter.toNat + 1) % 2 ^ 32 := UInt32.toNat_add counter 1
  have hlt := counter.toNat_lt
  constructor
  · intro hsmall
    have hcounter := hlevel (by omega)
    omega
  · rw [UInt32.toNat_max, hnext, htop]
    rcases Nat.lt_or_ge top (2 ^ 32) with hsmall | hlarge
    · have hcounter := hlevel hsmall
      omega
    · omega

theorem closing (h : Counted level top counter greatest) :
    Counted (level - 1) top (if counter = 0 then 0 else counter - 1) greatest := by
  refine ⟨fun hsmall ↦ ?_, h.top⟩
  rw [← h.level hsmall]
  split
  next hzero =>
    rw [hzero]
    rfl
  next hzero =>
    have hpos : counter.toNat ≠ 0 := fun hcounter ↦ hzero (UInt32.toNat_inj.mp hcounter)
    have hle : 1 ≤ counter := by
      rw [UInt32.le_iff_toNat_le, UInt32.toNat_one]
      omega
    rw [UInt32.toNat_sub_of_le _ _ hle, UInt32.toNat_one]

end Counted

/-- A counter at its limit stays there. -/
theorem toNat_deepestFrom {greatest : UInt32} (h : greatest.toNat = 2 ^ 32 - 1) (counter : UInt32)
    (braces : List Brace) : (deepestFrom counter greatest braces).toNat = 2 ^ 32 - 1 := by
  induction braces generalizing counter greatest with
  | nil => exact h
  | cons brace braces ih =>
      cases brace with
      | opening =>
          apply ih
          have hlt := (counter + 1).toNat_lt
          rw [UInt32.toNat_max]
          omega
      | closing => exact ih h _

/-! ## All braces -/

/-- Behind any braces the counters hold two maxima, and the walk goes on from there. The induction
is on the braces read, with the last one split off. -/
theorem exists_walked (braces : List Brace) :
    ∃ level top counter greatest, Walked braces level top ∧ Counted level top counter greatest ∧
      ∀ rest, deepest (braces ++ rest) = deepestFrom counter greatest rest := by
  induction braces using List.reverseRecOn with
  | nil => exact ⟨0, 0, 0, 0, .nil, .zero, fun rest ↦ rfl⟩
  | append_singleton read brace ih =>
      obtain ⟨level, top, counter, greatest, hwalked, hcounted, hrest⟩ := ih
      cases brace with
      | opening =>
          refine ⟨_, _, _, _, hwalked.opening, hcounted.opening hwalked.level_le_top, ?_⟩
          intro rest
          rw [List.append_assoc, hrest]
          rfl
      | closing =>
          refine ⟨_, _, _, _, hwalked.closing, hcounted.closing, ?_⟩
          intro rest
          rw [List.append_assoc, hrest]
          rfl

/-- The greatest net nesting of a segment, cut off at the greatest number of a counter. -/
theorem exists_isGreatest (braces : List Brace) :
    ∃ depth : ℕ, IsGreatest (net '' {segment | segment <:+: braces}) depth ∧
      (deepest braces).toNat = min depth (2 ^ 32 - 1) := by
  obtain ⟨level, top, counter, greatest, hwalked, hcounted, hrest⟩ := exists_walked braces
  refine ⟨top, hwalked.top, ?_⟩
  have hdeepest := hrest []
  rw [List.append_nil, deepestFrom] at hdeepest
  rw [hdeepest, hcounted.top]

theorem net_le_count_of_infix {segment braces : List Brace} (h : segment <:+: braces) :
    net segment ≤ braces.count .opening := by
  have hle := h.sublist.count_le .opening
  rw [net]
  omega

theorem isGreatest_deepest {braces : List Brace} (h : braces.count .opening < 2 ^ 32) :
    IsGreatest (net '' {segment | segment <:+: braces}) ((deepest braces).toNat : ℤ) := by
  obtain ⟨depth, hgreatest, hdepth⟩ := exists_isGreatest braces
  obtain ⟨segment, hsegment, hnet⟩ := hgreatest.1
  have hle := net_le_count_of_infix hsegment
  have hexact : (deepest braces).toNat = depth := by omega
  rwa [hexact]

/-- Braces around a part only add segments. -/
theorem deepest_le_of_infix {part braces : List Brace} (h : part <:+: braces) :
    deepest part ≤ deepest braces := by
  obtain ⟨depth, hpart, hdepth⟩ := exists_isGreatest part
  obtain ⟨depth', hbraces, hdepth'⟩ := exists_isGreatest braces
  obtain ⟨segment, hsegment, hnet⟩ := hpart.1
  have hle := hbraces.2 ⟨segment, hsegment.trans h, hnet⟩
  rw [UInt32.le_iff_toNat_le, hdepth, hdepth']
  omega

/-- No brace in front of here is open: no segment that ends here has more opening braces than
closing ones. -/
def NoneOpen (earlier : List Brace) : Prop :=
  ∀ segment, segment <:+ earlier → net segment ≤ 0

/-- A closing brace that closes nothing does not change the depth. -/
theorem deepest_append_closing {earlier : List Brace} (h : NoneOpen earlier) (later : List Brace) :
    deepest (earlier ++ .closing :: later) = deepest (earlier ++ later) := by
  obtain ⟨level, top, counter, greatest, hwalked, hcounted, hrest⟩ := exists_walked earlier
  have hlevel : level = 0 := by
    obtain ⟨segment, hsegment, hnet⟩ := hwalked.level.1
    have hle := h segment hsegment
    omega
  rw [hrest, hrest]
  rcases Nat.lt_or_ge top (2 ^ 32) with hsmall | hlarge
  · have hzero : counter = 0 := by
      rw [← UInt32.toNat_inj, hcounted.level hsmall, hlevel]
      rfl
    rw [hzero]
    rfl
  · have hfull : greatest.toNat = 2 ^ 32 - 1 := by
      rw [hcounted.top]
      omega
    rw [← UInt32.toNat_inj, toNat_deepestFrom hfull, toNat_deepestFrom hfull]

/-! ## Texts -/

theorem settled_of_code {p : List Char} (hmode : modeBehind .code p = .code)
    (hslash : p.getLast? ≠ some '/') : Settled .code p := by
  intro c hc
  rw [hmode]
  simp only [Mode.looksAhead, beq_eq_false_iff_ne, ne_eq]
  rintro rfl
  exact hslash hc

/-- The depth of a text is the greatest net nesting of a segment of its braces in code, the empty
one included, or the greatest number of 32 bits if that is less; with fewer than 2³² opening braces
it is the greatest net nesting. So whatever stands in front of some braces, they are as deep as they
are by themselves or deeper; in particular behind a closing brace in code, wherever it stands. And
whether a closing brace that closes nothing stands somewhere in code or not, the depth is the
same. -/
theorem isGreatest_braceDepth :
    (∀ text : List Char, ∃ depth : ℕ,
      IsGreatest (net '' {segment | segment <:+: codeBraces .code text}) depth ∧
      (braceDepth text).toNat = min depth (2 ^ 32 - 1)) ∧
    (∀ text : List Char, (codeBraces .code text).count .opening < 2 ^ 32 →
      IsGreatest (net '' {segment | segment <:+: codeBraces .code text})
        ((braceDepth text).toNat : ℤ)) ∧
    (∀ (text : List Char) (earlier later : List Brace),
      codeBraces .code text = earlier ++ later → deepest later ≤ braceDepth text) ∧
    (∀ p s : List Char, modeBehind .code (p ++ ['\x7d']) = .code →
      braceDepth s ≤ braceDepth (p ++ '\x7d' :: s)) ∧
    ∀ p s : List Char, modeBehind .code p = .code → p.getLast? ≠ some '/' →
      NoneOpen (codeBraces .code p) → braceDepth (p ++ '\x7d' :: s) = braceDepth (p ++ s) := by
  refine ⟨fun text ↦ exists_isGreatest _, fun text ↦ isGreatest_deepest, ?_, ?_, ?_⟩
  · intro text earlier later htext
    rw [braceDepth, htext]
    exact deepest_le_of_infix (List.suffix_append earlier later).isInfix
  · intro p s hmode
    have hsettled : Settled .code (p ++ ['\x7d']) := settled_of_code hmode (by simp)
    rw [List.append_cons, braceDepth, braceDepth, codeBraces_append hsettled, hmode]
    exact deepest_le_of_infix (List.suffix_append _ _).isInfix
  · intro p s hmode hslash hnone
    have hsettled := settled_of_code hmode hslash
    have hclosing : codeBraces .code ('\x7d' :: s) = .closing :: codeBraces .code s := by
      simp [codeBraces]
    rw [braceDepth, braceDepth, codeBraces_append hsettled, codeBraces_append hsettled, hmode,
      hclosing]
    exact deepest_append_closing hnone _

/-- Closing braces that close nothing, one of them behind a division sign, and one in a literal. -/
theorem isGreatest_braceDepth_stray :
    let p := "\x7d if (a) \x7b b['\x7d'] \x7d // \x7b\x7b\n".toList
    let s := "f(x) \x7b if (y) \x7b z \x7d \x7d".toList
    modeBehind .code (p ++ ['/', '\x7d']) = .code ∧ modeBehind .code p = .code ∧
      p.getLast? ≠ some '/' ∧ NoneOpen (codeBraces .code p) ∧
      (codeBraces .code (p ++ s)).count .opening < 2 ^ 32 ∧
      IsGreatest (net '' {segment | segment <:+: codeBraces .code (p ++ s)}) 2 ∧
      codeBraces .code (p ++ s) = codeBraces .code p ++ codeBraces .code s ∧
      deepest (codeBraces .code s) ≤ braceDepth (p ++ s) ∧
      2 ≤ braceDepth (p ++ '/' :: '\x7d' :: s) ∧ braceDepth (p ++ '\x7d' :: s) = 2 := by
  intro p s
  have hdivided : modeBehind .code (p ++ ['/', '\x7d']) = .code := by decide +kernel
  have hmode : modeBehind .code p = .code := by decide +kernel
  have hslash : p.getLast? ≠ some '/' := by decide +kernel
  have hbraces : codeBraces .code p = [.closing, .opening, .closing] := by decide +kernel
  have hnone : NoneOpen (codeBraces .code p) := by
    have hall : ∀ segment ∈ [Brace.closing, .opening, .closing].tails, net segment ≤ 0 := by decide
    rw [hbraces]
    intro segment hsegment
    exact hall segment ((List.mem_tails segment _).mpr hsegment)
  have hparts : codeBraces .code (p ++ s) = codeBraces .code p ++ codeBraces .code s := by
    decide +kernel
  have hlater : braceDepth s = 2 := by decide +kernel
  have hwhole : braceDepth (p ++ s) = 2 := by decide +kernel
  have hfew : (codeBraces .code (p ++ s)).count .opening < 2 ^ 32 := by decide +kernel
  obtain ⟨-, hgreatest, hpart, hbehind, hstray⟩ := isGreatest_braceDepth
  refine ⟨hdivided, hmode, hslash, hnone, hfew, ?_, hparts, hpart _ _ _ hparts, ?_, ?_⟩
  · have hdepth := hgreatest (p ++ s) hfew
    rwa [hwhole] at hdepth
  · have hle := hbehind (p ++ ['/']) s (by rwa [List.append_assoc])
    rwa [hlater, List.append_assoc] at hle
  · rw [hstray p s hmode hslash hnone, hwhole]

end CodeMentor.Source
