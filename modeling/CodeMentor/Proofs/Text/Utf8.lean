import CodeMentor.Proofs.Results
import CodeMentor.Text.Utf8
import Mathlib.Tactic.SplitIfs

/-!
# Reading what was written in UTF-8

The reader takes the bytes of a character to exactly that character, whatever follows, so a text
survives the way through bytes. In the other direction, whatever it reads without a fault are the
bytes of the text that it reads: no second spelling of a character gets past it.
-/

namespace CodeMentor.Text.Utf8

/-! ## Single bytes -/

theorem toNat_byte {n : Nat} (h : n < 256) : (UInt8.ofNat n).toNat = n :=
  UInt8.toNat_ofNat_of_lt' h

theorem feed_start_ascii : ∀ n < 128, feed .start (UInt8.ofNat n) = .done (Char.ofNat n) := by
  decide

theorem feed_start_of_two : ∀ n < 32, 2 ≤ n →
    feed .start (UInt8.ofNat (n + 0xC0)) = .more (.inside 0 0x80 0xBF n) := by
  decide

theorem feed_start_of_three : ∀ n < 16, feed .start (UInt8.ofNat (n + 0xE0)) =
    .more (.inside 1 (if n = 0 then 0xA0 else 0x80) (if n = 13 then 0x9F else 0xBF) n) := by
  decide

theorem feed_start_of_four : ∀ n < 5, feed .start (UInt8.ofNat (n + 0xF0)) =
    .more (.inside 2 (if n = 0 then 0x90 else 0x80) (if n = 4 then 0x8F else 0xBF) n) := by
  decide

/-- Whether the byte that carries six bits `n` lies between two bounds. -/
def Fits (low high : UInt8) (n : Nat) : Prop :=
  n < 64 ∧ low.toNat ≤ n + 0x80 ∧ n + 0x80 ≤ high.toNat

theorem Fits.bounds {low high : UInt8} {n : Nat} (h : Fits low high n) :
    low ≤ UInt8.ofNat (n + 0x80) ∧ UInt8.ofNat (n + 0x80) ≤ high := by
  obtain ⟨hn, hlow, hhigh⟩ := h
  have hbyte := toNat_byte (n := n + 0x80) (by omega)
  rw [UInt8.le_iff_toNat_le, UInt8.le_iff_toNat_le, hbyte]
  exact ⟨hlow, hhigh⟩

theorem fits_free {n : Nat} (h : n < 64) : Fits 0x80 0xBF n :=
  ⟨h, Nat.le_add_left _ _, by simpa using Nat.le_of_lt_succ (Nat.add_lt_add_right h 0x80)⟩

theorem Fits.toNat_mod {low high : UInt8} {n : Nat} (h : Fits low high n) :
    (UInt8.ofNat (n + 0x80)).toNat % 64 = n := by
  have hn := h.1
  rw [toNat_byte (by omega)]
  omega

theorem feed_last {low high : UInt8} {n : Nat} (h : Fits low high n) (value : Nat) :
    feed (.inside 0 low high value) (UInt8.ofNat (n + 0x80)) =
      .done (Char.ofNat (value * 64 + n)) := by
  simp only [feed, if_pos h.bounds, h.toNat_mod]

theorem feed_more {low high : UInt8} {n : Nat} (h : Fits low high n) (owed value : Nat) :
    feed (.inside (owed + 1) low high value) (UInt8.ofNat (n + 0x80)) =
      .more (.inside owed 0x80 0xBF (value * 64 + n)) := by
  simp only [feed, if_pos h.bounds, h.toNat_mod]

/-! ## Characters -/

theorem unitsFrom_of_done {st : State} {b : UInt8} {c : Char} (h : feed st b = .done c)
    (rest : List UInt8) : unitsFrom st (b :: rest) = some c :: unitsFrom .start rest := by
  cases st with
  | start =>
      rw [feed] at h
      simp [unitsFrom, h]
  | inside owed low high value => simp [unitsFrom, h]

theorem unitsFrom_of_more {st st' : State} {b : UInt8} (h : feed st b = .more st')
    (rest : List UInt8) : unitsFrom st (b :: rest) = unitsFrom st' rest := by
  cases st with
  | start =>
      rw [feed] at h
      simp [unitsFrom, h]
  | inside owed low high value => simp [unitsFrom, h]

/-- The bounds of the second of three bytes leave out long forms and surrogates. -/
theorem fits_second_of_three {v : Nat} (hlow : 0x800 ≤ v) (hhigh : v ≤ 0xFFFF)
    (hvalid : v < 0xD800 ∨ 0xDFFF < v) :
    Fits (if v / 4096 % 16 = 0 then 0xA0 else 0x80) (if v / 4096 % 16 = 13 then 0x9F else 0xBF)
      (v / 64 % 64) := by
  refine ⟨by omega, ?_, ?_⟩
  · split
    · change 160 ≤ _
      omega
    · change 128 ≤ _
      omega
  · split
    · change _ ≤ 159
      omega
    · change _ ≤ 191
      omega

/-- The bounds of the second of four bytes leave out long forms and what is past the last
character. -/
theorem fits_second_of_four {v : Nat} (hlow : 0x10000 ≤ v) (hhigh : v < 0x110000) :
    Fits (if v / 262144 % 8 = 0 then 0x90 else 0x80) (if v / 262144 % 8 = 4 then 0x8F else 0xBF)
      (v / 4096 % 64) := by
  refine ⟨by omega, ?_, ?_⟩
  · split
    · change 144 ≤ _
      omega
    · change 128 ≤ _
      omega
  · split
    · change _ ≤ 143
      omega
    · change _ ≤ 191
      omega

theorem unitsFrom_utf8EncodeChar (c : Char) (rest : List UInt8) :
    unitsFrom .start (String.utf8EncodeChar c ++ rest) = some c :: unitsFrom .start rest := by
  have hvalid : c.val.toNat < 0xD800 ∨ 0xDFFF < c.val.toNat ∧ c.val.toNat < 0x110000 := c.valid
  have hself : Char.ofNat c.val.toNat = c := Char.ofNat_toNat c
  have hlast : c.val.toNat % 64 < 64 := Nat.mod_lt _ (by decide)
  fun_cases String.utf8EncodeChar c with
  | case1 v h1 =>
      rw [List.cons_append, List.nil_append,
        unitsFrom_of_done (feed_start_ascii v (Nat.lt_succ_of_le h1)), hself]
  | case2 v h1 h2 =>
      have hvalue : v / 64 % 32 * 64 + v % 64 = v := by omega
      simp only [List.cons_append, List.nil_append]
      rw [unitsFrom_of_more (feed_start_of_two (v / 64 % 32) (by omega) (by omega)),
        unitsFrom_of_done (feed_last (fits_free hlast) _), hvalue, hself]
  | case3 v h1 h2 h3 =>
      have hvalue : (v / 4096 % 16 * 64 + v / 64 % 64) * 64 + v % 64 = v := by omega
      simp only [List.cons_append, List.nil_append]
      rw [unitsFrom_of_more (feed_start_of_three (v / 4096 % 16) (by omega)),
        unitsFrom_of_more (feed_more (fits_second_of_three (by omega) h3 (by omega)) _ _),
        unitsFrom_of_done (feed_last (fits_free hlast) _), hvalue, hself]
  | case4 v h1 h2 h3 =>
      have hvalue :
          ((v / 262144 % 8 * 64 + v / 4096 % 64) * 64 + v / 64 % 64) * 64 + v % 64 = v := by
        omega
      simp only [List.cons_append, List.nil_append]
      rw [unitsFrom_of_more (feed_start_of_four (v / 262144 % 8) (by omega)),
        unitsFrom_of_more (feed_more (fits_second_of_four (by omega) (by omega)) _ _),
        unitsFrom_of_more (feed_more (fits_free (by omega)) _ _),
        unitsFrom_of_done (feed_last (fits_free hlast) _), hvalue, hself]

theorem unitsFrom_flatMap (cs : List Char) :
    unitsFrom .start (cs.flatMap String.utf8EncodeChar) = cs.map some := by
  induction cs with
  | nil => rfl
  | cons c cs ih => rw [List.flatMap_cons, unitsFrom_utf8EncodeChar, ih, List.map_cons]

/-- A text survives the way through bytes. -/
@[simp] theorem lossy_encode (s : String) : lossy (encode s) = s := by
  have hshown : (fun u : Option Char => u.getD replacement) ∘ some = id := rfl
  rw [lossy, units, encode, unitsFrom_flatMap, List.map_map, hshown, List.map_id,
    String.ofList_toList]

theorem encode_append (s t : String) : encode (s ++ t) = encode s ++ encode t := by
  simp [encode]

/-- A byte of the lower half of the table stands for itself: all bytes of a longer form carry the
highest bit. -/
theorem eq_of_mem_utf8EncodeChar {c : Char} {b : UInt8} (hb : b ∈ String.utf8EncodeChar c)
    (hlt : b.toNat < 0x80) : c = Char.ofNat b.toNat := by
  have hhigh : ∀ n, 0x80 ≤ n → n < 256 → b ≠ UInt8.ofNat n := by
    rintro n hn hn' rfl
    rw [toNat_byte hn'] at hlt
    omega
  revert hb
  fun_cases String.utf8EncodeChar c with
  | case1 v h1 =>
      intro hb
      rw [List.mem_singleton.mp hb, toNat_byte (by omega)]
      exact (Char.ofNat_toNat c).symm
  | case2 v h1 h2 =>
      intro hb
      simp only [List.mem_cons, List.not_mem_nil, or_false] at hb
      rcases hb with hb | hb <;> exact absurd hb (hhigh _ (by omega) (by omega))
  | case3 v h1 h2 h3 =>
      intro hb
      simp only [List.mem_cons, List.not_mem_nil, or_false] at hb
      rcases hb with hb | hb | hb <;> exact absurd hb (hhigh _ (by omega) (by omega))
  | case4 v h1 h2 h3 =>
      intro hb
      simp only [List.mem_cons, List.not_mem_nil, or_false] at hb
      rcases hb with hb | hb | hb | hb <;> exact absurd hb (hhigh _ (by omega) (by omega))

theorem mem_of_mem_encode {s : String} {b : UInt8} (hb : b ∈ encode s) (hlt : b.toNat < 0x80) :
    Char.ofNat b.toNat ∈ s.toList := by
  obtain ⟨c, hc, hbc⟩ := List.mem_flatMap.mp hb
  rwa [← eq_of_mem_utf8EncodeChar hbc hlt]

/-! ## Bytes that are read as text -/

theorem exists_unitsFrom_of_refuse {st : State} {b : UInt8} (h : feed st b = .refuse)
    (rest : List UInt8) : ∃ us, unitsFrom st (b :: rest) = none :: us := by
  cases st with
  | start =>
      rw [feed] at h
      rw [unitsFrom, h]
      exact ⟨_, rfl⟩
  | inside owed low high value =>
      rw [unitsFrom, h]
      exact ⟨_, rfl⟩

theorem decodeFrom_cons (st : State) (index held : Nat) (b : UInt8) (rest : List UInt8) :
    decodeFrom st index held (b :: rest) =
      match feed st b with
      | .more st => decodeFrom st index (held + 1) rest
      | .done c => (decodeFrom .start (index + held + 1) 0 rest).map (c :: ·)
      | .refuse => .error ⟨index, some (max held 1)⟩ := by
  cases st with
  | start => rfl
  | inside owed low high value => rfl

theorem feed_ne_more_start (st : State) (b : UInt8) : feed st b ≠ .more .start := by
  cases st with
  | start =>
      rw [feed, first]
      split_ifs <;> simp
  | inside owed low high value =>
      rw [feed]
      split
      · cases owed <;> simp
      · simp

theorem decodeFrom_of_unitsFrom {st : State} {bytes : List UInt8} {cs : List Char}
    (h : unitsFrom st bytes = cs.map some) (index held : Nat) :
    decodeFrom st index held bytes = .ok cs := by
  induction bytes generalizing st cs index held with
  | nil =>
      cases st with
      | start =>
          rw [unitsFrom, eq_comm, List.map_eq_nil_iff] at h
          rw [h, decodeFrom]
      | inside owed low high value =>
          cases cs <;> cases h
  | cons b rest ih =>
      rw [decodeFrom_cons]
      cases hfeed : feed st b with
      | more st' =>
          rw [unitsFrom_of_more hfeed] at h
          exact ih h index (held + 1)
      | done c =>
          rw [unitsFrom_of_done hfeed] at h
          cases cs with
          | nil => cases h
          | cons c' cs =>
              rw [List.map_cons, List.cons.injEq, Option.some.injEq] at h
              obtain ⟨rfl, hrest⟩ := h
              simp only [ih hrest]
              rfl
      | refuse =>
          obtain ⟨us, hus⟩ := exists_unitsFrom_of_refuse hfeed rest
          rw [hus] at h
          cases cs <;> cases h

/-- Bytes take the reader from a state to the end of a character. -/
def Finishes : State → List UInt8 → Char → Prop
  | _, [], _ => False
  | st, b :: bytes, c =>
    match feed st b with
    | .more st' => Finishes st' bytes c
    | .done c' => bytes = [] ∧ c' = c
    | .refuse => False

theorem eq_nil_of_decodeFrom {st : State} {index held : Nat} {bytes : List UInt8}
    (h : decodeFrom st index held bytes = .ok []) : bytes = [] ∧ st = .start := by
  induction bytes generalizing st index held with
  | nil =>
      cases st with
      | start => exact ⟨rfl, rfl⟩
      | inside owed low high value => cases h
  | cons b bytes ih =>
      rw [decodeFrom_cons] at h
      cases hfeed : feed st b with
      | more st' =>
          simp only [hfeed] at h
          obtain ⟨-, rfl⟩ := ih h
          exact absurd hfeed (feed_ne_more_start st b)
      | done c =>
          simp only [hfeed, map_eq_ok_iff] at h
          obtain ⟨cs, -, hcs⟩ := h
          cases hcs
      | refuse =>
          simp only [hfeed] at h
          cases h

/-! Each state leaves the reader a range of values; the bytes that end the character are then the
bytes of the value. -/

theorem exists_fits_of_bounds {low high b : UInt8} (hlow : 0x80 ≤ low) (hhigh : high ≤ 0xBF)
    (h : low ≤ b ∧ b ≤ high) : ∃ n, Fits low high n ∧ b = UInt8.ofNat (n + 0x80) := by
  simp only [UInt8.le_iff_toNat_le] at hlow hhigh h
  change 128 ≤ _ at hlow
  change _ ≤ 191 at hhigh
  refine ⟨b.toNat - 0x80, ⟨by omega, by omega, by omega⟩, ?_⟩
  rw [Nat.sub_add_cancel (by omega), UInt8.ofNat_toNat]

theorem Finishes.inside_zero {low high : UInt8} {value : Nat} {bytes : List UInt8} {c : Char}
    (hlow : 0x80 ≤ low) (hhigh : high ≤ 0xBF) (h : Finishes (.inside 0 low high value) bytes c) :
    ∃ n < 64, bytes = [UInt8.ofNat (n + 0x80)] ∧ c = Char.ofNat (value * 64 + n) := by
  cases bytes with
  | nil => exact h.elim
  | cons b bytes =>
      by_cases hb : low ≤ b ∧ b ≤ high
      · obtain ⟨n, hn, rfl⟩ := exists_fits_of_bounds hlow hhigh hb
        rw [Finishes, feed_last hn] at h
        obtain ⟨rfl, rfl⟩ := h
        exact ⟨n, hn.1, rfl, rfl⟩
      · rw [Finishes, feed, if_neg hb] at h
        exact h.elim

theorem Finishes.inside_succ {owed : Nat} {low high : UInt8} {value : Nat} {bytes : List UInt8}
    {c : Char} (hlow : 0x80 ≤ low) (hhigh : high ≤ 0xBF)
    (h : Finishes (.inside (owed + 1) low high value) bytes c) :
    ∃ n rest, Fits low high n ∧ bytes = UInt8.ofNat (n + 0x80) :: rest ∧
      Finishes (.inside owed 0x80 0xBF (value * 64 + n)) rest c := by
  cases bytes with
  | nil => exact h.elim
  | cons b bytes =>
      by_cases hb : low ≤ b ∧ b ≤ high
      · obtain ⟨n, hn, rfl⟩ := exists_fits_of_bounds hlow hhigh hb
        rw [Finishes, feed_more hn] at h
        exact ⟨n, bytes, hn, rfl, h⟩
      · rw [Finishes, feed, if_neg hb] at h
        exact h.elim

theorem Finishes.inside_one {low high : UInt8} {value : Nat} {bytes : List UInt8} {c : Char}
    (hlow : 0x80 ≤ low) (hhigh : high ≤ 0xBF) (h : Finishes (.inside 1 low high value) bytes c) :
    ∃ n m, Fits low high n ∧ m < 64 ∧
      bytes = [UInt8.ofNat (n + 0x80), UInt8.ofNat (m + 0x80)] ∧
      c = Char.ofNat ((value * 64 + n) * 64 + m) := by
  obtain ⟨n, rest, hn, rfl, hrest⟩ := h.inside_succ hlow hhigh
  obtain ⟨m, hm, rfl, rfl⟩ := hrest.inside_zero (by decide) (by decide)
  exact ⟨n, m, hn, hm, rfl, rfl⟩

theorem toNat_val_ofNat {n : Nat} (h : n.isValidChar) : (Char.ofNat n).val.toNat = n := by
  rw [Char.ofNat, dif_pos h]
  rfl

theorem utf8EncodeChar_of_one {n : Nat} (hn : n < 128) :
    String.utf8EncodeChar (Char.ofNat n) = [UInt8.ofNat n] := by
  have hvalid : n.isValidChar := Or.inl (by omega)
  rw [String.utf8EncodeChar, toNat_val_ofNat hvalid, if_pos (by omega)]

theorem utf8EncodeChar_of_two {n m : Nat} (hn : 2 ≤ n) (hn' : n < 32) (hm : m < 64) :
    String.utf8EncodeChar (Char.ofNat (n * 64 + m)) =
      [UInt8.ofNat (n + 0xC0), UInt8.ofNat (m + 0x80)] := by
  have hvalid : (n * 64 + m).isValidChar := Or.inl (by omega)
  have hfirst : (n * 64 + m) / 64 % 32 = n := by omega
  have hsecond : (n * 64 + m) % 64 = m := by omega
  rw [String.utf8EncodeChar, toNat_val_ofNat hvalid]
  rw [if_neg (by omega), if_pos (by omega), hfirst, hsecond]

theorem utf8EncodeChar_of_three {n m k : Nat} (hn : n < 16) (hm : Fits
    (if n = 0 then 0xA0 else 0x80) (if n = 13 then 0x9F else 0xBF) m) (hk : k < 64) :
    String.utf8EncodeChar (Char.ofNat ((n * 64 + m) * 64 + k)) =
      [UInt8.ofNat (n + 0xE0), UInt8.ofNat (m + 0x80), UInt8.ofNat (k + 0x80)] := by
  obtain ⟨hm, hlow, hhigh⟩ := hm
  have hlong : 0x800 ≤ (n * 64 + m) * 64 + k := by
    split at hlow
    · change 160 ≤ _ at hlow
      omega
    · omega
  have hvalid : ((n * 64 + m) * 64 + k).isValidChar := by
    split at hhigh
    · change _ ≤ 159 at hhigh
      exact Or.inl (by omega)
    · by_cases hbefore : n < 13
      · exact Or.inl (by omega)
      · exact Or.inr ⟨by omega, by omega⟩
  have hfirst : ((n * 64 + m) * 64 + k) / 4096 % 16 = n := by omega
  have hsecond : ((n * 64 + m) * 64 + k) / 64 % 64 = m := by omega
  have hthird : ((n * 64 + m) * 64 + k) % 64 = k := by omega
  rw [String.utf8EncodeChar, toNat_val_ofNat hvalid]
  rw [if_neg (by omega), if_neg (by omega), if_pos (by omega), hfirst, hsecond, hthird]

theorem utf8EncodeChar_of_four {n m k l : Nat} (hn : n < 5) (hm : Fits
    (if n = 0 then 0x90 else 0x80) (if n = 4 then 0x8F else 0xBF) m) (hk : k < 64) (hl : l < 64) :
    String.utf8EncodeChar (Char.ofNat (((n * 64 + m) * 64 + k) * 64 + l)) =
      [UInt8.ofNat (n + 0xF0), UInt8.ofNat (m + 0x80), UInt8.ofNat (k + 0x80),
        UInt8.ofNat (l + 0x80)] := by
  obtain ⟨hm, hlow, hhigh⟩ := hm
  have hlong : 0x10000 ≤ ((n * 64 + m) * 64 + k) * 64 + l := by
    split at hlow
    · change 144 ≤ _ at hlow
      omega
    · omega
  have hvalid : (((n * 64 + m) * 64 + k) * 64 + l).isValidChar := by
    split at hhigh
    · change _ ≤ 143 at hhigh
      exact Or.inr ⟨by omega, by omega⟩
    · exact Or.inr ⟨by omega, by omega⟩
  have hfirst : (((n * 64 + m) * 64 + k) * 64 + l) / 262144 % 8 = n := by omega
  have hsecond : (((n * 64 + m) * 64 + k) * 64 + l) / 4096 % 64 = m := by omega
  have hthird : (((n * 64 + m) * 64 + k) * 64 + l) / 64 % 64 = k := by omega
  have hfourth : (((n * 64 + m) * 64 + k) * 64 + l) % 64 = l := by omega
  rw [String.utf8EncodeChar, toNat_val_ofNat hvalid]
  rw [if_neg (by omega), if_neg (by omega), if_neg (by omega), hfirst, hsecond, hthird, hfourth]

/-- A byte begins a character of one to four bytes, or none. -/
theorem first_cases (b : UInt8) :
    (∃ n < 128, b = UInt8.ofNat n) ∨ (∃ n < 32, 2 ≤ n ∧ b = UInt8.ofNat (n + 0xC0)) ∨
      (∃ n < 16, b = UInt8.ofNat (n + 0xE0)) ∨ (∃ n < 5, b = UInt8.ofNat (n + 0xF0)) ∨
      feed .start b = .refuse := by
  have hself : UInt8.ofNat b.toNat = b := UInt8.ofNat_toNat
  have hoffset : ∀ k ≤ b.toNat, b = UInt8.ofNat (b.toNat - k + k) := by
    intro k hk
    rw [Nat.sub_add_cancel hk, hself]
  by_cases h1 : b.toNat < 0x80
  · exact .inl ⟨b.toNat, h1, hself.symm⟩
  by_cases h2 : b.toNat < 0xC2
  · refine .inr (.inr (.inr (.inr ?_)))
    rw [feed, first, if_neg h1, if_pos h2]
  by_cases h3 : b.toNat < 0xE0
  · exact .inr (.inl ⟨b.toNat - 0xC0, by omega, by omega, hoffset _ (by omega)⟩)
  by_cases h4 : b.toNat < 0xF0
  · exact .inr (.inr (.inl ⟨b.toNat - 0xE0, by omega, hoffset _ (by omega)⟩))
  by_cases h5 : b.toNat < 0xF5
  · exact .inr (.inr (.inr (.inl ⟨b.toNat - 0xF0, by omega, hoffset _ (by omega)⟩)))
  · refine .inr (.inr (.inr (.inr ?_)))
    rw [feed, first]
    split_ifs <;> first | rfl | omega

theorem Finishes.eq_utf8EncodeChar {bytes : List UInt8} {c : Char} (h : Finishes .start bytes c) :
    bytes = String.utf8EncodeChar c := by
  cases bytes with
  | nil => exact h.elim
  | cons b bytes =>
      rw [Finishes] at h
      rcases first_cases b with
        ⟨n, hn, rfl⟩ | ⟨n, hn, hn', rfl⟩ | ⟨n, hn, rfl⟩ | ⟨n, hn, rfl⟩ | hrefuse
      · rw [feed_start_ascii n hn] at h
        obtain ⟨rfl, rfl⟩ := h
        exact (utf8EncodeChar_of_one hn).symm
      · rw [feed_start_of_two n hn hn'] at h
        obtain ⟨m, hm, rfl, rfl⟩ := h.inside_zero (by decide) (by decide)
        exact (utf8EncodeChar_of_two hn' hn hm).symm
      · rw [feed_start_of_three n hn] at h
        obtain ⟨m, k, hm, hk, rfl, rfl⟩ :=
          h.inside_one (by split <;> decide) (by split <;> decide)
        exact (utf8EncodeChar_of_three hn hm hk).symm
      · rw [feed_start_of_four n hn] at h
        obtain ⟨m, rest, hm, rfl, hrest⟩ :=
          h.inside_succ (by split <;> decide) (by split <;> decide)
        obtain ⟨k, l, hk, hl, rfl, rfl⟩ := hrest.inside_one (by decide) (by decide)
        exact (utf8EncodeChar_of_four hn hm hk.1 hl).symm
      · rw [hrefuse] at h
        exact h.elim

end CodeMentor.Text.Utf8
