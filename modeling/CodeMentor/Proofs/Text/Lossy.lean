import CodeMentor.Proofs.Text.Utf8
import Mathlib.Data.List.Infix

/-!
# Reading bytes that are no text

Reading with replacements takes any bytes, and what it makes of some bytes may depend on those
around them. It does not across a byte of the lower half of the table: such a byte never goes on
with a character that is open, so what is open ends there, and reading starts afresh behind it.
Conversely a character of the lower half is never made out of other bytes than its own.
-/

namespace CodeMentor.Text.Utf8

/-! ## What the reader does with a byte -/

section Reading

variable {st st' : State} {b : UInt8} {rest : List UInt8}

theorem unitsFrom_of_skip (h : feed .start b = .refuse) :
    unitsFrom .start (b :: rest) = none :: unitsFrom .start rest := by
  rw [feed] at h
  rw [unitsFrom, h]

theorem unitsFrom_of_again (hst : st ≠ .start) (h : feed st b = .refuse) :
    unitsFrom st (b :: rest) = none :: unitsFrom .start (b :: rest) := by
  cases st with
  | start => exact absurd rfl hst
  | inside owed low high value => simp only [unitsFrom, h]

/-- What holds of the end of the bytes and is handed on by each thing that the reader does with a
byte holds of all bytes. A byte that ends an open character is looked at twice. -/
@[elab_as_elim]
theorem reading_induction {motive : State → List UInt8 → Prop} (nil : ∀ st, motive st [])
    (more : ∀ st st' b rest, feed st b = .more st' → motive st' rest → motive st (b :: rest))
    (done : ∀ st c b rest, feed st b = .done c → motive .start rest → motive st (b :: rest))
    (skip : ∀ b rest, feed .start b = .refuse → motive .start rest → motive .start (b :: rest))
    (again : ∀ st b rest, st ≠ .start → feed st b = .refuse → motive .start (b :: rest) →
      motive st (b :: rest))
    (st : State) (bytes : List UInt8) : motive st bytes := by
  induction bytes generalizing st with
  | nil => exact nil st
  | cons b rest ih =>
      have hfirst : motive .start (b :: rest) := by
        cases hfeed : feed .start b with
        | more st' => exact more _ st' b rest hfeed (ih st')
        | done c => exact done _ c b rest hfeed (ih .start)
        | refuse => exact skip b rest hfeed (ih .start)
      by_cases hst : st = .start
      · exact hst ▸ hfirst
      · cases hfeed : feed st b with
        | more st' => exact more st st' b rest hfeed (ih st')
        | done c => exact done st c b rest hfeed (ih .start)
        | refuse => exact again st b rest hst hfeed hfirst

end Reading

/-! ## Bytes that cut -/

/-- No byte of the lower half of the table goes on with what is open. -/
def Guarded : State → Prop
  | .start => True
  | .inside _ low _ _ => 0x80 ≤ low

theorem Guarded.of_feed {st st' : State} {b : UInt8} (h : Guarded st)
    (hfeed : feed st b = .more st') : Guarded st' := by
  cases st with
  | start =>
      rcases first_cases b with
        ⟨n, hn, rfl⟩ | ⟨n, hn, hn', rfl⟩ | ⟨n, hn, rfl⟩ | ⟨n, hn, rfl⟩ | hrefuse
      · rw [feed_start_ascii n hn] at hfeed
        cases hfeed
      · rw [feed_start_of_two n hn hn'] at hfeed
        cases hfeed
        exact UInt8.le_refl _
      · rw [feed_start_of_three n hn] at hfeed
        cases hfeed
        rw [Guarded]
        split <;> decide
      · rw [feed_start_of_four n hn] at hfeed
        cases hfeed
        rw [Guarded]
        split <;> decide
      · rw [hrefuse] at hfeed
        cases hfeed
  | inside owed low high value =>
      rw [feed] at hfeed
      split at hfeed
      · cases owed with
        | zero => cases hfeed
        | succ owed =>
            cases hfeed
            exact UInt8.le_refl _
      · cases hfeed

theorem Guarded.refuse {st : State} (h : Guarded st) (hst : st ≠ .start) {b : UInt8}
    (hb : b.toNat < 0x80) : feed st b = .refuse := by
  cases st with
  | start => exact absurd rfl hst
  | inside owed low high value =>
      rw [feed, if_neg]
      rintro ⟨hlow, -⟩
      have hle := UInt8.le_iff_toNat_le.mp (UInt8.le_trans h hlow)
      exact absurd hle (Nat.not_le.mpr hb)

/-- A byte of the lower half of the table is a character by itself, wherever it stands: what is open
before it ends, and reading starts afresh behind it. -/
theorem unitsFrom_append_cons {st : State} (hst : Guarded st) {b : UInt8} (hb : b.toNat < 0x80)
    (xs ys : List UInt8) :
    unitsFrom st (xs ++ b :: ys) =
      unitsFrom st xs ++ some (Char.ofNat b.toNat) :: unitsFrom .start ys := by
  have hself : feed .start b = .done (Char.ofNat b.toNat) := by
    rw [← feed_start_ascii b.toNat hb, UInt8.ofNat_toNat]
  induction st, xs using reading_induction with
  | nil st =>
      by_cases hstart : st = .start
      · rw [hstart, List.nil_append, unitsFrom_of_done hself]
        rfl
      · rw [List.nil_append, unitsFrom_of_again hstart (hst.refuse hstart hb),
          unitsFrom_of_done hself]
        cases st with
        | start => exact absurd rfl hstart
        | inside owed low high value => rfl
  | more st st' b' rest hfeed ih =>
      rw [List.cons_append, unitsFrom_of_more hfeed, unitsFrom_of_more hfeed]
      exact ih (hst.of_feed hfeed)
  | done st c b' rest hfeed ih =>
      rw [List.cons_append, unitsFrom_of_done hfeed, unitsFrom_of_done hfeed, ih trivial,
        List.cons_append]
  | skip b' rest hfeed ih =>
      rw [List.cons_append, unitsFrom_of_skip hfeed, unitsFrom_of_skip hfeed, ih trivial,
        List.cons_append]
  | again st b' rest hstart hfeed ih =>
      have hafresh := ih trivial
      rw [List.cons_append] at hafresh ⊢
      rw [unitsFrom_of_again hstart hfeed, unitsFrom_of_again hstart hfeed, hafresh,
        List.cons_append]

theorem lossy_append_cons {b : UInt8} (hb : b.toNat < 0x80) (xs ys : List UInt8) :
    (lossy (xs ++ b :: ys)).toList =
      (lossy xs).toList ++ Char.ofNat b.toNat :: (lossy ys).toList := by
  have hstart : Guarded .start := trivial
  simp only [lossy, units, String.toList_ofList, unitsFrom_append_cons hstart hb,
    List.map_append, List.map_cons, Option.getD_some]

/-! ## Where characters come from -/

/-- Some of the bytes take the reader through one character: those from here on, from the state in
which it is, or later ones from the start. -/
def Spelled (c : Char) (st : State) (bytes : List UInt8) : Prop :=
  (∃ head, head <+: bytes ∧ Finishes st head c) ∨ ∃ head, head <:+: bytes ∧ Finishes .start head c

theorem Spelled.within {c : Char} {bytes : List UInt8} (h : Spelled c .start bytes) :
    ∃ head, head <:+: bytes ∧ Finishes .start head c := by
  rcases h with ⟨head, hhead, hends⟩ | h
  · exact ⟨head, hhead.isInfix, hends⟩
  · exact h

theorem Spelled.cons {c : Char} {bytes : List UInt8} (h : Spelled c .start bytes) (st : State)
    (b : UInt8) : Spelled c st (b :: bytes) := by
  obtain ⟨head, hhead, hends⟩ := h.within
  exact .inr ⟨head, List.infix_cons hhead, hends⟩

theorem spelled_of_mem {st : State} {bytes : List UInt8} {c : Char}
    (h : some c ∈ unitsFrom st bytes) : Spelled c st bytes := by
  induction st, bytes using reading_induction with
  | nil st => cases st <;> simp [unitsFrom] at h
  | more st st' b rest hfeed ih =>
      rw [unitsFrom_of_more hfeed] at h
      rcases ih h with ⟨head, hhead, hends⟩ | ⟨head, hhead, hends⟩
      · refine .inl ⟨b :: head, List.cons_prefix_cons.mpr ⟨rfl, hhead⟩, ?_⟩
        rw [Finishes, hfeed]
        exact hends
      · exact .inr ⟨head, List.infix_cons hhead, hends⟩
  | done st c' b rest hfeed ih =>
      rw [unitsFrom_of_done hfeed, List.mem_cons, Option.some.injEq] at h
      rcases h with rfl | h
      · refine .inl ⟨[b], ⟨rest, rfl⟩, ?_⟩
        rw [Finishes, hfeed]
        exact ⟨rfl, rfl⟩
      · exact (ih h).cons st b
  | skip b rest hfeed ih =>
      rw [unitsFrom_of_skip hfeed, List.mem_cons] at h
      exact (ih (h.resolve_left (by simp))).cons .start b
  | again st b rest hstart hfeed ih =>
      rw [unitsFrom_of_again hstart hfeed, List.mem_cons] at h
      exact .inr (ih (h.resolve_left (by simp))).within

/-- Each character that is read has its bytes among those that it is read from, next to each
other. -/
theorem utf8EncodeChar_infix_of_mem {bytes : List UInt8} {c : Char} (h : some c ∈ units bytes) :
    String.utf8EncodeChar c <:+: bytes := by
  obtain ⟨head, hhead, hends⟩ := (spelled_of_mem h).within
  rwa [← hends.eq_utf8EncodeChar]

theorem mem_of_mem_lossy {bytes : List UInt8} {c : Char} (h : c ∈ (lossy bytes).toList)
    (hlt : c.toNat < 0x80) : UInt8.ofNat c.toNat ∈ bytes := by
  rw [lossy, String.toList_ofList, List.mem_map] at h
  obtain ⟨u, hu, rfl⟩ := h
  cases u with
  | none => exact absurd hlt (by decide)
  | some c =>
      rw [Option.getD_some] at hlt ⊢
      have hbytes := utf8EncodeChar_infix_of_mem hu
      rw [← Char.ofNat_toNat c, utf8EncodeChar_of_one hlt] at hbytes
      exact hbytes.subset (List.mem_singleton_self _)

@[simp] theorem lossy_eq_empty_iff {bytes : List UInt8} : lossy bytes = "" ↔ bytes = [] := by
  constructor
  · intro h
    rw [lossy, String.ofList_eq_empty_iff, List.map_eq_nil_iff] at h
    have hunits : unitsFrom .start bytes = [].map some := h
    exact (eq_nil_of_decodeFrom (decodeFrom_of_unitsFrom hunits 0 0)).1
  · rintro rfl
    rfl

end CodeMentor.Text.Utf8
