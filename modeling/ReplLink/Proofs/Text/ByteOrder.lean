import ReplLink.Proofs.Text.RoundTrip

/-!
# The order of texts is that of their bytes

Texts are ordered by the codes of their characters. UTF-8 is made so that the bytes of texts
are in the same order: of two characters the one with the lower code has the lower byte at the
first place where their bytes differ.
-/

namespace ReplLink.Text.Utf8

/-- Two rows of bytes are in order if their first bytes are, or if these are the same and the
others are in order. -/
theorem ofNat_cons_lt_cons_iff {m n : Nat} (hm : m < 256) (hn : n < 256) (rest others : Bytes) :
    UInt8.ofNat m :: rest < UInt8.ofNat n :: others ↔ m < n ∨ m = n ∧ rest < others := by
  rw [List.cons_lt_cons_iff, UInt8.lt_iff_toNat_lt, ← UInt8.toNat_inj, toNat_ofNat_of_lt hm,
    toNat_ofNat_of_lt hn]

theorem ofNat_cons_lt_of_lt {m n : Nat} (hm : m < 256) (hn : n < 256) (h : m < n)
    (rest others : Bytes) : UInt8.ofNat m :: rest < UInt8.ofNat n :: others :=
  (ofNat_cons_lt_cons_iff hm hn rest others).mpr (.inl h)

/-- Of two codes the lower one is lower without its lowest six bits, or these decide. -/
theorem lt_by_six_bits {m n : Nat} (h : m < n) :
    m / 64 < n / 64 ∨ m / 64 = n / 64 ∧ m % 64 < n % 64 := by
  omega

/-- The lower of two characters has the lower bytes, whatever follows them. -/
theorem utf8EncodeChar_append_lt {c d : Char} (h : c < d) (rest others : Bytes) :
    String.utf8EncodeChar c ++ rest < String.utf8EncodeChar d ++ others := by
  have hd := toNat_val_range d
  have hlt : c.val.toNat < d.val.toNat := h
  unfold String.utf8EncodeChar
  generalize c.val.toNat = v at hlt
  generalize d.val.toNat = w at hd hlt
  dsimp only
  -- The more bytes a character takes the higher is the first one; with equally many bytes the
  -- codes decide.
  split
  · repeat' split
    all_goals exact ofNat_cons_lt_of_lt (by omega) (by omega) (by omega) _ _
  split
  · rw [if_neg (by omega)]
    split
    · simp (disch := omega) only [List.cons_append, List.nil_append, ofNat_cons_lt_cons_iff]
      omega
    split <;> exact ofNat_cons_lt_of_lt (by omega) (by omega) (by omega) _ _
  split
  · rw [if_neg (by omega), if_neg (by omega)]
    split
    · simp (disch := omega) only [List.cons_append, List.nil_append, ofNat_cons_lt_cons_iff]
      omega
    · exact ofNat_cons_lt_of_lt (by omega) (by omega) (by omega) _ _
  · rw [if_neg (by omega), if_neg (by omega), if_neg (by omega)]
    simp (disch := omega) only [List.cons_append, List.nil_append, ofNat_cons_lt_cons_iff]
    have hsix (n : Nat) : n / 4096 = n / 64 / 64 ∧ n / 262144 = n / 64 / 64 / 64 := by omega
    have htop : v / 262144 % 8 = v / 262144 ∧ w / 262144 % 8 = w / 262144 := by omega
    rw [htop.1, htop.2, (hsix v).1, (hsix v).2, (hsix w).1, (hsix w).2]
    rcases lt_by_six_bits hlt with h | ⟨h, hlast⟩
    · rcases lt_by_six_bits h with h | ⟨h, hlast⟩
      · rcases lt_by_six_bits h with h | ⟨h, hlast⟩ <;> omega
      · omega
    · omega

/-- Texts in their order have their bytes in order. -/
theorem encode_lt_encode {text other : List Char} (h : text < other) :
    encode text < encode other := by
  induction text generalizing other with
  | nil =>
    cases other with
    | nil => exact absurd h (List.not_lt_nil _)
    | cons d others =>
      have hne : encode (d :: others) ≠ [] := by simp [encode_cons]
      obtain ⟨b, bytes, hb⟩ := List.exists_cons_of_ne_nil hne
      rw [hb]
      exact List.nil_lt_cons b bytes
  | cons c rest ih =>
    cases other with
    | nil => exact absurd h (List.not_lt_nil _)
    | cons d others =>
      rw [encode_cons, encode_cons]
      rcases List.cons_lt_cons_iff.mp h with hlt | ⟨rfl, hrest⟩
      · exact utf8EncodeChar_append_lt hlt _ _
      · exact List.append_left_lt (ih hrest)

end ReplLink.Text.Utf8
