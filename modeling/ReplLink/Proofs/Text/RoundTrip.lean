import ReplLink.Text.Utf8

/-!
# Text through UTF-8 and back

Text that leaves as UTF-8 is read back as it was, character for character. The
bytes of a character are those of ASCII for an ASCII character, and for any
other character none of them is a byte of ASCII.
-/

namespace ReplLink.Text.Utf8

/-- The code of a character is no surrogate and lies below the end of Unicode. -/
theorem toNat_val_range (c : Char) :
    c.val.toNat < 0xD800 ∨ 0xDFFF < c.val.toNat ∧ c.val.toNat < 0x110000 := c.valid

theorem toNat_ofNat_of_lt {n : Nat} (h : n < 256) : (UInt8.ofNat n).toNat = n := by
  rw [UInt8.toNat_ofNat', Nat.mod_eq_of_lt h]

/-- A byte below eighty is a character. -/
theorem push_ascii {n : Nat} (h : n < 0x80) (text : List Char) :
    push (text, .ready) (UInt8.ofNat n) = (Char.ofNat n :: text, .ready) := by
  have hn : (UInt8.ofNat n).toNat = n := toNat_ofNat_of_lt (by omega)
  simp only [push, advance, start, hn, if_pos h]

/-- The first byte of a character of two bytes. -/
theorem push_first_of_two {n : Nat} (hl : 0xC2 ≤ n) (hh : n < 0xE0) (text : List Char) :
    push (text, .ready) (UInt8.ofNat n) = (text, .inside 1 1 0x80 0xBF (n - 0xC0)) := by
  have hn : (UInt8.ofNat n).toNat = n := toNat_ofNat_of_lt (by omega)
  have h0 : ¬n < 0x80 := by omega
  have h1 : ¬n < 0xC2 := by omega
  simp only [push, advance, start, hn, if_neg h0, if_neg h1, if_pos hh]

/-- The first byte of a character of three bytes. -/
theorem push_first_of_three {n : Nat} (hl : 0xE0 ≤ n) (hh : n < 0xF0) (text : List Char) :
    push (text, .ready) (UInt8.ofNat n)
      = (text, .inside 1 2 (if n = 0xE0 then 0xA0 else 0x80) (if n = 0xED then 0x9F else 0xBF)
          (n - 0xE0)) := by
  have hn : (UInt8.ofNat n).toNat = n := toNat_ofNat_of_lt (by omega)
  have h0 : ¬n < 0x80 := by omega
  have h1 : ¬n < 0xC2 := by omega
  have h2 : ¬n < 0xE0 := by omega
  simp only [push, advance, start, hn, if_neg h0, if_neg h1, if_neg h2, if_pos hh]

/-- The first byte of a character of four bytes. -/
theorem push_first_of_four {n : Nat} (hl : 0xF0 ≤ n) (hh : n < 0xF5) (text : List Char) :
    push (text, .ready) (UInt8.ofNat n)
      = (text, .inside 1 3 (if n = 0xF0 then 0x90 else 0x80) (if n = 0xF4 then 0x8F else 0xBF)
          (n - 0xF0)) := by
  have hn : (UInt8.ofNat n).toNat = n := toNat_ofNat_of_lt (by omega)
  have h0 : ¬n < 0x80 := by omega
  have h1 : ¬n < 0xC2 := by omega
  have h2 : ¬n < 0xE0 := by omega
  have h3 : ¬n < 0xF0 := by omega
  simp only [push, advance, start, hn, if_neg h0, if_neg h1, if_neg h2, if_neg h3, if_pos hh]

/-- The last byte of a character gives the lowest six bits of its code. -/
theorem push_last {d : Nat} {low high : UInt8} (hl : low.toNat ≤ d + 0x80)
    (hh : d + 0x80 ≤ high.toNat) (text : List Char) (taken value : Nat) :
    push (text, .inside taken 1 low high value) (UInt8.ofNat (d + 0x80))
      = (Char.ofNat (value * 64 + d) :: text, .ready) := by
  have hd : (UInt8.ofNat (d + 0x80)).toNat = d + 0x80 :=
    toNat_ofNat_of_lt (Nat.lt_of_le_of_lt hh high.toNat_lt)
  have hb : (decide (low ≤ UInt8.ofNat (d + 0x80)) &&
      decide (UInt8.ofNat (d + 0x80) ≤ high)) = true := by
    simp only [UInt8.le_iff_toNat_le, hd, hl, hh, decide_true, Bool.and_self]
  simp only [push, advance, hb, if_true, Nat.le_refl, hd, Nat.add_sub_cancel]

/-- A byte in the middle of a character gives six bits of its code. -/
theorem push_middle {d missing : Nat} {low high : UInt8} (hl : low.toNat ≤ d + 0x80)
    (hh : d + 0x80 ≤ high.toNat) (text : List Char) (taken value : Nat) :
    push (text, .inside taken (missing + 2) low high value) (UInt8.ofNat (d + 0x80))
      = (text, .inside (taken + 1) (missing + 1) 0x80 0xBF (value * 64 + d)) := by
  have hd : (UInt8.ofNat (d + 0x80)).toNat = d + 0x80 :=
    toNat_ofNat_of_lt (Nat.lt_of_le_of_lt hh high.toNat_lt)
  have hb : (decide (low ≤ UInt8.ofNat (d + 0x80)) &&
      decide (UInt8.ofNat (d + 0x80) ≤ high)) = true := by
    simp only [UInt8.le_iff_toNat_le, hd, hl, hh, decide_true, Bool.and_self]
  have hm : ¬missing + 2 ≤ 1 := by omega
  simp only [push, advance, hb, if_true, if_neg hm, hd, Nat.add_sub_cancel]
  rfl

/-- The bytes of a character are read back as this character. -/
theorem foldl_push_utf8EncodeChar (c : Char) (text : List Char) :
    (String.utf8EncodeChar c).foldl push (text, .ready) = (c :: text, .ready) := by
  have hc : Char.ofNat c.val.toNat = c := Char.ofNat_toNat c
  have hr := toNat_val_range c
  unfold String.utf8EncodeChar
  generalize c.val.toNat = v at hc hr
  subst hc
  dsimp only
  -- The bounds of the second byte, as numbers.
  have h80 : (0x80 : UInt8).toNat = 0x80 := rfl
  have h8F : (0x8F : UInt8).toNat = 0x8F := rfl
  have h90 : (0x90 : UInt8).toNat = 0x90 := rfl
  have h9F : (0x9F : UInt8).toNat = 0x9F := rfl
  have hA0 : (0xA0 : UInt8).toNat = 0xA0 := rfl
  have hBF : (0xBF : UInt8).toNat = 0xBF := rfl
  split
  · next h => rw [List.foldl_cons, push_ascii (by omega), List.foldl_nil]
  next h1 =>
  split
  · next h =>
    rw [List.foldl_cons, push_first_of_two (by omega) (by omega), List.foldl_cons,
      push_last (by omega) (by omega), List.foldl_nil]
    congr 3
    omega
  next h2 =>
  split
  · next h =>
    rw [List.foldl_cons, push_first_of_three (by omega) (by omega), List.foldl_cons,
      push_middle (by split <;> omega) (by split <;> omega), List.foldl_cons,
      push_last (by omega) (by omega), List.foldl_nil]
    congr 3
    omega
  · rw [List.foldl_cons, push_first_of_four (by omega) (by omega), List.foldl_cons,
      push_middle (by split <;> omega) (by split <;> omega), List.foldl_cons,
      push_middle (by omega) (by omega), List.foldl_cons,
      push_last (by omega) (by omega), List.foldl_nil]
    congr 3
    omega

/-- Text is read back as it was written. -/
theorem decode_encode (text : List Char) : decode (encode text) = text := by
  have hfold (before : List Char) :
      (encode text).foldl push (before, .ready) = (text.reverse ++ before, .ready) := by
    induction text generalizing before with
    | nil => rfl
    | cons c rest ih =>
      rw [encode_cons, List.foldl_append, foldl_push_utf8EncodeChar, ih, List.reverse_cons,
        List.append_assoc, List.singleton_append]
  rw [decode, hfold [], List.append_nil]
  exact List.reverse_reverse text

/-- The bytes of an ASCII character are the character; other characters have
no byte of ASCII. -/
theorem utf8EncodeChar_cases (c : Char) :
    (c.toNat < 0x80 ∧ String.utf8EncodeChar c = [UInt8.ofNat c.toNat]) ∨
      (0x80 ≤ c.toNat ∧ ∀ b ∈ String.utf8EncodeChar c, 0x80 ≤ b.toNat) := by
  have hr := toNat_val_range c
  have hlow {n : Nat} (hl : 0x80 ≤ n) (hh : n < 0x100) : 0x80 ≤ (UInt8.ofNat n).toNat := by
    rw [toNat_ofNat_of_lt hh]
    exact hl
  unfold String.utf8EncodeChar Char.toNat
  generalize c.val.toNat = v at hr
  dsimp only
  split
  · next h => exact .inl ⟨by omega, rfl⟩
  next h =>
  right
  refine ⟨by omega, ?_⟩
  split
  · simp only [List.forall_mem_cons, List.not_mem_nil, false_implies, implies_true, and_true]
    exact ⟨hlow (by omega) (by omega), hlow (by omega) (by omega)⟩
  split
  · simp only [List.forall_mem_cons, List.not_mem_nil, false_implies, implies_true, and_true]
    exact ⟨hlow (by omega) (by omega), hlow (by omega) (by omega), hlow (by omega) (by omega)⟩
  · simp only [List.forall_mem_cons, List.not_mem_nil, false_implies, implies_true, and_true]
    exact ⟨hlow (by omega) (by omega), hlow (by omega) (by omega), hlow (by omega) (by omega),
      hlow (by omega) (by omega)⟩

/-- A text takes as many bytes as the string that holds it. -/
theorem size_toList (text : String) : size text.toList = text.utf8ByteSize := by
  have hbytes : text.toList.utf8Encode = text.toByteArray := String.utf8Encode_toList
  rw [size, encode, ← String.size_toByteArray, ← hbytes, List.utf8Encode, List.size_toByteArray]

end ReplLink.Text.Utf8
