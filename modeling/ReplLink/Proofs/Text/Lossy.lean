import ReplLink.Text.Utf8

/-!
# Text from arbitrary bytes

Bytes that are no UTF-8 are decoded too. What comes out of them are characters
above ASCII and ASCII bytes that went in, so that no delimiter appears in a word
that had none. And something comes out whenever anything went in.
-/

namespace ReplLink.Text.Utf8

/-- The character lies outside ASCII or is one of the bytes. Nothing is said about
NUL, which also stands for a number that is no character. -/
def ComesFrom (bytes : Bytes) (c : Char) : Prop :=
  c.toNat = 0 ∨ 0x80 ≤ c.toNat ∨ ∃ b ∈ bytes, b.toNat = c.toNat

theorem ComesFrom.append {bytes : Bytes} {c : Char} (h : ComesFrom bytes c) (more : Bytes) :
    ComesFrom (bytes ++ more) c := by
  rcases h with h | h | ⟨b, hb, he⟩
  · exact .inl h
  · exact .inr (.inl h)
  · exact .inr (.inr ⟨b, List.mem_append_left more hb, he⟩)

/-- The bits read so far, and the least that the next byte adds to them, exclude that
the character under way is one of ASCII. -/
def State.IsHigh : State → Prop
  | .ready => True
  | .inside _ missing low _ value => 2 ≤ value ∨ 2 ≤ missing ∧ 0x82 ≤ value * 64 + low.toNat

/-- What a byte may lead to. -/
def Move.IsFaithful (b : UInt8) : Move → Prop
  | .emit c => ComesFrom [b] c
  | .goOn state => state ≠ .ready ∧ state.IsHigh
  | .refuse => True

theorem toNat_ofNat_or (n : Nat) : (Char.ofNat n).toNat = n ∨ (Char.ofNat n).toNat = 0 := by
  by_cases hv : n.isValidChar
  · left
    rw [Char.ofNat, dif_pos hv]
    rfl
  · right
    rw [Char.ofNat, dif_neg hv]
    rfl

/-- A number above ASCII gives no character of ASCII. -/
theorem comesFrom_ofNat {n : Nat} (h : 0x80 ≤ n) (bytes : Bytes) :
    ComesFrom bytes (Char.ofNat n) := by
  rcases toNat_ofNat_or n with he | he
  · have hc : 0x80 ≤ (Char.ofNat n).toNat := by rw [he]; exact h
    exact .inr (.inl hc)
  · exact .inl he

/-- A byte that starts a character is the character, or promises one above ASCII. -/
theorem isFaithful_start (b : UInt8) : (start b).IsFaithful b := by
  have h80 : (0x80 : UInt8).toNat = 0x80 := rfl
  have h90 : (0x90 : UInt8).toNat = 0x90 := rfl
  have hA0 : (0xA0 : UInt8).toNat = 0xA0 := rfl
  unfold start
  dsimp only
  split
  · rcases toNat_ofNat_or b.toNat with he | he
    · exact .inr (.inr ⟨b, List.mem_singleton_self b, he.symm⟩)
    · exact .inl he
  split
  · trivial
  split
  · -- Two bytes: the first one gives two bits or more.
    exact ⟨by simp, .inl (by omega)⟩
  split
  · refine ⟨by simp, .inr ⟨Nat.le_refl 2, ?_⟩⟩
    split <;> omega
  split
  · refine ⟨by simp, .inr ⟨by omega, ?_⟩⟩
    split <;> omega
  · trivial

/-- A byte that goes on a character keeps the promise. -/
theorem isFaithful_advance {state : State} (h : state.IsHigh) (b : UInt8) :
    (advance state b).IsFaithful b := by
  cases state with
  | ready => exact isFaithful_start b
  | inside taken missing low high value =>
    rw [advance]
    split
    · next hrange =>
      have hlow : low.toNat ≤ b.toNat := by
        rw [Bool.and_eq_true, decide_eq_true_eq] at hrange
        exact UInt8.le_iff_toNat_le.mp hrange.1
      dsimp only
      split
      · next hlast =>
        have hvalue : 2 ≤ value := h.resolve_right fun hm => by omega
        exact comesFrom_ofNat (by omega) [b]
      · have hnext : 2 ≤ value * 64 + (b.toNat - 0x80) := by
          rcases h with h | ⟨-, h⟩ <;> omega
        exact ⟨by simp, .inl hnext⟩
    · trivial

theorem comesFrom_replacement (bytes : Bytes) : ComesFrom bytes replacement :=
  .inr (.inl (by decide))

/-- What is read of some bytes. -/
structure HasRead (bytes : Bytes) (read : List Char × State) : Prop where
  /-- The characters come from the bytes. -/
  comes : ∀ c ∈ read.1, ComesFrom bytes c
  /-- The one under way will not be a character of ASCII. -/
  high : read.2.IsHigh
  /-- Some bytes leave a character, finished or not. -/
  something : bytes ≠ [] → read.1 ≠ [] ∨ read.2 ≠ .ready

theorem hasRead_nil : HasRead [] ([], .ready) where
  comes := List.forall_mem_nil _
  high := trivial
  something := fun h => absurd rfl h

/-- One more byte adds a character or starts one. -/
theorem HasRead.of_move {bytes : Bytes} {text : List Char} {b : UInt8} {move : Move}
    (ht : ∀ c ∈ text, ComesFrom bytes c) (hm : move.IsFaithful b) :
    (∀ c, move = .emit c → HasRead (bytes ++ [b]) (c :: text, .ready)) ∧
      ∀ state, move = .goOn state → HasRead (bytes ++ [b]) (text, state) := by
  have hold : ∀ c ∈ text, ComesFrom (bytes ++ [b]) c := fun c hc => (ht c hc).append [b]
  constructor
  · rintro c rfl
    have hc : ComesFrom (bytes ++ [b]) c := by
      rcases hm with h | h | ⟨a, ha, he⟩
      · exact .inl h
      · exact .inr (.inl h)
      · exact .inr (.inr ⟨a, List.mem_append_right bytes ha, he⟩)
    exact ⟨List.forall_mem_cons.mpr ⟨hc, hold⟩, trivial, fun _ => .inl (List.cons_ne_nil _ _)⟩
  · rintro state rfl
    exact ⟨hold, hm.2, fun _ => .inr hm.1⟩

/-- Reading goes on faithfully, also over bytes that are refused. -/
theorem HasRead.push {bytes : Bytes} {read : List Char × State} (h : HasRead bytes read)
    (b : UInt8) : HasRead (bytes ++ [b]) (push read b) := by
  obtain ⟨text, state⟩ := read
  have hmoved := HasRead.of_move h.comes (isFaithful_advance h.high b)
  unfold Utf8.push
  dsimp only
  split
  · next c he => exact hmoved.1 c he
  · next next he => exact hmoved.2 next he
  -- The byte is refused, and gets its second chance behind a replacement.
  have hbroken : ∀ c ∈ replacement :: text, ComesFrom bytes c :=
    List.forall_mem_cons.mpr ⟨comesFrom_replacement bytes, h.comes⟩
  have hsecond := HasRead.of_move hbroken (isFaithful_start b)
  have hboth (texts : List Char) (ht : ∀ c ∈ texts, ComesFrom bytes c) :
      HasRead (bytes ++ [b]) (replacement :: texts, .ready) :=
    ⟨List.forall_mem_cons.mpr ⟨comesFrom_replacement _, fun c hc => (ht c hc).append [b]⟩,
      trivial, fun _ => .inl (List.cons_ne_nil _ _)⟩
  split
  · exact hboth text h.comes
  split
  · next c he => exact hsecond.1 c he
  · next next he => exact hsecond.2 next he
  · exact hboth (replacement :: text) hbroken

theorem HasRead.foldl {bytes : Bytes} {read : List Char × State} (h : HasRead bytes read)
    (more : Bytes) : HasRead (bytes ++ more) (more.foldl Utf8.push read) := by
  induction more generalizing bytes read with
  | nil => rwa [List.append_nil]
  | cons b rest ih =>
    have hrest := ih (h.push b)
    rwa [List.append_assoc, List.singleton_append] at hrest

/-- Decoded characters come from the bytes, and from some bytes come some. -/
theorem decode_comesFrom (bytes : Bytes) :
    (∀ c ∈ decode bytes, ComesFrom bytes c) ∧ (bytes ≠ [] → decode bytes ≠ []) := by
  have h := hasRead_nil.foldl bytes
  rw [List.nil_append] at h
  unfold decode
  split
  · next text he =>
    rw [he] at h
    refine ⟨fun c hc => h.comes c (List.mem_reverse.mp hc), fun hne => ?_⟩
    have htext : text ≠ [] := (h.something hne).resolve_right fun hr => hr rfl
    exact fun hr => htext (List.reverse_eq_nil_iff.mp hr)
  · next text _ _ _ _ _ he =>
    rw [he] at h
    have hall : ∀ c ∈ replacement :: text, ComesFrom bytes c :=
      List.forall_mem_cons.mpr ⟨comesFrom_replacement bytes, h.comes⟩
    refine ⟨fun c hc => hall c (List.mem_reverse.mp hc), fun _ hr => ?_⟩
    exact List.cons_ne_nil _ _ (List.reverse_eq_nil_iff.mp hr)

end ReplLink.Text.Utf8
