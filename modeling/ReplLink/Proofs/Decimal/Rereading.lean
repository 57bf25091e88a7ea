import ReplLink.Proofs.Decimal.Numerals
import ReplLink.Proofs.Decimal.Shortest

/-!
# Written doubles are read back

A finite magnitude is written in one of four forms: in front of the point, around it, behind
it, or with a power of ten. Each of them is a numeral with the digits that were found, zeros
aside, and with their place, so it is read as the magnitude again. Each starts with a digit and
has a point or an exponent mark, so none is read as an integer.
-/

namespace ReplLink.Decimal

open ReplLink.Text

/-- A text without a sign is read as a decimal that is rounded to a magnitude. -/
structure Spells (unsigned : List Char) (magnitude : Nat) : Prop where
  /-- It starts with a digit. -/
  starts : ∃ first rest, unsigned = first :: rest ∧ Ascii.isDigit first = true
  /-- It has something else in it. -/
  broken : ∃ c ∈ unsigned, Ascii.isDigit c = false
  /-- It is a numeral, behind a sign or without one. -/
  reads : ∀ text negative, splitSign text = (negative, unsigned) →
    ∃ digits exponent, Numeral.ofText? text = some ⟨negative, digits, exponent⟩ ∧
      magnitudeOfDecimal digits exponent = magnitude

/-- A text is what is left without the zeros at its end, and these zeros. -/
theorem exists_zeros (text : List Char) :
    ∃ count, text = (text.reverse.dropWhile (· == '0')).reverse ++ List.replicate count '0' := by
  have hzeros : text.reverse.takeWhile (· == '0')
      = List.replicate (text.reverse.takeWhile (· == '0')).length '0' :=
    List.eq_replicate_iff.mpr
      ⟨rfl, fun c hc => by simpa using List.all_eq_true.mp List.all_takeWhile c hc⟩
  refine ⟨(text.reverse.takeWhile (· == '0')).length, ?_⟩
  calc text = (text.reverse.takeWhile (· == '0') ++ text.reverse.dropWhile (· == '0')).reverse := by
        rw [List.takeWhile_append_dropWhile, List.reverse_reverse]
    _ = _ := by
        rw [List.reverse_append, hzeros, List.reverse_replicate, List.length_replicate]

namespace Layout

variable {digits : List Char} {point : Int}

/-- Digits with a point among them and without an exponent are read with their place. -/
theorem spells_point {whole places : List Char} (hne : whole ≠ [])
    (hw : ∀ c ∈ whole, Ascii.isDigit c = true) (hp : ∀ c ∈ places, Ascii.isDigit c = true) :
    Spells (whole ++ '.' :: places)
      (magnitudeOfDecimal (naturalOfDigits (whole ++ places)) (-places.length)) where
  starts := by
    obtain ⟨first, rest, rfl⟩ := List.exists_cons_of_ne_nil hne
    exact ⟨first, _, rfl, hw first List.mem_cons_self⟩
  broken := ⟨'.', List.mem_append_right whole List.mem_cons_self, rfl⟩
  reads := fun text negative hs => by
    rw [← List.append_nil places] at hs
    refine ⟨_, _, ofText?_point hs hne hw hp endsDigits_nil, ?_⟩
    rw [Int.zero_sub]

theorem spells_positional (hne : digits ≠ []) (hd : ∀ c ∈ digits, Ascii.isDigit c = true) :
    Spells (positional digits point)
      (magnitudeOfDecimal (naturalOfDigits digits) (point - digits.length)) := by
  have hzeros (count : Nat) : ∀ c ∈ List.replicate count '0', Ascii.isDigit c = true :=
    fun c hc => List.eq_of_mem_replicate hc ▸ rfl
  have hlength := List.length_pos_iff.mpr hne
  unfold positional
  split
  · -- All digits stand behind the point, the zeros between them and it as well.
    next hsmall =>
    have hzero : ['0'] ≠ [] := List.cons_ne_nil _ _
    have hspells := spells_point hzero (hzeros 1)
      (List.forall_mem_append.mpr ⟨hzeros (-point).toNat, hd⟩)
    have hvalue : naturalOfDigits (['0'] ++ (List.replicate (-point).toNat '0' ++ digits))
        = naturalOfDigits digits :=
      (naturalOfDigits_zeros_append 1 _).trans (naturalOfDigits_zeros_append _ digits)
    have hplace : (-((List.replicate (-point).toNat '0' ++ digits).length : Int))
        = point - digits.length := by
      rw [List.length_append, List.length_replicate]
      omega
    rwa [hvalue, hplace] at hspells
  split
  · -- All digits stand in front of it, with zeros up to it and one behind it.
    next hlarge hshort =>
    have hspells := spells_point (List.append_ne_nil_of_left_ne_nil hne _)
      (List.forall_mem_append.mpr ⟨hd, hzeros (point.toNat - digits.length)⟩) (hzeros 1)
    have hvalue : naturalOfDigits (digits ++ List.replicate (point.toNat - digits.length) '0'
          ++ List.replicate 1 '0')
        = naturalOfDigits digits * 10 ^ (point.toNat - digits.length + 1) := by
      rw [List.append_assoc, List.replicate_append_replicate, naturalOfDigits_append_zeros]
    have hplace : (-((List.replicate 1 '0').length : Int))
        = point - digits.length - (point.toNat - digits.length + 1 : Nat) := by
      rw [List.length_replicate]
      omega
    rwa [hvalue, hplace, magnitudeOfDecimal_zeros] at hspells
  · -- It stands among the digits.
    next hlarge hlong =>
    have hfront : digits.take point.toNat ≠ [] := by
      rw [Ne, List.take_eq_nil_iff]
      rintro (hzero | hnil)
      · omega
      · exact hne hnil
    have hback : ∀ c ∈ digits.drop point.toNat, Ascii.isDigit c = true :=
      fun c hc => hd c (List.mem_of_mem_drop hc)
    have hspells := spells_point hfront (fun c hc => hd c (List.mem_of_mem_take hc)) hback
    have hplace : (-((digits.drop point.toNat).length : Int)) = point - digits.length := by
      rw [List.length_drop]
      omega
    rwa [List.take_append_drop, hplace] at hspells

theorem spells_scientific {sign : String} (hs : sign = "" ∨ sign = "+") (hne : digits ≠ [])
    (hd : ∀ c ∈ digits, Ascii.isDigit c = true) {exponent : Int}
    (hb : exponent.natAbs < exponentBound) :
    Spells (scientific sign digits exponent)
      (magnitudeOfDecimal (naturalOfDigits digits) (exponent + 1 - digits.length)) := by
  have hsign : sign.toList = [] ∨ sign.toList = ['+'] := by
    rcases hs with rfl | rfl
    · exact .inl rfl
    · exact .inr rfl
  have hpower := exponent?_written hsign hb
  have hends (rest : List Char) : EndsDigits ('e' :: rest) := fun c hc => by
    obtain rfl := Option.some.inj hc
    decide
  unfold scientific
  match digits with
  | [] => exact absurd rfl hne
  | [first] =>
    refine ⟨⟨first, _, rfl, hd first List.mem_cons_self⟩, ⟨'e', by simp, rfl⟩,
      fun text negative ht => ?_⟩
    have hread := ofText?_whole ht hne hd (hends _) (by simp)
    rw [hpower] at hread
    refine ⟨_, _, hread, ?_⟩
    rw [List.length_singleton, Int.natCast_one, Int.add_sub_cancel]
  | first :: second :: rest =>
    obtain ⟨hfirst, hplaces⟩ := List.forall_mem_cons.mp hd
    have hwhole : ∀ c ∈ [first], Ascii.isDigit c = true := List.forall_mem_singleton.mpr hfirst
    refine ⟨⟨first, _, rfl, hfirst⟩, ⟨'e', by simp, rfl⟩, fun text negative ht => ?_⟩
    have hread := ofText?_point ht (List.cons_ne_nil _ _) hwhole hplaces (hends _)
    rw [hpower] at hread
    have hplace : exponent - ((second :: rest).length : Int)
        = exponent + 1 - ((first :: second :: rest).length : Int) := by
      rw [List.length_cons (a := first)]
      omega
    refine ⟨_, _, hread, ?_⟩
    rw [hplace]
    rfl

/-- A positive decimal is written as what is rounded to the same magnitude. -/
theorem spells_decimal {layout : Layout}
    (hs : layout.exponentSign = "" ∨ layout.exponentSign = "+") {digits : Nat} {exponent : Int}
    (hpos : 0 < digits) (hb : (exponent + digitCount digits - 1).natAbs < exponentBound) :
    Spells (layout.decimal digits exponent) (magnitudeOfDecimal digits exponent) := by
  obtain ⟨count, hzeros⟩ := exists_zeros (Nat.toDigits 10 digits)
  let kept := ((Nat.toDigits 10 digits).reverse.dropWhile (· == '0')).reverse
  have hall : Nat.toDigits 10 digits = kept ++ List.replicate count '0' := hzeros
  have hdigits : ∀ c ∈ kept, Ascii.isDigit c = true := fun c hc =>
    isDigit_of_mem_toDigits (hall ▸ List.mem_append_left _ hc)
  have hvalue : naturalOfDigits kept * 10 ^ count = digits := by
    rw [← naturalOfDigits_append_zeros, ← hall, naturalOfDigits_toDigits]
  -- The digits of a positive number are not all zeros.
  have hne : kept ≠ [] := by
    intro hnil
    rw [hnil, naturalOfDigits_eq_foldl, List.foldl_nil, Nat.zero_mul] at hvalue
    omega
  have hlength : (Nat.toDigits 10 digits).length = kept.length + count := by
    rw [hall, List.length_append, List.length_replicate]
  have hplace : exponent + (Nat.toDigits 10 digits).length - kept.length - count = exponent := by
    omega
  have hsame : magnitudeOfDecimal (naturalOfDigits kept)
      (exponent + (Nat.toDigits 10 digits).length - kept.length)
        = magnitudeOfDecimal digits exponent := by
    rw [← magnitudeOfDecimal_zeros _ count, hvalue, hplace]
  unfold decimal
  dsimp only
  split
  · exact hsame ▸ spells_positional hne hdigits
  · have hspells := spells_scientific hs hne hdigits hb
    rw [digitCount, Int.sub_add_cancel, hsame] at hspells
    exact hspells

/-- A finite magnitude is written as what is rounded to it. -/
theorem spells_magnitude {layout : Layout}
    (hs : layout.exponentSign = "" ∨ layout.exponentSign = "+") {magnitude : Nat}
    (hfinite : magnitude < Binary64.infiniteMagnitude) :
    Spells (layout.magnitude magnitude) magnitude := by
  have hzeros (count : Nat) : ∀ c ∈ List.replicate count '0', Ascii.isDigit c = true :=
    fun c hc => List.eq_of_mem_replicate hc ▸ rfl
  unfold Layout.magnitude
  split
  · next hzero =>
    have hone : List.replicate 1 '0' ≠ [] := List.cons_ne_nil _ _
    have hspells := spells_point hone (hzeros 1) (hzeros 1)
    rw [List.replicate_append_replicate, naturalOfDigits_zeros, magnitudeOfDecimal,
      if_pos rfl] at hspells
    exact hzero ▸ hspells
  · next hzero =>
    have hpos : 0 < magnitude := Nat.pos_of_ne_zero hzero
    have hrounded := magnitudeOfDecimal_shortest layout.tie hpos hfinite
    obtain ⟨hlow, hhigh⟩ := shortest_bounds layout.tie hfinite
    have hdigits : 0 < (shortest layout.tie magnitude).1 := by
      refine Nat.pos_of_ne_zero fun hnone => ?_
      rw [hnone, magnitudeOfDecimal, if_pos rfl] at hrounded
      exact hzero hrounded.symm
    have hbound : ((shortest layout.tie magnitude).2
        + digitCount (shortest layout.tie magnitude).1 - 1).natAbs < exponentBound := by
      rw [exponentBound]
      omega
    have hspells := spells_decimal hs hdigits hbound
    rw [hrounded] at hspells
    exact hspells

end Layout

namespace Binary64

/-- A double is its sign and its magnitude. -/
theorem ofMagnitude_magnitude (x : Binary64) : ofMagnitude x.negative x.magnitude = x := by
  have hbits := x.bits.toNat_lt
  have hsum : x.magnitude + (if x.negative then signBit else 0) = x.bits.toNat := by
    unfold magnitude negative
    simp only [decide_eq_true_eq]
    split <;> simp only [signBit] at * <;> omega
  rw [ofMagnitude, hsum, UInt64.ofNat_toNat]

/-- A sign and a magnitude make a double with this sign and this magnitude. -/
theorem magnitude_ofMagnitude (negative : Bool) {bits : Nat} (h : bits < signBit) :
    (ofMagnitude negative bits).magnitude = bits := by
  unfold ofMagnitude magnitude
  rw [UInt64.toNat_ofNat']
  cases negative <;> simp only [signBit, Bool.false_eq_true, if_true, if_false] at * <;> omega

/-- No decimal is rounded to a NaN. -/
theorem isNaN_ofDecimal (negative : Bool) (digits : Nat) (exponent : Int) :
    (ofDecimal negative digits exponent).isNaN = false := by
  have hle := magnitudeOfDecimal_le digits exponent
  have hsign : infiniteMagnitude < signBit := by decide
  rw [isNaN, ofDecimal, magnitude_ofMagnitude _ (Nat.lt_of_le_of_lt hle hsign)]
  exact decide_eq_false (Nat.not_lt.mpr hle)

end Binary64

namespace Layout

/-- A finite double is written as its magnitude, behind a minus sign if it has one. -/
theorem splitSign_render {layout : Layout}
    (hs : layout.exponentSign = "" ∨ layout.exponentSign = "+") {x : Binary64}
    (hfinite : x.isFinite = true) :
    splitSign (layout.render x) = (x.negative, layout.magnitude x.magnitude) := by
  have hbelow : x.magnitude < Binary64.infiniteMagnitude := of_decide_eq_true hfinite
  have hnumber : x.isNaN = false := decide_eq_false (Nat.not_lt.mpr (Nat.le_of_lt hbelow))
  have hbounded : x.isInfinite = false := beq_eq_false_iff_ne.mpr (Nat.ne_of_lt hbelow)
  unfold render
  rw [hnumber, hbounded]
  cases hsign : x.negative with
  | true => rfl
  | false =>
    obtain ⟨first, rest, htext, hfirst⟩ := (spells_magnitude hs hbelow).starts
    refine splitSign_of_digit fun c hc => ?_
    have htext' : layout.magnitude x.magnitude = first :: rest := htext
    rw [if_neg (by decide), if_neg (by decide), if_neg (by decide), htext'] at hc
    exact Option.some.inj hc ▸ hfirst

/-- It is read back: as the double that it is, to the last bit. -/
theorem ofText?_render {layout : Layout}
    (hs : layout.exponentSign = "" ∨ layout.exponentSign = "+") {x : Binary64}
    (hfinite : x.isFinite = true) :
    (Numeral.ofText? (layout.render x)).map Numeral.toBinary64 = some x := by
  have hbelow : x.magnitude < Binary64.infiniteMagnitude := of_decide_eq_true hfinite
  obtain ⟨digits, exponent, hread, hvalue⟩ :=
    (spells_magnitude hs hbelow).reads _ _ (splitSign_render hs hfinite)
  rw [hread, Option.map_some, Numeral.toBinary64, Binary64.ofDecimal, hvalue,
    Binary64.ofMagnitude_magnitude]

end Layout

end ReplLink.Decimal
