import ReplLink.Proofs.Request.Lines
import ReplLink.Proofs.Text.Trimming

/-!
# Dotted names and segments

A list of segments and the dotted name that they make up when joined are the same namespace:
cutting each segment at its dots and cutting the joined name at its dots give the same pieces,
wherever the dots stand and whichever segments are empty. So both carry the same tokens or are
refused for the same piece.
-/

namespace ReplLink

open ReplLink.Text

namespace Namespace

/-- A text that is not empty and has no blank, control or reserved character. -/
structure IsClean (token : String) : Prop where
  /-- There is something in it. -/
  nonempty : token ≠ ""
  /-- All of it may stand in a token. -/
  chars : ∀ c ∈ token.toList, isBlank c = false ∧ isControl c = false ∧ c ∉ reserved

/-- A namespace carries these tokens: clean texts that make up the namespace as it is shown,
and that are carried again when they are given as segments. -/
structure Yields (path : Namespace) (tokens : List String) : Prop where
  /-- No piece is refused. -/
  result : path.tokens = .ok tokens
  /-- The tokens are what is shown. -/
  joined : ".".intercalate tokens = path.display
  /-- There is at least one. -/
  nonempty : tokens ≠ []
  /-- They can be told from anything else in a request line. -/
  clean : ∀ token ∈ tokens, IsClean token
  /-- As segments they stand for themselves. -/
  again : (segments tokens).tokens = .ok tokens

/-- A namespace is refused under the name that is shown, for the first of the pieces between its
dots that is not clean. -/
structure Refuses (path : Namespace) (refusal : BadToken) : Prop where
  /-- A piece is refused. -/
  result : path.tokens = .error refusal
  /-- The refusal names the namespace as it is shown. -/
  shown : refusal.path = path.display
  /-- What is refused stands between clean pieces and some other pieces. -/
  place : ∃ front back, ".".intercalate (front ++ refusal.token :: back) = path.display ∧
    ∀ piece ∈ front, IsClean piece
  /-- It reaches to the next dot. -/
  dotless : '.' ∉ refusal.token.toList
  /-- It is not clean. -/
  refused : ¬ IsClean refusal.token

theorem isToken_iff {token : String} : isToken token = true ↔ IsClean token := by
  constructor
  · intro h
    have hne : token ≠ "" := by simpa using (Bool.and_eq_true_iff.mp h).1
    exact ⟨hne, fun c hc => mem_of_isToken h hc⟩
  · intro h
    refine Bool.and_eq_true_iff.mpr ⟨by simpa using h.nonempty, List.all_eq_true.mpr ?_⟩
    intro c hc
    simpa [isTokenChar, and_assoc] using h.chars c hc

section Cutting

theorem intercalate_pieces (name : String) : ".".intercalate (pieces name) = name := by
  refine String.toList_inj.mp ?_
  have hback : (pieces name).map String.toList = name.toList.splitOn '.' := by
    simp [pieces, Function.comp_def]
  rw [String.toList_intercalate, hback]
  exact List.intercalate_splitOn '.'

theorem dot_not_mem_of_mem_pieces {name piece : String} (h : piece ∈ pieces name) :
    '.' ∉ piece.toList := by
  obtain ⟨part, hpart, rfl⟩ := List.mem_map.mp h
  rw [String.toList_ofList]
  exact fun hdot => (mem_and_ne_of_mem_splitOn hpart hdot).2 rfl

/-- A name without a dot is one piece. -/
theorem pieces_of_dotless {name : String} (h : '.' ∉ name.toList) : pieces name = [name] := by
  rw [pieces, List.splitOn_eq_singleton h, List.map_singleton, String.ofList_toList]

/-- Segments that are joined by dots are cut into the pieces of the segments. -/
theorem pieces_intercalate {names : List String} (hne : names ≠ []) :
    pieces (".".intercalate names) = names.flatMap pieces := by
  induction names with
  | nil => exact absurd rfl hne
  | cons name rest ih =>
    cases rest with
    | nil => simp
    | cons next others =>
      have hjoin : (".".intercalate (name :: next :: others)).toList
          = name.toList ++ '.' :: (".".intercalate (next :: others)).toList := by
        simp [String.toList_intercalate]
      have hrest := ih (List.cons_ne_nil next others)
      rw [pieces] at hrest
      rw [List.flatMap_cons, pieces, hjoin, List.splitOn_append_cons_self, List.map_append, hrest,
        pieces]

end Cutting

/-- The pieces of segments are those of the name that they make up. -/
theorem candidates_segments {names : List String} (hne : names ≠ []) :
    (segments names).candidates = (dotted (".".intercalate names)).candidates := by
  cases names with
  | nil => exact absurd rfl hne
  | cons name rest => exact (pieces_intercalate hne).symm

/-- Clean tokens are carried as they are. -/
theorem tokens_segments_of_clean {tokens : List String} (hne : tokens ≠ [])
    (h : ∀ token ∈ tokens, IsClean token) : (segments tokens).tokens = .ok tokens := by
  have hdotless : ∀ token ∈ tokens, '.' ∉ token.toList := fun token ht hdot =>
    ((h token ht).chars '.' hdot).2.2 (by decide)
  have hpieces : (segments tokens).candidates = tokens := by
    rw [candidates_segments hne]
    refine (pieces_intercalate hne).trans ?_
    rw [List.flatMap_def, List.map_congr_left fun token ht => pieces_of_dotless (hdotless token ht),
      ← List.flatMap_def, List.flatMap_singleton']
  have hnone : tokens.find? (!isToken ·) = none :=
    List.find?_eq_none.mpr fun token ht => by simp [isToken_iff.mpr (h token ht)]
  rw [Namespace.tokens, hpieces, hnone]

/-- A dotted name carries its pieces, unless one of them is not clean. -/
theorem yields_or_refuses_dotted (name : String) :
    (∃ tokens, (dotted name).Yields tokens) ∨ ∃ refusal, (dotted name).Refuses refusal := by
  cases hfind : (pieces name).find? (!isToken ·) with
  | none =>
    have hclean : ∀ token ∈ pieces name, IsClean token := fun token ht =>
      isToken_iff.mp (by simpa using List.find?_eq_none.mp hfind token ht)
    have hne := candidates_ne_nil (dotted name)
    refine .inl ⟨pieces name, ?_, intercalate_pieces name, hne, hclean,
      tokens_segments_of_clean hne hclean⟩
    simp [Namespace.tokens, candidates, hfind]
  | some token =>
    obtain ⟨hbad, front, back, hcut, hfront⟩ := List.find?_eq_some_iff_append.mp hfind
    have hmem : token ∈ pieces name := hcut ▸ List.mem_append_right _ List.mem_cons_self
    refine .inr ⟨⟨name, token⟩, ?_, rfl, ⟨front, back, ?_, ?_⟩, dot_not_mem_of_mem_pieces hmem, ?_⟩
    · simp [Namespace.tokens, candidates, hfind, display]
    · rw [← hcut]
      exact intercalate_pieces name
    · exact fun piece hp => isToken_iff.mp (by simpa using hfront piece hp)
    · exact fun hclean => by simp [isToken_iff.mpr hclean] at hbad

/-- Segments are the dotted name that they make up. Both carry the same clean tokens, which join
to what is shown of either and stand for themselves as segments, or both are refused under that
name for its first piece that is not clean. -/
theorem tokens_segments_eq_dotted {names : List String} (hne : names ≠ []) :
    (segments names).tokens = (dotted (".".intercalate names)).tokens ∧
      ((∃ tokens, (segments names).Yields tokens ∧
          (dotted (".".intercalate names)).Yields tokens) ∨
        ∃ refusal, (segments names).Refuses refusal ∧
          (dotted (".".intercalate names)).Refuses refusal) := by
  have hsame : (segments names).tokens = (dotted (".".intercalate names)).tokens := by
    rw [Namespace.tokens, Namespace.tokens, candidates_segments hne]
    rfl
  refine ⟨hsame, ?_⟩
  rcases yields_or_refuses_dotted (".".intercalate names) with ⟨tokens, h⟩ | ⟨refusal, h⟩
  · exact .inl ⟨tokens, { h with result := hsame.trans h.result }, h⟩
  · exact .inr ⟨refusal, { h with result := hsame.trans h.result }, h⟩

/-- Segments with an empty piece, a piece with a blank and a reserved piece are refused as their
dotted name is, for the empty piece, which is the first of the three. -/
theorem tokens_segments_eq_dotted_emptyPiece :
    ["Main", "Plots..x y", "$"] ≠ [] ∧
      ".".intercalate ["Main", "Plots..x y", "$"] = "Main.Plots..x y.$" ∧
      (segments ["Main", "Plots..x y", "$"]).tokens = .error ⟨"Main.Plots..x y.$", ""⟩ ∧
      ((segments ["Main", "Plots..x y", "$"]).tokens
          = (dotted (".".intercalate ["Main", "Plots..x y", "$"])).tokens ∧
        ((∃ tokens, (segments ["Main", "Plots..x y", "$"]).Yields tokens ∧
            (dotted (".".intercalate ["Main", "Plots..x y", "$"])).Yields tokens) ∨
          ∃ refusal, (segments ["Main", "Plots..x y", "$"]).Refuses refusal ∧
            (dotted (".".intercalate ["Main", "Plots..x y", "$"])).Refuses refusal)) :=
  ⟨by decide, by decide +kernel, rfl, tokens_segments_eq_dotted (by decide)⟩

/-- Clean segments are carried. -/
example : (segments ["Main", "Plots.Axes"]).tokens = .ok ["Main", "Plots", "Axes"] := by rfl

end Namespace

end ReplLink
