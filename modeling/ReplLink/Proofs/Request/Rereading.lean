import ReplLink.Proofs.Request.Lines

/-!
# Lines that were not written here

`decode` reads more lines than `encode` writes. Blanks may stand around the elements of the
namespace list, which pass no check, and the quoted texts may hold any escape sequence and any
character as it is.

What is read can be written all the same. Cutting at commas up to the first bracket, and trimming,
leave texts that come back from a list as they are, and no others; escaping copes with any text.
-/

namespace ReplLink

open ReplLink.Text

namespace Request

section Reading

variable {α β : Type}

/-- What goes on behind a required part has got that part. -/
theorem exists_of_require_bind {why : Malformed} {value? : Option α}
    {next : α → Except Malformed β} {result : β} (h : (require why value? >>= next) = .ok result) :
    ∃ value, value? = some value ∧ next value = .ok result := by
  cases value? with
  | none => exact absurd h (by simp [require, bind, Except.bind])
  | some value => exact ⟨value, rfl, h⟩

/-- The results for the elements of a list are as many as these and come from them. -/
theorem exists_of_mapM {read : α → Option β} {elements : List α} {results : List β}
    (h : elements.mapM read = some results) :
    results.length = elements.length ∧
      ∀ result ∈ results, ∃ element ∈ elements, read element = some result := by
  induction elements generalizing results with
  | nil =>
    obtain rfl : [] = results := Option.some.inj h
    exact ⟨rfl, fun _ hr => absurd hr List.not_mem_nil⟩
  | cons first rest ih =>
    simp only [List.mapM_cons, Option.pure_def, Option.bind_eq_bind, Option.bind_eq_some_iff,
      Option.some.injEq] at h
    obtain ⟨result, hfirst, later, hlater, rfl⟩ := h
    obtain ⟨hlength, hfrom⟩ := ih hlater
    refine ⟨by simp [hlength], fun other ho => ?_⟩
    rcases List.mem_cons.mp ho with rfl | ho
    · exact ⟨first, List.mem_cons_self, hfirst⟩
    · obtain ⟨element, he, hread⟩ := hfrom other ho
      exact ⟨element, List.mem_cons_of_mem _ he, hread⟩

/-- What trimming leaves of an element behind its colon comes back from a list as it is. -/
theorem isListed_of_after? {piece rest : List Char} (hcomma : ',' ∉ piece) (hbracket : ']' ∉ piece)
    (h : after? [':'] (trim piece) = some rest) : IsListed (String.ofList rest) := by
  have htrim : trim piece = ':' :: rest := eq_append_of_after? h
  have hmem {c : Char} (hc : c ∈ rest) : c ∈ piece :=
    mem_of_mem_trim (htrim ▸ List.mem_cons_of_mem _ hc)
  refine ⟨?_, ?_, ?_⟩ <;> rw [String.toList_ofList]
  · exact fun hc => hcomma (hmem hc)
  · exact fun hc => hbracket (hmem hc)
  · intro c hc
    have hlast : (trim piece).getLast? = some c := by
      rw [htrim, List.getLast?_cons, Option.mem_def.mp hc, Option.getD_some]
    exact isBlank_of_getLast?_trimEnd hlast

/-- The tokens of a list without a bracket come back from a list as they are. -/
theorem isListed_of_tokens? {list : List Char} (hbracket : ']' ∉ list) {tokens : List String}
    (h : tokens? list = some tokens) : tokens ≠ [] ∧ ∀ token ∈ tokens, IsListed token := by
  obtain ⟨hlength, hfrom⟩ := exists_of_mapM h
  constructor
  · rintro rfl
    exact List.splitOn_ne_nil ',' list (List.length_eq_zero_iff.mp hlength.symm)
  · intro token ht
    obtain ⟨piece, hpiece, hread⟩ := hfrom token ht
    obtain ⟨rest, hrest, rfl⟩ := Option.map_eq_some_iff.mp hread
    refine isListed_of_after? (fun hc => ?_) (fun hc => ?_) hrest
    · exact (mem_and_ne_of_mem_splitOn hpiece hc).2 rfl
    · exact hbracket (mem_and_ne_of_mem_splitOn hpiece hc).1

/-- Whatever line is read, there are tokens, and they come back from a list as they are. -/
theorem isListed_of_decode {line : String} {request : Request} (h : decode line = .ok request) :
    request.namespaceTokens ≠ [] ∧ ∀ token ∈ request.namespaceTokens, IsListed token := by
  unfold decode at h
  obtain ⟨behind, -, h⟩ := exists_of_require_bind h
  obtain ⟨_, -, h⟩ := exists_of_require_bind h
  obtain ⟨tokens, htokens, h⟩ := exists_of_require_bind h
  obtain ⟨_, -, h⟩ := exists_of_require_bind h
  obtain ⟨_, -, h⟩ := exists_of_require_bind h
  obtain ⟨_, -, h⟩ := exists_of_require_bind h
  obtain ⟨_, -, h⟩ := exists_of_require_bind h
  have hbracket : ']' ∉ behind.takeWhile (· != ']') := fun hc => by
    simpa using List.all_eq_true.mp (List.all_takeWhile (p := (· != ']'))) ']' hc
  dsimp only at h
  split at h
  · obtain rfl := Except.ok.inj h
    exact isListed_of_tokens? hbracket htokens
  · exact absurd h (by simp)

end Reading

/-- The requests that can be read from a line are those with a token at least whose tokens come
back from a list as they are. Any id and any code will do. -/
theorem exists_decode_iff {request : Request} :
    (∃ line, decode line = .ok request) ↔
      request.namespaceTokens ≠ [] ∧ ∀ token ∈ request.namespaceTokens, IsListed token := by
  constructor
  · rintro ⟨line, h⟩
    exact isListed_of_decode h
  · rintro ⟨hne, ht⟩
    exact ⟨request.encode, decode_of_listed hne ht (.inr (toList_encode request))⟩

/-- What is read from any line is read again from the line that is written for it, and it has a
token. -/
theorem decode_encode_of_decode {line : String} {request : Request}
    (h : decode line = .ok request) :
    decode request.encode = .ok request ∧ request.namespaceTokens ≠ [] := by
  obtain ⟨hne, ht⟩ := exists_decode_iff.mp ⟨line, h⟩
  exact ⟨decode_of_listed hne ht (.inr (toList_encode request)), hne⟩

/-- A line that is never written: blanks around its commas, tokens that are empty or have a colon,
a line break and a blank in them, needless escapes and control characters as they are. -/
def foreignLine : String :=
  "(ns = [ :a:\nb\t,:,\u00a0: c], reqid = \"\\x+9\\q\", code = \"\x07\n\t\\xe9$\")"

/-- It is read, and what it says can be written and read again. -/
theorem decode_encode_of_decode_foreignLine :
    decode foreignLine = .ok ⟨["a:\nb", "", " c"], "\tq", "\x07\n\té$"⟩ ∧
      decode (encode ⟨["a:\nb", "", " c"], "\tq", "\x07\n\té$"⟩)
        = .ok ⟨["a:\nb", "", " c"], "\tq", "\x07\n\té$"⟩ ∧
      ["a:\nb", "", " c"] ≠ [] := by
  have hread : decode foreignLine = .ok ⟨["a:\nb", "", " c"], "\tq", "\x07\n\té$"⟩ := by rfl
  exact ⟨hread, decode_encode_of_decode hread⟩

end Request

end ReplLink
