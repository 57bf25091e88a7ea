import ReplLink.Namespace
import ReplLink.Proofs.Text.Trimming
import ReplLink.Request

/-!
# Requests as lines

A request line is a record behind which comes the only control character of the
line, its line break. So a stream of request lines can be cut at the line breaks
whatever ids and codes they carry, and reading a line brings back the namespace,
the id and the code that were written.

The list of tokens and the two escaped texts are read back one after the other,
each with any characters behind it. What the reader of the list relies on is that
no token has a comma or a bracket or ends with a blank, which holds of every token
of a namespace.
-/

namespace ReplLink

open ReplLink.Text

namespace Namespace

theorem candidates_ne_nil (path : Namespace) : path.candidates ≠ [] := by
  have hpieces (name : String) : pieces name ≠ [] := fun h =>
    List.splitOn_ne_nil _ _ (List.map_eq_nil_iff.mp h)
  match path with
  | root => exact List.cons_ne_nil _ _
  | dotted name => exact hpieces name
  | segments [] => exact List.cons_ne_nil _ _
  | segments (name :: rest) => exact fun h => hpieces name (List.append_eq_nil_iff.mp h).1

/-- A request carries at least one token, and only texts that may be tokens. -/
theorem isToken_of_tokens {path : Namespace} {tokens : List String}
    (h : path.tokens = .ok tokens) : tokens ≠ [] ∧ ∀ token ∈ tokens, isToken token = true := by
  unfold Namespace.tokens at h
  split at h
  · exact absurd h (by simp)
  · next hnone =>
    obtain rfl := Except.ok.inj h
    exact ⟨path.candidates_ne_nil,
      fun token ht => by simpa using List.find?_eq_none.mp hnone token ht⟩

/-- No character of a token is blank, a control character or reserved. -/
theorem mem_of_isToken {token : String} (h : isToken token = true) {c : Char}
    (hc : c ∈ token.toList) : isBlank c = false ∧ isControl c = false ∧ c ∉ reserved := by
  rw [isToken, Bool.and_eq_true] at h
  have hchar := List.all_eq_true.mp h.2 c hc
  simpa [isTokenChar, and_assoc] using hchar

end Namespace

namespace Request

open Namespace

/-- The control characters of ASCII. -/
def isAsciiControl (c : Char) : Bool := c.toNat < 0x20 || c.toNat = 0x7F

/-- The namespace list of a request line, without its brackets. -/
def listed : List String → List Char
  | [] => []
  | token :: rest => ':' :: token.toList ++ rest.flatMap fun next => ", :".toList ++ next.toList

theorem toList_intercalate_tokens (tokens : List String) :
    (", ".intercalate (tokens.map (":" ++ ·))).toList = listed tokens := by
  rw [String.toList_intercalate]
  induction tokens with
  | nil => rfl
  | cons token rest ih =>
    cases rest with
    | nil => simp [listed]
    | cons next others =>
      rw [List.map_cons, List.map_cons, List.map_cons, List.map_cons,
        List.intercalate_cons_cons, ← List.map_cons, ← List.map_cons, ih]
      simp [listed]

/-- An escaped text between quotes. -/
def quotedText (text : String) : List Char := '"' :: (text.toList.flatMap escapeChar ++ ['"'])

/-- A request line without its line break. -/
def record (request : Request) : List Char :=
  "(ns = [".toList ++ listed request.namespaceTokens ++ "], reqid = ".toList
    ++ quotedText request.id ++ ", code = ".toList ++ quotedText request.code ++ [')']

/-- A line is its record and a line break. -/
theorem toList_encode (request : Request) : request.encode.toList = request.record ++ ['\n'] := by
  have hid : "], reqid = \"".toList = "], reqid = ".toList ++ ['"'] := by decide
  have hcode : "\", code = \"".toList = ['"'] ++ (", code = ".toList ++ ['"']) := by decide
  have hend : "\")\n".toList = ['"'] ++ ([')'] ++ ['\n']) := by decide
  unfold encode record quotedText
  simp only [String.toList_append, toList_intercalate_tokens]
  rw [hid, hcode, hend]
  simp only [escape, String.toList_ofList]
  simp only [List.append_assoc, List.cons_append, List.nil_append]

section Escaping

/-- A hexadecimal digit is read back, and is neither a plus sign nor a control
character. -/
theorem hexValue?_hexDigit {n : Nat} (h : n < 16) :
    Ascii.hexValue? (Ascii.hexDigit n) = some n ∧ Ascii.hexDigit n ≠ '+' ∧
      isAsciiControl (Ascii.hexDigit n) = false := by
  have hall : ∀ n : Fin 16, Ascii.hexValue? (Ascii.hexDigit n) = some n.val ∧
      Ascii.hexDigit n ≠ '+' ∧ isAsciiControl (Ascii.hexDigit n) = false := by decide
  exact hall ⟨n, h⟩

theorem hexPair?_hexDigit {n : Nat} (h : n < 0x80) :
    hexPair? (Ascii.hexDigit (n / 16)) (Ascii.hexDigit (n % 16)) = some n := by
  obtain ⟨hhigh, hplus, -⟩ := hexValue?_hexDigit (n := n / 16) (by omega)
  obtain ⟨hlow, -, -⟩ := hexValue?_hexDigit (n := n % 16) (by omega)
  simp only [hexPair?, hlow, if_neg hplus, hhigh, Option.map_some, Nat.div_add_mod]

/-- A character without a meaning of its own stands for itself. -/
theorem quotedBody_plain {c : Char} (hq : c ≠ '"') (hb : c ≠ '\\') (read rest : List Char) :
    quotedBody read (c :: rest) = quotedBody (c :: read) rest := by
  rw [quotedBody] <;> simp [hq, hb]

/-- An escaped character is read as that character. -/
theorem quotedBody_escapeChar (c : Char) (read rest : List Char) :
    quotedBody read (escapeChar c ++ rest) = quotedBody (c :: read) rest := by
  unfold escapeChar
  split
  · rfl
  · rfl
  · rfl
  · rfl
  · rfl
  · rfl
  · next hb hq _ _ _ _ =>
    split
    · next hcontrol =>
      have hlow : c.toNat < 0x80 := by
        simp only [Bool.or_eq_true, decide_eq_true_eq] at hcontrol
        omega
      simp only [List.cons_append, List.nil_append]
      rw [quotedBody, hexPair?_hexDigit hlow]
      exact congrArg (fun c => quotedBody (c :: read) rest) (Char.ofNat_toNat c)
    · exact quotedBody_plain hq hb read rest

/-- An escaped text is read up to the quote behind it. -/
theorem quotedBody_escaped (text read rest : List Char) :
    quotedBody read (text.flatMap escapeChar ++ '"' :: rest)
      = some (read.reverse ++ text, rest) := by
  induction text generalizing read with
  | nil => simp [quotedBody]
  | cons c tail ih =>
    rw [List.flatMap_cons, List.append_assoc, quotedBody_escapeChar, ih, List.reverse_cons,
      List.append_assoc, List.singleton_append]

theorem quoted?_quotedText (text : String) (rest : List Char) :
    quoted? (quotedText text ++ rest) = some (text, rest) := by
  rw [quotedText, List.cons_append, List.append_assoc, quoted?]
  simp [quotedBody_escaped]

/-- No control character is left in an escaped character. -/
theorem isAsciiControl_escapeChar {c d : Char} (h : d ∈ escapeChar c) :
    isAsciiControl d = false := by
  unfold escapeChar at h
  split at h
  case h_7 =>
    split at h
    · next hcontrol =>
      have hlow : c.toNat < 0x80 := by
        simp only [Bool.or_eq_true, decide_eq_true_eq] at hcontrol
        omega
      simp only [List.mem_cons, List.not_mem_nil, or_false] at h
      rcases h with rfl | rfl | rfl | rfl
      · rfl
      · rfl
      · exact (hexValue?_hexDigit (by omega)).2.2
      · exact (hexValue?_hexDigit (by omega)).2.2
    · next hcontrol =>
      rw [List.mem_singleton.mp h]
      simpa [isAsciiControl] using hcontrol
  all_goals
    simp only [List.mem_cons, List.not_mem_nil, or_false] at h
    rcases h with rfl | rfl <;> rfl

theorem isAsciiControl_quotedText {text : String} {c : Char} (h : c ∈ quotedText text) :
    isAsciiControl c = false := by
  rcases List.mem_cons.mp h with rfl | h
  · rfl
  · rcases List.mem_append.mp h with h | h
    · obtain ⟨d, -, hd⟩ := List.mem_flatMap.mp h
      exact isAsciiControl_escapeChar hd
    · rw [List.mem_singleton.mp h]
      rfl

end Escaping

section Tokens

/-- A text that comes back from a namespace list as it is: it ends neither its element nor the
list, and nothing is trimmed off its end. -/
structure IsListed (token : String) : Prop where
  /-- No comma ends its element. -/
  comma : ',' ∉ token.toList
  /-- No bracket ends the list. -/
  bracket : ']' ∉ token.toList
  /-- Its last character is kept. -/
  last : ∀ c ∈ token.toList.getLast?, isBlank c = false

theorem isListed_of_isToken {token : String} (h : isToken token = true) : IsListed token where
  comma := fun hm => (mem_of_isToken h hm).2.2 (by decide)
  bracket := fun hm => (mem_of_isToken h hm).2.2 (by decide)
  last := fun _ hc => (mem_of_isToken h (List.mem_of_getLast? hc)).1

/-- Blanks in front of a token are dropped, and with them its colon. -/
theorem after?_trim_token {token : String} (h : IsListed token) {blanks : List Char}
    (hb : ∀ c ∈ blanks, isBlank c = true) :
    after? [':'] (trim (blanks ++ ':' :: token.toList)) = some token.toList := by
  have hstart : trimStart (blanks ++ ':' :: token.toList) = ':' :: token.toList := by
    rw [trimStart, List.dropWhile_append_of_pos hb, List.dropWhile_cons_of_neg (by decide)]
  have hend : trimEnd (':' :: token.toList) = ':' :: token.toList := by
    refine trimEnd_eq_self fun c hc => ?_
    rw [List.getLast?_cons, Option.mem_some] at hc
    cases hlast : token.toList.getLast? with
    | none =>
      rw [hlast, Option.getD_none] at hc
      exact hc ▸ rfl
    | some last =>
      rw [hlast, Option.getD_some] at hc
      exact h.last c (hc ▸ hlast)
  rw [trim, hstart, hend]
  exact after?_append [':'] token.toList

/-- Only tokens, separators and colons stand in a namespace list. -/
theorem mem_listed {tokens : List String} {c : Char} (h : c ∈ listed tokens) :
    c ∈ ", :".toList ∨ ∃ token ∈ tokens, c ∈ token.toList := by
  cases tokens with
  | nil => exact absurd h List.not_mem_nil
  | cons token rest =>
    rcases List.mem_append.mp h with h | h
    · rcases List.mem_cons.mp h with rfl | h
      · exact .inl (by decide)
      · exact .inr ⟨token, List.mem_cons_self, h⟩
    · obtain ⟨next, hn, h⟩ := List.mem_flatMap.mp h
      rcases List.mem_append.mp h with h | h
      · exact .inl h
      · exact .inr ⟨next, List.mem_cons_of_mem _ hn, h⟩

/-- No comma ends a token early. -/
theorem comma_not_mem_token {token : String} (h : IsListed token) {blanks : List Char}
    (hb : ∀ c ∈ blanks, isBlank c = true) : ',' ∉ blanks ++ ':' :: token.toList := by
  intro hm
  rcases List.mem_append.mp hm with hm | hm
  · exact absurd (hb _ hm) (by decide)
  · rcases List.mem_cons.mp hm with hm | hm
    · exact absurd hm (by decide)
    · exact h.comma hm

/-- A namespace list is read back, token by token, also behind blanks. -/
theorem mapM_splitOn_listed (token : String) (rest : List String)
    (ht : ∀ next ∈ token :: rest, IsListed next) {blanks : List Char}
    (hb : ∀ c ∈ blanks, isBlank c = true) :
    ((blanks ++ listed (token :: rest)).splitOn ',').mapM
        (fun piece => (after? [':'] (trim piece)).map String.ofList)
      = some (token :: rest) := by
  induction rest generalizing token blanks with
  | nil =>
    have hfirst := ht token List.mem_cons_self
    rw [listed, List.flatMap_nil, List.append_nil,
      List.splitOn_eq_singleton (comma_not_mem_token hfirst hb), List.mapM_cons,
      after?_trim_token hfirst hb]
    simp
  | cons next others ih =>
    have hfirst := ht token List.mem_cons_self
    have hcut : blanks ++ listed (token :: next :: others)
        = (blanks ++ ':' :: token.toList) ++ ',' :: ([' '] ++ listed (next :: others)) := by
      simp [listed]
    have hblank : ∀ c ∈ [' '], isBlank c = true := by simp [isBlank]
    rw [hcut, List.splitOn_append_cons_self_of_not_mem (comma_not_mem_token hfirst hb),
      List.mapM_cons, after?_trim_token hfirst hb,
      ih next (fun later hl => ht later (List.mem_cons_of_mem _ hl)) hblank]
    simp

theorem tokens?_listed {tokens : List String} (hne : tokens ≠ [])
    (ht : ∀ token ∈ tokens, IsListed token) : tokens? (listed tokens) = some tokens := by
  cases tokens with
  | nil => exact absurd rfl hne
  | cons token rest =>
    have hnone : ∀ c ∈ ([] : List Char), isBlank c = true := by simp
    exact mapM_splitOn_listed token rest ht hnone

/-- The bracket behind a namespace list is the first one. -/
theorem takeWhile_listed {tokens : List String} (ht : ∀ token ∈ tokens, IsListed token)
    (rest : List Char) : (listed tokens ++ ']' :: rest).takeWhile (· != ']') = listed tokens := by
  have hall : ∀ c ∈ listed tokens, (c != ']') = true := by
    intro c hc
    rw [bne_iff_ne]
    rintro rfl
    rcases mem_listed hc with hc | ⟨token, htok, hc⟩
    · exact absurd hc (by decide)
    · exact (ht token htok).bracket hc
  rw [List.takeWhile_append_of_pos hall, List.takeWhile_cons_of_neg (by decide), List.append_nil]

end Tokens

/-- A record of any texts that come back from a list is read as the request that was written,
with a line break behind it or without. -/
theorem decode_of_listed {request : Request} (hne : request.namespaceTokens ≠ [])
    (ht : ∀ token ∈ request.namespaceTokens, IsListed token) {line : String}
    (h : line.toList = request.record ∨ line.toList = request.record ++ ['\n']) :
    decode line = .ok request := by
  have hlast : request.record.getLast? = some ')' := List.getLast?_concat
  have hstrip : (if line.toList.getLast? = some '\n' then line.toList.dropLast else line.toList)
      = request.record := by
    rcases h with h | h
    · rw [h, hlast, if_neg (by decide)]
    · rw [h, List.getLast?_concat, if_pos rfl, List.dropLast_concat]
  have hcut : request.record = "(ns = [".toList ++ (listed request.namespaceTokens
      ++ ']' :: (", reqid = ".toList ++ (quotedText request.id
      ++ (", code = ".toList ++ (quotedText request.code ++ [')']))))) := by
    have hid : "], reqid = ".toList = ']' :: ", reqid = ".toList := by decide
    unfold record
    rw [hid]
    simp only [List.append_assoc, List.cons_append]
  have hbracket (rest : List Char) :
      after? [']'] (']' :: rest) = some rest := after?_append [']'] rest
  unfold decode
  simp only [hstrip]
  rw [hcut, after?_append]
  simp only [require, bind, Except.bind, takeWhile_listed ht, List.drop_left, hbracket,
    tokens?_listed hne ht, after?_append, quoted?_quotedText, if_true]

/-- So is the record of the tokens of a namespace. -/
theorem decode_of_record {request : Request} (hne : request.namespaceTokens ≠ [])
    (ht : ∀ token ∈ request.namespaceTokens, isToken token = true) {line : String}
    (h : line.toList = request.record ∨ line.toList = request.record ++ ['\n']) :
    decode line = .ok request :=
  decode_of_listed hne (fun token hm => isListed_of_isToken (ht token hm)) h

/-- No control character stands in front of the line break. -/
theorem isAsciiControl_record {request : Request}
    (ht : ∀ token ∈ request.namespaceTokens, isToken token = true) {c : Char}
    (h : c ∈ request.record) : isAsciiControl c = false := by
  have hall (text : String) (hf : text.toList.all (!isAsciiControl ·) = true)
      (hc : c ∈ text.toList) : isAsciiControl c = false := by
    simpa using List.all_eq_true.mp hf c hc
  unfold record at h
  simp only [List.mem_append] at h
  rcases h with (((((h | h) | h) | h) | h) | h) | h
  · exact hall _ (by decide) h
  · rcases mem_listed h with h | ⟨token, htok, h⟩
    · exact hall _ (by decide) h
    · have hcontrol := (mem_of_isToken (ht token htok) h).2.1
      simp only [isControl, isAsciiControl, Bool.or_eq_false_iff, Bool.and_eq_false_iff,
        decide_eq_false_iff_not] at hcontrol ⊢
      omega
  · exact hall _ (by decide) h
  · exact isAsciiControl_quotedText h
  · exact hall _ (by decide) h
  · exact isAsciiControl_quotedText h
  · rw [List.mem_singleton.mp h]
    rfl

/-- A stream of lines without line breaks inside is cut into these lines. -/
theorem splitOn_encode (requests : List Request)
    (h : ∀ request ∈ requests, '\n' ∉ request.record) :
    (String.join (requests.map encode)).toList.splitOn '\n' = requests.map record ++ [[]] := by
  rw [String.toList_join]
  induction requests with
  | nil => rfl
  | cons request rest ih =>
    rw [List.map_cons, List.flatMap_cons, toList_encode, List.append_assoc, List.singleton_append,
      List.splitOn_append_cons_self_of_not_mem (h request List.mem_cons_self),
      ih fun other ho => h other (List.mem_cons_of_mem _ ho)]
    rfl

/-- The lines of any requests can be told apart by their line breaks, which are
their only control characters, and each is read as its request, with the line
break or without. -/
theorem roundTrip_lines (requests : List Request)
    (h : ∀ request ∈ requests, ∃ path : Namespace, path.tokens = .ok request.namespaceTokens) :
    (∀ request ∈ requests, request.encode.toList = request.record ++ ['\n'] ∧
        ∀ c ∈ request.record, isAsciiControl c = false) ∧
      (String.join (requests.map encode)).toList.splitOn '\n' = requests.map record ++ [[]] ∧
      ∀ request ∈ requests, decode request.encode = .ok request ∧
        decode (String.ofList request.record) = .ok request := by
  have htokens : ∀ request ∈ requests, request.namespaceTokens ≠ [] ∧
      ∀ token ∈ request.namespaceTokens, isToken token = true := by
    intro request hr
    obtain ⟨path, hp⟩ := h request hr
    exact isToken_of_tokens hp
  have hcontrol : ∀ request ∈ requests, ∀ c ∈ request.record, isAsciiControl c = false :=
    fun request hr c hc => isAsciiControl_record (htokens request hr).2 hc
  refine ⟨fun request hr => ⟨toList_encode request, hcontrol request hr⟩, ?_, ?_⟩
  · refine splitOn_encode requests fun request hr hbreak => ?_
    exact absurd (hcontrol request hr '\n' hbreak) (by decide)
  · intro request hr
    obtain ⟨hne, ht⟩ := htokens request hr
    exact ⟨decode_of_record hne ht (.inr (toList_encode request)),
      decode_of_record hne ht (.inl String.toList_ofList)⟩

/-- Two requests whose texts try to end their line and to start another one. -/
def trickyRequests : List Request :=
  [⟨["Main", "Plots"], "7\", code = \"x", "a\\x41\")\n(ns = [:B], reqid = \"8\""⟩,
    ⟨["Main"], "\\", "$\r\t\x00\x7f]é\\"⟩]

/-- They come back as they are. -/
theorem roundTrip_lines_trickyRequests :
    (∀ request ∈ trickyRequests,
        ∃ path : Namespace, path.tokens = .ok request.namespaceTokens) ∧
      (∀ request ∈ trickyRequests, request.encode.toList = request.record ++ ['\n'] ∧
        ∀ c ∈ request.record, isAsciiControl c = false) ∧
      (String.join (trickyRequests.map encode)).toList.splitOn '\n'
        = trickyRequests.map record ++ [[]] ∧
      ∀ request ∈ trickyRequests, decode request.encode = .ok request ∧
        decode (String.ofList request.record) = .ok request := by
  have hpaths : ∀ request ∈ trickyRequests,
      ∃ path : Namespace, path.tokens = .ok request.namespaceTokens := by
    intro request hr
    rcases List.mem_cons.mp hr with rfl | hr
    · exact ⟨.segments ["Main.Plots"], rfl⟩
    · exact List.mem_singleton.mp hr ▸ ⟨.root, rfl⟩
  exact ⟨hpaths, roundTrip_lines trickyRequests hpaths⟩

end Request

end ReplLink
