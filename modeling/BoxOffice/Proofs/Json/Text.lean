import BoxOffice.Json.Reader
import BoxOffice.Json.Writer
import BoxOffice.Proofs.Digits

/-!
# JSON values and their texts

A value whose lists and objects do not nest too deeply (`Fits`) is read back from its text
(`parse?_render`). The text is cut into the words of the value (`JsonToken.scans_of_fits`), since a
bare word ends where a mark follows and a string where its quote is; and the words are put together
again whatever lists and objects they stand in (`reads_of_fits`).
-/

namespace BoxOffice

namespace Json

/-- The value can be kept if it is read where so many lists and objects may still be opened. -/
inductive Fits : Nat → Json → Prop
  | null {room : Nat} : Fits room .null
  | bool {room : Nat} (b : Bool) : Fits room (.bool b)
  | number {room : Nat} (n : Numeral) : Fits room (.number n)
  | text {room : Nat} (s : String) : Fits room (.text s)
  | list {room : Nat} {items : List Json} (inside : ∀ v ∈ items, Fits room v) :
    Fits (room + 1) (.list items)
  | object {room : Nat} {members : List (String × Json)} (inside : ∀ m ∈ members, Fits room m.2) :
    Fits (room + 1) (.object members)

mutual

/-- The words of a value. -/
def tokens : Json → List JsonToken
  | .list items => .openList :: itemTokens items
  | .object members => .openObject :: memberTokens members
  | v => [.atom v]

/-- The words of the items of a list up to its end. -/
def itemTokens : List Json → List JsonToken
  | [] => [.closeList]
  | [v] => tokens v ++ [.closeList]
  | v :: rest => tokens v ++ .comma :: itemTokens rest

/-- The words of the members of an object up to its end. -/
def memberTokens : List (String × Json) → List JsonToken
  | [] => [.closeObject]
  | [(name, v)] => .atom (.text name) :: .colon :: tokens v ++ [.closeObject]
  | (name, v) :: rest => .atom (.text name) :: .colon :: tokens v ++ .comma :: memberTokens rest

end

end Json

/-! ### Words of a text -/

namespace JsonToken

open Json

theorem scanFrom_cons (state : Scan) (c : Char) (rest : List Char) :
    scanFrom state (c :: rest) = (readChar state c).bind fun read =>
      (scanFrom read.2 rest).map (read.1 ++ ·) := by
  have unfolded : scanFrom state (c :: rest) = (readChar state c).bind fun read =>
      (scanFrom read.2 rest).bind fun more => some (read.1 ++ more) := by
    cases state <;> rfl
  rw [unfolded]
  congr 1
  funext read
  cases scanFrom read.2 rest <;> rfl

/-- A character that ends no word leads to another state. -/
theorem scanFrom_step {state next : Scan} {c : Char} (read : readChar state c = some ([], next))
    (rest : List Char) : scanFrom state (c :: rest) = scanFrom next rest := by
  rw [scanFrom_cons, read, Option.bind_some]
  cases scanFrom next rest <;> rfl

theorem isGap_of_mark {c : Char} {token : JsonToken} (mark : mark? c = some token) :
    isGap c = false := by
  unfold mark? at mark
  split at mark
  all_goals first | rfl | cases mark

/-- A mark is a word by itself. -/
theorem scanFrom_mark {c : Char} {token : JsonToken} (mark : mark? c = some token)
    (rest : List Char) :
    scanFrom .between (c :: rest) = (scanFrom .between rest).map (token :: ·) := by
  rw [scanFrom_cons, readChar, startWord, isGap_of_mark mark, mark]
  rfl

/-! #### Bare words -/

/-- The character may stand in a word that is no string. -/
def isBare (c : Char) : Bool :=
  !(isGap c || (mark? c).isSome || c == '"')

/-- Nothing follows, or a mark. -/
def Ends (rest : List Char) : Prop :=
  ∀ c ∈ rest.head?, (mark? c).isSome

/-- A bare word goes on as long as its characters do, and ends where a mark follows. -/
theorem scanFrom_bare {cs rest : List Char} (bare : ∀ c ∈ cs, isBare c) (ends : Ends rest)
    {seen : List Char} {token : JsonToken} (word : ofBare? (seen.reverse ++ cs) = some token) :
    scanFrom (.bare seen) (cs ++ rest) = (scanFrom .between rest).map (token :: ·) := by
  induction cs generalizing seen with
  | nil =>
    rw [List.append_nil] at word
    cases rest with
    | nil =>
      show (ofBare? seen.reverse).map ([·]) = _
      rw [word]
      rfl
    | cons c rest =>
      obtain ⟨mark, marks⟩ := Option.isSome_iff_exists.1 (ends c rfl)
      rw [List.nil_append, scanFrom_mark marks, scanFrom_cons]
      simp only [readChar, marks, Option.isSome_some, Bool.or_true, Bool.true_or, if_true, word,
        startWord, isGap_of_mark marks]
      show (scanFrom .between rest).map ([token, mark] ++ ·) = _
      cases scanFrom .between rest <;> rfl
  | cons c cs ih =>
    have going : readChar (.bare seen) c = some ([], .bare (c :: seen)) := by
      have this := bare c List.mem_cons_self
      rw [isBare, Bool.not_eq_true'] at this
      rw [readChar, this]
      rfl
    rw [List.cons_append, scanFrom_step going]
    refine ih (fun c mem => bare c (List.mem_cons_of_mem _ mem)) ?_
    rwa [List.reverse_cons, List.append_assoc]

/-- A bare word of some characters. -/
theorem scanFrom_word {cs rest : List Char} (filled : cs ≠ []) (bare : ∀ c ∈ cs, isBare c)
    (ends : Ends rest) {token : JsonToken} (word : ofBare? cs = some token) :
    scanFrom .between (cs ++ rest) = (scanFrom .between rest).map (token :: ·) := by
  cases cs with
  | nil => exact absurd rfl filled
  | cons c cs =>
    have begins : readChar .between c = some ([], .bare [c]) := by
      have this := bare c List.mem_cons_self
      simp only [isBare, Bool.not_eq_true', Bool.or_eq_false_iff, Option.isSome_eq_false_iff,
        Option.isNone_iff_eq_none] at this
      simp [readChar, startWord, this.1.1, this.1.2, this.2]
    rw [List.cons_append, scanFrom_step begins]
    exact scanFrom_bare (fun c mem => bare c (List.mem_cons_of_mem _ mem)) ends word

/-- The characters of a numeral may stand in a bare word, and no literal has only such. -/
theorem isBare_of_mem_chars {n : Numeral} {c : Char} (h : c ∈ n.chars) :
    isBare c ∧ c ≠ 'l' ∧ c ≠ 'r' := by
  have digit : ∀ d : Fin 10, isBare (Text.digitChar d) = true ∧ Text.digitChar d ≠ 'l' ∧
      Text.digitChar d ≠ 'r' := by
    decide
  rcases Numeral.mem_chars h with ⟨d, small, rfl⟩ | rfl | rfl
  · exact digit ⟨d, small⟩
  · decide
  · decide

/-- A numeral is read as the number that it is. -/
theorem ofBare?_chars (n : Numeral) : ofBare? n.chars = some (.atom (.number n)) := by
  have no_l : 'l' ∉ n.chars := fun mem => (isBare_of_mem_chars mem).2.1 rfl
  have no_r : 'r' ∉ n.chars := fun mem => (isBare_of_mem_chars mem).2.2 rfl
  have other {word : List Char} (letter : 'l' ∈ word ∨ 'r' ∈ word) : n.chars ≠ word := by
    rintro rfl
    exact letter.elim no_l no_r
  rw [ofBare?, if_neg (other (by decide)), if_neg (other (by decide)), if_neg (other (by decide)),
    Numeral.ofChars?_chars]
  rfl

/-! #### Strings -/

/-- The part of a string that is written for a character. -/
def pieceOf (c : Char) : Piece :=
  if escapeLetter? c = none ∧ c.toNat < 0x20 then .unit c.toNat else .plain c

/-- A letter that stands for a character behind a backslash is read as it. -/
theorem shortEscape?_of_letter {c letter : Char} (h : escapeLetter? c = some letter) :
    letter ≠ 'u' ∧ shortEscape? letter = some c := by
  unfold escapeLetter? at h
  split at h <;> cases h <;> exact ⟨by decide, rfl⟩

theorem readChar_coded (seen : List Piece) (digits code : Nat) {value : Nat} (small : value < 16) :
    readChar (.coded seen digits code) (Text.hexChar value) = some ([],
      if digits = 3 then .quoted (.unit (code * 16 + value) :: seen)
      else .coded seen (digits + 1) (code * 16 + value)) := by
  rw [readChar, Text.hexValue?_hexChar small]
  rfl

/-- The number of a control character is read digit by digit. -/
theorem scanFrom_code {n : Nat} (small : n < 0x100) (seen : List Piece) (rest : List Char) :
    scanFrom (.quoted seen)
      ('\\' :: 'u' :: '0' :: '0' :: Text.hexChar (n / 16) :: Text.hexChar (n % 16) :: rest) =
      scanFrom (.quoted (.unit n :: seen)) rest := by
  have backslash : readChar (.quoted seen) '\\' = some ([], .escaped seen) := rfl
  have opened : readChar (.escaped seen) 'u' = some ([], .coded seen 0 0) := rfl
  have first : readChar (.coded seen 0 0) '0' = some ([], .coded seen 1 0) := rfl
  have second : readChar (.coded seen 1 0) '0' = some ([], .coded seen 2 0) := rfl
  have third : readChar (.coded seen 2 0) (Text.hexChar (n / 16)) =
      some ([], .coded seen 3 (n / 16)) := by
    rw [readChar_coded seen 2 0 (by omega)]
    simp
  have last : readChar (.coded seen 3 (n / 16)) (Text.hexChar (n % 16)) =
      some ([], .quoted (.unit n :: seen)) := by
    have whole : n / 16 * 16 + n % 16 = n := by omega
    rw [readChar_coded seen 3 (n / 16) (by omega), whole]
    rfl
  rw [scanFrom_step backslash, scanFrom_step opened, scanFrom_step first, scanFrom_step second,
    scanFrom_step third, scanFrom_step last]

/-- What is written for a character is read as its part of the string. -/
theorem scanFrom_escapeChar (c : Char) (seen : List Piece) (rest : List Char) :
    scanFrom (.quoted seen) (escapeChar c ++ rest) =
      scanFrom (.quoted (pieceOf c :: seen)) rest := by
  unfold escapeChar pieceOf
  cases letter : escapeLetter? c with
  | some l =>
    obtain ⟨no_code, short⟩ := shortEscape?_of_letter letter
    have backslash : readChar (.quoted seen) '\\' = some ([], .escaped seen) := rfl
    have named : readChar (.escaped seen) l = some ([], .quoted (.plain c :: seen)) := by
      simp [readChar, no_code, short]
    simp only [List.cons_append, List.nil_append, scanFrom_step backslash, scanFrom_step named,
      reduceCtorEq, false_and, if_false]
  | none =>
    have plain : c ≠ '"' ∧ c ≠ '\\' := by
      constructor <;> (rintro rfl; cases letter)
    by_cases control : c.toNat < 0x20
    · simp only [control, and_self, if_true, List.cons_append, List.nil_append]
      exact scanFrom_code (by omega) seen rest
    · have stands : readChar (.quoted seen) c = some ([], .quoted (.plain c :: seen)) := by
        simp [readChar, plain.1, plain.2, control]
      simp only [control, and_false, if_false, List.cons_append, List.nil_append,
        scanFrom_step stands]

/-- A number below those of the surrogates names its character. -/
theorem joinPieces_unit {code : Nat} (low : code < 0xD800) (rest : List Piece) :
    joinPieces (.unit code :: rest) = (joinPieces rest).map (Char.ofNat code :: ·) := by
  rw [joinPieces.eq_def]
  dsimp only
  rw [if_neg (by omega), if_neg (by omega)]

/-- The parts of a string name its characters. -/
theorem joinPieces_map (cs : List Char) : joinPieces (cs.map pieceOf) = some cs := by
  induction cs with
  | nil => rfl
  | cons c cs ih =>
    rw [List.map_cons, pieceOf]
    split
    · next control =>
      rw [joinPieces_unit (by omega), ih, Char.ofNat_toNat]
      rfl
    · rw [joinPieces, ih]
      rfl

/-- The characters of a string are read up to its end. -/
theorem scanFrom_quoted (cs : List Char) (seen : List Piece) (rest : List Char) :
    scanFrom (.quoted seen) (cs.flatMap escapeChar ++ '"' :: rest) =
      (scanFrom .between rest).map (ofPieces (seen.reverse ++ cs.map pieceOf) :: ·) := by
  induction cs generalizing seen with
  | nil =>
    rw [List.flatMap_nil, List.nil_append, scanFrom_cons, List.map_nil, List.append_nil]
    rfl
  | cons c cs ih =>
    rw [List.flatMap_cons, List.append_assoc, scanFrom_escapeChar, ih, List.map_cons,
      List.reverse_cons, List.append_assoc]
    rfl

/-- A string is a word by itself. -/
theorem scanFrom_quoteChars (s : String) (rest : List Char) :
    scanFrom .between (quoteChars s ++ rest) =
      (scanFrom .between rest).map (.atom (.text s) :: ·) := by
  have opened : readChar .between '"' = some ([], .quoted []) := rfl
  have pieces : ofPieces (s.toList.map pieceOf) = .atom (.text s) := by
    rw [ofPieces, joinPieces_map]
    simp
  show scanFrom .between ('"' :: (s.toList.flatMap escapeChar ++ ['"']) ++ rest) = _
  rw [List.cons_append, scanFrom_step opened, List.append_assoc, List.singleton_append,
    scanFrom_quoted, List.reverse_nil, List.nil_append, pieces]

/-! #### Values -/

/-- The text of the value is cut into its words, if nothing follows it or a mark. -/
def Scans (v : Json) : Prop :=
  ∀ rest, Ends rest →
    scanFrom .between (v.chars ++ rest) = (scanFrom .between rest).map (v.tokens ++ ·)

theorem ends_cons {c : Char} {token : JsonToken} (mark : mark? c = some token) (rest : List Char) :
    Ends (c :: rest) := by
  intro d first
  obtain rfl := Option.some.inj first
  simp [mark]

/-- A value and the mark that follows it. -/
theorem Scans.mark {v : Json} (scans : Scans v) {c : Char} {token : JsonToken}
    (mark : mark? c = some token) (rest : List Char) :
    scanFrom .between (v.chars ++ c :: rest) =
      (scanFrom .between rest).map (v.tokens ++ token :: ·) := by
  rw [scans _ (ends_cons mark rest), scanFrom_mark mark, Option.map_map]
  rfl

theorem scan_items {items : List Json} (inside : ∀ v ∈ items, Scans v) (rest : List Char) :
    scanFrom .between (itemChars items ++ rest) =
      (scanFrom .between rest).map (itemTokens items ++ ·) := by
  induction items with
  | nil => exact scanFrom_mark rfl rest
  | cons v items ih =>
    have first := inside v List.mem_cons_self
    cases items with
    | nil =>
      rw [itemChars, itemTokens, List.append_assoc, List.singleton_append, first.mark rfl]
      simp only [List.append_assoc, List.singleton_append]
    | cons w items =>
      rw [itemChars, itemTokens, List.append_assoc, List.cons_append, first.mark rfl,
        ih fun v mem => inside v (List.mem_cons_of_mem _ mem), Option.map_map]
      simp only [Function.comp_def, List.append_assoc, List.cons_append]
      all_goals nofun

/-- A name and the colon that follows it. -/
theorem scan_name (name : String) (rest : List Char) :
    scanFrom .between (quoteChars name ++ ':' :: rest) =
      (scanFrom .between rest).map (.atom (.text name) :: .colon :: ·) := by
  have colon : mark? ':' = some .colon := rfl
  rw [scanFrom_quoteChars, scanFrom_mark colon, Option.map_map]
  rfl

theorem scan_members {members : List (String × Json)} (inside : ∀ m ∈ members, Scans m.2)
    (rest : List Char) :
    scanFrom .between (memberChars members ++ rest) =
      (scanFrom .between rest).map (memberTokens members ++ ·) := by
  induction members with
  | nil => exact scanFrom_mark rfl rest
  | cons m members ih =>
    obtain ⟨name, v⟩ := m
    have first : Scans v := inside (name, v) List.mem_cons_self
    cases members with
    | nil =>
      rw [memberChars, memberTokens]
      simp only [List.append_assoc, List.cons_append, List.nil_append]
      rw [scan_name, first.mark rfl, Option.map_map]
      rfl
    | cons w members =>
      rw [memberChars, memberTokens]
      · simp only [List.append_assoc, List.cons_append]
        rw [scan_name, first.mark rfl, ih fun m mem => inside m (List.mem_cons_of_mem _ mem),
          Option.map_map, Option.map_map]
        rfl
      all_goals nofun

theorem scans_of_fits {room : Nat} {v : Json} (fits : v.Fits room) : Scans v := by
  induction fits with
  | null =>
    intro rest ends
    exact scanFrom_word (by decide) (List.all_eq_true.1 (by decide)) ends rfl
  | bool b =>
    intro rest ends
    cases b with
    | true => exact scanFrom_word (by decide) (List.all_eq_true.1 (by decide)) ends rfl
    | false => exact scanFrom_word (by decide) (List.all_eq_true.1 (by decide)) ends rfl
  | number n =>
    intro rest ends
    exact scanFrom_word n.chars_ne_nil (fun c mem => (isBare_of_mem_chars mem).1) ends
      (ofBare?_chars n)
  | text s => exact fun rest _ => scanFrom_quoteChars s rest
  | list inside ih =>
    intro rest _
    have opened : mark? '[' = some .openList := rfl
    rw [chars, tokens, List.cons_append, scanFrom_mark opened, scan_items ih, Option.map_map]
    rfl
  | object inside ih =>
    intro rest _
    have opened : mark? '{' = some .openObject := rfl
    rw [chars, tokens, List.cons_append, scanFrom_mark opened, scan_members ih, Option.map_map]
    rfl

end JsonToken

/-! ### Values of words -/

namespace Json

theorem ofTokensFrom_cons {state next : Reading} {token : JsonToken}
    (read : readToken state token = some next) (rest : List JsonToken) :
    ofTokensFrom state (token :: rest) = ofTokensFrom next rest := by
  have unfolded : ofTokensFrom state (token :: rest) =
      (readToken state token).bind fun next => ofTokensFrom next rest := by
    cases state with
    | done v frames => cases frames <;> rfl
    | _ => rfl
  rw [unfolded, read, Option.bind_some]

/-- Inside of some frames the value is put together from its words. -/
def Reads (v : Json) (frames : List Frame) : Prop :=
  ∀ rest, ofTokensFrom (.value frames) (v.tokens ++ rest) = ofTokensFrom (.done v frames) rest

/-- A list or object inside of frames that are not too many is kept. -/
theorem close_eq {frames : List Frame} (shallow : frames.length ≤ maxFrames) (v : Json) :
    close v frames = .done v frames := by
  rw [close, List.drop_eq_nil_of_le shallow]
  rfl

/-- The rest of a list, from one of its items on. -/
theorem read_items {frames : List Frame} (shallow : frames.length ≤ maxFrames) {items : List Json}
    {v : Json} (inside : ∀ w ∈ v :: items, ∀ done, Reads w (.list done :: frames))
    (done : List Json) (rest : List JsonToken) :
    ofTokensFrom (.value (.list done :: frames)) (itemTokens (v :: items) ++ rest) =
      ofTokensFrom (.done (.list (done.reverse ++ v :: items)) frames) rest := by
  induction items generalizing v done with
  | nil =>
    have read := inside v List.mem_cons_self done
    rw [itemTokens, List.append_assoc, read, List.singleton_append]
    refine (ofTokensFrom_cons rfl rest).trans ?_
    rw [close_eq shallow, List.reverse_cons]
  | cons w items ih =>
    have read := inside v List.mem_cons_self done
    rw [itemTokens, List.append_assoc, read, List.cons_append]
    · refine (ofTokensFrom_cons rfl _).trans ?_
      rw [ih (fun u mem => inside u (List.mem_cons_of_mem _ mem)), List.reverse_cons,
        List.append_assoc]
      rfl
    all_goals nofun

/-- The first item of a list is read as any value. -/
theorem read_firstItem (v : Json) (frames : List Frame) (rest : List JsonToken) :
    ofTokensFrom (.firstItem frames) (v.tokens ++ rest) =
      ofTokensFrom (.value (.list [] :: frames)) (v.tokens ++ rest) := by
  cases v <;> rfl

/-- The rest of an object, from one of its members on. -/
theorem read_members {frames : List Frame} (shallow : frames.length ≤ maxFrames)
    {members : List (String × Json)} {name : String} {v : Json}
    (inside : ∀ m ∈ (name, v) :: members, ∀ done name, Reads m.2 (.object done name :: frames))
    (done : List (String × Json)) (rest : List JsonToken) :
    ofTokensFrom (.name (some done) frames) (memberTokens ((name, v) :: members) ++ rest) =
      ofTokensFrom (.done (.object (done.reverse ++ (name, v) :: members)) frames) rest := by
  induction members generalizing name v done with
  | nil =>
    have read := inside (name, v) List.mem_cons_self (some done) name
    have named : readToken (.name (some done) frames) (.atom (.text name)) =
        some (.colon (some done) name frames) := rfl
    rw [memberTokens]
    simp only [List.append_assoc, List.cons_append, List.nil_append]
    rw [ofTokensFrom_cons named, ofTokensFrom_cons rfl, read]
    refine (ofTokensFrom_cons rfl rest).trans ?_
    rw [close_eq shallow, Option.map_some, ofMembers, List.reverse_cons]
  | cons m members ih =>
    obtain ⟨other, w⟩ := m
    have read := inside (name, v) List.mem_cons_self (some done) name
    have named : readToken (.name (some done) frames) (.atom (.text name)) =
        some (.colon (some done) name frames) := rfl
    rw [memberTokens]
    · simp only [List.append_assoc, List.cons_append]
      rw [ofTokensFrom_cons named, ofTokensFrom_cons rfl, read]
      refine (ofTokensFrom_cons rfl _).trans ?_
      rw [Option.map_some, ih (fun m mem => inside m (List.mem_cons_of_mem _ mem)),
        List.reverse_cons, List.append_assoc]
      rfl
    all_goals nofun

theorem reads_of_fits {room : Nat} {v : Json} (fits : v.Fits room) :
    ∀ frames : List Frame, frames.length + room ≤ maxFrames + 1 → Reads v frames := by
  induction fits with
  | null | bool | number | text => exact fun frames _ rest => ofTokensFrom_cons rfl rest
  | @list room items inside ih =>
    intro frames shallow rest
    have opened : readToken (.value frames) .openList = some (.firstItem frames) := rfl
    rw [tokens, List.cons_append, ofTokensFrom_cons opened]
    have deeper : frames.length ≤ maxFrames := by omega
    cases items with
    | nil =>
      refine (ofTokensFrom_cons rfl rest).trans ?_
      rw [close_eq deeper]
    | cons v items =>
      have first : ofTokensFrom (.firstItem frames) (itemTokens (v :: items) ++ rest) =
          ofTokensFrom (.value (.list [] :: frames)) (itemTokens (v :: items) ++ rest) := by
        cases items <;> simp only [itemTokens, List.append_assoc] <;> exact read_firstItem v frames _
      rw [first]
      refine read_items deeper (fun w mem done => ih w mem _ ?_) [] rest
      simp only [List.length_cons]
      omega
  | @object room members inside ih =>
    intro frames shallow rest
    have opened : readToken (.value frames) .openObject = some (.firstName frames) := rfl
    rw [tokens, List.cons_append, ofTokensFrom_cons opened]
    have deeper : frames.length ≤ maxFrames := by omega
    cases members with
    | nil =>
      refine (ofTokensFrom_cons rfl rest).trans ?_
      rw [close_eq deeper]
    | cons m members =>
      obtain ⟨name, v⟩ := m
      have first : ofTokensFrom (.firstName frames) (memberTokens ((name, v) :: members) ++ rest) =
          ofTokensFrom (.name (some []) frames) (memberTokens ((name, v) :: members) ++ rest) := by
        cases members <;> rfl
      rw [first]
      refine read_members deeper (fun m mem done name => ih m mem _ ?_) [] rest
      simp only [List.length_cons]
      omega

/-- **A value is read back from its text.** -/
theorem parse?_render {v : Json} (fits : v.Fits (maxFrames + 1)) : parse? v.render = some v := by
  have scanned : JsonToken.scan v.chars = some v.tokens := by
    have words := JsonToken.scans_of_fits fits [] nofun
    rw [List.append_nil] at words
    rw [JsonToken.scan, words]
    exact congrArg some (List.append_nil _)
  have read : ofTokens? v.tokens = some v := by
    have value := reads_of_fits fits [] (Nat.le_of_eq (Nat.zero_add _)) []
    rw [List.append_nil] at value
    exact value
  rw [parse?, render, String.toList_ofList, scanned, Option.bind_some, read]

end Json

end BoxOffice
