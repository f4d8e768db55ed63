import TagOrganizer.Selection.Condition
import TagOrganizer.Template.Span

/-!
# Reading tokens

Tokens that are written one after the other are read back as they were, except that texts that touch
each other become one text and empty texts vanish (`tokens_source`). This needs texts in which no
marker can begin, also not together with what follows them, and names that the markers admit.
-/

namespace TagOrganizer

namespace Template

/-- The characters that markers have behind their slash. -/
def markerHeads : List Char := ['E', 'I', 'F', 'T', '?', '#']

/-- Whether no marker begins in a text: behind each slash stands a character that no marker has. -/
def Inert : List Char → Prop
  | [] => True
  | char :: text =>
      (char = '/' → ∃ next, text.head? = some next ∧ next ∉ markerHeads) ∧ Inert text

theorem Inert.append {front back : List Char} (inertFront : Inert front)
    (inertBack : Inert back) : Inert (front ++ back) := by
  induction front with
  | nil => exact inertBack
  | cons char front ih =>
      refine ⟨?_, ih inertFront.2⟩
      intro slash
      rcases inertFront.1 slash with ⟨next, first, harmless⟩
      exact ⟨next, by simp [first], harmless⟩

theorem inert_of_not_mem {text : List Char} (slashless : '/' ∉ text) : Inert text := by
  induction text with
  | nil => trivial
  | cons char text ih =>
      rw [List.mem_cons, not_or] at slashless
      exact ⟨fun slash => absurd slash.symm slashless.1, ih slashless.2⟩

theorem Inert.intercalate {separator : List Char} {pieces : List (List Char)}
    (inertSeparator : Inert separator) (inertPieces : ∀ piece ∈ pieces, Inert piece) :
    Inert (separator.intercalate pieces) := by
  match pieces with
  | [] => trivial
  | [piece] => simpa [List.intercalate] using inertPieces piece (by simp)
  | piece :: other :: pieces =>
      have rest : Inert (separator.intercalate (other :: pieces)) :=
        inertSeparator.intercalate fun piece present => inertPieces piece (by simp [present])
      have first := inertPieces piece (by simp)
      simpa [List.intercalate] using first.append (inertSeparator.append rest)

namespace Token

/-- Whether a token is a text. -/
def isText : Token → Bool
  | text _ => true
  | _ => false

/-- Whether a token is read back as it is written. -/
def IsClean : Token → Prop
  | text written => Inert written.toList
  | tagChoice name => Condition.isName name.toList = true
  | groupChoice name => Condition.isName name.toList = true
  | tagInGroup name => Condition.isName name.toList = true
  | _ => True

/-- Puts a text in front of tokens; it becomes one with a text that is there. -/
def addText (front : List Char) : List Token → List Token
  | [] => if front = [] then [] else [text (String.ofList front)]
  | text written :: tokens => text (String.ofList (front ++ written.toList)) :: tokens
  | token :: tokens =>
      if front = [] then token :: tokens else text (String.ofList front) :: token :: tokens

/-- Puts a token in front of tokens. -/
def attach : Token → List Token → List Token
  | text written, tokens => addText written.toList tokens
  | token, tokens => token :: tokens

theorem attach_of_not_isText {token : Token} (marker : token.isText = false)
    (tokens : List Token) : token.attach tokens = token :: tokens := by
  cases token <;> first | rfl | cases marker

@[simp]
theorem addText_nil (tokens : List Token) : addText [] tokens = tokens := by
  cases tokens with
  | nil => rfl
  | cons token tokens => cases token <;> simp [addText]

theorem addText_addText (front back : List Char) (tokens : List Token) :
    addText front (addText back tokens) = addText (front ++ back) tokens := by
  cases back with
  | nil => simp
  | cons char back =>
      cases tokens with
      | nil => simp [addText]
      | cons token tokens => cases token <;> simp [addText]

theorem addText_of_not_isText {token : Token} (marker : token.isText = false)
    (front : List Char) (tokens : List Token) :
    addText front (token :: tokens) =
      if front = [] then token :: tokens else text (String.ofList front) :: token :: tokens := by
  cases token <;> first | rfl | cases marker

theorem consText_nil (backward : List Char) :
    consText backward [] = addText backward.reverse [] := by
  simp [consText, addText, List.isEmpty_iff]

theorem consText_of_not_isText {token : Token} (marker : token.isText = false)
    (backward : List Char) (tokens : List Token) :
    consText backward (token :: tokens) = addText backward.reverse (token :: tokens) := by
  rw [addText_of_not_isText marker]
  simp [consText, List.isEmpty_iff]

/-! ### Markers -/

theorem readName?_eq_some_iff {source rest : List Char} {name : String} :
    readName? source = some (name, rest) ↔
      Condition.isName name.toList = true ∧ source = name.toList ++ nameEnd ++ rest := by
  constructor
  · intro read
    simp only [readName?] at read
    split at read
    · cases read
    · rename_i filled
      rcases Option.map_eq_some_iff.1 read with ⟨after, stripped, equal⟩
      rcases Prod.mk.inj equal with ⟨rfl, rfl⟩
      have slashless : '/' ∉ source.takeWhile (· != '/') := by
        intro present
        simpa using List.all_eq_true.1 List.all_takeWhile '/' present
      rw [String.toList_ofList, Condition.isName_iff]
      refine ⟨⟨by simpa using filled, slashless⟩, ?_⟩
      rw [List.append_assoc, ← Text.stripFront?_eq_some_iff.1 stripped,
        List.takeWhile_append_dropWhile]
  · rintro ⟨proper, rfl⟩
    rcases Condition.isName_iff.1 proper with ⟨filled, slashless⟩
    have kept : ∀ char ∈ name.toList, (char != '/') = true := by
      intro char present
      simp only [bne_iff_ne, ne_eq]
      rintro rfl
      exact slashless present
    have taken : (name.toList ++ nameEnd ++ rest).takeWhile (· != '/') = name.toList := by
      rw [List.append_assoc, List.takeWhile_append_of_pos kept]
      simp [nameEnd]
    have dropped : (name.toList ++ nameEnd ++ rest).dropWhile (· != '/') = nameEnd ++ rest := by
      rw [List.append_assoc, List.dropWhile_append_of_pos kept]
      simp [nameEnd]
    simp only [readName?, taken, dropped, Text.stripFront?_append]
    simp [filled]

theorem readNamed?_eq_some_iff {mark source rest : List Char} {build : String → Token}
    {token : Token} :
    readNamed? mark build source = some (token, rest) ↔
      ∃ name : String, Condition.isName name.toList = true ∧ build name = token ∧
        source = sourceOfName mark name ++ rest := by
  simp only [readNamed?, Option.bind_eq_bind, Option.bind_eq_some_iff, Option.pure_def,
    Option.some.injEq, Prod.mk.injEq, Prod.exists, Text.stripFront?_eq_some_iff,
    readName?_eq_some_iff, sourceOfName]
  constructor
  · rintro ⟨_, rfl, name, _, ⟨proper, rfl⟩, built, rfl⟩
    exact ⟨name, proper, built, by simp⟩
  · rintro ⟨name, proper, built, rfl⟩
    exact ⟨_, by simp, name, rest, ⟨proper, rfl⟩, built, rfl⟩

theorem readNamed?_append {mark : List Char} {name : String}
    (proper : Condition.isName name.toList = true) (build : String → Token) (rest : List Char) :
    readNamed? mark build (sourceOfName mark name ++ rest) = some (build name, rest) :=
  readNamed?_eq_some_iff.2 ⟨name, proper, rfl, rfl⟩

/-- A marker is read back as it is written, whatever follows it. -/
theorem readMarker?_source {token : Token} (marker : token.isText = false)
    (clean : token.IsClean) (rest : List Char) :
    readMarker? (token.source ++ rest) = some (token, rest) := by
  cases token with
  | text written => cases marker
  | tagInGroup group => simp [readMarker?, source, readNamed?_append clean]
  | tagChoice tag =>
      have other : readNamed? tagInGroupMark tagInGroup (sourceOfName tagChoiceMark tag ++ rest) =
          none := by
        simp [readNamed?, sourceOfName, tagInGroupMark, tagChoiceMark, Text.stripFront?]
      simp [readMarker?, source, other, readNamed?_append clean]
  | groupChoice group =>
      have other (mark : List Char) (build : String → Token)
          (different : mark = tagInGroupMark ∨ mark = tagChoiceMark) :
          readNamed? mark build (sourceOfName groupChoiceMark group ++ rest) = none := by
        rcases different with rfl | rfl <;>
          simp [readNamed?, sourceOfName, tagInGroupMark, tagChoiceMark, groupChoiceMark,
            Text.stripFront?]
      simp [readMarker?, source, other, readNamed?_append clean]
  | _ => rfl

/-- What is read as a marker is one as it is written. -/
theorem readMarker?_eq_some_iff {source rest : List Char} {token : Token} :
    readMarker? source = some (token, rest) ↔
      token.isText = false ∧ token.IsClean ∧ source = token.source ++ rest := by
  constructor
  · intro read
    simp only [readMarker?, Option.orElse_eq_orElse, Option.orElse_eq_or, Option.or_eq_some_iff]
      at read
    rcases read with read | ⟨-, read | ⟨-, read | ⟨-, read⟩⟩⟩
    · rcases readNamed?_eq_some_iff.1 read with ⟨name, proper, rfl, whole⟩
      exact ⟨rfl, proper, whole⟩
    · rcases readNamed?_eq_some_iff.1 read with ⟨name, proper, rfl, whole⟩
      exact ⟨rfl, proper, whole⟩
    · rcases readNamed?_eq_some_iff.1 read with ⟨name, proper, rfl, whole⟩
      exact ⟨rfl, proper, whole⟩
    · rcases List.exists_of_findSome?_eq_some read with ⟨marker, present, found⟩
      rcases Option.map_eq_some_iff.1 found with ⟨after, stripped, equal⟩
      rcases Prod.mk.inj equal with ⟨rfl, rfl⟩
      have kinds : ∀ marker ∈ plainMarkers,
          marker.1.isText = false ∧ marker.1.source = marker.2 := by decide
      have clean : ∀ marker ∈ plainMarkers, marker.1.IsClean := by simp [plainMarkers, IsClean]
      rcases kinds marker present with ⟨isMarker, written⟩
      refine ⟨isMarker, clean marker present, ?_⟩
      rw [written, Text.stripFront?_eq_some_iff.1 stripped]
  · rintro ⟨marker, clean, rfl⟩
    exact readMarker?_source marker clean rest

theorem readMarker?_of_ne_slash {char : Char} (different : char ≠ '/') (rest : List Char) :
    readMarker? (char :: rest) = none := by
  simp [readMarker?, readNamed?, readPlain?, plainMarkers, tagInGroupMark, tagChoiceMark,
    groupChoiceMark, Text.stripFront?, Ne.symm different]

theorem readMarker?_of_harmless {next : Char} (harmless : next ∉ markerHeads)
    (rest : List Char) : readMarker? ('/' :: next :: rest) = none := by
  simp only [markerHeads, List.mem_cons, List.not_mem_nil, or_false, not_or] at harmless
  simp [readMarker?, readNamed?, readPlain?, plainMarkers, tagInGroupMark, tagChoiceMark,
    groupChoiceMark, Text.stripFront?, eq_comm, harmless]

end Token

theorem tokensFrom_of_some {backward rest after : List Char} {char : Char} {token : Token}
    (read : Token.readMarker? (char :: rest) = some (token, after)) :
    tokensFrom backward (char :: rest) =
      Token.consText backward (token :: tokensFrom [] after) := by
  rw [tokensFrom]
  split
  · rename_i other following again
    rw [read] at again
    rcases Prod.mk.inj (Option.some.inj again) with ⟨rfl, rfl⟩
    rfl
  · rename_i missing
    rw [read] at missing
    cases missing

theorem tokensFrom_of_none {backward rest : List Char} {char : Char}
    (missing : Token.readMarker? (char :: rest) = none) :
    tokensFrom backward (char :: rest) = tokensFrom (char :: backward) rest := by
  rw [tokensFrom]
  split
  · rename_i other following read
    rw [missing] at read
    cases read
  · rfl

/-- What has been read of a text becomes one with the text that comes next. -/
theorem tokensFrom_eq (backward source : List Char) :
    tokensFrom backward source = Token.addText backward.reverse (tokensFrom [] source) := by
  match source with
  | [] => rw [tokensFrom, tokensFrom, Token.consText_nil, Token.consText_nil]; simp
  | char :: rest =>
      cases read : Token.readMarker? (char :: rest) with
      | some found =>
          rcases found with ⟨token, after⟩
          have marker := (Token.readMarker?_eq_some_iff.1 read).1
          rw [tokensFrom_of_some read, tokensFrom_of_some read,
            Token.consText_of_not_isText marker, Token.consText_of_not_isText marker]
          simp
      | none =>
          rw [tokensFrom_of_none read, tokensFrom_of_none read, tokensFrom_eq (char :: backward),
            tokensFrom_eq [char], Token.addText_addText]
          simp
termination_by source.length

theorem tokensFrom_marker {token : Token} (marker : token.isText = false)
    (clean : token.IsClean) (rest : List Char) :
    tokensFrom [] (token.source ++ rest) = token :: tokensFrom [] rest := by
  have read := Token.readMarker?_source marker clean rest
  cases written : token.source ++ rest with
  | nil =>
      rw [written] at read
      exact absurd (Token.length_of_readMarker? read) (by simp)
  | cons char source =>
      rw [written] at read
      rw [tokensFrom_of_some read]
      rfl

/-- Whether no marker begins in a text, `rest` being what follows it. -/
def Unpierced (text rest : List Char) : Prop :=
  ∀ suffix, suffix <:+ text → suffix ≠ [] → Token.readMarker? (suffix ++ rest) = none

theorem tokensFrom_append {text rest : List Char} (unpierced : Unpierced text rest) :
    tokensFrom [] (text ++ rest) = Token.addText text (tokensFrom [] rest) := by
  induction text with
  | nil => simp
  | cons char text ih =>
      have first : Token.readMarker? (char :: (text ++ rest)) = none :=
        unpierced (char :: text) List.suffix_rfl (List.cons_ne_nil _ _)
      have later := ih fun suffix behind => unpierced suffix (behind.trans (List.suffix_cons _ _))
      rw [List.cons_append, tokensFrom_of_none first, tokensFrom_eq, later, Token.addText_addText]
      simp

theorem Inert.readMarker?_eq_none {char : Char} {text : List Char} (inert : Inert (char :: text))
    (rest : List Char) : Token.readMarker? (char :: text ++ rest) = none := by
  by_cases slash : char = '/'
  · rcases inert.1 slash with ⟨next, first, harmless⟩
    rcases List.head?_eq_some_iff.1 first with ⟨others, rfl⟩
    rw [slash]
    exact Token.readMarker?_of_harmless harmless _
  · exact Token.readMarker?_of_ne_slash slash _

theorem Inert.unpierced {text : List Char} (inert : Inert text) (rest : List Char) :
    Unpierced text rest := by
  intro suffix behind filled
  induction text with
  | nil => exact absurd (List.suffix_nil.1 behind) filled
  | cons char text ih =>
      rcases List.suffix_cons_iff.1 behind with rfl | later
      · exact inert.readMarker?_eq_none rest
      · exact ih inert.2 later

/-- Tokens that are written in front of a text are read back in front of what is read of it. -/
theorem tokensFrom_source {written : List Token} (clean : ∀ token ∈ written, token.IsClean)
    (rest : List Char) :
    tokensFrom [] (written.flatMap Token.source ++ rest) =
      written.foldr Token.attach (tokensFrom [] rest) := by
  induction written with
  | nil => rfl
  | cons token written ih =>
      have first := clean token (by simp)
      have others := ih fun other present => clean other (by simp [present])
      rw [List.flatMap_cons, List.append_assoc, List.foldr_cons, ← others]
      cases kind : token.isText with
      | true =>
          cases token with
          | text words => exact tokensFrom_append (first.unpierced _)
          | _ => cases kind
      | false => rw [tokensFrom_marker kind first, Token.attach_of_not_isText kind]

/-- Tokens are read back as they have been written, except that touching texts become one. -/
theorem tokens_source {written : List Token} (clean : ∀ token ∈ written, token.IsClean) :
    tokens (source written) = written.foldr Token.attach [] := by
  have read := tokensFrom_source clean []
  simpa [tokens, source, tokensFrom, Token.consText] using read

/-! ### Functions of tokens that do not see where a text is cut -/

theorem flatMap_addText {write : Token → List Char}
    (asText : ∀ text, write (.text text) = text.toList) (front : List Char)
    (tokens : List Token) :
    (Token.addText front tokens).flatMap write = front ++ tokens.flatMap write := by
  cases tokens with
  | nil => by_cases empty : front = [] <;> simp [Token.addText, empty, asText]
  | cons token tokens =>
      cases token <;> by_cases empty : front = [] <;> simp [Token.addText, empty, asText]

theorem flatMap_foldr_attach {write : Token → List Char}
    (asText : ∀ text, write (.text text) = text.toList) (written tokens : List Token) :
    (written.foldr Token.attach tokens).flatMap write =
      written.flatMap write ++ tokens.flatMap write := by
  induction written with
  | nil => rfl
  | cons token written ih =>
      rw [List.foldr_cons, List.flatMap_cons, List.append_assoc, ← ih]
      cases token with
      | text text => rw [Token.attach, flatMap_addText asText, asText]
      | _ => rfl

theorem addText_append_marker {marker : Token} (kind : marker.isText = false)
    (front : List Char) (before after : List Token) :
    Token.addText front (before ++ marker :: after) =
      Token.addText front before ++ marker :: after := by
  by_cases empty : front = []
  · simp [empty]
  · cases before with
    | nil =>
        rw [List.nil_append, Token.addText_of_not_isText kind, if_neg empty]
        simp [Token.addText, empty]
    | cons token before => cases token <;> simp [Token.addText, empty]

/-- A marker keeps what is written in front of it apart from what follows it. -/
theorem foldr_attach_marker {marker : Token} (kind : marker.isText = false)
    (written tokens : List Token) :
    written.foldr Token.attach (marker :: tokens) =
      written.foldr Token.attach [] ++ marker :: tokens := by
  induction written with
  | nil => rfl
  | cons token written ih =>
      rw [List.foldr_cons, List.foldr_cons, ih]
      cases token with
      | text text => exact addText_append_marker kind _ _ _
      | _ => rfl

theorem mem_addText {marker : Token} (kind : marker.isText = false) (front : List Char)
    (tokens : List Token) : marker ∈ Token.addText front tokens ↔ marker ∈ tokens := by
  have different (text : String) : marker ≠ .text text := by
    rintro rfl
    cases kind
  by_cases empty : front = []
  · simp [empty]
  · cases tokens with
    | nil => simp [Token.addText, empty, different]
    | cons token tokens => cases token <;> simp [Token.addText, empty, different]

theorem mem_foldr_attach {marker : Token} (kind : marker.isText = false) (written : List Token) :
    marker ∈ written.foldr Token.attach [] ↔ marker ∈ written := by
  induction written with
  | nil => rfl
  | cons token written ih =>
      rw [List.foldr_cons, List.mem_cons]
      cases shape : token.isText with
      | true =>
          cases token with
          | text text =>
              rw [Token.attach, mem_addText kind, ih, or_iff_right]
              rintro rfl
              cases kind
          | _ => cases shape
      | false => rw [Token.attach_of_not_isText shape, List.mem_cons, ih]

/-! ### The first of some markers -/

theorem breakAt?_eq_none_iff {marker : Token} {tokens : List Token} :
    breakAt? marker tokens = none ↔ marker ∉ tokens := by
  induction tokens with
  | nil => simp [breakAt?]
  | cons token tokens ih =>
      by_cases same : token = marker
      · simp [breakAt?, same]
      · simp [breakAt?, same, Ne.symm same, ih]

theorem breakAt?_eq_some_iff {marker : Token} {tokens before after : List Token} :
    breakAt? marker tokens = some (before, after) ↔
      tokens = before ++ marker :: after ∧ marker ∉ before := by
  constructor
  · intro broken
    induction tokens generalizing before with
    | nil => cases broken
    | cons token tokens ih =>
        simp only [breakAt?] at broken
        split at broken
        · rename_i same
          rcases Prod.mk.inj (Option.some.inj broken) with ⟨rfl, rfl⟩
          simp [same]
        · rename_i different
          rcases Option.map_eq_some_iff.1 broken with ⟨⟨front, rest⟩, found, equal⟩
          cases equal
          rcases ih found with ⟨rfl, fresh⟩
          simp [Ne.symm different, fresh]
  · rintro ⟨rfl, fresh⟩
    induction before with
    | nil => simp [breakAt?]
    | cons token before ih =>
        rw [List.mem_cons, not_or] at fresh
        rw [List.cons_append, breakAt?, if_neg (Ne.symm fresh.1), ih fresh.2]
        rfl

/-- What stands in front of the first of some markers is read apart from what follows it. -/
theorem breakAt?_foldr_attach {marker : Token} (kind : marker.isText = false)
    {written : List Token} (fresh : marker ∉ written) (tokens : List Token) :
    breakAt? marker (written.foldr Token.attach (marker :: tokens)) =
      some (written.foldr Token.attach [], tokens) := by
  rw [breakAt?_eq_some_iff, mem_foldr_attach kind]
  exact ⟨foldr_attach_marker kind written tokens, fresh⟩

end Template

end TagOrganizer
