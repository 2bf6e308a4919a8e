import LoanBook.Json.Printer
import LoanBook.Json.Reader
import LoanBook.Proofs.Json.Tokens

/-!
# JSON documents read back

A document is read back from its compact text and from its indented text.  Both spell the same
tokens, from which the reader builds the document again; only the numerals have to be well formed.
-/

namespace LoanBook.Json

/-- A document all of whose numerals are well formed. -/
def IsWellFormed (document : Json) : Prop :=
  ∀ token ∈ document.tokens, token.IsWellFormed

/-! ## Texts spell their tokens -/

namespace Token

variable {rest : List Char} {more : List Token}

@[simp]
theorem endsNumeral_nil : EndsNumeral [] := by
  simp [EndsNumeral]

@[simp]
theorem endsNumeral_cons {c : Char} :
    EndsNumeral (c :: rest) ↔ c.isDigit = false ∧ c ≠ '.' ∧ c ≠ 'e' ∧ c ≠ 'E' := by
  simp [EndsNumeral]

theorem toChars_ne_nil {token : Token} (wellFormed : token.IsWellFormed) : token.toChars ≠ [] := by
  cases token with
  | number numeral =>
      simp [toChars, Numeral.toChars_eq, Numeral.IsWellFormed.whole_nonempty wellFormed]
  | string text => cases text <;> simp [toChars, stringChars]
  | bool value => cases value <;> simp [toChars]
  | _ => simp [toChars]

theorem Spells.cons {token : Token} (later : Spells rest more) (wellFormed : token.IsWellFormed)
    (ends : token.IsNumber → EndsNumeral rest) :
    Spells (token.toChars ++ rest) (token :: more) := by
  refine .token (read?_toChars wellFormed ends) ?_ later
  have some := List.length_pos_iff.mpr (toChars_ne_nil wellFormed)
  rw [List.length_append]
  omega

theorem Spells.spaces {cs : List Char} (later : Spells rest more)
    (each : ∀ c ∈ cs, isSpace c = true) : Spells (cs ++ rest) more := by
  induction cs with
  | nil => exact later
  | cons c cs ih =>
      obtain ⟨first, others⟩ := List.forall_mem_cons.mp each
      exact .space first (ih others)

theorem Spells.newLine (later : Spells rest more) (level : Nat) :
    Spells (newLine level ++ rest) more := by
  apply later.spaces
  simp [Json.newLine, isSpace]

end Token

/-! ### Compact texts -/

mutual

theorem spells_compact (document : Json) {rest : List Char} {more : List Token}
    (wellFormed : document.IsWellFormed) (ends : Token.EndsNumeral rest)
    (later : Token.Spells rest more) :
    Token.Spells (document.tokens.flatMap Token.toChars ++ rest) (document.tokens ++ more) := by
  match document with
  | .null | .bool _ | .number _ | .string _ =>
      simpa [tokens] using later.cons (wellFormed _ List.mem_cons_self) fun _ => ends
  | .array elements =>
      simp only [tokens, IsWellFormed, List.forall_mem_append, List.forall_mem_cons] at wellFormed
      have close : Token.Spells (']' :: rest) (.closeBracket :: more) :=
        .token rfl (by simp) later
      have inner := spells_compactElements elements wellFormed.1.2 (by simp) close
      have whole : Token.Spells ('[' :: _) (.openBracket :: _) := .token rfl (by simp) inner
      simpa [tokens, Token.toChars] using whole
  | .object members =>
      simp only [tokens, IsWellFormed, List.forall_mem_append, List.forall_mem_cons] at wellFormed
      have close : Token.Spells ('\x7d' :: rest) (.closeBrace :: more) :=
        .token rfl (by simp) later
      have inner := spells_compactMembers members wellFormed.1.2 (by simp) close
      have whole : Token.Spells ('\x7b' :: _) (.openBrace :: _) := .token rfl (by simp) inner
      simpa [tokens, Token.toChars] using whole

theorem spells_compactElements (elements : List Json) {rest : List Char} {more : List Token}
    (wellFormed : ∀ token ∈ elementTokens elements, token.IsWellFormed)
    (ends : Token.EndsNumeral rest) (later : Token.Spells rest more) :
    Token.Spells ((elementTokens elements).flatMap Token.toChars ++ rest)
      (elementTokens elements ++ more) := by
  match elements with
  | [] => exact later
  | [element] => exact spells_compact element wellFormed ends later
  | element :: next :: others =>
      simp only [elementTokens, List.forall_mem_append, List.forall_mem_cons] at wellFormed
      have inner := spells_compactElements (next :: others) wellFormed.2.2 ends later
      have comma : Token.Spells (',' :: _) (.comma :: _) := .token rfl (by simp) inner
      have whole := spells_compact element wellFormed.1 (by simp) comma
      simpa [elementTokens, Token.toChars] using whole

theorem spells_compactMembers (members : List (Option String × Json)) {rest : List Char}
    {more : List Token} (wellFormed : ∀ token ∈ memberTokens members, token.IsWellFormed)
    (ends : Token.EndsNumeral rest) (later : Token.Spells rest more) :
    Token.Spells ((memberTokens members).flatMap Token.toChars ++ rest)
      (memberTokens members ++ more) := by
  match members with
  | [] => exact later
  | [(key, value)] =>
      simp only [memberTokens, List.forall_mem_cons] at wellFormed
      have inner := spells_compact value wellFormed.2.2 ends later
      have colon : Token.Spells (':' :: _) (.colon :: _) := .token rfl (by simp) inner
      have whole := colon.cons wellFormed.1 nofun
      simpa [memberTokens, Token.toChars] using whole
  | (key, value) :: next :: others =>
      simp only [memberTokens, List.forall_mem_append, List.forall_mem_cons] at wellFormed
      have inner := spells_compactMembers (next :: others) wellFormed.2.2 ends later
      have comma : Token.Spells (',' :: _) (.comma :: _) := .token rfl (by simp) inner
      have first := spells_compact value wellFormed.1.2.2 (by simp) comma
      have colon : Token.Spells (':' :: _) (.colon :: _) := .token rfl (by simp) first
      have whole := colon.cons wellFormed.1.1 nofun
      simpa [memberTokens, Token.toChars] using whole

end

/-! ### Indented texts -/

mutual

theorem spells_pretty (document : Json) (level : Nat) {rest : List Char} {more : List Token}
    (wellFormed : document.IsWellFormed) (ends : Token.EndsNumeral rest)
    (later : Token.Spells rest more) :
    Token.Spells (document.prettyChars level ++ rest) (document.tokens ++ more) := by
  match document with
  | .null | .bool _ | .number _ | .string _ =>
      simpa [tokens, prettyChars] using later.cons (wellFormed _ List.mem_cons_self) fun _ => ends
  | .array [] =>
      have close : Token.Spells (']' :: rest) (.closeBracket :: more) :=
        .token rfl (by simp) later
      have whole : Token.Spells ('[' :: _) (.openBracket :: _) := .token rfl (by simp) close
      simpa [tokens, elementTokens, prettyChars] using whole
  | .array (element :: others) =>
      simp only [tokens, IsWellFormed, List.forall_mem_append, List.forall_mem_cons] at wellFormed
      have close : Token.Spells (']' :: rest) (.closeBracket :: more) :=
        .token rfl (by simp) later
      have inner := spells_prettyElements (element :: others) (level + 1) wellFormed.1.2
        (by simp [newLine]) (close.newLine level)
      have whole : Token.Spells ('[' :: _) (.openBracket :: _) :=
        .token rfl (by simp) (inner.newLine (level + 1))
      simpa [tokens, prettyChars] using whole
  | .object [] =>
      have close : Token.Spells ('\x7d' :: rest) (.closeBrace :: more) :=
        .token rfl (by simp) later
      have whole : Token.Spells ('\x7b' :: _) (.openBrace :: _) := .token rfl (by simp) close
      simpa [tokens, memberTokens, prettyChars] using whole
  | .object (member :: others) =>
      simp only [tokens, IsWellFormed, List.forall_mem_append, List.forall_mem_cons] at wellFormed
      have close : Token.Spells ('\x7d' :: rest) (.closeBrace :: more) :=
        .token rfl (by simp) later
      have inner := spells_prettyMembers (member :: others) (level + 1) wellFormed.1.2
        (by simp [newLine]) (close.newLine level)
      have whole : Token.Spells ('\x7b' :: _) (.openBrace :: _) :=
        .token rfl (by simp) (inner.newLine (level + 1))
      simpa [tokens, prettyChars] using whole

theorem spells_prettyElements (elements : List Json) (level : Nat) {rest : List Char}
    {more : List Token} (wellFormed : ∀ token ∈ elementTokens elements, token.IsWellFormed)
    (ends : Token.EndsNumeral rest) (later : Token.Spells rest more) :
    Token.Spells (prettyElements level elements ++ rest) (elementTokens elements ++ more) := by
  match elements with
  | [] => exact later
  | [element] => exact spells_pretty element level wellFormed ends later
  | element :: next :: others =>
      simp only [elementTokens, List.forall_mem_append, List.forall_mem_cons] at wellFormed
      have inner := spells_prettyElements (next :: others) level wellFormed.2.2 ends later
      have comma : Token.Spells (',' :: _) (.comma :: _) :=
        .token rfl (by simp) (inner.newLine level)
      have whole := spells_pretty element level wellFormed.1 (by simp) comma
      simpa [elementTokens, prettyElements] using whole

theorem spells_prettyMembers (members : List (Option String × Json)) (level : Nat)
    {rest : List Char} {more : List Token}
    (wellFormed : ∀ token ∈ memberTokens members, token.IsWellFormed)
    (ends : Token.EndsNumeral rest) (later : Token.Spells rest more) :
    Token.Spells (prettyMembers level members ++ rest) (memberTokens members ++ more) := by
  match members with
  | [] => exact later
  | [(key, value)] =>
      simp only [memberTokens, List.forall_mem_cons] at wellFormed
      have inner := spells_pretty value level wellFormed.2.2 ends later
      have colon : Token.Spells (':' :: ' ' :: _) (.colon :: _) :=
        .token rfl (by simp) (.space rfl inner)
      have whole := colon.cons wellFormed.1 nofun
      simpa [memberTokens, prettyMembers, Token.toChars] using whole
  | (key, value) :: next :: others =>
      simp only [memberTokens, List.forall_mem_append, List.forall_mem_cons] at wellFormed
      have inner := spells_prettyMembers (next :: others) level wellFormed.2.2 ends later
      have comma : Token.Spells (',' :: _) (.comma :: _) :=
        .token rfl (by simp) (inner.newLine level)
      have first := spells_pretty value level wellFormed.1.2.2 (by simp) comma
      have colon : Token.Spells (':' :: ' ' :: _) (.colon :: _) :=
        .token rfl (by simp) (.space rfl first)
      have whole := colon.cons wellFormed.1.1 nofun
      simpa [memberTokens, prettyMembers, Token.toChars] using whole

end

/-! ## Tokens build their document -/

namespace Reading

variable (frames : List Frame) (rest : List Token)

theorem run?_cons (reading : Reading) (token : Token) :
    reading.run? (token :: rest) = (reading.step? token).bind fun next => next.run? rest :=
  rfl

/-- The first element of an array is read like any other, since it is no closing bracket. -/
theorem run?_beforeFirstElement (element : Json) (others : List Json) :
    (beforeFirstElement frames).run? (elementTokens (element :: others) ++ rest) =
      (beforeValue (.array [] :: frames)).run? (elementTokens (element :: others) ++ rest) := by
  have first (rest : List Token) : (beforeFirstElement frames).run? (element.tokens ++ rest) =
      (beforeValue (.array [] :: frames)).run? (element.tokens ++ rest) := by
    cases element <;> rfl
  cases others with
  | nil => exact first rest
  | cons next others =>
      simp only [elementTokens, List.append_assoc]
      exact first _

/-- The first key of an object is read like any other. -/
theorem run?_beforeFirstKey (member : Option String × Json)
    (others : List (Option String × Json)) :
    (beforeFirstKey frames).run? (memberTokens (member :: others) ++ rest) =
      (beforeKey [] frames).run? (memberTokens (member :: others) ++ rest) := by
  cases others <;> rfl

mutual

/-- The tokens of a document are read as the document, whatever is open around it. -/
theorem run?_tokens (document : Json) (frames : List Frame) (rest : List Token) :
    (beforeValue frames).run? (document.tokens ++ rest) =
      (afterValue document frames).run? rest := by
  match document with
  | .null | .bool _ | .number _ | .string _ => rfl
  | .array [] => rfl
  | .array (element :: others) =>
      have inner := run?_elementTokens (element :: others) nofun [] frames rest
      rw [← run?_beforeFirstElement] at inner
      simpa [tokens, run?_cons, step?, begin?] using inner
  | .object [] => rfl
  | .object (member :: others) =>
      have inner := run?_memberTokens (member :: others) nofun [] frames rest
      rw [← run?_beforeFirstKey] at inner
      simpa [tokens, run?_cons, step?, begin?] using inner

theorem run?_elementTokens (elements : List Json) (nonempty : elements ≠ []) (done : List Json)
    (frames : List Frame) (rest : List Token) :
    (beforeValue (.array done :: frames)).run?
        (elementTokens elements ++ .closeBracket :: rest) =
      (afterValue (.array (done.reverse ++ elements)) frames).run? rest := by
  match elements with
  | [] => exact absurd rfl nonempty
  | [element] => simp [elementTokens, run?_tokens element, run?_cons, step?, continue?]
  | element :: next :: others =>
      have later := run?_elementTokens (next :: others) nofun (element :: done) frames rest
      simpa [elementTokens, run?_tokens element, run?_cons, step?, continue?] using later

theorem run?_memberTokens (members : List (Option String × Json)) (nonempty : members ≠ [])
    (done : List (Option String × Json)) (frames : List Frame) (rest : List Token) :
    (beforeKey done frames).run? (memberTokens members ++ .closeBrace :: rest) =
      (afterValue (.object (done.reverse ++ members)) frames).run? rest := by
  match members with
  | [] => exact absurd rfl nonempty
  | [(key, value)] => simp [memberTokens, run?_tokens value, run?_cons, step?, continue?]
  | (key, value) :: next :: others =>
      have later := run?_memberTokens (next :: others) nofun ((key, value) :: done) frames rest
      simpa [memberTokens, run?_tokens value, run?_cons, step?, continue?] using later

end

end Reading

theorem ofTokens?_tokens (document : Json) : ofTokens? document.tokens = some document := by
  have read := Reading.run?_tokens document [] []
  rw [List.append_nil] at read
  rw [ofTokens?, read]
  rfl

/-! ## Texts are read back -/

/-- A text that spells the tokens of a document is read as the document. -/
theorem read?_of_spells {document : Json} {cs : List Char}
    (spells : Token.Spells cs document.tokens) : read? (String.ofList cs) = some document := by
  rw [read?, String.toList_ofList, Token.scan?, spells.scanWithin? (Nat.le_refl _)]
  exact ofTokens?_tokens document

theorem read?_compact {document : Json} (wellFormed : document.IsWellFormed) :
    read? document.compact = some document := by
  have spells := spells_compact document wellFormed Token.endsNumeral_nil .done
  rw [List.append_nil, List.append_nil] at spells
  exact read?_of_spells spells

theorem read?_pretty {document : Json} (wellFormed : document.IsWellFormed) :
    read? document.pretty = some document := by
  have spells := spells_pretty document 0 wellFormed Token.endsNumeral_nil .done
  rw [List.append_nil, List.append_nil] at spells
  exact read?_of_spells spells

end LoanBook.Json
