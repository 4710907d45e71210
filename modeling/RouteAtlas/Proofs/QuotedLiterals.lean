/-
Module: RouteAtlas.Proofs.QuotedLiterals
Purpose: A quoted text is a literal on one line that ends where it is meant to end and denotes
  the text, and import paths, URLs and wire names stand in registration code as such literals
  only.
Main exports: Text.IsSealed, Template.IsLiteralOf, Template.Quotes,
  RegistrationContext.quotes_code, Template.quote_encloses
-/
import RouteAtlas.Json.Decoder
import RouteAtlas.Proofs.JsonSpelling
import RouteAtlas.Proofs.RegistrationCode

namespace RouteAtlas

/-! ## Sealed texts -/

namespace Text

/-- Whether the character after a text is escaped: it follows a backslash that is not escaped
itself. -/
def escapesNext (before : List Char) : Bool :=
  before.foldl (fun escaped c => !escaped && c = '\\') false

/-- A text that may stand between quotes: each quote in it is escaped, and the one after it is
not. -/
structure IsSealed (body : List Char) : Prop where
  escaped : ∀ before after, body = before ++ '"' :: after → escapesNext before = true
  closed : escapesNext body = false

theorem isSealed_nil : IsSealed [] where
  escaped := by simp
  closed := rfl

theorem escapesNext_append {one : List Char} (closed : escapesNext one = false)
    (other : List Char) : escapesNext (one ++ other) = escapesNext other := by
  rw [escapesNext, List.foldl_append, ← escapesNext, closed, ← escapesNext]

theorem IsSealed.append {one other : List Char} (first : IsSealed one)
    (second : IsSealed other) : IsSealed (one ++ other) where
  escaped := by
    intro before after shape
    rcases List.append_eq_append_iff.mp shape with ⟨more, rfl, rest⟩ | ⟨more, rfl, rest⟩
    · rw [escapesNext_append first.closed]
      exact second.escaped more after rest
    · cases more with
      | nil =>
          have alone := second.escaped [] after rest.symm
          simp [escapesNext] at alone
      | cons c more =>
          injection rest with same rest
          subst same
          exact first.escaped before more rfl
  closed := by rw [escapesNext_append first.closed, second.closed]

/-- Neither a backslash nor a quote is among the characters. -/
def IsPlain (text : List Char) : Prop :=
  '\\' ∉ text ∧ '"' ∉ text

theorem escapesNext_of_notMem {text : List Char} (notBackslash : '\\' ∉ text) :
    escapesNext text = false := by
  induction text with
  | nil => rfl
  | cons c text ih =>
      obtain ⟨apart, others⟩ : '\\' ≠ c ∧ '\\' ∉ text := by simpa using notBackslash
      have first : escapesNext [c] = false := by simp [escapesNext, Ne.symm apart]
      exact (escapesNext_append first text).trans (ih others)

theorem IsPlain.isSealed {text : List Char} (plain : IsPlain text) : IsSealed text where
  escaped := by
    rintro before after rfl
    exact absurd (by simp) plain.2
  closed := escapesNext_of_notMem plain.1

/-- A backslash seals the character after it. -/
theorem isSealed_escape (letter : Char) : IsSealed ['\\', letter] where
  escaped := by
    intro before after shape
    match before with
    | [] => simp at shape
    | [c] =>
        obtain ⟨rfl, _⟩ := List.cons.inj shape
        decide
    | [_, _] => simp at shape
    | _ :: _ :: _ :: _ => simp at shape
  closed := by simp [escapesNext]

end Text

namespace Json

open Text

theorem HexCode.isPlain {digits : List Char} {code : Nat} (hex : HexCode digits code) :
    IsPlain digits := by
  have known : ∀ c ∈ digits, hexDigit? c ≠ none := by
    obtain ⟨first, second, third, fourth⟩ := hex
    simp [first, second, third, fourth]
  exact ⟨fun inside => known _ inside (by decide), fun inside => known _ inside (by decide)⟩

theorem HexCode.isSealed {digits : List Char} {code : Nat} (hex : HexCode digits code) :
    IsSealed ('\\' :: 'u' :: digits) :=
  (isSealed_escape 'u').append hex.isPlain.isSealed

/-- Whatever denotes a text may stand between quotes. -/
theorem Spells.isSealed {body text : List Char} (spells : Spells body text) :
    IsSealed body := by
  induction spells with
  | nil => exact isSealed_nil
  | @plain c body _ notQuote notBackslash _ _ ih =>
      have plain : IsPlain [c] := by simp [IsPlain, Ne.symm notQuote, Ne.symm notBackslash]
      exact plain.isSealed.append ih
  | short _ _ ih => exact (isSealed_escape _).append ih
  | code hex _ _ _ ih => exact hex.isSealed.append ih
  | @pair first second body _ _ _ hexHigh hexLow _ _ _ ih =>
      have both := hexHigh.isSealed.append (hexLow.isSealed.append ih)
      simpa using both

end Json

/-! ## Literals -/

namespace Template

open Text

/-- A literal of a text: one line between quotes that is read as the text, whatever follows
it. -/
structure IsLiteralOf (text : String) (literal : List Char) : Prop where
  enclosed : ∃ body, literal = '"' :: (body ++ ['"']) ∧ IsSealed body
  oneLine : ∀ c ∈ literal, isControl c = false
  read : ∀ fuel rest, Json.readValue (fuel + 1) (literal ++ rest) = (.string text, rest)

theorem hexCode_hex4 {code : Nat} (small : code < 65536) : Json.HexCode (hex4 code) code := by
  have digit : ∀ n, Json.hexDigit? (Nat.digitChar (n % 16)) = some (n % 16) :=
    fun n => Json.hexDigit?_digitChar (Nat.mod_lt n (by decide))
  have hex := Json.HexCode.digits (digit (code / 4096)) (digit (code / 256))
    (digit (code / 16)) (digit code)
  have number : 16 * (16 * (16 * (code / 4096 % 16) + code / 256 % 16) + code / 16 % 16) +
      code % 16 = code := by
    omega
  rwa [number] at hex

theorem isControl_eq_true_iff {c : Char} :
    isControl c = true ↔ c.toNat < 0x20 ∨ 0x7F ≤ c.toNat ∧ c.toNat ≤ 0x9F := by
  simp [isControl]

/-- A character as it is quoted. -/
theorem spells_quoteChar (c : Char) : Json.Spells (quoteChar c) [c] := by
  unfold quoteChar
  split
  · next quote => exact Json.spells_short (by rw [quote]; decide)
  split
  · next backslash => exact Json.spells_short (by rw [backslash]; decide)
  split
  · next lineFeed => exact Json.spells_short (by rw [lineFeed]; decide)
  split
  · next carriageReturn => exact Json.spells_short (by rw [carriageReturn]; decide)
  split
  · next tab => exact Json.spells_short (by rw [tab]; decide)
  split
  · next control =>
    rw [isControl_eq_true_iff] at control
    exact Json.spells_code (hexCode_hex4 (by omega))
  · next notQuote notBackslash _ _ _ notControl =>
    rw [isControl_eq_true_iff] at notControl
    exact .plain notQuote notBackslash (by omega) .nil

theorem isControl_digitChar {n : Nat} (small : n < 16) : isControl (Nat.digitChar n) = false := by
  have all : ∀ n < 16, isControl (Nat.digitChar n) = false := by decide
  exact all n small

theorem isControl_of_mem_hex4 {code : Nat} {c : Char} (inside : c ∈ hex4 code) :
    isControl c = false := by
  have digit : ∀ n, isControl (Nat.digitChar (n % 16)) = false :=
    fun n => isControl_digitChar (Nat.mod_lt n (by decide))
  simp only [hex4, List.mem_cons, List.not_mem_nil, or_false] at inside
  rcases inside with rfl | rfl | rfl | rfl <;> exact digit _

/-- Quoting leaves no control character. -/
theorem isControl_of_mem_quoteChar {c d : Char} (inside : d ∈ quoteChar c) :
    isControl d = false := by
  have ofPair : ∀ letter, d ∈ ['\\', letter] → isControl letter = false →
      isControl d = false := by
    intro letter member plain
    simp only [List.mem_cons, List.not_mem_nil, or_false] at member
    rcases member with rfl | rfl
    · decide
    · exact plain
  unfold quoteChar at inside
  split at inside
  · exact ofPair _ inside (by decide)
  split at inside
  · exact ofPair _ inside (by decide)
  split at inside
  · exact ofPair _ inside (by decide)
  split at inside
  · exact ofPair _ inside (by decide)
  split at inside
  · exact ofPair _ inside (by decide)
  split at inside
  · rcases List.mem_cons.mp inside with rfl | inside
    · decide
    rcases List.mem_cons.mp inside with rfl | inside
    · decide
    exact isControl_of_mem_hex4 inside
  · next notControl =>
    rw [List.mem_singleton.mp inside]
    exact Bool.eq_false_iff.mpr notControl

theorem isLiteralOf_quote (text : String) : IsLiteralOf text (quote text).toList := by
  have spells := Json.spells_flatMap spells_quoteChar text.toList
  have chars : (quote text).toList = '"' :: (text.toList.flatMap quoteChar ++ ['"']) := by
    simp [quote]
  rw [chars]
  refine ⟨⟨_, rfl, spells.isSealed⟩, ?_, ?_⟩
  · intro c inside
    simp only [List.mem_cons, List.mem_append, List.mem_flatMap, List.not_mem_nil,
      or_false] at inside
    rcases inside with rfl | ⟨d, _, inside⟩ | rfl
    · decide
    · exact isControl_of_mem_quoteChar inside
    · decide
  · intro fuel rest
    simpa using spells.readValue_eq fuel rest

/-- A quoted text is decoded as the text. -/
theorem decodeText_quote (text : String) :
    Json.decodeText Json.Decoder.string (quote text) = .ok text := by
  have read := (isLiteralOf_quote text).read (2 * (quote text).toList.length + 1) []
  rw [List.append_nil] at read
  simp [Json.decodeText, Json.read, read, Json.Decoder.string, Json.skipBlanks]

theorem quote_injective : Function.Injective quote := by
  intro text other same
  have decoded := decodeText_quote text
  rw [same, decodeText_quote] at decoded
  exact (Except.ok.inj decoded).symm

/-! ## Literals in code -/

/-- A part of generated code: code that is written as it is, or a text that is quoted. -/
inductive Piece where
  | code (text : String)
  | literal (text : String)

namespace Piece

/-- The text that is quoted in a part, if any. -/
def quoted? : Piece → Option String
  | .code _ => none
  | .literal text => some text

/-- Put another text between the quotes. -/
def map (renew : String → String) : Piece → Piece
  | .code text => .code text
  | .literal text => .literal (renew text)

def write : Piece → String
  | .code text => text
  | .literal text => quote text

def writeAll (pieces : List Piece) : String :=
  String.join (pieces.map write)

end Piece

/-- Code that depends on texts.  It consists of parts that are the same whatever the texts are,
and of one literal for each of them, in their order. -/
def Quotes (code : (String → String) → String) (texts : List String) : Prop :=
  ∃ pieces : List Piece, pieces.filterMap Piece.quoted? = texts ∧
    ∀ renew, code renew = Piece.writeAll (pieces.map (Piece.map renew))

namespace Quotes

variable {one other : (String → String) → String} {texts more : List String}

theorem code (text : String) : Quotes (fun _ => text) [] :=
  ⟨[.code text], rfl, fun _ => by simp [Piece.writeAll, Piece.map, Piece.write]⟩

theorem literal (text : String) : Quotes (fun renew => quote (renew text)) [text] :=
  ⟨[.literal text], rfl, fun _ => by simp [Piece.writeAll, Piece.map, Piece.write]⟩

theorem append (first : Quotes one texts) (second : Quotes other more) :
    Quotes (fun renew => one renew ++ other renew) (texts ++ more) := by
  obtain ⟨pieces, rfl, written⟩ := first
  obtain ⟨others, rfl, writtenOther⟩ := second
  refine ⟨pieces ++ others, List.filterMap_append, ?_⟩
  intro renew
  simp [written renew, writtenOther renew, Piece.writeAll]

theorem congr {code : (String → String) → String} (quotes : Quotes one texts)
    (sameCode : ∀ renew, code renew = one renew) (sameTexts : more = texts) :
    Quotes code more := by
  obtain rfl : code = one := funext sameCode
  exact sameTexts ▸ quotes

theorem join {α : Type} {write : (String → String) → α → String} {texts : α → List String}
    (each : ∀ item, Quotes (fun renew => write renew item) (texts item)) (items : List α) :
    Quotes (fun renew => String.join (items.map (write renew))) (items.flatMap texts) := by
  induction items with
  | nil => exact ⟨[], rfl, fun _ => rfl⟩
  | cons item items ih =>
      simp only [List.map_cons, String.join_cons, List.flatMap_cons]
      exact (each item).append ih

end Quotes

end Template

open Template

/-! ## Registration code -/

/-- Put another path between the quotes of an import. -/
def ImportView.renewed (renew : String → String) (view : ImportView) : ImportView :=
  { view with importPath := renew view.importPath }

def ParamView.renewed (renew : String → String) (view : ParamView) : ParamView :=
  { view with wireName := renew view.wireName }

namespace EndpointView

/-- The texts of an endpoint that code quotes: its URL and the wire names of its parameters. -/
def quotedTexts (view : EndpointView) : List String :=
  view.path :: (view.requestParams.map ParamView.wireName ++
    view.responseParams.map ParamView.wireName)

/-- Put other texts in place of those that code quotes. -/
def renewed (renew : String → String) (view : EndpointView) : EndpointView :=
  { view with
    path := renew view.path
    requestParams := view.requestParams.map (ParamView.renewed renew)
    responseParams := view.responseParams.map (ParamView.renewed renew) }

end EndpointView

namespace RegistrationContext

/-- The texts that code quotes: import paths, URLs and wire names. -/
def quotedTexts (context : RegistrationContext) : List String :=
  context.setupImports ++ context.imports.map ImportView.importPath ++
    context.endpoints.flatMap EndpointView.quotedTexts

/-- Put other texts in place of those that code quotes. -/
def renewed (renew : String → String) (context : RegistrationContext) : RegistrationContext :=
  { context with
    setupImports := context.setupImports.map renew
    imports := context.imports.map (ImportView.renewed renew)
    endpoints := context.endpoints.map (EndpointView.renewed renew) }

end RegistrationContext

theorem ImportView.quotes_code (view : ImportView) :
    Quotes (fun renew => (view.renewed renew).code) [view.importPath] :=
  ((Quotes.code ("\t" ++ view.ident ++ " ")).append (.literal view.importPath)).append (.code "\n")

theorem ParamView.quotes_requestCode (view : ParamView) :
    Quotes (fun renew => (view.renewed renew).requestCode) [view.wireName] :=
  ((Quotes.code ("\t\t\tbody." ++ view.name ++ " = " ++ view.accessor ++ "(")).append
    (.literal view.wireName)).append (.code ")\n")

theorem ParamView.quotes_responseCode (view : ParamView) :
    Quotes (fun renew => (view.renewed renew).responseCode) [view.wireName] :=
  ((((Quotes.code ("\t\t\t" ++ view.accessor ++ "(")).append (.literal view.wireName)).append
    (.code ", res.")).append (.code view.name)).append (.code ")\n")

theorem quotes_requests (params : List ParamView) :
    Quotes (fun renew => String.join
        ((params.map (ParamView.renewed renew)).map ParamView.requestCode))
      (params.map ParamView.wireName) :=
  (Quotes.join ParamView.quotes_requestCode params).congr (by simp [Function.comp_def])
    (by simp [List.map_eq_flatMap])

theorem quotes_responses (params : List ParamView) :
    Quotes (fun renew => String.join
        ((params.map (ParamView.renewed renew)).map ParamView.responseCode))
      (params.map ParamView.wireName) :=
  (Quotes.join ParamView.quotes_responseCode params).congr (by simp [Function.comp_def])
    (by simp [List.map_eq_flatMap])

namespace EndpointView

/-! The code of an endpoint is cut where something is quoted. -/

def beforeUrl (view : EndpointView) : String :=
  view.descriptionCode ++ view.authorizationCode ++
  "\tapp." ++ view.methodIdent ++ "(\n" ++ "\t\t"

def beforeRequests (view : EndpointView) : String :=
  ",\n" ++
  String.join (view.middleware.map fun call => "\t\t" ++ call ++ ",\n") ++
  "\t\tfunc(c *fiber.Ctx) error \x7b\n" ++
  "\t\t\tbody := &" ++ view.bodyType ++ "\x7b\x7d\n" ++
  view.bodyParserCode

def beforeResponses (view : EndpointView) : String :=
  "\n" ++
  "\t\t\tif err := v.Struct(body); err != nil \x7b\n" ++
  "\t\t\t\treturn c.Status(fiber.StatusBadRequest)" ++
  ".JSON(struct\x7b Err string \x7d\x7bErr: \"Validation failed\"\x7d)\n" ++
  "\t\t\t\x7d\n" ++
  "\n" ++
  "\t\t\tres, err := " ++ view.handlerIdent ++ "." ++ view.handlerName ++
  "(c.UserContext(), body)\n" ++
  "\t\t\tif err != nil \x7b\n" ++
  "\t\t\t\treturn c.Status(fiber.StatusInternalServerError)" ++
  ".JSON(struct\x7b Err string \x7d\x7bErr: \"InternalServerError\"\x7d)\n" ++
  "\t\t\t\x7d\n"

def closing : String :=
  "\n" ++ "\t\t\treturn c.JSON(res)\n" ++ "\t\t\x7d,\n" ++ "\t)\n"

theorem code_eq (view : EndpointView) :
    view.code =
      view.beforeUrl ++ (quote view.path ++ (view.beforeRequests ++
        (String.join (view.requestParams.map ParamView.requestCode) ++ (view.beforeResponses ++
          (String.join (view.responseParams.map ParamView.responseCode) ++ closing))))) := by
  unfold code callCode beforeUrl beforeRequests beforeResponses closing
  ac_rfl

/-- Of the code of an endpoint only the URL and the wire names are quoted, and everything else
is the same whatever they are. -/
theorem quotes_code (view : EndpointView) :
    Quotes (fun renew => (view.renewed renew).code) view.quotedTexts := by
  have parts := (Quotes.code view.beforeUrl).append <|
    (Quotes.literal view.path).append <| (Quotes.code view.beforeRequests).append <|
    (quotes_requests view.requestParams).append <| (Quotes.code view.beforeResponses).append <|
    (quotes_responses view.responseParams).append (.code closing)
  refine parts.congr ?_ (by simp [quotedTexts])
  intro renew
  exact (view.renewed renew).code_eq

end EndpointView

namespace RegistrationContext

theorem quotes_importsCode (context : RegistrationContext) :
    Quotes (fun renew => (context.renewed renew).importsCode)
      (context.imports.map ImportView.importPath) := by
  by_cases none : context.imports = []
  · refine (Quotes.code "").congr ?_ (by simp [none])
    intro renew
    simp [importsCode, renewed, none]
  · have lines := (Quotes.code "\n").append
      (Quotes.join ImportView.quotes_code context.imports)
    refine lines.congr ?_ (by simp [List.map_eq_flatMap])
    intro renew
    simp [importsCode, renewed, none, Function.comp_def]

theorem quotes_setupImports (paths : List String) :
    Quotes (fun renew => String.join ((paths.map renew).map fun path =>
      "\t" ++ quote path ++ "\n")) paths := by
  have line : ∀ path, Quotes (fun renew => "\t" ++ quote (renew path) ++ "\n") [path] :=
    fun path => ((Quotes.code "\t").append (.literal path)).append (.code "\n")
  exact (Quotes.join line paths).congr (by simp [Function.comp_def])
    (by simp)

theorem quotes_code (context : RegistrationContext) :
    Quotes (fun renew => (context.renewed renew).code) context.quotedTexts := by
  have endpoints : Quotes (fun renew => String.join
      ((context.endpoints.map (EndpointView.renewed renew)).map EndpointView.code))
      (context.endpoints.flatMap EndpointView.quotedTexts) :=
    (Quotes.join EndpointView.quotes_code context.endpoints).congr
      (by simp [Function.comp_def]) rfl
  let opening := "// Code generated by routespec. DO NOT EDIT.\n" ++ "\n" ++ "package " ++
    context.package ++ "\n" ++ "\n" ++ "import (\n"
  let parameters := ")\n" ++ "\n" ++ "func RegisterHandlers(\n" ++ "\tapp *fiber.App,\n" ++
    "\tv *validator.Validate,\n" ++ String.join (context.receivers.map ReceiverView.code) ++
    ") \x7b\n"
  have parts := (Quotes.code opening).append <|
    (quotes_setupImports context.setupImports).append <| context.quotes_importsCode.append <|
    (Quotes.code parameters).append <| endpoints.append (.code "\x7d\n")
  refine parts.congr ?_ (by simp [quotedTexts])
  intro renew
  unfold code headCode opening parameters
  ac_rfl

end RegistrationContext

/-- A quoted text is a literal on one line between quotes, none of which is left unescaped
within, and it is decoded as the text; so no two texts are quoted alike.  Import paths, URLs
and wire names change nothing in registration code but what stands in such literals. -/
theorem Template.quote_encloses :
    (∀ text, IsLiteralOf text (quote text).toList ∧
      Json.decodeText Json.Decoder.string (quote text) = .ok text) ∧
    Function.Injective quote ∧
    ∀ context : RegistrationContext, ∃ pieces : List Piece,
      pieces.filterMap Piece.quoted? = context.quotedTexts ∧
      ∀ renew, (context.renewed renew).rendered =
        .ok (Piece.writeAll (pieces.map (Piece.map renew))) := by
  refine ⟨fun text => ⟨isLiteralOf_quote text, decodeText_quote text⟩, quote_injective, ?_⟩
  intro context
  obtain ⟨pieces, quoted, written⟩ := context.quotes_code
  refine ⟨pieces, quoted, ?_⟩
  intro renew
  exact (context.renewed renew).rendered_eq.trans (congrArg Except.ok (written renew))

end RouteAtlas
