/-
Module: RouteAtlas.Proofs.CommentLines
Purpose: What descriptions and scopes can do to registration code: nothing but comments, unless
  one of their own lines leaves the comment.
Main exports: Text.codeLines, Text.StaysInComment, RegistrationContext.uncommented,
  RegistrationContext.codeLines_code_eq_iff, RegistrationContext.comments_leave_code
-/
import RouteAtlas.Proofs.RegistrationCode
import RouteAtlas.Text.Split

namespace RouteAtlas

open Template (join)

/-! ## Lines -/

namespace Text

/-- A line is a comment if two slashes are the first characters that are not tabs. -/
def isComment (line : List Char) : Bool :=
  ['/', '/'].isPrefixOf (line.dropWhile (· = '\t'))

/-- The lines of a text without those that are comments. -/
def codeLines (text : String) : List (List Char) :=
  (pieces '\n' text.toList).filter fun line => !isComment line

/-- The lines of a text, save the first, that are not comments. -/
def leak (text : String) : List (List Char) :=
  (pieces '\n' text.toList).tail.filter fun line => !isComment line

/-- A text that begins within a comment does not leave it: all its other lines are comments. -/
def StaysInComment (text : String) : Prop :=
  ∀ line ∈ (pieces '\n' text.toList).tail, isComment line

instance (text : String) : Decidable (StaysInComment text) :=
  inferInstanceAs (Decidable (∀ line ∈ (pieces '\n' text.toList).tail, isComment line))

variable {text other lead : String} {kept others : List (List Char)}

/-- Characters before the first piece belong to it. -/
theorem pieces_append_of_notMem {sep : Char} {before : List Char} (absent : sep ∉ before)
    (after : List Char) : ∃ head tail, pieces sep after = head :: tail ∧
      pieces sep (before ++ after) = (before ++ head) :: tail := by
  obtain ⟨head, tail, cut⟩ := List.exists_cons_of_ne_nil (pieces_ne_nil sep after)
  refine ⟨head, tail, cut, ?_⟩
  induction before with
  | nil => exact cut
  | cons c rest ih =>
      obtain ⟨apart, absentRest⟩ : sep ≠ c ∧ sep ∉ rest := by simpa using absent
      rw [List.cons_append, pieces, if_neg (Ne.symm apart), ih absentRest, List.cons_append]

theorem codeLines_append_line (text other : String) :
    codeLines (text ++ "\n" ++ other) = codeLines text ++ codeLines other := by
  have chars : (text ++ "\n" ++ other).toList = text.toList ++ '\n' :: other.toList := by
    simp
  rw [codeLines, chars, pieces_append, List.filter_append]
  rfl

theorem leak_eq_nil_iff : leak text = [] ↔ StaysInComment text := by
  simp [leak, StaysInComment, List.filter_eq_nil_iff]

theorem staysInComment_of_notMem (single : '\n' ∉ text.toList) : StaysInComment text := by
  obtain ⟨head, tail, cut, whole⟩ := pieces_append_of_notMem single []
  cases cut
  intro line member
  rw [List.append_nil] at whole
  rw [whole] at member
  cases member

/-- A text that is written into a comment is lost but for the lines that leave it. -/
theorem codeLines_comment (opens : ['\t', '/', '/'] <+: lead.toList)
    (single : '\n' ∉ lead.toList) : codeLines (lead ++ text) = leak text := by
  obtain ⟨head, tail, cut, whole⟩ := pieces_append_of_notMem single text.toList
  obtain ⟨more, chars⟩ := opens
  have comment : isComment (lead.toList ++ head) = true := by
    rw [← chars]
    rfl
  rw [codeLines, String.toList_append, whole, leak, cut,
    List.filter_cons_of_neg (by simp [comment]), List.tail_cons]

/-! ### Whole lines -/

/-- A text that ends where a line ends, with its lines that are not comments. -/
def Spans (text : String) (kept : List (List Char)) : Prop :=
  ∀ rest, codeLines (text ++ rest) = kept ++ codeLines rest

theorem Spans.nil : Spans "" [] := by
  intro rest
  rw [String.empty_append, List.nil_append]

theorem Spans.line (text : String) : Spans (text ++ "\n") (codeLines text) :=
  codeLines_append_line text

/-- A line ends where the text does. -/
def EndsLine (text : String) : Prop :=
  ∃ before, text = before ++ "\n"

theorem EndsLine.append (ends : EndsLine other) (text : String) : EndsLine (text ++ other) := by
  obtain ⟨before, rfl⟩ := ends
  exact ⟨text ++ before, String.append_assoc.symm⟩

/-- After the last line break there is only an empty line. -/
theorem EndsLine.spans (ends : EndsLine text) : Spans text (codeLines text).dropLast := by
  obtain ⟨before, rfl⟩ := ends
  have whole := Spans.line before ""
  have last : codeLines "" = [[]] := by decide
  rw [String.append_empty, last] at whole
  rw [whole, List.dropLast_concat]
  exact .line before

theorem Spans.append (first : Spans text kept) (second : Spans other others) :
    Spans (text ++ other) (kept ++ others) := by
  intro rest
  rw [String.append_assoc, first, second, List.append_assoc]

theorem Spans.join {α : Type} {write : α → String} {keep : α → List (List Char)}
    (spans : ∀ item, Spans (write item) (keep item)) (items : List α) :
    Spans (String.join (items.map write)) (items.flatMap keep) := by
  induction items with
  | nil => exact .nil
  | cons item items ih =>
      rw [List.map_cons, String.join_cons, List.flatMap_cons]
      exact (spans item).append ih

end Text

open Text

/-! ## Code without its comments -/

namespace EndpointView

variable {view : EndpointView}

/-- An endpoint about which the code has nothing to tell. -/
def uncommented (view : EndpointView) : EndpointView :=
  { view with description := "", authorization := [] }

/-- What is told about an endpoint stays in the comments. -/
def KeepsComments (view : EndpointView) : Prop :=
  StaysInComment view.description ∧ StaysInComment (join ", " view.authorization)

instance (view : EndpointView) : Decidable view.KeepsComments :=
  inferInstanceAs (Decidable (_ ∧ _))

/-- What leaves the comments on an endpoint. -/
def leaks (view : EndpointView) : List (List Char) :=
  leak view.description ++ leak (join ", " view.authorization)

theorem leaks_eq_nil_iff : view.leaks = [] ↔ view.KeepsComments := by
  rw [leaks, List.append_eq_nil_iff, leak_eq_nil_iff, leak_eq_nil_iff, KeepsComments]

theorem notMem_join {scopes : List String} (single : ∀ scope ∈ scopes, '\n' ∉ scope.toList) :
    '\n' ∉ (join ", " scopes).toList := by
  unfold join
  induction scopes with
  | nil => simp
  | cons scope scopes ih =>
      obtain ⟨first, others⟩ := List.forall_mem_cons.mp single
      cases scopes with
      | nil => simpa using first
      | cons next rest =>
          rw [String.intercalate_cons_cons]
          simpa [first] using ih others

/-- Nothing that is told about an endpoint has a line break. -/
def IsSingleLine (view : EndpointView) : Prop :=
  '\n' ∉ view.description.toList ∧ ∀ scope ∈ view.authorization, '\n' ∉ scope.toList

theorem IsSingleLine.keepsComments (single : view.IsSingleLine) : view.KeepsComments :=
  ⟨staysInComment_of_notMem single.1,
    staysInComment_of_notMem (notMem_join single.2)⟩

theorem spans_descriptionCode : Spans view.descriptionCode (leak view.description) := by
  unfold descriptionCode
  split
  · next none =>
      rw [none]
      exact .nil
  · have comment := Spans.line ("\t// " ++ view.description)
    rwa [codeLines_comment (by decide) (by decide)] at comment

theorem spans_authorizationCode :
    Spans view.authorizationCode (leak (join ", " view.authorization)) := by
  unfold authorizationCode
  split
  · next none =>
      rw [none]
      exact .nil
  · have comment := Spans.line ("\t// authorization: " ++ join ", " view.authorization)
    rwa [codeLines_comment (by decide) (by decide)] at comment

/-- The lines of the call that registers an endpoint, as far as they are not comments. -/
def callLines (view : EndpointView) : List (List Char) :=
  (codeLines view.callCode).dropLast

theorem spans_callCode : Spans view.callCode view.callLines := by
  have last : EndsLine "\t)\n" := ⟨"\t)", by decide⟩
  have ends : EndsLine view.callCode := last.append _
  exact ends.spans

theorem spans_code (view : EndpointView) :
    Spans view.code (view.leaks ++ view.callLines) :=
  (spans_descriptionCode.append spans_authorizationCode).append spans_callCode

end EndpointView

/-- Items that add to what others give add nothing if all together give the same. -/
theorem flatMap_append_eq_iff {α β : Type} {items : List α} {extra main : α → List β} :
    (items.flatMap fun item => extra item ++ main item) = items.flatMap main ↔
      ∀ item ∈ items, extra item = [] := by
  have longer : ∀ items : List α,
      (items.flatMap main).length ≤ (items.flatMap fun item => extra item ++ main item).length := by
    intro items
    induction items with
    | nil => exact Nat.le_refl _
    | cons item rest ih =>
        simp only [List.flatMap_cons, List.length_append]
        omega
  induction items with
  | nil => simp
  | cons item rest ih =>
      rw [List.flatMap_cons, List.flatMap_cons, List.forall_mem_cons]
      constructor
      · intro same
        -- The rest cannot make up for what an item adds: it only gets longer too.
        have none : extra item = [] := by
          have lengths := congrArg List.length same
          simp only [List.length_append] at lengths
          have := longer rest
          rw [← List.length_eq_zero_iff]
          omega
        rw [none, List.nil_append, List.append_cancel_left_eq] at same
        exact ⟨none, ih.mp same⟩
      · rintro ⟨none, others⟩
        rw [none, List.nil_append, ih.mpr others]

namespace RegistrationContext

variable {context context' : RegistrationContext}

/-- A context without descriptions and scopes. -/
def uncommented (context : RegistrationContext) : RegistrationContext :=
  { context with endpoints := context.endpoints.map EndpointView.uncommented }

/-- What is told about the endpoints stays in the comments. -/
def KeepsComments (context : RegistrationContext) : Prop :=
  ∀ view ∈ context.endpoints, view.KeepsComments

instance (context : RegistrationContext) : Decidable context.KeepsComments :=
  inferInstanceAs (Decidable (∀ view ∈ context.endpoints, view.KeepsComments))

/-- What is told about endpoints does not show in the lines of their calls. -/
theorem flatMap_callLines (context : RegistrationContext) :
    context.uncommented.endpoints.flatMap EndpointView.callLines =
      context.endpoints.flatMap EndpointView.callLines := by
  rw [uncommented, List.flatMap_map]
  rfl

theorem codeLines_code (context : RegistrationContext) :
    codeLines context.code =
      (codeLines context.headCode).dropLast ++
        ((context.endpoints.flatMap fun view => view.leaks ++ view.callLines) ++
          codeLines "\x7d\n") := by
  have last : EndsLine ") \x7b\n" := ⟨") \x7b", by decide⟩
  have head : EndsLine context.headCode := last.append _
  have calls := Spans.join EndpointView.spans_code context.endpoints
  rw [code, String.append_assoc, head.spans, calls]

/-- Of two contexts that differ only in what they tell about endpoints, let one keep all of it
in comments.  Apart from comments the code of the other is the same exactly if that one
keeps what it tells in comments too. -/
theorem codeLines_code_eq_iff (same : context.uncommented = context'.uncommented)
    (keeps : context'.KeepsComments) :
    codeLines context.code = codeLines context'.code ↔
      context.KeepsComments := by
  have head : context.uncommented.headCode = context'.uncommented.headCode :=
    congrArg headCode same
  -- What stands before the endpoints does not look at them.
  change context.headCode = context'.headCode at head
  have calls := context.flatMap_callLines
  rw [same, flatMap_callLines] at calls
  have bare : (context'.endpoints.flatMap fun view => view.leaks ++ view.callLines) =
      context'.endpoints.flatMap EndpointView.callLines :=
    flatMap_append_eq_iff.mpr fun view member =>
      EndpointView.leaks_eq_nil_iff.mpr (keeps view member)
  rw [codeLines_code, codeLines_code, head, bare, calls, List.append_cancel_left_eq,
    List.append_cancel_right_eq, flatMap_append_eq_iff]
  exact forall₂_congr fun _ _ => EndpointView.leaks_eq_nil_iff

/-- Contexts that differ only in the descriptions and scopes of their endpoints are rendered
to texts that are the same apart from comment lines if both keep what they tell in comments,
as they do if none of it has a line break.  If only one of them keeps it in comments, the
texts differ in other lines too. -/
theorem comments_leave_code (same : context.uncommented = context'.uncommented) :
    ∃ text text', context.rendered = .ok text ∧ context'.rendered = .ok text' ∧
      ((∀ view ∈ context.endpoints, view.IsSingleLine) →
        (∀ view ∈ context'.endpoints, view.IsSingleLine) → codeLines text = codeLines text') ∧
      (context'.KeepsComments → (codeLines text = codeLines text' ↔ context.KeepsComments)) := by
  have exactly := fun keeps => codeLines_code_eq_iff same keeps
  refine ⟨_, _, context.rendered_eq, context'.rendered_eq, ?_, exactly⟩
  intro single single'
  exact (exactly fun view member => (single' view member).keepsComments).mpr
    fun view member => (single view member).keepsComments

/-! ## A service -/

/-- A service with one endpoint. -/
def service (description : String) (authorization : List String) : RegistrationContext :=
  { (default : RegistrationContext) with
    endpoints := [{ (default : EndpointView) with description, authorization }] }

theorem uncommented_service (description : String) (authorization : List String) :
    (service description authorization).uncommented = (service "" []).uncommented :=
  rfl

theorem comments_leave_code_service :
    (∃ text text', (service "List users." ["users:read"]).rendered = .ok text ∧
      (service "" []).rendered = .ok text' ∧ codeLines text = codeLines text') ∧
    ∃ text text', (service "List users.\n\t// One page at a time." []).rendered = .ok text ∧
      (service "" []).rendered = .ok text' ∧ codeLines text = codeLines text' := by
  constructor
  · obtain ⟨text, text', rendered, rendered', same, -⟩ :=
      comments_leave_code (uncommented_service "List users." ["users:read"])
    refine ⟨text, text', rendered, rendered', same ?_ ?_⟩
    all_goals
      intro view member
      cases List.mem_singleton.mp member
      exact ⟨by decide, by decide⟩
  · obtain ⟨text, text', rendered, rendered', -, same⟩ :=
      comments_leave_code (uncommented_service "List users.\n\t// One page at a time." [])
    exact ⟨text, text', rendered, rendered', (same (by decide)).mpr (by decide)⟩

/-- A line break in a description leaves the comment. -/
theorem not_comments_leave_code : ¬ ∀ context context' : RegistrationContext,
    context.uncommented = context'.uncommented →
      ∀ text text', context.rendered = .ok text → context'.rendered = .ok text' →
        codeLines text = codeLines text' := by
  intro whole
  have apart := uncommented_service "List users.\npanic(0)" []
  have same := whole _ _ apart _ _ (rendered_eq _) (rendered_eq _)
  have keeps : (service "" []).KeepsComments := by decide
  exact absurd ((codeLines_code_eq_iff apart keeps).mp same) (by decide)

end RegistrationContext

end RouteAtlas
