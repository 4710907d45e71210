/-
Module: RouteAtlas.Proofs.PathRendering
Purpose: The URL of a chain of segments determines the chain, as long as no name in it
  reads like something else; roots leave no trace in it, and chains are written one after
  another.
Main exports: PathSegment.IsPlain, PathSegment.render_injective,
  renderSegments_injective, renderPath_injective, renderPath_tells_chain
-/
import RouteAtlas.Segment

namespace RouteAtlas

/-! ## One segment -/

/-- A name that reads like a path variable where it stands for itself. -/
def ParamStyle.LooksVariable : ParamStyle → String → Prop
  | .colon, name => name.toList.head? = some ':'
  | .braces, name => name.toList.head? = some '\x7b' ∧ name.toList.getLast? = some '\x7d'

/-- A segment whose text cannot be taken for that of another chain: its name has no
slash, and a literal is neither empty nor like a path variable.  A root has no text. -/
def PathSegment.IsPlain (style : ParamStyle) (segment : PathSegment) : Prop :=
  match segment.kind with
  | .root => True
  | .static =>
      segment.name ≠ "" ∧ '/' ∉ segment.name.toList ∧ ¬ style.LooksVariable segment.name
  | .param => '/' ∉ segment.name.toList

instance : ∀ (style : ParamStyle) (name : String), Decidable (style.LooksVariable name)
  | .colon, name => inferInstanceAs (Decidable (name.toList.head? = some ':'))
  | .braces, name => inferInstanceAs
      (Decidable (name.toList.head? = some '\x7b' ∧ name.toList.getLast? = some '\x7d'))

instance (style : ParamStyle) : ∀ segment : PathSegment, Decidable (segment.IsPlain style)
  | ⟨_, .root⟩ => inferInstanceAs (Decidable True)
  | ⟨name, .static⟩ => inferInstanceAs
      (Decidable (name ≠ "" ∧ '/' ∉ name.toList ∧ ¬ style.LooksVariable name))
  | ⟨name, .param⟩ => inferInstanceAs (Decidable ('/' ∉ name.toList))

namespace PathSegment

variable {style : ParamStyle} {segment one other : PathSegment}

theorem isVisible_iff : segment.isVisible = true ↔ segment.kind ≠ .root := by
  simp [isVisible]

/-- A variable is written so that it looks like one. -/
theorem looksVariable_render (param : segment.kind = .param) :
    style.LooksVariable (segment.render style) := by
  cases style with
  | colon => simp [render, param, ParamStyle.LooksVariable]
  | braces =>
      simp [render, param, ParamStyle.LooksVariable, List.getLast?_cons, List.getLast?_append]

theorem render_of_static (static : segment.kind = .static) :
    segment.render style = segment.name := by
  simp [render, static]

/-- The style of a variable is the same for all names. -/
theorem name_eq_of_render_eq (param : one.kind = .param) (param' : other.kind = .param)
    (same : one.render style = other.render style) : one.name = other.name := by
  cases style with
  | colon => simpa [render, param, param'] using same
  | braces => simpa [render, param, param'] using same

theorem slash_notMem_render (plain : segment.IsPlain style) :
    '/' ∉ (segment.render style).toList := by
  unfold IsPlain at plain
  cases kind : segment.kind with
  | root => simp [render, kind]
  | static =>
      rw [kind] at plain
      rw [render_of_static kind]
      exact plain.2.1
  | param =>
      rw [kind] at plain
      cases style with
      | colon => simpa [render, kind] using plain
      | braces => simpa [render, kind] using plain

/-- Two plain segments with the same text are the same: the text tells a literal from
a variable, and within each kind it gives the name. -/
theorem render_injective (visible : one.isVisible) (plain : one.IsPlain style)
    (visible' : other.isVisible) (plain' : other.IsPlain style)
    (same : one.render style = other.render style) : one = other := by
  obtain ⟨name, kind⟩ := one
  obtain ⟨name', kind'⟩ := other
  rw [isVisible_iff] at visible visible'
  cases kind with
  | root => exact absurd rfl visible
  | static =>
      cases kind' with
      | root => exact absurd rfl visible'
      | static =>
          rw [render_of_static rfl, render_of_static rfl] at same
          cases same
          rfl
      | param =>
          have literal : ¬ style.LooksVariable (render style ⟨name, .static⟩) := plain.2.2
          rw [same] at literal
          exact absurd (looksVariable_render rfl) literal
  | param =>
      cases kind' with
      | root => exact absurd rfl visible'
      | static =>
          have literal : ¬ style.LooksVariable (render style ⟨name', .static⟩) := plain'.2.2
          rw [← same] at literal
          exact absurd (looksVariable_render rfl) literal
      | param =>
          cases name_eq_of_render_eq rfl rfl same
          rfl

/-- No plain segment is written as nothing. -/
theorem render_ne_nil (visible : segment.isVisible) (plain : segment.IsPlain style) :
    (segment.render style).toList ≠ [] := by
  obtain ⟨name, kind⟩ := segment
  cases kind with
  | root => exact absurd rfl (isVisible_iff.mp visible)
  | static =>
      rw [render_of_static rfl]
      intro blank
      exact plain.1 (String.toList_eq_nil_iff.mp blank)
  | param => cases style <;> simp [render]

end PathSegment

/-! ## Chains -/

variable {style : ParamStyle} {one other : List PathSegment}

/-- A chain of which every segment is part of the URL and plain. -/
def IsPlainChain (style : ParamStyle) (segments : List PathSegment) : Prop :=
  ∀ segment ∈ segments, segment.isVisible ∧ segment.IsPlain style

theorem renderSegments_cons {segment : PathSegment} (visible : segment.isVisible)
    (rest : List PathSegment) :
    renderSegments style (segment :: rest) =
      '/' :: ((segment.render style).toList ++ renderSegments style rest) := by
  rw [renderSegments, if_pos visible, List.cons_append]

/-- A root leaves no trace in the text of a chain. -/
theorem renderSegments_cons_of_root {segment : PathSegment} (isRoot : segment.kind = .root)
    (rest : List PathSegment) :
    renderSegments style (segment :: rest) = renderSegments style rest := by
  simp [renderSegments, PathSegment.isVisible, isRoot]

/-- What follows a segment in the text of a chain starts with a slash, if there is
anything. -/
theorem renderSegments_head? (chain : IsPlainChain style one) :
    ∀ letter ∈ (renderSegments style one).head?, letter = '/' := by
  cases one with
  | nil => simp [renderSegments]
  | cons segment rest =>
      have visible := (chain segment List.mem_cons_self).1
      simp [renderSegments_cons visible]

/-- A text is cut at its first slash in one way only. -/
theorem cut_unique {before before' after after' : List Char}
    (whole : '/' ∉ before) (whole' : '/' ∉ before')
    (slash : ∀ letter ∈ after.head?, letter = '/') (slash' : ∀ letter ∈ after'.head?, letter = '/')
    (same : before ++ after = before' ++ after') : before = before' ∧ after = after' := by
  induction before generalizing before' with
  | nil =>
      cases before' with
      | nil => exact ⟨rfl, same⟩
      | cons letter rest =>
          rw [List.nil_append] at same
          have first : letter = '/' := slash letter (by simp [same])
          exact absurd (by simp [first]) whole'
  | cons letter rest ih =>
      cases before' with
      | nil =>
          rw [List.nil_append] at same
          have first : letter = '/' := slash' letter (by simp [← same])
          exact absurd (by simp [first]) whole
      | cons letter' rest' =>
          obtain ⟨first, others⟩ := List.cons_eq_cons.mp same
          have apart : '/' ∉ rest := fun found => whole (List.mem_cons_of_mem _ found)
          have apart' : '/' ∉ rest' := fun found => whole' (List.mem_cons_of_mem _ found)
          obtain ⟨sameRest, sameAfter⟩ := ih apart apart' others
          exact ⟨by rw [first, sameRest], sameAfter⟩

/-- The text of a plain chain determines the chain: up to its second slash it is the
text of the first segment. -/
theorem renderSegments_injective (chain : IsPlainChain style one)
    (chain' : IsPlainChain style other)
    (same : renderSegments style one = renderSegments style other) : one = other := by
  induction one generalizing other with
  | nil =>
      cases other with
      | nil => rfl
      | cons segment' rest' =>
          rw [renderSegments_cons (chain' segment' List.mem_cons_self).1] at same
          cases same
  | cons segment rest ih =>
      obtain ⟨⟨visible, plain⟩, chainRest⟩ := List.forall_mem_cons.mp chain
      cases other with
      | nil =>
          rw [renderSegments_cons visible] at same
          cases same
      | cons segment' rest' =>
          obtain ⟨⟨visible', plain'⟩, chainRest'⟩ := List.forall_mem_cons.mp chain'
          rw [renderSegments_cons visible, renderSegments_cons visible'] at same
          obtain ⟨first, others⟩ := cut_unique
            (PathSegment.slash_notMem_render plain) (PathSegment.slash_notMem_render plain')
            (renderSegments_head? chainRest) (renderSegments_head? chainRest')
            (List.cons_eq_cons.mp same).2
          rw [PathSegment.render_injective visible plain visible' plain'
            (String.toList_injective first), ih chainRest chainRest' others]

/-- The text of a plain chain is not a lone slash, which stands for an empty chain. -/
theorem renderSegments_ne_slash (chain : IsPlainChain style one) :
    renderSegments style one ≠ ['/'] := by
  cases one with
  | nil => simp [renderSegments]
  | cons segment rest =>
      obtain ⟨visible, plain⟩ := chain segment List.mem_cons_self
      rw [renderSegments_cons visible]
      intro lone
      have nothing := (List.append_eq_nil_iff.mp (List.cons_eq_cons.mp lone).2).1
      exact PathSegment.render_ne_nil visible plain nothing

theorem toList_renderPath (style : ParamStyle) (segments : List PathSegment) :
    (renderPath style segments).toList =
      if renderSegments style segments = [] then ['/'] else renderSegments style segments := by
  unfold renderPath
  split
  · next empty => simp [empty]
  · next some => rw [if_neg some, String.toList_ofList]

/-- The URL of a plain chain determines the chain. -/
theorem renderPath_injective (chain : IsPlainChain style one)
    (chain' : IsPlainChain style other) (same : renderPath style one = renderPath style other) :
    one = other := by
  apply renderSegments_injective chain chain'
  have texts := congrArg String.toList same
  rw [toList_renderPath, toList_renderPath] at texts
  split at texts
  · next empty =>
      split at texts
      · next empty' => rw [empty, empty']
      · exact absurd texts.symm (renderSegments_ne_slash chain')
  · split at texts
    · exact absurd texts (renderSegments_ne_slash chain)
    · exact texts

/-! ## Roots, and chains after one another -/

theorem renderSegments_append (style : ParamStyle) (one other : List PathSegment) :
    renderSegments style (one ++ other) =
      renderSegments style one ++ renderSegments style other := by
  induction one with
  | nil => rfl
  | cons segment rest ih =>
      rw [List.cons_append, renderSegments, renderSegments, ih]
      split
      · simp only [List.cons_append, List.append_assoc]
      · rfl

/-- Only the visible segments are written. -/
theorem renderSegments_filter (style : ParamStyle) (segments : List PathSegment) :
    renderSegments style (segments.filter PathSegment.isVisible) =
      renderSegments style segments := by
  induction segments with
  | nil => rfl
  | cons segment rest ih =>
      by_cases visible : segment.isVisible = true
      · rw [List.filter_cons_of_pos visible, renderSegments_cons visible,
          renderSegments_cons visible, ih]
      · rw [List.filter_cons_of_neg visible, ih, renderSegments, if_neg visible]

/-- Roots in a chain leave no trace in its URL. -/
theorem renderPath_filter (style : ParamStyle) (segments : List PathSegment) :
    renderPath style (segments.filter PathSegment.isVisible) = renderPath style segments := by
  rw [renderPath, renderPath, renderSegments_filter]

/-- A chain with a visible segment is written as its segments are. -/
theorem toList_renderPath_of_visible (visible : ∃ segment ∈ one, segment.isVisible) :
    (renderPath style one).toList = renderSegments style one := by
  rw [toList_renderPath, if_neg]
  obtain ⟨segment, member, visible⟩ := visible
  obtain ⟨before, after, rfl⟩ := List.append_of_mem member
  simp [renderSegments_append, renderSegments_cons visible]

/-- The URL of a chain tells the visible segments of the chain and nothing else: plain chains
with the same URL are the same, roots anywhere in a chain leave no trace, and a chain that goes
on has the URL of its first part followed by that of its second. -/
theorem renderPath_tells_chain (style : ParamStyle) :
    (∀ one other, IsPlainChain style one → IsPlainChain style other →
      renderPath style one = renderPath style other → one = other) ∧
    (∀ one other : List PathSegment,
      one.filter PathSegment.isVisible = other.filter PathSegment.isVisible →
      renderPath style one = renderPath style other) ∧
    (∀ one other : List PathSegment, (∃ segment ∈ one, segment.isVisible) →
      (∃ segment ∈ other, segment.isVisible) →
      renderPath style (one ++ other) = renderPath style one ++ renderPath style other) := by
  refine ⟨fun _ _ => renderPath_injective, ?roots, ?after⟩
  case roots =>
    intro one other same
    rw [← renderPath_filter style one, same, renderPath_filter]
  case after =>
    intro one other visible visible'
    have either : ∃ segment ∈ one ++ other, segment.isVisible := by
      obtain ⟨segment, member, visible⟩ := visible
      exact ⟨segment, List.mem_append_left _ member, visible⟩
    apply String.toList_injective
    rw [String.toList_append, toList_renderPath_of_visible either,
      toList_renderPath_of_visible visible, toList_renderPath_of_visible visible',
      renderSegments_append]

/-- The posts of one user. -/
def postsChain : List PathSegment :=
  [⟨"users", .static⟩, ⟨"id", .param⟩, ⟨"posts", .static⟩]

theorem postsChain_isPlain (style : ParamStyle) : IsPlainChain style postsChain := by
  unfold IsPlainChain
  cases style <;> decide

/-- A variable is not taken for a literal of its name, a root in front of a chain is not seen,
and a chain after another one is written after it. -/
theorem renderPath_tells_chain_posts :
    renderPath .braces [⟨"users", .static⟩, ⟨"id", .static⟩, ⟨"posts", .static⟩] ≠
      renderPath .braces postsChain ∧
    renderPath .braces (⟨"", .root⟩ :: postsChain) = renderPath .braces postsChain ∧
    renderPath .colon (postsChain ++ postsChain) =
      renderPath .colon postsChain ++ renderPath .colon postsChain := by
  obtain ⟨injective, roots, _⟩ := renderPath_tells_chain .braces
  have visible : ∃ segment ∈ postsChain, segment.isVisible := by decide
  refine ⟨?_, roots _ _ rfl, (renderPath_tells_chain .colon).2.2 _ _ visible visible⟩
  intro same
  have literals : IsPlainChain .braces
      [⟨"users", .static⟩, ⟨"id", .static⟩, ⟨"posts", .static⟩] := by
    unfold IsPlainChain
    decide
  exact absurd (injective _ _ literals (postsChain_isPlain .braces) same) (by decide)

end RouteAtlas
