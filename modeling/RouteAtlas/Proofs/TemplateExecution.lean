/-
Module: RouteAtlas.Proofs.TemplateExecution
Purpose: What statements write, put together from what their parts write.
Main exports: Template.Stmt.Prints, Template.Stmt.Writes, Template.Stmt.Prints.each,
  Engine.render_of_find
-/
import RouteAtlas.Proofs.Fallible
import RouteAtlas.Template.Engine

namespace RouteAtlas

namespace Template

/-! ## Expressions -/

namespace Expr

open Fallible (bind_eq_ok)

variable {scope : Scope} {expr : Expr} {name target : String} {value part result : Json}

theorem defined_eq_ok {found : Value} : defined found = .ok value ↔ found = some value := by
  cases found <;> simp [defined]

/-- The value of an expression is there when the expression has one. -/
theorem force_eq_ok : expr.force scope = .ok value ↔ expr.eval scope = .ok (some value) := by
  rw [force, bind_eq_ok]
  simp only [defined_eq_ok, exists_eq_right]

theorem force_variable (known : scope.find name = some value) :
    (Expr.variable name).force scope = .ok value := by
  rw [force_eq_ok, eval, known]

theorem force_attribute (known : scope.find target = some value)
    (member : attributeOf name value = some part) :
    (Expr.attribute (.variable target) name).force scope = .ok part := by
  have forced := force_eq_ok.mp (force_variable known)
  rw [force_eq_ok, eval, bind_eq_ok]
  refine ⟨_, forced, ?_⟩
  rw [bind_eq_ok]
  exact ⟨value, rfl, congrArg Except.ok member⟩

theorem force_negation (forced : expr.force scope = .ok value) :
    (Expr.negation expr).force scope = .ok (.bool (!isTrue value)) := by
  rw [force_eq_ok] at forced ⊢
  rw [eval, forced]
  rfl

theorem force_filter {arguments : List Expr} {values : List Json}
    (forced : expr.force scope = .ok value)
    (given : evalAll scope arguments = .ok values)
    (applied : applyFilter name value values = .ok result) :
    (Expr.filter name expr arguments).force scope = .ok result := by
  rw [force_eq_ok] at forced ⊢
  rw [eval, bind_eq_ok]
  refine ⟨_, forced, bind_eq_ok.mpr ⟨value, rfl, bind_eq_ok.mpr ⟨values, given, ?_⟩⟩⟩
  exact bind_eq_ok.mpr ⟨result, applied, rfl⟩

theorem force_quote {text : String} (forced : expr.force scope = .ok (.string text)) :
    (Expr.filter "quote" expr []).force scope = .ok (.string (quote text)) :=
  force_filter forced rfl rfl

theorem force_pointer {isPointer : Bool} (forced : expr.force scope = .ok (.bool isPointer)) :
    (Expr.filter "pointer" expr []).force scope = .ok (.string (pointer isPointer)) :=
  force_filter forced rfl rfl

theorem force_join {separator : String} {texts : List String}
    (forced : expr.force scope = .ok (.strings texts)) :
    (Expr.filter "join" expr [.literal (.string separator)]).force scope =
      .ok (.string (join separator texts)) := by
  have given : evalAll scope [.literal (.string separator)] = .ok [.string separator] := rfl
  have applied : applyFilter "join" (.strings texts) [.string separator] =
      .ok (.string (join separator ((texts.map Json.string).map print))) := rfl
  have printed : texts.map (print ∘ Json.string) = texts := List.map_id texts
  rw [List.map_map, printed] at applied
  exact force_filter forced given applied

end Expr

namespace Stmt

/-- A statement does not fail, adds a text to what was written before, whatever that
was, and leaves the scope as it is. -/
def Prints (stmt : Stmt) (scope : Scope) (text : String) : Prop :=
  ∀ written, run stmt scope written = (written ++ text, .ok scope)

/-- Statements one after another do the same. -/
def Writes (stmts : List Stmt) (scope : Scope) (text : String) : Prop :=
  ∀ written, runAll stmts scope written = (written ++ text, .ok scope)

variable {scope : Scope}

namespace Writes

theorem nil : Writes [] scope "" := by
  intro written
  rw [runAll, String.append_empty]

theorem cons {stmt : Stmt} {stmts : List Stmt} {text others : String}
    (first : Prints stmt scope text) (rest : Writes stmts scope others) :
    Writes (stmt :: stmts) scope (text ++ others) := by
  intro written
  rw [runAll, first written]
  change runAll stmts scope (written ++ text) = _
  rw [rest, String.append_assoc]

theorem congr {stmts : List Stmt} {text other : String} (writes : Writes stmts scope text)
    (same : text = other) : Writes stmts scope other :=
  same ▸ writes

end Writes

/-! ## Statements -/

namespace Prints

theorem text (piece : String) : Prints (.text piece) scope piece := by
  intro written
  rw [run]

theorem emit {value : Expr} {text : String} (forced : value.force scope = .ok (.string text)) :
    Prints (.emit value) scope text := by
  intro written
  rw [run, forced]
  rfl

/-- A choice without an alternative writes nothing when what it asks about is missing. -/
theorem choose {test : Expr} {value : Json} {yes : List Stmt} {text : String} {missing : Prop}
    [Decidable missing] (forced : test.force scope = .ok value)
    (truth : isTrue value = true ↔ ¬ missing) (branch : Writes yes scope text) :
    Prints (.choose test yes []) scope (if missing then "" else text) := by
  intro written
  rw [run, forced]
  change (if isTrue value then _ else _) = _
  by_cases none : missing
  · rw [if_pos none, if_neg (fun isTrue => truth.mp isTrue none)]
    exact Writes.nil written
  · rw [if_neg none, if_pos (truth.mpr none)]
    exact branch written

end Prints

/-! ## Repetitions -/

section Repetition

variable {α : Type} {toJson : α → Json} {line : α → String} {name : String}
  {body : List Stmt}

/-- Rounds write the texts of their items.  Earlier ones leave names behind, which the
name of the item hides. -/
theorem eachRound_writes (info : Nat → Json)
    (lines : ∀ (view : α) (round : Scope), round.find name = some (toJson view) →
      Writes body round (line view)) :
    ∀ (views : List α) (index : Nat) (scope : Scope) (written : String), ∃ inner,
      eachRound (fun index item scope written =>
          runAll body (scope.beginRound name item (info index)) written)
        index (views.map toJson) scope written =
      (written ++ String.join (views.map line), .ok { scope with inner }) := by
  intro views
  induction views with
  | nil =>
      intro index scope written
      exact ⟨scope.inner, by simp [eachRound, String.join]⟩
  | cons view views ih =>
      intro index scope written
      have first := lines view (scope.beginRound name (toJson view) (info index)) <| by
        simp [Scope.find, Scope.beginRound, Frame.find?]
      obtain ⟨inner, others⟩ := ih (index + 1) (scope.beginRound name (toJson view) (info index))
        (written ++ line view)
      refine ⟨inner, ?_⟩
      rw [List.map_cons, List.map_cons, eachRound, first written]
      dsimp only
      rw [others, String.join_cons, String.append_assoc]
      rfl

/-- A repetition writes a text for every item if its body does so wherever the name
stands for the item. -/
theorem Prints.each {items : Expr} {views : List α}
    (listed : items.force scope = .ok (.array (views.map toJson)))
    (lines : ∀ (view : α) (round : Scope), round.find name = some (toJson view) →
      Writes body round (line view)) :
    Prints (.each name items body []) scope (String.join (views.map line)) := by
  intro written
  rw [run, listed]
  cases views with
  | nil =>
      change runAll [] scope written = _
      rw [runAll, List.map_nil, String.join_nil, String.append_empty]
  | cons view views =>
      obtain ⟨inner, rounds⟩ := eachRound_writes
        (loopInfo · ((view :: views).map toJson).length) lines (view :: views) 0 scope.enter
        written
      change leaveLevel (eachRound _ 0 _ scope.enter written) = _
      rw [rounds]
      rfl

end Repetition

end Stmt

end Template

/-! ## Templates -/

namespace Engine

variable {engine : Engine} {name text : String} {context : Json} {stmts : List Template.Stmt}

/-- A template that writes a text is rendered to it. -/
theorem render_of_find (found : engine.find name = .ok stmts)
    (writes : Template.Stmt.Writes stmts (.start context) text) :
    engine.render name context = .ok text := by
  have whole := writes ""
  rw [String.empty_append] at whole
  rw [render, renderTo, found]
  simp only [whole]

end Engine

end RouteAtlas
