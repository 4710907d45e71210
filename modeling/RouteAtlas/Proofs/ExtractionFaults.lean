/-
Module: RouteAtlas.Proofs.ExtractionFaults
Purpose: Why trees of routes are refused: always for a cause that lies in what was
  registered, and for a signature exactly if that is asked in vain first.
Main exports: Error.IsInputCause, Error.IsSignatureCause, Error.IsUnsigned,
  Route.extract_fault
-/
import RouteAtlas.Proofs.ExtractionDemands
import RouteAtlas.Proofs.ExtractionMirror
import RouteAtlas.Proofs.SchemaChecks

namespace RouteAtlas

open Fallible

variable {keys : TagKeys}

/-! ## Causes -/

namespace Error

/-- The causes for which a tree of routes is refused: something in it is malformed, or a
function has a name that is none. -/
def IsInputCause : Error → Prop
  | .wrongValue .. | .wrongType .. | .notAllowed .. | .wrongFormat .. | .anonymousHandler _
  | .singlePointerRequired _ | .floatNotAllowed _ | .invalidFunctionName _ => True
  | _ => False

/-- The causes for which a signature is refused. -/
def IsSignatureCause : Error → Prop
  | .wrongValue .. | .wrongType .. | .singlePointerRequired _ => True
  | _ => False

/-- An error that has one of the causes for which trees are refused and does not report
a signature. -/
structure IsUnsigned (error : Error) : Prop where
  cause : error.rootCause.IsInputCause
  unsigned : error.isSignatureMismatch = false

variable {error : Error}

theorem IsUnsigned.failed {action : String} {item wanted : Option String}
    (unsigned : error.IsUnsigned) : (Error.failed action item wanted error).IsUnsigned :=
  ⟨unsigned.cause, unsigned.unsigned⟩

theorem IsSignatureCause.isInputCause (cause : error.IsSignatureCause) : error.IsInputCause := by
  cases error <;> trivial

/-- Of the causes for which trees are refused, only the name of a function is held against
this library. -/
theorem category_of_isInputCause (cause : error.rootCause.IsInputCause) :
    (error.category = .internal ↔ ∃ got, error.rootCause = .invalidFunctionName got) ∧
      (error.category = .inputShape ↔ ¬ ∃ got, error.rootCause = .invalidFunctionName got) := by
  rw [← category_rootCause]
  cases rooted : error.rootCause with
  | invalidFunctionName got => simp [category]
  | wrongValue | wrongType | notAllowed | wrongFormat | anonymousHandler | singlePointerRequired
  | floatNotAllowed => simp [category]
  | _ =>
      rw [rooted] at cause
      exact cause.elim

theorem IsSignatureCause.rootCause_eq (cause : error.IsSignatureCause) :
    error.rootCause = error := by
  cases error <;> first | rfl | exact cause.elim

end Error

theorem HandlerRef.parse_faults (qualified : String) :
    FaultsIn Error.IsUnsigned (HandlerRef.parse qualified) := by
  unfold parse parse.malformed
  split
  · exact .error ⟨trivial, rfl⟩
  · split
    · exact .error ⟨trivial, rfl⟩
    · split
      · exact .error ⟨trivial, rfl⟩
      · exact .ok _

theorem FunctionId.resolve_faults (identity : FunctionId) :
    FaultsIn Error.IsUnsigned identity.resolve := by
  cases identity with
  | declared ref =>
      rw [resolve]
      split
      · exact .error ⟨trivial, rfl⟩
      · exact .ok ref
  | qualified name => exact (HandlerRef.parse_faults name).mapError fun _ => .failed

theorem TypeDesc.recordPointee_faults (type : TypeDesc) :
    FaultsIn Error.IsSignatureCause type.recordPointee := by
  unfold recordPointee
  split
  · split
    · exact .error trivial
    · exact .ok _
    · exact .error trivial
  · exact .error trivial

theorem expectTwo_faults (target : String) (types : List TypeDesc) :
    FaultsIn Error.IsSignatureCause (expectTwo target types) := by
  unfold expectTwo
  split
  · exact .ok _
  · exact .error trivial

theorem Function.records_faults (function : Function) :
    FaultsIn Error.IsSignatureCause function.records := by
  have context (type : TypeDesc) : FaultsIn Error.IsSignatureCause type.expectContext := by
    unfold TypeDesc.expectContext
    split
    · exact .ok ()
    · exact .error trivial
  have failure (type : TypeDesc) : FaultsIn Error.IsSignatureCause type.expectFailure := by
    unfold TypeDesc.expectFailure
    split
    · exact .ok ()
    · exact .error trivial
  refine (expectTwo_faults _ _).bind fun inputs => (expectTwo_faults _ _).bind fun outputs => ?_
  refine (context inputs.1).bind fun _ => (inputs.2.recordPointee_faults).bind fun _ => ?_
  exact (outputs.1.recordPointee_faults).bind fun _ => (failure outputs.2).bind fun _ => .ok _

/-! ### Schemas -/

theorem TypeDesc.expectFieldKind_faults (type : TypeDesc) :
    FaultsIn Error.IsUnsigned type.expectFieldKind := by
  unfold expectFieldKind
  split <;> first | exact .ok type | exact .error ⟨trivial, rfl⟩

theorem TypeDesc.fieldType_faults (type : TypeDesc) :
    FaultsIn Error.IsUnsigned type.fieldType := by
  unfold fieldType
  split
  · split
    · exact .error ⟨trivial, rfl⟩
    · exact expectFieldKind_faults _
  · exact expectFieldKind_faults type

theorem Field.keyKind_faults (key : TypeDesc) : FaultsIn Error.IsUnsigned (Field.keyKind key) := by
  unfold Field.keyKind
  split
  · exact .ok _
  · split
    · exact .ok _
    · exact .error ⟨trivial, rfl⟩
  · exact .error ⟨trivial, rfl⟩

namespace Serialization

theorem checkName_faults (name : String) : FaultsIn Error.IsUnsigned (checkName name) := by
  unfold checkName
  split
  · exact .ok ()
  · exact .error ⟨trivial, rfl⟩

theorem explicitRole_faults (token : String) : FaultsIn Error.IsUnsigned (explicitRole token) := by
  unfold explicitRole
  split
  · exact .ok _
  · exact .error ⟨trivial, rfl⟩

theorem ofRoleTag_faults (value : String) : FaultsIn Error.IsUnsigned (ofRoleTag value) := by
  unfold ofRoleTag
  split
  · exact (checkName_faults _).bind fun _ => (explicitRole_faults _).bind fun _ => .ok _
  · exact .error ⟨trivial, rfl⟩

theorem ofNameTag_faults (value : Option String) : FaultsIn Error.IsUnsigned (ofNameTag value) := by
  unfold ofNameTag
  split
  · exact .error ⟨trivial, rfl⟩
  · exact (checkName_faults _).bind fun _ => .ok _

theorem ofTags_faults (keys : TagKeys) (tags : Tags) :
    FaultsIn Error.IsUnsigned (ofTags keys tags) := by
  unfold ofTags
  split
  · exact (ofRoleTag_faults _).mapError fun _ => .failed
  · exact (ofNameTag_faults _).mapError fun _ => .failed

end Serialization

theorem Field.ofTags_faults (keys : TagKeys) (member : Member) :
    FaultsIn Error.IsUnsigned (Field.ofTags keys member) := by
  unfold Field.ofTags
  split
  · next error refused =>
      have unsigned := Serialization.ofTags_faults keys member.tags error refused
      exact .error unsigned.failed.failed
  · exact .ok _

theorem TypeDesc.Check.fault_unsigned {check : TypeDesc.Check} {error : Error}
    (refused : check.fault? keys = some error) : error.IsUnsigned := by
  induction check generalizing error with
  | kind type => exact type.fieldType_faults error (fault?_eq_some_iff.mp refused)
  | key type => exact Field.keyKind_faults type error (fault?_eq_some_iff.mp refused)
  | tags member => exact Field.ofTags_faults keys member error (fault?_eq_some_iff.mp refused)
  | within name check ih =>
      obtain ⟨inner, refusedInside, rfl⟩ := Option.map_eq_some_iff.mp refused
      exact (ih refusedInside).failed

theorem Function.records_areRecords {function : Function} {request response : TypeDesc}
    (known : function.records = .ok (request, response)) :
    (∃ members, request.shape = .record members) ∧
      ∃ members, response.shape = .record members := by
  obtain ⟨_, _, _, _, _, _, _, ⟨_, ofRequest⟩, ⟨_, ofResponse⟩, _⟩ :=
    Function.records_eq_ok_iff.mp known
  exact ⟨ofRequest, ofResponse⟩

/-- A record is not refused for being something else. -/
theorem Data.ofType_faults {type : TypeDesc} {members : List Member}
    (isRecord : type.shape = .record members) :
    FaultsIn Error.IsUnsigned (Data.ofType keys type) := by
  obtain ⟨name, module, shape⟩ := type
  cases isRecord
  intro error refused
  have first := Data.ofType_faultsFirst keys name module members
  obtain ⟨_, check, _, _, fails, _⟩ := first.eq_error_iff.mp refused
  exact TypeDesc.Check.fault_unsigned fails

/-! ## Refused trees -/

variable {error : Error}

theorem Function.middlewareFault_unsigned {function : Function}
    (refused : function.middlewareFault? = some error) : error.IsUnsigned := by
  obtain ⟨inner, failed, rfl⟩ := fault?_mapError_eq_some_iff.mp refused
  exact (function.identity.resolve_faults inner failed).failed

namespace EndpointDef.Demand

variable {demand : Demand}

theorem fault_of_isSignature (signature : demand.IsSignature)
    (refused : demand.fault? keys = some error) :
    error.isSignatureMismatch = true ∧ error.rootCause.IsSignatureCause := by
  cases demand with
  | signature function =>
      obtain ⟨inner, failed, rfl⟩ := fault?_mapError_eq_some_iff.mp refused
      have cause := function.records_faults inner failed
      refine ⟨rfl, ?_⟩
      rwa [Error.rootCause, cause.rootCause_eq]
  | _ => exact signature.elim

/-- What is refused for anything but its signature is refused as input.  Schemas are asked
for only of the records that the signature names, so none is refused for not being a
record. -/
theorem fault_unsigned (other : ¬ demand.IsSignature)
    (refused : demand.fault? keys = some error) : error.IsUnsigned := by
  cases demand with
  | handler function =>
      obtain ⟨inner, failed, rfl⟩ := fault?_mapError_eq_some_iff.mp refused
      exact (function.identity.resolve_faults inner failed).failed
  | signature function => exact absurd trivial other
  | request function =>
      rw [fault?] at refused
      split at refused
      · cases refused
      · next taken _ known =>
          obtain ⟨inner, failed, rfl⟩ := fault?_mapError_eq_some_iff.mp refused
          obtain ⟨⟨_, isRecord⟩, _⟩ := Function.records_areRecords known
          exact (Data.ofType_faults isRecord inner failed).failed
  | response function =>
      rw [fault?] at refused
      split at refused
      · cases refused
      · next given known =>
          obtain ⟨inner, failed, rfl⟩ := fault?_mapError_eq_some_iff.mp refused
          obtain ⟨_, _, isRecord⟩ := Function.records_areRecords known
          exact (Data.ofType_faults isRecord inner failed).failed
  | middleware function =>
      obtain ⟨inner, failed, rfl⟩ := Option.map_eq_some_iff.mp refused
      exact (Function.middlewareFault_unsigned failed).failed

end EndpointDef.Demand

namespace Route

namespace Demand

variable {demand : Demand}

theorem fault_of_isSignature (signature : demand.IsSignature)
    (refused : demand.fault? keys = some error) :
    error.isSignatureMismatch = true ∧ error.rootCause.IsSignatureCause := by
  cases demand with
  | endpoint method path inner =>
      obtain ⟨below, failed, rfl⟩ := Option.map_eq_some_iff.mp refused
      have inside := inner.fault_of_isSignature signature failed
      exact ⟨inside.1, inside.2⟩
  | _ => exact signature.elim

theorem fault_unsigned (other : ¬ demand.IsSignature)
    (refused : demand.fault? keys = some error) : error.IsUnsigned := by
  cases demand with
  | top kind =>
      rw [fault?] at refused
      split at refused
      · cases refused
      · cases refused
        exact ⟨trivial, rfl⟩
  | nested parent kind =>
      rw [fault?] at refused
      split at refused
      · cases refused
        exact ⟨trivial, rfl⟩
      · cases refused
  | endpoint method path inner =>
      obtain ⟨below, failed, rfl⟩ := Option.map_eq_some_iff.mp refused
      exact (inner.fault_unsigned other failed).failed
  | middleware function =>
      obtain ⟨below, failed, rfl⟩ := Option.map_eq_some_iff.mp refused
      exact (Function.middlewareFault_unsigned failed).failed

end Demand

/-- Every refused tree of routes is refused for a cause that lies in what was registered.
The error is internal exactly when a function has a name that is none, and otherwise it
is about the shape of the input.  It is that of the first thing that is asked in vain, and
it reports a signature exactly when this is the signature of a handler. -/
theorem extract_fault {route : Route} (refused : route.extract keys = .error error) :
    error.rootCause.IsInputCause ∧
      (error.category = .internal ↔ ∃ got, error.rootCause = .invalidFunctionName got) ∧
      (error.category = .inputShape ↔ ¬ ∃ got, error.rootCause = .invalidFunctionName got) ∧
      ∃ before demand after, route.demands = before ++ demand :: after ∧
        demand.fault? keys = some error ∧
        (∀ earlier ∈ before, earlier.fault? keys = none) ∧
        (error.isSignatureMismatch = true ↔ demand.IsSignature) ∧
        (error.isSignatureMismatch = true → error.rootCause.IsSignatureCause) := by
  obtain ⟨before, demand, after, split, fails, earlier⟩ :=
    (extract_faultsFirst route).eq_error_iff.mp refused
  by_cases signature : demand.IsSignature
  · obtain ⟨mismatch, cause⟩ := demand.fault_of_isSignature signature fails
    obtain ⟨internal, inputShape⟩ := Error.category_of_isInputCause cause.isInputCause
    exact ⟨cause.isInputCause, internal, inputShape, before, demand, after, split, fails, earlier,
      ⟨fun _ => signature, fun _ => mismatch⟩, fun _ => cause⟩
  · obtain ⟨cause, unsigned⟩ := demand.fault_unsigned signature fails
    obtain ⟨internal, inputShape⟩ := Error.category_of_isInputCause cause
    have matched : ¬ error.isSignatureMismatch = true := by simp [unsigned]
    exact ⟨cause, internal, inputShape, before, demand, after, split, fails, earlier,
      ⟨fun mismatch => absurd mismatch matched, fun named => absurd named signature⟩,
      fun mismatch => absurd mismatch matched⟩

end Route

/-! ## A handler without an input -/

namespace Users

/-- A function of the service that takes no request. -/
def clock : Function where
  identity := .qualified "example.com/users.Now"
  inputs := [.context]
  outputs := [.pointer (.emptyRecord "Reply" "example.com/users"), .failure]

/-- Routes with a handler of another signature than handlers have, and after it a
middleware function that cannot be referred to. -/
def clockwork : Route :=
  Route.root.addChild <|
    (Route.vertex "clock" .static).bindEndpoint .get (.plain clock "")
      |>.useMiddleware (.middleware (.qualified "gate"))

/-- What is reported of these routes. -/
def clockFault : Error :=
  .duringOn "parse endpoint" "GET /clock" <|
    .signature clock.signature (.wrongValue "parameter number" "1" "2")

theorem clockwork_refused : clockwork.extract {} = .error clockFault := rfl

end Users

theorem Route.extract_fault_clockwork :
    Users.clockwork.extract {} = .error Users.clockFault ∧
      Users.clockFault.rootCause.IsSignatureCause ∧ Users.clockFault.category = .inputShape ∧
      ∃ before demand after, Users.clockwork.demands = before ++ demand :: after ∧
        demand.fault? {} = some Users.clockFault ∧
        (∀ earlier ∈ before, earlier.fault? {} = none) ∧ demand.IsSignature := by
  obtain ⟨_, _, inputShape, before, demand, after, split, fails, earlier, signature, cause⟩ :=
    Route.extract_fault Users.clockwork_refused
  exact ⟨Users.clockwork_refused, cause rfl, inputShape.mpr nofun, before, demand, after, split,
    fails, earlier, signature.mp rfl⟩

end RouteAtlas
