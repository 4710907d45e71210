/-
Module: RouteAtlas.Error
Purpose: Every reason for which a route tree, a document or an artifact is
  refused, and the wording of each.
Main exports: Error, Error.messageWith, Error.rootCause, Error.category
-/
import RouteAtlas.Json.Fault
import RouteAtlas.Text.Shown

namespace RouteAtlas

/-- Why an operation on files failed. -/
inductive FileFault where
  | notFound
  | alreadyExists
  | isDirectory
  | notDirectory
  | invalidText
  /-- The root and the dots cannot be replaced by a file. -/
  | busy
  | other (text : String)
deriving Repr, DecidableEq

/-- Why a template cannot be used. -/
inductive TemplateFault where
  | notFound (name : String)
  | unparsed (name reason : String)
  | unrendered (reason : String)
  | unread (text : String)
deriving Repr, DecidableEq

/-- Why something was refused.  `failed` and `signature` wrap another error
with what was being done; every other constructor is a cause. -/
inductive Error where
  | wrongValue (target got want : String)
  | wrongType (got want : String)
  | notAllowed (target got allowed : String)
  | wrongFormat (got want : String)
  | anonymousHandler (got : String)
  | singlePointerRequired (got : String)
  | floatNotAllowed (got : String)
  | signature (got : String) (source : Error)
  | failed (action : String) (item wanted : Option String) (source : Error)
  | invalidParam (got want : String)
  | invalidFunctionName (got : String)
  | missingSymbol (got : String)
  | unreachable (place : String)
  | template (fault : TemplateFault)
  | json (fault : Json.Fault)
  | yaml (reason : String)
  | file (fault : FileFault)
  | config (text : String)
deriving Repr, DecidableEq

/-- The broad class of an error. -/
inductive Category where
  /-- A route tree, a type description or a tag is malformed. -/
  | inputShape
  /-- A defect of this library. -/
  | internal
  /-- A template, a document, a configuration or a file is at fault. -/
  | rendering
deriving Repr, DecidableEq

namespace FileFault

/-- The wording of the operating system. -/
def message : FileFault → String
  | .notFound => "No such file or directory (os error 2)"
  | .alreadyExists => "File exists (os error 17)"
  | .isDirectory => "Is a directory (os error 21)"
  | .notDirectory => "Not a directory (os error 20)"
  | .invalidText => "stream did not contain valid UTF-8"
  | .busy => "Device or resource busy (os error 16)"
  | .other text => text

end FileFault

namespace Error

/-- The part of an error that another component words: a reader, a template
engine or the operating system. -/
inductive Detail where
  | template (reason : String)
  | json (fault : Json.Fault)
  | yaml (reason : String)
  | file (fault : FileFault)

/-- The wording of a detail. -/
def Detail.text : Detail → String
  | .template reason => reason
  | .json fault => fault.message
  | .yaml reason => reason
  | .file fault => fault.message

/-- The signature that every handler must have. -/
def expectedSignature : String :=
  "fn(context, *record) -> (*record, error)"

/-- The wording of a template fault, given how details are worded. -/
def templateMessage (word : Detail → String) : TemplateFault → String
  | .notFound name => "Template not found: " ++ name
  | .unparsed name reason =>
      "Template parse error for " ++ name ++ ": " ++ word (.template reason)
  | .unrendered reason =>
      "Template render error: " ++ word (.template reason)
  | .unread text => "IO error: " ++ text

/-- An optional part of a message: a comma, a label and a shown text. -/
def clause (label : String) : Option String → String
  | none => ""
  | some text => ", " ++ label ++ Text.shown text

/-- The wording of an error, given how details are worded. -/
def messageWith (word : Detail → String) : Error → String
  | .wrongValue target got want =>
      "incorrect " ++ Text.shown target ++ ": \"" ++ got ++
        "\", required: \"" ++ want ++ "\""
  | .wrongType got want =>
      "incorrect type: " ++ Text.shown got ++ ", required: " ++ Text.shown want
  | .notAllowed target got allowed =>
      "invalid " ++ Text.shown target ++ ": \"" ++ got ++
        "\", allowed values are: " ++ Text.shown allowed
  | .wrongFormat got want =>
      "accepted characters: " ++ Text.shown want ++ ", got: " ++ Text.shown got
  | .anonymousHandler got =>
      "function must not be anonymous: " ++ Text.shown got
  | .singlePointerRequired got =>
      "single pointer required, got: " ++ Text.shown got
  | .floatNotAllowed got => "floats aren't allowed, got: " ++ Text.shown got
  | .signature got source =>
      "handlers must have the following signature:\n    expected: " ++
        expectedSignature ++ "\n         got: " ++ got ++ "\n       error: " ++
        source.messageWith word
  | .failed action item wanted source =>
      "failed " ++ Text.shown action ++ clause "on " item ++
        clause "wanted: " wanted ++ ", err: (" ++ source.messageWith word ++ ")"
  | .invalidParam got want =>
      "fatal error: invalid parameter passed: " ++ got ++ ", wanted: " ++ want
  | .invalidFunctionName got =>
      "fatal error: function name is invalid: " ++ Text.shown got
  | .missingSymbol got =>
      "fatal error: no symbol allocated for " ++ Text.shown got
  | .unreachable place => "fatal error: unreachable: " ++ place
  | .template fault => "Template error: " ++ templateMessage word fault
  | .json fault => "JSON error: " ++ word (.json fault)
  | .yaml reason => "YAML error: " ++ word (.yaml reason)
  | .file fault => "IO error: " ++ word (.file fault)
  | .config text => "Config error: " ++ text

/-- The wording of an error. -/
def message (error : Error) : String :=
  error.messageWith Detail.text

/-- The cause of an error, seen through all wrappers. -/
def rootCause : Error → Error
  | .signature _ source => source.rootCause
  | .failed _ _ _ source => source.rootCause
  | cause => cause

/-- The class of an error: that of its cause. -/
def category : Error → Category
  | .signature _ source => source.category
  | .failed _ _ _ source => source.category
  | .wrongValue .. | .wrongType .. | .notAllowed .. | .wrongFormat ..
  | .anonymousHandler _ | .singlePointerRequired _ | .floatNotAllowed _ =>
      .inputShape
  | .invalidParam .. | .invalidFunctionName _ | .missingSymbol _
  | .unreachable _ => .internal
  | .template _ | .json _ | .yaml _ | .file _ | .config _ => .rendering

/-- Whether an error reports a handler with a wrong signature, perhaps wrapped
with what was being done. -/
def isSignatureMismatch : Error → Bool
  | .signature .. => true
  | .failed _ _ _ source => source.isSignatureMismatch
  | _ => false

/-- Wrap an error with the action that failed. -/
def during (action : String) (source : Error) : Error :=
  .failed action none none source

/-- Wrap an error with the action that failed and the item it failed on. -/
def duringOn (action item : String) (source : Error) : Error :=
  .failed action (some item) none source

/-- Wrap an error with the action, the item and the shape that was wanted. -/
def duringOnWanting (action item wanted : String) (source : Error) : Error :=
  .failed action (some item) (some wanted) source

theorem category_rootCause (error : Error) :
    error.rootCause.category = error.category := by
  induction error with
  | signature got source ih => simpa [rootCause, category] using ih
  | failed action item wanted source ih => simpa [rootCause, category] using ih
  | _ => rfl

end Error

end RouteAtlas
