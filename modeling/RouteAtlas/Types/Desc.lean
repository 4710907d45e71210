/-
Module: RouteAtlas.Types.Desc
Purpose: Descriptions of the types that handlers take and return.
Main exports: TypeDesc, Shape, Member, TypeDesc.display
-/
import RouteAtlas.Field
import RouteAtlas.Text.Split
import RouteAtlas.Types.Tags

namespace RouteAtlas

mutual

/-- A type: its declared name, the path of the module that declares it, empty
for a built-in type, and what it is made of. -/
inductive TypeDesc where
  | mk (name module : String) (shape : Shape)

/-- What a type is made of. -/
inductive Shape where
  | bool
  | string
  | int (type : IntType)
  | float
  | char
  | unit
  | pointer (target : TypeDesc)
  | slice (element : TypeDesc)
  | array (element : TypeDesc) (length : Nat)
  | map (key value : TypeDesc)
  | record (members : List Member)
  /-- The context of a request, the first input of a handler. -/
  | context
  /-- A failure, the last output of a handler. -/
  | error

/-- One member of a record.  The members of an embedded record belong to the
record that embeds it. -/
inductive Member where
  | mk (name : String) (type : TypeDesc) (tags : Tags) (embedded : Bool)

end

namespace TypeDesc

/-- The declared name. -/
def name : TypeDesc → String
  | mk name _ _ => name

/-- The path of the declaring module. -/
def module : TypeDesc → String
  | mk _ module _ => module

/-- What the type is made of. -/
def shape : TypeDesc → Shape
  | mk _ _ shape => shape

end TypeDesc

instance : Inhabited TypeDesc := ⟨.mk "" "" .unit⟩

namespace Member

/-- The declared name. -/
def name : Member → String
  | mk name _ _ _ => name

/-- The type of a member. -/
def type : Member → TypeDesc
  | mk _ type _ _ => type

/-- The tags of a member. -/
def tags : Member → Tags
  | mk _ _ tags _ => tags

/-- Whether a member is embedded. -/
def embedded : Member → Bool
  | mk _ _ _ embedded => embedded

end Member

namespace TypeDesc

/-- A type that is built into the language. -/
def builtin (name : String) (shape : Shape) : TypeDesc :=
  mk name "" shape

/-- An integer type. -/
def int (type : IntType) : TypeDesc :=
  builtin type.name (.int type)

/-- A pointer. -/
def pointer (target : TypeDesc) : TypeDesc :=
  builtin "" (.pointer target)

/-- A sequence of any length. -/
def slice (element : TypeDesc) : TypeDesc :=
  builtin "" (.slice element)

/-- A sequence of fixed length. -/
def array (element : TypeDesc) (length : Nat) : TypeDesc :=
  builtin "" (.array element length)

/-- A map. -/
def map (key value : TypeDesc) : TypeDesc :=
  builtin "" (.map key value)

/-- The context of a request. -/
def context : TypeDesc :=
  builtin "context" .context

/-- A failure. -/
def failure : TypeDesc :=
  builtin "error" .error

/-- A record without members. -/
def emptyRecord (name module : String) : TypeDesc :=
  mk name module (.record [])

/-- Whether a type is a record. -/
def isRecord (type : TypeDesc) : Bool :=
  match type.shape with
  | .record _ => true
  | _ => false

/-- The type with one more member at the end; only a record takes members. -/
def addMember (member : Member) : TypeDesc → TypeDesc
  | mk name module (.record members) =>
      mk name module (.record (members ++ [member]))
  | other => other

/-- The name of what a type points to, through any number of pointers. -/
def pointeeName : TypeDesc → String
  | mk _ _ (.pointer target) => target.pointeeName
  | mk name _ _ => name

/-- The type with one more member, which is embedded under the name of its
type. -/
def embed (member type : TypeDesc) : TypeDesc :=
  type.addMember (.mk member.pointeeName member Tags.empty true)

/-- The last segment of a module path. -/
def package (module : String) : String :=
  match Text.breakAtLast '/' module.toList with
  | none => module
  | some (_, last) => String.ofList last

/-- How messages and signatures write a type. -/
def display : TypeDesc → String
  | mk _ _ (.pointer target) => "*" ++ target.display
  | mk _ _ (.slice element) => "[]" ++ element.display
  | mk _ _ (.array element length) =>
      "[" ++ toString length ++ "]" ++ element.display
  | mk _ _ (.map key value) => "map[" ++ key.display ++ "]" ++ value.display
  | mk name module (.record _) =>
      if module = "" then name else package module ++ "." ++ name
  | mk name _ _ => name

end TypeDesc

end RouteAtlas
