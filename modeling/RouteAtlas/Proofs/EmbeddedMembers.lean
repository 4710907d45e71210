/-
Module: RouteAtlas.Proofs.EmbeddedMembers
Purpose: Embedding is transparent.  A type and the type in which the members of embedded
  records have taken the place of these records, at every depth, have the same schema or
  are refused with the same error.
Main exports: TypeDesc.spliced, TypeDesc.IsSpliced, Field.ofType_eq_of_spliced,
  Data.ofType_spliced
-/
import RouteAtlas.Proofs.FieldShapes

namespace RouteAtlas

open Fallible

/-! ## Splicing -/

mutual

/-- The type in which, at every depth, the members of an embedded record have taken the
place of the member that embeds it. -/
def TypeDesc.spliced : TypeDesc → TypeDesc
  | .mk name module shape => .mk name module shape.spliced

/-- The shape that is made of spliced types. -/
def Shape.spliced : Shape → Shape
  | .pointer target => .pointer target.spliced
  | .slice element => .slice element.spliced
  | .array element length => .array element.spliced length
  | .map key value => .map key.spliced value.spliced
  | .record members => .record (Member.splice members)
  | other => other

/-- Members without embedded records.  The name and the tags under which a record is
embedded are lost. -/
def Member.splice : List Member → List Member
  | [] => []
  | .mk _ (.mk _ _ (.record members)) _ true :: rest =>
      Member.splice members ++ Member.splice rest
  | .mk name type tags embedded :: rest =>
      .mk name type.spliced tags embedded :: Member.splice rest

end

mutual

/-- Nowhere in a type is a record embedded in another one. -/
def TypeDesc.IsSpliced : TypeDesc → Prop
  | .mk _ _ shape => shape.IsSpliced

/-- Nowhere in what a type of a shape is made of is a record embedded in another one. -/
def Shape.IsSpliced : Shape → Prop
  | .pointer target => target.IsSpliced
  | .slice element => element.IsSpliced
  | .array element _ => element.IsSpliced
  | .map key value => key.IsSpliced ∧ value.IsSpliced
  | .record members => Member.AreSpliced members
  | _ => True

/-- None of several members is an embedded record, nor has one in its type. -/
def Member.AreSpliced : List Member → Prop
  | [] => True
  | .mk _ type _ embedded :: rest =>
      ¬ (embedded = true ∧ type.isRecord = true) ∧ type.IsSpliced ∧ Member.AreSpliced rest

end

/-- A member whose type is spliced. -/
def Member.spliced : Member → Member
  | mk name type tags embedded => mk name type.spliced tags embedded

namespace Member

theorem areSpliced_append {members others : List Member} (first : AreSpliced members)
    (rest : AreSpliced others) : AreSpliced (members ++ others) := by
  induction members with
  | nil => exact rest
  | cons member members ih =>
      obtain ⟨name, type, tags, embedded⟩ := member
      obtain ⟨apart, inner, others⟩ := first
      exact ⟨apart, inner, ih others⟩

theorem flatten_append (members others : List Member) :
    flatten (members ++ others) = flatten members ++ flatten others := by
  fun_induction flatten members with
  | case1 => rfl
  | case2 name inner module members tags rest _ ofRest =>
      rw [List.cons_append, flatten, ofRest, List.append_assoc]
  | case3 first rest plain ofRest =>
      rw [List.cons_append, flatten, ofRest, List.cons_append]
      exact plain

end Member

/-- What stands in the place of a member is spliced once its type is. -/
theorem Member.areSpliced_splice_cons {member : Member} {rest : List Member}
    (type : member.type.spliced.IsSpliced) (others : AreSpliced (splice rest)) :
    AreSpliced (splice (member :: rest)) := by
  obtain ⟨name, ⟨inner, module, shape⟩, tags, embedded⟩ := member
  cases shape with
  | record members =>
      cases embedded with
      | false => exact ⟨fun both => Bool.false_ne_true both.1, type, others⟩
      | true => exact areSpliced_append type others
  | _ => exact ⟨fun both => Bool.false_ne_true both.2, type, others⟩

mutual

theorem TypeDesc.isSpliced_spliced : ∀ type : TypeDesc, type.spliced.IsSpliced
  | .mk _ _ shape => shape.isSpliced_spliced

theorem Shape.isSpliced_spliced : ∀ shape : Shape, shape.spliced.IsSpliced
  | .pointer target => target.isSpliced_spliced
  | .slice element => element.isSpliced_spliced
  | .array element _ => element.isSpliced_spliced
  | .map key value => ⟨key.isSpliced_spliced, value.isSpliced_spliced⟩
  | .record members => Member.areSpliced_splice members
  | .bool | .string | .int _ | .float | .char | .unit | .context | .error => trivial

theorem Member.areSpliced_splice : ∀ members : List Member,
    Member.AreSpliced (Member.splice members)
  | [] => trivial
  | .mk _ type _ _ :: rest =>
      Member.areSpliced_splice_cons type.isSpliced_spliced (Member.areSpliced_splice rest)

end

/-! ## What splicing keeps -/

namespace TypeDesc

theorem isRecord_spliced (type : TypeDesc) : type.spliced.isRecord = type.isRecord := by
  obtain ⟨name, module, shape⟩ := type
  cases shape <;> rfl

/-- Messages do not show the members of a record. -/
theorem display_spliced (type : TypeDesc) : type.spliced.display = type.display := by
  fun_induction display type with
  | case1 name module target ih => rw [spliced, Shape.spliced, display, ih]
  | case2 name module element ih => rw [spliced, Shape.spliced, display, ih]
  | case3 name module element length ih => rw [spliced, Shape.spliced, display, ih]
  | case4 name module key value ofKey ofValue =>
      rw [spliced, Shape.spliced, display, ofKey, ofValue]
  | case5 name members => rfl
  | case6 name module members declared => rw [spliced, Shape.spliced, display, if_neg declared]
  | case7 name module shape => cases shape <;> first | rfl | simp_all

end TypeDesc

theorem Field.keyKind_spliced (key : TypeDesc) : keyKind key.spliced = keyKind key := by
  have same := key.display_spliced
  obtain ⟨name, module, shape⟩ := key
  unfold keyKind
  rw [same]
  cases shape <;> rfl

namespace Member

/-- A member that is not spliced away stays where it is. -/
theorem flatten_splice_cons {member : Member} {rest : List Member}
    (plain : ∀ name inner module members tags,
      member ≠ mk name (.mk inner module (.record members)) tags true) :
    flatten (splice (member :: rest)) = member.spliced :: flatten (splice rest) := by
  obtain ⟨name, ⟨inner, module, shape⟩, tags, embedded⟩ := member
  cases shape with
  | record members =>
      cases embedded with
      | false => rw [splice, flatten, spliced] <;> simp [TypeDesc.spliced]
      | true => exact absurd rfl (plain _ _ _ _ _)
  | _ => rw [splice, flatten, spliced] <;> simp [TypeDesc.spliced, Shape.spliced]

/-- Splicing leaves the members of a record in their order, with spliced types. -/
theorem flatten_splice (members : List Member) :
    flatten (splice members) = (flatten members).map spliced := by
  fun_induction flatten members with
  | case1 => rw [splice, flatten, List.map_nil]
  | case2 name inner module members tags rest ofEmbedded ofRest =>
      rw [splice, flatten_append, ofEmbedded, ofRest, List.map_append]
  | case3 first rest plain ofRest =>
      rw [flatten_splice_cons, ofRest, List.map_cons]
      exact plain

end Member

/-! ## Schemas -/

namespace Field

theorem ofMember_spliced {keys : TagKeys} {member : Member}
    (same : ofType keys member.type.spliced = ofType keys member.type) :
    ofMember keys member.spliced = ofMember keys member := by
  obtain ⟨name, type, tags, embedded⟩ := member
  unfold ofMember Member.spliced
  dsimp only [Member.type] at same ⊢
  rw [same]
  rfl

/-- A type and its spliced form have the same field, or are refused with the same error. -/
theorem ofType_eq_of_spliced (keys : TagKeys) (type : TypeDesc) :
    ofType keys type.spliced = ofType keys type := by
  induction type using TypeDesc.extractionInduction with
  | simple type simple =>
      obtain ⟨name, module, shape⟩ := type
      cases shape <;> first | rfl | exact simple.elim
  | pointer name module target ih =>
      obtain ⟨inner, innerModule, shape⟩ := target
      cases shape with
      | pointer deep =>
          -- Refused for what the type is called, which splicing does not change.
          exact congrArg (Except.error ∘ Error.singlePointerRequired)
            (TypeDesc.display_spliced
              (.mk name module (.pointer (.mk inner innerModule (.pointer deep)))))
      | _ => exact ih
  | slice name module element ih =>
      rw [TypeDesc.spliced, Shape.spliced, ofType_slice, ofType_slice, ih]
  | array name module element length ih =>
      rw [TypeDesc.spliced, Shape.spliced, ofType_array, ofType_array, ih]
  | map name module key value ih =>
      rw [TypeDesc.spliced, Shape.spliced, ofType_map, ofType_map, keyKind_spliced, ih]
  | record name module members ih =>
      have same : (Member.flatten members).mapM (ofMember keys ∘ Member.spliced) =
          (Member.flatten members).mapM (ofMember keys) :=
        mapM_congr fun member listed => ofMember_spliced (ih member listed)
      rw [TypeDesc.spliced, Shape.spliced, ofType_members, ofType_members, Member.flatten_splice,
        List.mapM_map, same]

end Field

/-- A type and its spliced form, in which no record is embedded any more, have the same
schema or are refused with the same error.  Under which name and with which tags a record
was embedded makes no difference. -/
theorem Data.ofType_spliced (keys : TagKeys) (type : TypeDesc) :
    type.spliced.IsSpliced ∧ Data.ofType keys type.spliced = Data.ofType keys type := by
  refine ⟨type.isSpliced_spliced, ?_⟩
  have fields := Field.ofType_eq_of_spliced keys type
  have shown := type.display_spliced
  have isRecord := type.isRecord_spliced
  obtain ⟨name, module, shape⟩ := type
  unfold Data.ofType
  rw [fields, shown, isRecord]
  rfl

end RouteAtlas
