/-
Module: RouteAtlas.Proofs.TagResolution
Purpose: How the tags of a member are resolved.  The value of a role tag alone decides where the
  member travels; without one the name tag does.  What is refused is refused for the first reason
  there is.  The validation rules are read apart from both.
Main exports: Tags.Gives, Role.IsNamedBy, TagKeys.RoleTagSays, TagKeys.NameTagSays,
  TagKeys.Resolves, TagKeys.Declares, Field.ofTags_resolves
-/
import Mathlib.Data.List.TakeWhile
import RouteAtlas.Proofs.FieldShapes

namespace RouteAtlas

open Fallible

variable {keys : TagKeys} {tags : Tags} {key value name token : String} {role : Role}
  {outcome : Except Error Serialization}

/-! ## Values of keys -/

namespace Tags

/-- The first entry with a key has a value that is not empty. -/
def Gives (tags : Tags) (key value : String) : Prop :=
  value ≠ "" ∧ ∃ before after,
    tags.entries = before ++ (key, value) :: after ∧ ∀ entry ∈ before, entry.1 ≠ key

theorem find?_eq_some_iff {entry : String × String} :
    tags.entries.find? (·.1 == key) = some entry ↔
      entry.1 = key ∧ ∃ before after,
        tags.entries = before ++ entry :: after ∧ ∀ earlier ∈ before, earlier.1 ≠ key := by
  simp [List.find?_eq_some_iff_append]

theorem get?_eq_some_iff : tags.get? key = some value ↔ tags.Gives key value := by
  unfold get?
  constructor
  · intro found
    split at found
    · cases found
    · next first isFirst =>
        split at found
        · cases found
        · next notEmpty =>
            cases found
            obtain ⟨rfl, place⟩ := find?_eq_some_iff.mp isFirst
            exact ⟨notEmpty, place⟩
  · rintro ⟨notEmpty, place⟩
    have isFirst : tags.entries.find? (·.1 == key) = some (key, value) :=
      find?_eq_some_iff.mpr ⟨rfl, place⟩
    rw [isFirst]
    exact if_neg notEmpty

theorem get?_eq_none_iff : tags.get? key = none ↔ ∀ value, ¬ tags.Gives key value := by
  simp only [← get?_eq_some_iff]
  exact Option.eq_none_iff_forall_ne_some

end Tags

/-! ## Words for roles -/

namespace Role

/-- The word for a role. -/
def word : Role → String
  | .json => "json"
  | .query => "query"
  | .path => "path"
  | .header => "header"
  | .cookie => "cookie"

/-- A token names a role if it is the word for it, in whatever case each of its letters is.  No
token names the role that only a name tag gives. -/
def IsNamedBy (role : Role) (token : String) : Prop :=
  role ≠ .json ∧
    List.Forall₂ (fun letter c => c = letter ∨ c = letter.toUpper) role.word.toList token.toList

theorem isLower_iff {c : Char} : c.isLower = true ↔ 'a'.val ≤ c.val ∧ c.val ≤ 'z'.val := by
  have bounds : c.isLower = (decide ('a'.val ≤ c.val) && decide (c.val ≤ 'z'.val)) := rfl
  simp only [bounds, Bool.and_eq_true, decide_eq_true_eq]

theorem val_toUpper {c : Char} (small : c.isLower = true) :
    c.toUpper.val = c.val + ('A'.val - 'a'.val) := by
  delta Char.toUpper
  rw [dif_pos (isLower_iff.mp small)]

theorem toUpper_of_not_isLower {c : Char} (other : ¬ c.isLower = true) : c.toUpper = c := by
  delta Char.toUpper
  rw [dif_neg (mt isLower_iff.mpr other)]

/-- Nothing but a small letter and its capital is turned into the capital. -/
theorem toUpper_eq_toUpper_iff {c letter : Char} (small : letter.isLower = true) :
    c.toUpper = letter.toUpper ↔ c = letter ∨ c = letter.toUpper := by
  constructor
  · intro same
    by_cases also : c.isLower = true
    · have values := congrArg Char.val same
      rw [val_toUpper small, val_toUpper also, UInt32.add_left_inj] at values
      exact .inl (Char.ext values)
    · rw [toUpper_of_not_isLower also] at same
      exact .inr same
  · rintro (rfl | rfl)
    · rfl
    · have capital : ¬ letter.toUpper.isLower = true := by
        rw [isLower_iff] at small ⊢
        rw [val_toUpper (isLower_iff.mpr small)]
        grind [UInt32.toNat_add]
      rw [toUpper_of_not_isLower capital]

theorem map_toUpper_eq_iff {letters chars : List Char}
    (small : ∀ letter ∈ letters, letter.isLower = true) :
    chars.map Char.toUpper = letters.map Char.toUpper ↔
      List.Forall₂ (fun letter c => c = letter ∨ c = letter.toUpper) letters chars := by
  induction letters generalizing chars with
  | nil => simp
  | cons letter letters ih =>
      obtain ⟨first, others⟩ := List.forall_mem_cons.mp small
      cases chars with
      | nil => simp
      | cons c chars =>
          rw [List.map_cons, List.map_cons, List.cons.injEq, toUpper_eq_toUpper_iff first,
            ih others, List.forall₂_cons]

/-- The name of a role is its word in capitals, and so is every token that names the role. -/
theorem upperToken_eq_name_iff : upperToken token = role.name ↔
    List.Forall₂ (fun letter c => c = letter ∨ c = letter.toUpper)
      role.word.toList token.toList := by
  have small : role.word.toList.all Char.isLower = true := by
    cases role <;> rfl
  have capitals : role.name = String.ofList (role.word.toList.map Char.toUpper) := by
    cases role <;> rfl
  rw [← map_toUpper_eq_iff (List.all_eq_true.mp small), capitals, upperToken, String.ofList_inj]

theorem mem_explicit_iff : role ∈ explicit ↔ role ≠ .json := by
  cases role <;> decide

end Role

/-! ## What tags say -/

/-- The part of a value before its first comma. -/
def IsFirstPart (name value : String) : Prop :=
  ',' ∉ name.toList ∧ (value = name ∨ ∃ rest, value = name ++ "," ++ rest)

/-- What the value of a role tag says: a serialization, or the reason for which the value is
refused.  Its parts are counted first, then the name is looked at, and the role last. -/
inductive RoleVerdict : String → Except Error Serialization → Prop where
  | serialization {name token : String} {role : Role} (isName : IsWireName name)
      (single : ',' ∉ token.toList) (named : role.IsNamedBy token) :
      RoleVerdict (name ++ "," ++ token) (.ok ⟨role, name⟩)
  | parts {value : String} (commas : value.toList.count ',' ≠ 1) :
      RoleVerdict value
        (.error (.wrongValue "number of tag values" (toString (value.toList.count ',' + 1)) "2"))
  | format {name token : String} (first : ',' ∉ name.toList) (single : ',' ∉ token.toList)
      (misspelt : ¬ IsWireName name) :
      RoleVerdict (name ++ "," ++ token)
        (.error (.wrongFormat name "lowercase a-z, '-' and '_'"))
  | role {name token : String} (isName : IsWireName name) (single : ',' ∉ token.toList)
      (unnamed : ∀ role : Role, ¬ role.IsNamedBy token) :
      RoleVerdict (name ++ "," ++ token)
        (.error (.notAllowed "serialization type" (Role.upperToken token)
          "PATH, QUERY, HEADER, COOKIE"))

/-- What the value of a name tag says. -/
inductive NameVerdict : String → Except Error Serialization → Prop where
  | serialization {name value : String} (first : IsFirstPart name value)
      (isName : IsWireName name) : NameVerdict value (.ok ⟨.json, name⟩)
  | format {name value : String} (first : IsFirstPart name value)
      (misspelt : ¬ IsWireName name) :
      NameVerdict value (.error (.wrongFormat name "lowercase a-z, '-' and '_'"))

/-- How a member with some tags travels, or the reason for which its tags are refused.  The name
tag is not looked at if there is a role tag, whatever that one says. -/
inductive TagKeys.Resolves (keys : TagKeys) (tags : Tags) : Except Error Serialization → Prop where
  | role {value : String} {outcome : Except Error Serialization}
      (tagged : tags.Gives keys.role value) (verdict : RoleVerdict value outcome) :
      Resolves keys tags outcome
  | name {value : String} {outcome : Except Error Serialization}
      (untagged : ∀ value, ¬ tags.Gives keys.role value) (tagged : tags.Gives keys.name value)
      (verdict : NameVerdict value outcome) : Resolves keys tags outcome
  | neither (untagged : ∀ value, ¬ tags.Gives keys.role value)
      (unnamed : ∀ value, ¬ tags.Gives keys.name value) :
      Resolves keys tags (.error (.wrongValue "tag value" "" "serialization_name"))

/-- The validation rules that tags declare: what stands between the commas in the value of the
validation tag. -/
inductive TagKeys.Declares (keys : TagKeys) (tags : Tags) : List String → Prop where
  | rules {value : String} {rules : List String} (tagged : tags.Gives keys.validate value)
      (some : rules ≠ []) (single : ∀ rule ∈ rules, ',' ∉ rule.toList)
      (joined : Text.joinTexts "," rules = value) : Declares keys tags rules
  | none (untagged : ∀ value, ¬ tags.Gives keys.validate value) : Declares keys tags []

/-! ## Checks of one part -/

theorem IsWireName.notMem_comma (isName : IsWireName name) : ',' ∉ name.toList := by
  intro member
  have allowed := isName.2 ',' member
  revert allowed
  decide

namespace Serialization

theorem checkName_of_isWireName (isName : IsWireName name) : checkName name = .ok () := by
  apply if_pos
  apply And.intro isName.1
  rw [List.all_eq_true]
  intro c member
  exact isWireChar_iff.mpr (isName.2 c member)

theorem checkName_of_misspelt (misspelt : ¬ IsWireName name) :
    checkName name = .error (.wrongFormat name "lowercase a-z, '-' and '_'") := by
  apply if_neg
  intro named
  exact misspelt (isWireName_of_checkName (if_pos named))

theorem explicitRole_of_isNamedBy (named : role.IsNamedBy token) :
    explicitRole token = .ok role := by
  have upper : Role.upperToken token = role.name := Role.upperToken_eq_name_iff.mpr named.2
  rw [explicitRole, upper]
  cases role with
  | json =>
      -- This one has a name like all roles, but it is not among those that are looked up.
      exact absurd rfl named.1
  | _ => rfl

theorem explicitRole_of_unnamed (unnamed : ∀ role : Role, ¬ role.IsNamedBy token) :
    explicitRole token = .error (.notAllowed "serialization type" (Role.upperToken token)
      "PATH, QUERY, HEADER, COOKIE") := by
  have unlisted : Role.explicit.find? (·.name == Role.upperToken token) = none := by
    rw [List.find?_eq_none]
    intro role listed same
    have upper : Role.upperToken token = role.name := (beq_iff_eq.mp same).symm
    exact unnamed role ⟨Role.mem_explicit_iff.mp listed, Role.upperToken_eq_name_iff.mp upper⟩
  rw [explicitRole, unlisted]
  rfl

/-! ## One tag -/

theorem splitText_eq_pair_iff : Text.splitText ',' value = [name, token] ↔
    value = name ++ "," ++ token ∧ ',' ∉ name.toList ∧ ',' ∉ token.toList := by
  have joined : Text.joinTexts (String.singleton ',') [name, token] = name ++ "," ++ token :=
    String.toList_injective (by simp [Text.joinTexts, Text.joinWith])
  have bare : (∀ part ∈ [name, token], ',' ∉ part.toList) ↔
      ',' ∉ name.toList ∧ ',' ∉ token.toList := by simp
  rw [Text.splitText_eq_iff, joined, bare, and_iff_right (List.cons_ne_nil _ _), eq_comm]

theorem ofRoleTag_of_verdict (verdict : RoleVerdict value outcome) :
    ofRoleTag value = outcome := by
  cases verdict with
  | serialization isName single named =>
      have cut := splitText_eq_pair_iff.mpr ⟨rfl, isName.notMem_comma, single⟩
      simp only [ofRoleTag, cut, checkName_of_isWireName isName, explicitRole_of_isNamedBy named]
      rfl
  | parts commas =>
      have count := Text.length_splitText ',' value
      unfold ofRoleTag
      split
      · next name token cut =>
          rw [cut] at count
          exact absurd (Nat.succ.inj count).symm commas
      · rw [count]
  | format first single misspelt =>
      have cut := splitText_eq_pair_iff.mpr ⟨rfl, first, single⟩
      simp only [ofRoleTag, cut, checkName_of_misspelt misspelt]
      rfl
  | role isName single unnamed =>
      have cut := splitText_eq_pair_iff.mpr ⟨rfl, isName.notMem_comma, single⟩
      simp only [ofRoleTag, cut, checkName_of_isWireName isName, explicitRole_of_unnamed unnamed]
      rfl

/-- Every value is judged. -/
theorem exists_roleVerdict (value : String) : ∃ outcome, RoleVerdict value outcome := by
  -- The cases are those of the rules, in the order in which the checks are made.
  by_cases commas : value.toList.count ',' = 1
  · have two : (Text.splitText ',' value).length = 2 := by
      rw [Text.length_splitText, commas]
    obtain ⟨name, token, cut⟩ := List.length_eq_two.mp two
    obtain ⟨rfl, first, single⟩ := splitText_eq_pair_iff.mp cut
    by_cases isName : IsWireName name
    · by_cases named : ∃ role : Role, role.IsNamedBy token
      · obtain ⟨role, named⟩ := named
        exact ⟨_, .serialization isName single named⟩
      · exact ⟨_, .role isName single (not_exists.mp named)⟩
    · exact ⟨_, .format first single isName⟩
  · exact ⟨_, .parts commas⟩

/-- A role tag is read as its value has it. -/
theorem ofRoleTag_eq_iff : ofRoleTag value = outcome ↔ RoleVerdict value outcome := by
  constructor
  · rintro rfl
    obtain ⟨outcome, verdict⟩ := exists_roleVerdict value
    rwa [ofRoleTag_of_verdict verdict]
  · exact ofRoleTag_of_verdict

theorem takeWhile_of_isFirstPart (first : IsFirstPart name value) :
    String.ofList (value.toList.takeWhile (· != ',')) = name := by
  obtain ⟨single, begins⟩ := first
  have letters : ∀ c ∈ name.toList, (c != ',') = true := by
    intro c member
    simpa using ne_of_mem_of_not_mem member single
  apply String.toList_injective
  rw [String.toList_ofList]
  rcases begins with rfl | ⟨rest, rfl⟩
  · exact List.takeWhile_eq_self_iff.mpr letters
  · simp [List.takeWhile_append_of_pos letters]

theorem exists_isFirstPart (value : String) : ∃ name, IsFirstPart name value := by
  by_cases member : ',' ∈ value.toList
  · obtain ⟨before, after, chars, single⟩ := List.eq_append_cons_of_mem member
    refine ⟨String.ofList before, by simpa using single, .inr ⟨String.ofList after, ?_⟩⟩
    apply String.toList_injective
    simp [chars]
  · exact ⟨value, member, .inl rfl⟩

theorem isFirstPart_iff :
    IsFirstPart name value ↔ String.ofList (value.toList.takeWhile (· != ',')) = name := by
  constructor
  · exact takeWhile_of_isFirstPart
  · rintro rfl
    obtain ⟨name, first⟩ := exists_isFirstPart value
    rwa [takeWhile_of_isFirstPart first]

/-- A name tag is read as its value has it. -/
theorem ofNameTag_eq_iff : ofNameTag (some value) = outcome ↔ NameVerdict value outcome := by
  constructor
  · rintro rfl
    have first : IsFirstPart (String.ofList (value.toList.takeWhile (· != ','))) value :=
      isFirstPart_iff.mpr rfl
    rw [ofNameTag]
    by_cases isName : IsWireName (String.ofList (value.toList.takeWhile (· != ',')))
    · rw [checkName_of_isWireName isName]
      exact .serialization first isName
    · rw [checkName_of_misspelt isName]
      exact .format first isName
  · rintro (⟨first, isName⟩ | ⟨first, misspelt⟩)
    · rw [ofNameTag, isFirstPart_iff.mp first, checkName_of_isWireName isName]
      rfl
    · rw [ofNameTag, isFirstPart_iff.mp first, checkName_of_misspelt misspelt]
      rfl

/-! ## All tags -/

/-- An error that is a cause is found again below what it was wrapped with. -/
theorem mapError_rootCause {step : Except Error Serialization} {action item wanted : String}
    (bare : ∀ fault, step = .error fault → fault.rootCause = fault) :
    (step.mapError (Error.duringOnWanting action item wanted)).mapError Error.rootCause = step := by
  cases step with
  | ok serialization => rfl
  | error fault => exact congrArg Except.error (bare fault rfl)

theorem rootCause_of_ofRoleTag {fault : Error} (refused : ofRoleTag value = .error fault) :
    fault.rootCause = fault := by
  cases ofRoleTag_eq_iff.mp refused <;> rfl

theorem rootCause_of_ofNameTag {tag : Option String} {fault : Error}
    (refused : ofNameTag tag = .error fault) : fault.rootCause = fault := by
  cases tag with
  | none =>
      cases refused
      rfl
  | some value =>
      cases ofNameTag_eq_iff.mp refused
      rfl

theorem ofTags_of_gives (tagged : tags.Gives keys.role value) :
    (ofTags keys tags).mapError Error.rootCause = ofRoleTag value := by
  rw [ofTags, Tags.get?_eq_some_iff.mpr tagged]
  exact mapError_rootCause fun _ => rootCause_of_ofRoleTag

theorem ofTags_of_untagged (untagged : ∀ value, ¬ tags.Gives keys.role value) :
    (ofTags keys tags).mapError Error.rootCause = ofNameTag (tags.get? keys.name) := by
  rw [ofTags, Tags.get?_eq_none_iff.mpr untagged]
  exact mapError_rootCause fun _ => rootCause_of_ofNameTag

/-- Tags are read as they are resolved, but for what an error is wrapped with. -/
theorem ofTags_eq_iff :
    (ofTags keys tags).mapError Error.rootCause = outcome ↔ keys.Resolves tags outcome := by
  constructor
  · rintro rfl
    cases roleTag : tags.get? keys.role with
    | some value =>
        have tagged := Tags.get?_eq_some_iff.mp roleTag
        rw [ofTags_of_gives tagged]
        exact .role tagged (ofRoleTag_eq_iff.mp rfl)
    | none =>
        have untagged := Tags.get?_eq_none_iff.mp roleTag
        rw [ofTags_of_untagged untagged]
        cases nameTag : tags.get? keys.name with
        | some value =>
            exact .name untagged (Tags.get?_eq_some_iff.mp nameTag) (ofNameTag_eq_iff.mp rfl)
        | none => exact .neither untagged (Tags.get?_eq_none_iff.mp nameTag)
  · rintro (⟨tagged, verdict⟩ | ⟨untagged, tagged, verdict⟩ | ⟨untagged, unnamed⟩)
    · rw [ofTags_of_gives tagged]
      exact ofRoleTag_eq_iff.mpr verdict
    · rw [ofTags_of_untagged untagged, Tags.get?_eq_some_iff.mpr tagged]
      exact ofNameTag_eq_iff.mpr verdict
    · rw [ofTags_of_untagged untagged, Tags.get?_eq_none_iff.mpr unnamed]
      rfl

end Serialization

/-- Rules are read as they are declared. -/
theorem TagKeys.validation_eq_iff {rules : List String} :
    keys.validation tags = rules ↔ keys.Declares tags rules := by
  unfold TagKeys.validation
  constructor
  · intro read
    split at read
    · next untagged =>
        cases read
        exact .none (Tags.get?_eq_none_iff.mp untagged)
    · next value tagged =>
        obtain ⟨some, joined, single⟩ := Text.splitText_eq_iff.mp read
        exact .rules (Tags.get?_eq_some_iff.mp tagged) some single joined
  · rintro (⟨tagged, some, single, joined⟩ | untagged)
    · rw [Tags.get?_eq_some_iff.mpr tagged]
      exact Text.splitText_eq_iff.mpr ⟨some, joined, single⟩
    · rw [Tags.get?_eq_none_iff.mpr untagged]

namespace Field

variable {member : Member}

theorem ofTags_eq_ok_iff {serialization : Serialization} {rules : List String} :
    ofTags keys member = .ok (serialization, rules) ↔
      Serialization.ofTags keys member.tags = .ok serialization ∧
        keys.validation member.tags = rules := by
  unfold ofTags
  cases Serialization.ofTags keys member.tags <;> simp

theorem ofTags_refused_iff {cause : Error} :
    (∃ error, ofTags keys member = .error error ∧ error.rootCause = cause) ↔
      (Serialization.ofTags keys member.tags).mapError Error.rootCause = .error cause := by
  unfold ofTags
  cases Serialization.ofTags keys member.tags with
  | ok _ => simp [Except.mapError]
  | error fault => simp [Except.mapError, Error.during, Error.duringOn, Error.rootCause]

/-- The tags of a member are understood exactly if they resolve to a serialization, and then
with the rules that they declare.  They are refused for exactly the cause to which they resolve.
What the value of a role tag is resolved to depends on nothing else. -/
theorem ofTags_resolves (keys : TagKeys) (member : Member) :
    (∀ serialization rules, ofTags keys member = .ok (serialization, rules) ↔
      keys.Resolves member.tags (.ok serialization) ∧ keys.Declares member.tags rules) ∧
    (∀ cause, (∃ error, ofTags keys member = .error error ∧ error.rootCause = cause) ↔
      keys.Resolves member.tags (.error cause)) ∧
    ∀ value, member.tags.Gives keys.role value →
      ∀ (others : TagKeys) (tags : Tags), tags.Gives others.role value →
        (Serialization.ofTags others tags).mapError Error.rootCause =
          (Serialization.ofTags keys member.tags).mapError Error.rootCause := by
  refine ⟨fun serialization rules => ?_, fun cause => ?_, ?_⟩
  · rw [ofTags_eq_ok_iff, TagKeys.validation_eq_iff, ← Serialization.ofTags_eq_iff,
      mapError_eq_ok]
  · rw [ofTags_refused_iff, Serialization.ofTags_eq_iff]
  · intro value tagged others tags taggedOther
    rw [Serialization.ofTags_of_gives tagged, Serialization.ofTags_of_gives taggedOther]

/-- A page that travels in the query, with a name tag that does not matter. -/
def numberedPage : Member :=
  .mk "Number" (.builtin "int" (.int .u32))
    ⟨[("as", "page,Query"), ("json", "Number"), ("validate", "required,,min=1")]⟩ false

theorem ofTags_resolves_numberedPage :
    ofTags {} numberedPage = .ok (⟨.query, "page"⟩, ["required", "", "min=1"]) ∧
    (Serialization.ofTags { role := "in" } ⟨[("in", "page,Query")]⟩).mapError Error.rootCause =
      .ok ⟨.query, "page"⟩ := by
  have tagged : numberedPage.tags.Gives "as" "page,Query" := ⟨by decide, [], _, rfl, nofun⟩
  have taggedIn : Tags.Gives ⟨[("in", "page,Query")]⟩ "in" "page,Query" :=
    ⟨by decide, [], _, rfl, nofun⟩
  have validated : numberedPage.tags.Gives "validate" "required,,min=1" :=
    ⟨by decide, [("as", "page,Query"), ("json", "Number")], [], rfl, by decide⟩
  have named : Role.query.IsNamedBy "Query" := ⟨by decide, by simp [Role.word]⟩
  have isName : IsWireName "page" := Serialization.isWireName_of_checkName rfl
  have verdict : RoleVerdict ("page" ++ "," ++ "Query") (.ok ⟨.query, "page"⟩) :=
    .serialization isName (by decide) named
  have declared : TagKeys.Declares {} numberedPage.tags ["required", "", "min=1"] :=
    .rules validated (by decide) (by decide) (by decide)
  have resolves := ofTags_resolves {} numberedPage
  have read := (resolves.1 _ _).mpr ⟨.role tagged verdict, declared⟩
  refine ⟨read, ?_⟩
  rw [resolves.2.2 _ tagged { role := "in" } _ taggedIn, (ofTags_eq_ok_iff.mp read).1]
  rfl

end Field

end RouteAtlas
