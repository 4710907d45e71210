/-
Module: RouteAtlas.Proofs.QualifiedNames
Purpose: Which qualified names denote a function, and what is left of a name once it has been
  read.  A reference can be denoted exactly if its own qualified name denotes it.
Main exports: Receiver.written, HandlerRef.IsIdent, HandlerRef.Spells, HandlerRef.IsSpellable,
  HandlerRef.parse_eq_ok_iff, HandlerRef.spells_iff, HandlerRef.parse_spells
-/
import Mathlib.Data.List.TakeWhile
import RouteAtlas.Extraction.Identity

namespace RouteAtlas

/-! ## Receivers -/

namespace Receiver

/-- A receiver as it stands in a qualified name. -/
def written (receiver : Receiver) : String :=
  if receiver.pointer then "(*" ++ receiver.name ++ ")" else receiver.name

/-- A text that stands for a pointer to a type. -/
def IsPointerForm (text : List Char) : Prop :=
  ∃ name, text = '(' :: '*' :: (name ++ [')'])

/-- The name of a receiver that is no pointer does not look like one. -/
def IsDistinct (receiver : Receiver) : Prop :=
  receiver.pointer = false → ¬ IsPointerForm receiver.name.toList

variable {receiver : Receiver} {raw : List Char}

theorem toList_written_pointer (name : String) :
    (written ⟨name, true⟩).toList = '(' :: '*' :: (name.toList ++ [')']) := by
  simp [written]

theorem parse_pointerForm (name : List Char) :
    Receiver.parse ('(' :: '*' :: (name ++ [')'])) = ⟨String.ofList name, true⟩ := by
  simp [Receiver.parse]

theorem parse_of_not_pointerForm (plain : ¬ IsPointerForm raw) :
    Receiver.parse raw = ⟨String.ofList raw, false⟩ := by
  unfold Receiver.parse
  split
  · next rest =>
      split
      · next closed =>
          obtain ⟨name, rfl⟩ := List.getLast?_eq_some_iff.mp closed
          exact absurd ⟨name, rfl⟩ plain
      · rfl
  · rfl

theorem mem_name {c : Char} (member : c ∈ receiver.name.toList) : c ∈ receiver.written.toList := by
  obtain ⟨text, pointer⟩ := receiver
  cases pointer with
  | false => simpa [written] using member
  | true => simpa [toList_written_pointer] using .inr (.inr (.inl member))

/-- Only parentheses and a star are added to the name of a receiver. -/
theorem notMem_written {c : Char} (absent : c ∉ receiver.name.toList)
    (other : c ∉ ['(', '*', ')']) : c ∉ receiver.written.toList := by
  obtain ⟨text, pointer⟩ := receiver
  cases pointer with
  | false => simpa [written] using absent
  | true =>
      simp only [List.mem_cons, List.not_mem_nil, or_false, not_or] at other
      simpa [toList_written_pointer, other] using absent

/-- A receiver is read from a text exactly if the text is one of its written forms, of which it
has only one. -/
theorem parse_eq_iff :
    Receiver.parse raw = receiver ↔ receiver.IsDistinct ∧ receiver.written.toList = raw := by
  by_cases form : IsPointerForm raw
  · obtain ⟨name, rfl⟩ := form
    rw [parse_pointerForm]
    constructor
    · rintro rfl
      exact ⟨nofun, by simp [toList_written_pointer]⟩
    · rintro ⟨distinct, same⟩
      obtain ⟨text, pointer⟩ := receiver
      cases pointer with
      | false => exact absurd ⟨name, same⟩ (distinct rfl)
      | true =>
          rw [toList_written_pointer] at same
          have names : text.toList = name := by simpa using same
          rw [← names, String.ofList_toList]
  · rw [parse_of_not_pointerForm form]
    constructor
    · rintro rfl
      exact ⟨fun _ => by simpa using form, by simp [written]⟩
    · rintro ⟨_, rfl⟩
      obtain ⟨text, pointer⟩ := receiver
      cases pointer with
      | false => simp [written]
      | true => exact absurd ⟨text.toList, toList_written_pointer text⟩ form

end Receiver

/-! ## The grammar of qualified names -/

namespace HandlerRef

/-- A part of a qualified name: it is not empty and has neither slashes nor dots. -/
structure IsIdent (part : String) : Prop where
  notEmpty : part ≠ ""
  slash : '/' ∉ part.toList
  dot : '.' ∉ part.toList

/-- What may follow the name of a method: nothing, or a dash and more. -/
structure IsSuffix (suffix : String) : Prop where
  dash : suffix = "" ∨ suffix.toList.head? = some '-'
  slash : '/' ∉ suffix.toList
  dot : '.' ∉ suffix.toList

/-- A qualified name and the reference that it denotes.  After its last slash it has the package
and the name of a function, or the package, the receiver and the name of a method, which ends
before the first dash. -/
inductive Spells : String → HandlerRef → Prop where
  | function {directory package name : String} (inPackage : IsIdent package)
      (named : IsIdent name) :
      Spells (directory ++ "/" ++ package ++ "." ++ name) ⟨name, directory ++ "/" ++ package, none⟩
  | method {directory package name suffix : String} {receiver : Receiver}
      (inPackage : IsIdent package) (bound : IsIdent receiver.name)
      (distinct : receiver.IsDistinct) (named : IsIdent name) (dashless : '-' ∉ name.toList)
      (ends : IsSuffix suffix) :
      Spells
        (directory ++ "/" ++ package ++ "." ++ receiver.written ++ "." ++ name ++ suffix)
        ⟨name, directory ++ "/" ++ package, some receiver⟩

/-- A reference that a qualified name can denote. -/
structure IsSpellable (ref : HandlerRef) : Prop where
  path : ∃ directory package, ref.importPath = directory ++ "/" ++ package ∧ IsIdent package
  named : IsIdent ref.name
  bound : ∀ receiver, ref.receiver = some receiver →
    '-' ∉ ref.name.toList ∧ IsIdent receiver.name ∧ receiver.IsDistinct

variable {qualified : String} {ref : HandlerRef}

theorem qualified_of_receiver {name importPath : String} (receiver : Receiver) :
    HandlerRef.qualified ⟨name, importPath, some receiver⟩ =
      importPath ++ "." ++ receiver.written ++ "." ++ name := by
  obtain ⟨text, pointer⟩ := receiver
  apply String.toList_injective
  cases pointer <;> simp [HandlerRef.qualified, Receiver.written]

/-- The names that denote a reference are its own qualified name and, for a method, this name
with a suffix. -/
theorem spells_iff : Spells qualified ref ↔
    ref.IsSpellable ∧ ∃ suffix, IsSuffix suffix ∧ (ref.receiver = none → suffix = "") ∧
      qualified = ref.qualified ++ suffix := by
  constructor
  · rintro (⟨inPackage, named⟩ | ⟨inPackage, bound, distinct, named, dashless, ends⟩)
    · exact ⟨⟨⟨_, _, rfl, inPackage⟩, named, nofun⟩, "", ⟨.inl rfl, by simp, by simp⟩,
        fun _ => rfl, by simp [HandlerRef.qualified]⟩
    · refine ⟨⟨⟨_, _, rfl, inPackage⟩, named, ?_⟩, _, ends, nofun, ?_⟩
      · rintro _ ⟨⟩
        exact ⟨dashless, bound, distinct⟩
      · rw [qualified_of_receiver]
  · rintro ⟨⟨⟨directory, package, path, inPackage⟩, named, bound⟩, suffix, ends, plain, rfl⟩
    obtain ⟨name, importPath, receiver⟩ := ref
    cases path
    cases receiver with
    | none =>
        cases plain rfl
        rw [String.append_empty]
        exact .function inPackage named
    | some receiver =>
        obtain ⟨dashless, receiverNamed, distinct⟩ := bound receiver rfl
        rw [qualified_of_receiver]
        exact .method inPackage receiverNamed distinct named dashless ends

/-! ## Reading -/

theorem parse_of_notMem (absent : '/' ∉ qualified.toList) :
    parse qualified = .error (.anonymousHandler qualified) := by
  rw [parse, Text.breakAtLast_of_notMem absent]

theorem parse_of_split {directory dotted : List Char}
    (chars : qualified.toList = directory ++ '/' :: dotted) (absent : '/' ∉ dotted) :
    parse qualified =
      match parseIdents dotted with
      | none => parse.malformed qualified
      | some (package, receiver, name) =>
          if package.isEmpty || name.isEmpty || !hasNamedReceiver receiver then
            parse.malformed qualified
          else
            .ok ⟨String.ofList name, String.ofList (directory ++ '/' :: package), receiver⟩ := by
  have cut := Text.breakAtLast_append absent directory
  rw [← chars] at cut
  unfold parse
  split
  · next uncut =>
      rw [uncut] at cut
      cases cut
  · next found =>
      rw [found] at cut
      cases cut
      rfl

/-- A name with a slash is read or is malformed. -/
theorem parse_eq_malformed (member : '/' ∈ qualified.toList)
    (unread : ¬ ∃ ref, parse qualified = .ok ref) :
    parse qualified = parse.malformed qualified := by
  obtain ⟨directory, dotted, chars, absent⟩ := Text.exists_of_mem member
  rw [parse_of_split chars absent] at unread ⊢
  split
  · rfl
  · next idents =>
      rw [idents] at unread
      split
      · rfl
      · next full => exact absurd ⟨_, if_neg full⟩ unread

theorem parseIdents_function {package name : List Char} (inPackage : '.' ∉ package)
    (named : '.' ∉ name) :
    parseIdents (package ++ '.' :: name) = some (package, none, name) := by
  have cut : Text.pieces '.' (package ++ '.' :: name) = [package, name] :=
    Text.pieces_eq_iff.mpr ⟨by simp, by simp [Text.joinWith], by simp [inPackage, named]⟩
  rw [parseIdents, cut]

theorem parseIdents_method {package method : List Char} {receiver : Receiver}
    (inPackage : '.' ∉ package) (bound : '.' ∉ receiver.written.toList)
    (distinct : receiver.IsDistinct) (named : '.' ∉ method) :
    parseIdents (package ++ '.' :: (receiver.written.toList ++ '.' :: method)) =
      some (package, some receiver, method.takeWhile (· != '-')) := by
  have cut : Text.pieces '.' (package ++ '.' :: (receiver.written.toList ++ '.' :: method)) =
      [package, receiver.written.toList, method] :=
    Text.pieces_eq_iff.mpr
      ⟨by simp, by simp [Text.joinWith], by simp [inPackage, bound, named]⟩
  have read : Receiver.parse receiver.written.toList = receiver :=
    Receiver.parse_eq_iff.mpr ⟨distinct, rfl⟩
  rw [parseIdents, cut]
  simp only [read]

/-- The name of a method ends where its suffix begins. -/
theorem IsSuffix.takeWhile_append {name : List Char} {suffix : String} (ends : IsSuffix suffix)
    (dashless : '-' ∉ name) : (name ++ suffix.toList).takeWhile (· != '-') = name := by
  have letters : ∀ c ∈ name, (c != '-') = true := by
    intro c member
    simpa using ne_of_mem_of_not_mem member dashless
  rw [List.takeWhile_append_of_pos letters]
  rcases ends.dash with rfl | dash
  · simp
  · obtain ⟨rest, chars⟩ := List.head?_eq_some_iff.mp dash
    simp [chars]

theorem parse_of_spells (spells : Spells qualified ref) : parse qualified = .ok ref := by
  cases spells with
  | @function directory package name inPackage named =>
      have chars : (directory ++ "/" ++ package ++ "." ++ name).toList =
          directory.toList ++ '/' :: (package.toList ++ '.' :: name.toList) := by simp
      have idents := parseIdents_function inPackage.dot named.dot
      rw [parse_of_split chars (by simp [inPackage.slash, named.slash]), idents]
      have path : String.ofList (directory.toList ++ '/' :: package.toList) =
          directory ++ "/" ++ package := String.toList_injective (by simp)
      simp [inPackage.notEmpty, named.notEmpty, hasNamedReceiver, path]
  | @method directory package name suffix receiver inPackage bound distinct named dashless ends =>
      have chars :
          (directory ++ "/" ++ package ++ "." ++ receiver.written ++ "." ++ name ++ suffix).toList =
            directory.toList ++ '/' :: (package.toList ++ '.' ::
              (receiver.written.toList ++ '.' :: (name.toList ++ suffix.toList))) := by simp
      have slash := Receiver.notMem_written bound.slash (by decide)
      have dot := Receiver.notMem_written bound.dot (by decide)
      have dotless : '.' ∉ name.toList ++ suffix.toList := by simp [named.dot, ends.dot]
      have idents := parseIdents_method inPackage.dot dot distinct dotless
      rw [parse_of_split chars (by simp [inPackage.slash, slash, named.slash, ends.slash]), idents,
        ends.takeWhile_append dashless]
      have path : String.ofList (directory.toList ++ '/' :: package.toList) =
          directory ++ "/" ++ package := String.toList_injective (by simp)
      simp [inPackage.notEmpty, named.notEmpty, hasNamedReceiver, bound.notEmpty, path]

theorem isIdent_ofList {part : List Char} (notEmpty : part ≠ []) (slash : '/' ∉ part)
    (dot : '.' ∉ part) : IsIdent (String.ofList part) :=
  ⟨by simpa using notEmpty, by simpa using slash, by simpa using dot⟩

theorem isSuffix_dropWhile {method : List Char} (slash : '/' ∉ method) (dot : '.' ∉ method) :
    IsSuffix (String.ofList (method.dropWhile (· != '-'))) where
  dash := by
    rw [String.toList_ofList]
    cases rest : method.dropWhile (· != '-') with
    | nil => exact .inl rfl
    | cons c more =>
        have stops := List.head?_dropWhile_not (· != '-') method
        rw [rest] at stops
        exact .inr (by simpa using stops)
  slash := by
    rw [String.toList_ofList]
    exact fun member => slash ((List.dropWhile_suffix _).subset member)
  dot := by
    rw [String.toList_ofList]
    exact fun member => dot ((List.dropWhile_suffix _).subset member)

theorem path_ofList (directory package : List Char) :
    String.ofList directory ++ "/" ++ String.ofList package =
      String.ofList (directory ++ '/' :: package) :=
  String.toList_injective (by simp)

theorem spells_function {directory package name : List Char}
    (chars : qualified.toList = directory ++ '/' :: (package ++ '.' :: name))
    (slash : '/' ∉ package ++ '.' :: name) (dotless : '.' ∉ package ∧ '.' ∉ name)
    (inPackage : package ≠ []) (named : name ≠ []) :
    Spells qualified ⟨String.ofList name, String.ofList (directory ++ '/' :: package), none⟩ := by
  simp only [List.mem_append, List.mem_cons, not_or] at slash
  obtain ⟨packageSlash, _, nameSlash⟩ := slash
  have spells := @Spells.function (String.ofList directory) _ _
    (isIdent_ofList inPackage packageSlash dotless.1) (isIdent_ofList named nameSlash dotless.2)
  have whole : String.ofList (directory ++ '/' :: package) ++ "." ++ String.ofList name =
      qualified := String.toList_injective (by simp [chars])
  rwa [path_ofList, whole] at spells

theorem spells_method {directory package raw method : List Char}
    (chars : qualified.toList = directory ++ '/' :: (package ++ '.' :: (raw ++ '.' :: method)))
    (slash : '/' ∉ package ++ '.' :: (raw ++ '.' :: method))
    (dotless : '.' ∉ package ∧ '.' ∉ raw ∧ '.' ∉ method) (inPackage : package ≠ [])
    (bound : (Receiver.parse raw).name ≠ "") (named : method.takeWhile (· != '-') ≠ []) :
    Spells qualified ⟨String.ofList (method.takeWhile (· != '-')),
      String.ofList (directory ++ '/' :: package), some (Receiver.parse raw)⟩ := by
  simp only [List.mem_append, List.mem_cons, not_or] at slash
  obtain ⟨packageSlash, _, rawSlash, _, methodSlash⟩ := slash
  obtain ⟨distinct, written⟩ := Receiver.parse_eq_iff.mp (Eq.refl (Receiver.parse raw))
  have receiver : IsIdent (Receiver.parse raw).name := by
    refine ⟨bound, fun member => rawSlash ?_, fun member => dotless.2.1 ?_⟩
    all_goals exact written ▸ Receiver.mem_name member
  have inName {c : Char} (member : c ∈ method.takeWhile (· != '-')) : c ∈ method :=
    (List.takeWhile_prefix _).subset member
  have dashless : '-' ∉ (String.ofList (method.takeWhile (· != '-'))).toList := by
    rw [String.toList_ofList]
    intro member
    simpa using List.mem_takeWhile_imp member
  have spells := @Spells.method (String.ofList directory) _ _ _ _
    (isIdent_ofList inPackage packageSlash dotless.1) receiver distinct
    (isIdent_ofList named (methodSlash ∘ inName) (dotless.2.2 ∘ inName)) dashless
    (isSuffix_dropWhile methodSlash dotless.2.2)
  have whole : String.ofList (directory ++ '/' :: package) ++ "." ++
      (Receiver.parse raw).written ++ "." ++ String.ofList (method.takeWhile (· != '-')) ++
      String.ofList (method.dropWhile (· != '-')) = qualified := by
    apply String.toList_injective
    simp [chars, written, List.takeWhile_append_dropWhile]
  rwa [path_ofList, whole] at spells

theorem spells_of_parse (parsed : parse qualified = .ok ref) : Spells qualified ref := by
  by_cases member : '/' ∈ qualified.toList
  · obtain ⟨directory, dotted, chars, slash⟩ := Text.exists_of_mem member
    rw [parse_of_split chars slash] at parsed
    split at parsed
    · cases parsed
    · next package receiver name idents =>
        split at parsed
        · cases parsed
        · next full =>
            cases parsed
            simp only [Bool.or_eq_true, not_or, List.isEmpty_iff] at full
            obtain ⟨⟨inPackage, named⟩, bound⟩ := full
            unfold parseIdents at idents
            split at idents
            · next cut =>
                cases idents
                obtain ⟨_, rfl, dotless⟩ := Text.pieces_eq_iff.mp cut
                exact spells_function (by simpa [Text.joinWith] using chars)
                  (by simpa [Text.joinWith] using slash) (by simpa using dotless) inPackage named
            · next raw method cut =>
                cases idents
                obtain ⟨_, rfl, dotless⟩ := Text.pieces_eq_iff.mp cut
                exact spells_method (by simpa [Text.joinWith] using chars)
                  (by simpa [Text.joinWith] using slash) (by simpa using dotless) inPackage
                  (by simpa [hasNamedReceiver] using bound) named
            · cases idents
  · rw [parse_of_notMem member] at parsed
    cases parsed

/-- The qualified names that are read are those of the grammar. -/
theorem parse_eq_ok_iff : parse qualified = .ok ref ↔ Spells qualified ref :=
  ⟨spells_of_parse, parse_of_spells⟩

/-- Every name that denotes nothing is refused, for want of a slash or as malformed. -/
theorem refused_iff {cause : Error} :
    (∃ error, parse qualified = .error error ∧ error.rootCause = cause) ↔
      ('/' ∉ qualified.toList ∧ cause = .anonymousHandler qualified) ∨
      ('/' ∈ qualified.toList ∧ (¬ ∃ ref, Spells qualified ref) ∧
        cause = .invalidFunctionName qualified) := by
  simp only [← parse_eq_ok_iff]
  by_cases member : '/' ∈ qualified.toList
  · constructor
    · rintro ⟨error, refused, rfl⟩
      have unread : ¬ ∃ ref, parse qualified = .ok ref := by
        rintro ⟨ref, parsed⟩
        rw [parsed] at refused
        cases refused
      rw [parse_eq_malformed member unread] at refused
      cases refused
      exact .inr ⟨member, unread, rfl⟩
    · rintro (⟨absent, _⟩ | ⟨_, unread, rfl⟩)
      · exact absurd member absent
      · exact ⟨_, parse_eq_malformed member unread, rfl⟩
  · rw [parse_of_notMem member]
    constructor
    · rintro ⟨_, ⟨⟩, rfl⟩
      exact .inl ⟨member, rfl⟩
    · rintro (⟨_, rfl⟩ | ⟨found, _⟩)
      · exact ⟨_, rfl, rfl⟩
      · exact absurd found member

/-- A reference can be denoted exactly if its own name denotes it. -/
theorem parse_qualified_iff : parse ref.qualified = .ok ref ↔ ref.IsSpellable := by
  rw [parse_eq_ok_iff, spells_iff]
  constructor
  · exact And.left
  · intro spellable
    have nothing : IsSuffix "" := ⟨.inl rfl, by simp, by simp⟩
    exact ⟨spellable, "", nothing, fun _ => rfl, by simp⟩

/-- A qualified name is read exactly if it denotes a function, and the reference is the one
that it denotes.  Otherwise it is refused as that of an anonymous function, if it has no slash,
and else as malformed.  The own name of a reference that was read is the name that was read
without what follows the name of a method, which has no dash, and it is read as the same
reference.  Every reference that can be denoted at all is read from its own name. -/
theorem parse_spells :
    (∀ qualified : String,
      (∀ ref, parse qualified = .ok ref ↔ Spells qualified ref) ∧
      (∀ cause, (∃ error, parse qualified = .error error ∧ error.rootCause = cause) ↔
        ('/' ∉ qualified.toList ∧ cause = .anonymousHandler qualified) ∨
        ('/' ∈ qualified.toList ∧ (¬ ∃ ref, Spells qualified ref) ∧
          cause = .invalidFunctionName qualified)) ∧
      ∀ ref, parse qualified = .ok ref →
        (∃ suffix, qualified = ref.qualified ++ suffix ∧ IsSuffix suffix ∧
          (ref.receiver = none → suffix = "") ∧
          (ref.receiver ≠ none → '-' ∉ ref.name.toList)) ∧
        parse ref.qualified = .ok ref) ∧
    ∀ ref : HandlerRef, ref.IsSpellable → parse ref.qualified = .ok ref := by
  constructor
  · intro qualified
    refine ⟨fun ref => parse_eq_ok_iff, fun cause => refused_iff, ?_⟩
    intro ref parsed
    obtain ⟨spellable, suffix, ends, plain, rfl⟩ := spells_iff.mp (parse_eq_ok_iff.mp parsed)
    refine ⟨⟨suffix, rfl, ends, plain, fun isMethod => ?_⟩, parse_qualified_iff.mpr spellable⟩
    obtain ⟨receiver, isBound⟩ := Option.ne_none_iff_exists'.mp isMethod
    exact (spellable.bound receiver isBound).1
  · intro ref spellable
    exact parse_qualified_iff.mpr spellable

theorem parse_spells_service :
    parse "example.com/users.(*Service).Get-fm" =
      .ok ⟨"Get", "example.com/users", some ⟨"Service", true⟩⟩ ∧
    parse "example.com/users.(*Service).Get" =
      .ok ⟨"Get", "example.com/users", some ⟨"Service", true⟩⟩ ∧
    parse "example.com/users.List-all" = .ok ⟨"List-all", "example.com/users", none⟩ := by
  have parsed : parse "example.com/users.(*Service).Get-fm" =
      .ok ⟨"Get", "example.com/users", some ⟨"Service", true⟩⟩ := by decide
  have inUsers : IsIdent "users" := ⟨by decide, by decide, by decide⟩
  have named : IsIdent "List-all" := ⟨by decide, by decide, by decide⟩
  have spellable : IsSpellable ⟨"List-all", "example.com/users", none⟩ :=
    ⟨⟨"example.com", "users", by decide, inUsers⟩, named, nofun⟩
  exact ⟨parsed, ((parse_spells.1 _).2.2 _ parsed).2, parse_spells.2 _ spellable⟩

end HandlerRef

end RouteAtlas
