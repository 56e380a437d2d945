import AutoItNav.Settings.Patch
import Mathlib.Tactic.MkIffOfInductiveProp

/-!
What a candidate says. A setting stands under its name in one of two sections, and a member that is
null says as little as a missing one. A candidate counts if it is an object and all that it says of
known members can be read; unknown members have no part in it.
-/
namespace AutoItNav

namespace Json

variable {α : Type} {j part : Json} {name : String} {names : List String}

def IsObject (j : Json) : Prop := ∃ members, j = object members

/-- The member of that name, unless it is null. -/
def given? (name : String) (j : Json) : Option Json := (j.get? name).filter (!·.isNull)

theorem object?_eq_some {whole : Json} : j.object? = some whole ↔ j.IsObject ∧ whole = j := by
  cases j with
  | object members => simp [object?, IsObject, eq_comm]
  | _ => simp [object?, IsObject]

theorem optional_eq_some {decode : Json → Option α} {o : Option Json} {a : Option α} :
    optional decode o = some a ↔
      (∀ v, o.filter (!·.isNull) = some v → ∃ b, decode v = some b) ∧
        a = (o.filter (!·.isNull)).bind decode := by
  unfold optional
  split
  · simp [eq_comm]
  · simp [Option.filter, isNull, eq_comm]
  · next v solid =>
      have kept : (some v).filter (!·.isNull) = some v := by
        cases v with
        | null => exact absurd rfl solid
        | _ => rfl
      rw [kept]
      cases read : decode v with
      | none => simp [read]
      | some b => simp [read, eq_comm]

/-- An object of the members whose names are listed. -/
def only (names : List String) : Json → Json
  | object members => object (members.filter (names.contains ·.1))
  | j => j

def mapMembers (f : String → Json → Json) : Json → Json
  | object members => object (members.map fun (name, value) => (name, f name value))
  | j => j

theorem isObject_only : (j.only names).IsObject ↔ j.IsObject := by
  cases j <;> simp [only, IsObject]

theorem isObject_mapMembers {f : String → Json → Json} :
    (j.mapMembers f).IsObject ↔ j.IsObject := by
  cases j <;> simp [mapMembers, IsObject]

theorem isNull_only : (j.only names).isNull = j.isNull := by
  cases j <;> rfl

theorem get?_only (listed : name ∈ names) : (j.only names).get? name = j.get? name := by
  cases j with
  | object members =>
      rw [only, get?, get?, List.find?_filter]
      congr 2
      funext member
      by_cases same : member.1 = name
      · simp [same, listed]
      · simp [same]
  | _ => rfl

theorem get?_mapMembers {f : String → Json → Json} :
    (j.mapMembers f).get? name = (j.get? name).map (f name) := by
  cases j with
  | object members =>
      rw [mapMembers, get?, get?]
      induction members with
      | nil => rfl
      | cons member members ih =>
          rw [List.map_cons, List.find?_cons, List.find?_cons]
          by_cases same : member.1 = name
          · simp [same]
          · have other : (member.1 == name) = false := by simpa using same
            simp only [other]
            exact ih
  | _ => rfl

theorem given?_only (listed : name ∈ names) : (j.only names).given? name = j.given? name := by
  rw [given?, get?_only listed, given?]

theorem given?_mapMembers {f : String → Json → Json} (kept : ∀ v, (f name v).isNull = v.isNull) :
    (j.mapMembers f).given? name = (j.given? name).map (f name) := by
  rw [given?, get?_mapMembers, given?]
  cases j.get? name with
  | none => rfl
  | some v =>
      rw [Option.map_some, Option.filter, Option.filter, kept]
      split <;> rfl

end Json

/-- A known member: it has a name in a section and is read in its own way. -/
structure Member (α : Type) where
  group : String
  name : String
  read : Json → Option α

namespace Member

variable {α : Type} {m : Member α} {j : Json} {a : Option α}

def sourceDir : Member String := ⟨"navigation", "sourceDirName", Json.string?⟩

def libraryDir : Member String := ⟨"navigation", "libraryDirName", Json.string?⟩

def extension : Member String := ⟨"navigation", "scriptExtension", Json.string?⟩

def searchIncludes : Member Bool := ⟨"navigation", "searchIncludes", Json.bool?⟩

def level : Member LogLevel := ⟨"logging", "level", LogLevel.ofJson?⟩

/-- What a candidate has at the member, unless that is null. -/
def at? (m : Member α) (j : Json) : Option Json := (j.given? m.group).bind (·.given? m.name)

/-- The value that a candidate gives to the member. -/
def value? (m : Member α) (j : Json) : Option α := (m.at? j).bind m.read

def Readable (m : Member α) (j : Json) : Prop := ∀ v, m.at? j = some v → ∃ a, m.read v = some a

theorem optional_eq_some : Json.optional m.read ((j.given? m.group).bind (·.get? m.name)) = some a ↔
    m.Readable j ∧ a = m.value? j := by
  have same : ((j.given? m.group).bind (·.get? m.name)).filter (!·.isNull) = m.at? j := by
    unfold at? Json.given?
    cases (j.get? m.group).filter (!·.isNull) <;> rfl
  rw [Json.optional_eq_some, same]
  rfl

end Member

namespace Patch

variable {j : Json} {p : Patch}

/-- A candidate that counts. -/
@[mk_iff]
structure Valid (j : Json) : Prop where
  object : j.IsObject
  navigation : ∀ v, j.given? "navigation" = some v → v.IsObject
  logging : ∀ v, j.given? "logging" = some v → v.IsObject
  sourceDir : Member.sourceDir.Readable j
  libraryDir : Member.libraryDir.Readable j
  extension : Member.extension.Readable j
  searchIncludes : Member.searchIncludes.Readable j
  level : Member.level.Readable j

/-- What a candidate says of all settings. -/
def said (j : Json) : Patch :=
  { sourceDir := Member.sourceDir.value? j
    libraryDir := Member.libraryDir.value? j
    extension := Member.extension.value? j
    searchIncludes := Member.searchIncludes.value? j
    level := Member.level.value? j }

theorem optional_object? {name : String} {part : Option Json} :
    Json.optional Json.object? (j.get? name) = some part ↔
      (∀ v, j.given? name = some v → v.IsObject) ∧ part = j.given? name := by
  rw [Json.optional_eq_some]
  change (∀ v, j.given? name = some v → _) ∧ part = (j.given? name).bind _ ↔ _
  cases given : j.given? name with
  | none => simp
  | some v =>
      simp only [Option.some.injEq, forall_eq', Option.bind_some]
      cases v with
      | object members => simp [Json.object?, Json.IsObject]
      | _ => simp [Json.object?, Json.IsObject]

/-- A candidate is taken exactly if it counts, and then all that it says is. -/
theorem ofJson?_eq_some : ofJson? j = some p ↔ Valid j ∧ p = said j := by
  simp only [ofJson?, Option.bind_eq_bind, Option.bind_eq_some_iff, Json.object?_eq_some,
    optional_object?]
  constructor
  · rintro ⟨_, ⟨object, rfl⟩, _, ⟨navigation, rfl⟩, _, ⟨logging, rfl⟩, _, read, _, read', _,
      read'', _, flag, _, named, same⟩
    obtain ⟨source, rfl⟩ := (Member.optional_eq_some (m := .sourceDir)).mp read
    obtain ⟨library, rfl⟩ := (Member.optional_eq_some (m := .libraryDir)).mp read'
    obtain ⟨extension, rfl⟩ := (Member.optional_eq_some (m := .extension)).mp read''
    obtain ⟨searched, rfl⟩ := (Member.optional_eq_some (m := .searchIncludes)).mp flag
    obtain ⟨level, rfl⟩ := (Member.optional_eq_some (m := .level)).mp named
    exact ⟨⟨object, navigation, logging, source, library, extension, searched, level⟩,
      (Option.some.inj same).symm⟩
  · rintro ⟨valid, rfl⟩
    exact ⟨j, ⟨valid.object, rfl⟩, _, ⟨valid.navigation, rfl⟩, _, ⟨valid.logging, rfl⟩,
      _, Member.optional_eq_some.mpr ⟨valid.sourceDir, rfl⟩,
      _, Member.optional_eq_some.mpr ⟨valid.libraryDir, rfl⟩,
      _, Member.optional_eq_some.mpr ⟨valid.extension, rfl⟩,
      _, Member.optional_eq_some.mpr ⟨valid.searchIncludes, rfl⟩,
      _, Member.optional_eq_some.mpr ⟨valid.level, rfl⟩, rfl⟩

theorem valid_iff_isSome : Valid j ↔ (ofJson? j).isSome = true := by
  rw [Option.isSome_iff_exists]
  constructor
  · intro valid
    exact ⟨said j, ofJson?_eq_some.mpr ⟨valid, rfl⟩⟩
  · intro ⟨p, taken⟩
    exact (ofJson?_eq_some.mp taken).1

instance (j : Json) : Decidable (Valid j) := decidable_of_iff _ valid_iff_isSome.symm

theorem filterMap_ofJson? (l : List Json) :
    l.filterMap ofJson? = (l.filter (Valid ·)).map said := by
  induction l with
  | nil => rfl
  | cons j l ih =>
      by_cases valid : Valid j
      · rw [List.filterMap_cons_some (ofJson?_eq_some.mpr ⟨valid, rfl⟩),
          List.filter_cons_of_pos (by simpa using valid), List.map_cons, ih]
      · have dropped : ofJson? j = none := by
          rwa [valid_iff_isSome, Option.not_isSome_iff_eq_none] at valid
        rw [List.filterMap_cons_none dropped, List.filter_cons_of_neg (by simpa using valid), ih]

/-- The sections that have known members. -/
def groups : List String := ["navigation", "logging"]

/-- A section with its known members only. -/
def knownPart (name : String) (v : Json) : Json :=
  if name = "navigation" then
    v.only ["sourceDirName", "libraryDirName", "scriptExtension", "searchIncludes"]
  else if name = "logging" then v.only ["level"]
  else v

/-- A candidate with its known members only. -/
def known (j : Json) : Json := (j.only groups).mapMembers knownPart

theorem isObject_knownPart {name : String} : (knownPart name j).IsObject ↔ j.IsObject := by
  unfold knownPart
  split
  · exact Json.isObject_only
  · split
    · exact Json.isObject_only
    · rfl

theorem isNull_knownPart {name : String} : (knownPart name j).isNull = j.isNull := by
  unfold knownPart
  split
  · exact Json.isNull_only
  · split
    · exact Json.isNull_only
    · rfl

section Kept

variable {names : List String} {f : String → Json → Json}
  (kept : ∀ name ∈ groups, name ∈ names ∧ f name = knownPart name)
include kept

theorem given?_kept {name : String} (member : name ∈ groups) :
    ((j.only names).mapMembers f).given? name = (j.given? name).map (knownPart name) := by
  obtain ⟨listed, same⟩ := kept name member
  rw [Json.given?_mapMembers, Json.given?_only listed, same]
  intro v
  rw [same, isNull_knownPart]

theorem at?_kept {α : Type} {m : Member α} (member : m.group ∈ groups)
    (named : ∀ v, (knownPart m.group v).given? m.name = v.given? m.name) :
    m.at? ((j.only names).mapMembers f) = m.at? j := by
  rw [Member.at?, given?_kept kept member, Member.at?]
  cases j.given? m.group with
  | none => rfl
  | some v => exact named v

/-- Members that are not known are not read. -/
theorem ofJson?_kept : ofJson? ((j.only names).mapMembers f) = ofJson? j := by
  have whole : ((j.only names).mapMembers f).IsObject ↔ j.IsObject :=
    Json.isObject_mapMembers.trans Json.isObject_only
  have part : ∀ name ∈ groups,
      (∀ v, ((j.only names).mapMembers f).given? name = some v → v.IsObject) ↔
        ∀ v, j.given? name = some v → v.IsObject := by
    intro name member
    rw [given?_kept kept member]
    cases j.given? name with
    | none => simp
    | some v => simp [isObject_knownPart]
  have source := at?_kept (m := .sourceDir) (j := j) kept (by decide)
    fun v => Json.given?_only (by decide)
  have library := at?_kept (m := .libraryDir) (j := j) kept (by decide)
    fun v => Json.given?_only (by decide)
  have extension := at?_kept (m := .extension) (j := j) kept (by decide)
    fun v => Json.given?_only (by decide)
  have searched := at?_kept (m := .searchIncludes) (j := j) kept (by decide)
    fun v => Json.given?_only (by decide)
  have level := at?_kept (m := .level) (j := j) kept (by decide)
    fun v => Json.given?_only (by decide)
  apply Option.ext
  intro p
  rw [ofJson?_eq_some, ofJson?_eq_some, valid_iff, valid_iff, whole, part _ (by decide),
    part _ (by decide)]
  unfold said Member.value? Member.Readable
  rw [source, library, extension, searched, level]

end Kept

theorem ofJson?_known : ofJson? (known j) = ofJson? j := by
  apply ofJson?_kept
  intro name member
  exact ⟨member, rfl⟩

end Patch

end AutoItNav
