import AutoItNav.Proofs.Settings.Member
import AutoItNav.Proofs.Settings.Normal

/-!
The last word on a setting. Payloads are taken one after another, and of all candidates that count
the last one that gives a value to a setting decides it, however the payloads were cut into
candidates and normalized in between.
-/
namespace AutoItNav

open Layout (standard_named)

/-- The value that the last of all candidates to give one gives to the member. -/
def Member.last? {α : Type} (m : Member α) (payloads : List Json) : Option α :=
  (((payloads.flatMap Settings.candidates).filter (Patch.Valid ·)).filterMap m.value?).getLast?

namespace Settings

variable {s : Settings} {payload : Json} {payloads : List Json}

/-- A setting with the member that sets it. What normalizing makes of a value stays as it is, and so
does the value to begin with. -/
structure Field (α : Type) where
  member : Member α
  set? : Patch → Option α
  get : Settings → α
  settle : α → α
  set?_said : ∀ j, set? (Patch.said j) = member.value? j
  get_patched : ∀ s p, get (s.patched p) = (set? p).getD (get s)
  get_normalized : ∀ s, get s.normalized = settle (get s)
  settle_settle : ∀ a, settle (settle a) = settle a
  settle_standard : settle (get standard) = get standard

namespace Field

def sourceDir : Field String where
  member := .sourceDir
  set? := Patch.sourceDir
  get s := s.layout.sourceDir
  settle a := nonBlankOr a Layout.standard.sourceDir
  set?_said _ := rfl
  get_patched _ _ := rfl
  get_normalized _ := by rw [normalized]
  settle_settle _ := (isName_nonBlankOr standard_named.source).nonBlankOr_eq
  settle_standard := standard_named.source.nonBlankOr_eq

def libraryDir : Field String where
  member := .libraryDir
  set? := Patch.libraryDir
  get s := s.layout.libraryDir
  settle a := nonBlankOr a Layout.standard.libraryDir
  set?_said _ := rfl
  get_patched _ _ := rfl
  get_normalized _ := by rw [normalized]
  settle_settle _ := (isName_nonBlankOr standard_named.library).nonBlankOr_eq
  settle_standard := standard_named.library.nonBlankOr_eq

def searchIncludes : Field Bool where
  member := .searchIncludes
  set? := Patch.searchIncludes
  get s := s.layout.searchIncludes
  settle := id
  set?_said _ := rfl
  get_patched _ _ := rfl
  get_normalized _ := by rw [normalized, id]
  settle_settle _ := rfl
  settle_standard := rfl

def level : Field LogLevel where
  member := .level
  set? := Patch.level
  get := Settings.level
  settle := id
  set?_said _ := rfl
  get_patched _ _ := rfl
  get_normalized _ := by rw [normalized, id]
  settle_settle _ := rfl
  settle_standard := rfl

end Field

theorem patches_eq (payload : Json) :
    patches payload = ((candidates payload).filter (Patch.Valid ·)).map Patch.said :=
  Patch.filterMap_ofJson? (candidates payload)

namespace Field

variable {α : Type} (f : Field α)

theorem filterMap_patches (payload : Json) :
    (patches payload).filterMap f.set? =
      ((candidates payload).filter (Patch.Valid ·)).filterMap f.member.value? := by
  rw [patches_eq, List.filterMap_map]
  congr 1
  funext j
  exact f.set?_said j

theorem get_merged (s : Settings) (payload : Json) :
    f.get (s.merged payload) =
      f.settle ((f.member.last? [payload]).getD (f.get s)) := by
  have last := get_foldl_patched f.get f.set? f.get_patched (patches payload) s
  rw [filterMap_patches] at last
  rw [merged, f.get_normalized, Member.last?, List.flatMap_singleton]
  exact congrArg f.settle last

theorem last?_cons (m : Member α) (payload : Json) (payloads : List Json) :
    m.last? (payload :: payloads) = (m.last? payloads).or (m.last? [payload]) := by
  unfold Member.last?
  rw [List.flatMap_cons, List.flatMap_singleton, List.filter_append, List.filterMap_append,
    List.getLast?_append]

/-- The last word over a row of payloads, from settings that normalizing leaves alone. -/
theorem get_foldl_merged (settled : f.settle (f.get s) = f.get s) :
    f.get (payloads.foldl merged s) = (f.member.last? payloads).elim (f.get s) f.settle := by
  induction payloads generalizing s with
  | nil => rfl
  | cons payload payloads ih =>
      have first := f.get_merged s payload
      rw [List.foldl_cons, ih (by rw [first, f.settle_settle]), last?_cons]
      generalize f.member.last? [payload] = here at first ⊢
      cases f.member.last? payloads with
      | some a => rw [Option.some_or, Option.elim_some, Option.elim_some]
      | none =>
          rw [Option.none_or, Option.elim_none, first]
          cases here with
          | some a => rfl
          | none => exact settled

theorem get_foldl_merged_standard (payloads : List Json) :
    f.get (payloads.foldl merged standard) =
      (f.member.last? payloads).elim (f.get standard) f.settle :=
  f.get_foldl_merged f.settle_standard

end Field

/-- A payload with its known members only, those in the server's own section included. -/
def known (payload : Json) : Json :=
  (payload.only (sectionName :: Patch.groups)).mapMembers fun name v =>
    if name = sectionName then Patch.known v else Patch.knownPart name v

theorem patches_known (payload : Json) : patches (known payload) = patches payload := by
  have whole : Patch.ofJson? (known payload) = Patch.ofJson? payload := by
    apply Patch.ofJson?_kept
    intro name member
    have other : name ≠ sectionName := by
      rintro rfl
      exact absurd member (by decide)
    refine ⟨List.mem_cons_of_mem _ member, ?_⟩
    funext v
    rw [if_neg other]
  have own : (known payload).get? sectionName =
      (payload.get? sectionName).map Patch.known := by
    rw [known, Json.get?_mapMembers, Json.get?_only List.mem_cons_self]
    simp only [↓reduceIte]
  unfold patches candidates
  rw [List.filterMap_cons, List.filterMap_cons, whole, own]
  cases payload.get? sectionName with
  | none => rfl
  | some v =>
      have same : Patch.ofJson? (Patch.known v) = Patch.ofJson? v := Patch.ofJson?_known
      simp only [Option.map_some, Option.toList_some, List.filterMap_cons, same]

/-- The server's own section alone says nothing but what is in it. -/
theorem patches_scoped {p : Json} (bare : p.get? sectionName = none) :
    patches (.object [(sectionName, p)]) = .nothing :: patches p := by
  have outer : Patch.ofJson? (.object [(sectionName, p)]) = some .nothing := by
    rw [← Patch.ofJson?_known]
    rfl
  have inner : (Json.object [(sectionName, p)]).get? sectionName = some p := by
    simp [Json.get?]
  unfold patches candidates
  rw [List.filterMap_cons_some outer, inner, bare]
  rfl

/-- After any payloads a setting is what the last candidate that counts and gives it a value makes
of it, and what it was to begin with if none does. A candidate that does not count has no part in
any setting, and neither has an unknown member; a payload in the server's own section means the
same as the payload itself. -/
theorem last_writer_wins (payloads : List Json) :
    let settings := payloads.foldl merged standard
    settings.layout.sourceDir = (Member.sourceDir.last? payloads).elim Layout.standard.sourceDir
        (nonBlankOr · Layout.standard.sourceDir) ∧
      settings.layout.libraryDir = (Member.libraryDir.last? payloads).elim
        Layout.standard.libraryDir (nonBlankOr · Layout.standard.libraryDir) ∧
      settings.layout.searchIncludes = (Member.searchIncludes.last? payloads).getD true ∧
      settings.level = (Member.level.last? payloads).getD .info ∧
      (∀ s payload payload',
        (candidates payload).filter (Patch.Valid ·) = (candidates payload').filter (Patch.Valid ·) →
          merged s payload = merged s payload') ∧
      (∀ s payload, merged s (known payload) = merged s payload) ∧
      ∀ s p, p.get? sectionName = none →
        merged s (.object [(sectionName, p)]) = merged s p := by
  intro settings
  have flag : ∀ {α : Type} (last : Option α) (a : α), last.elim a id = last.getD a := by
    intro α last a
    cases last <;> rfl
  have merged_eq : ∀ s payload, merged s payload = ((patches payload).foldl patched s).normalized :=
    fun _ _ => rfl
  refine ⟨?_, ?_, ?_, ?_, ?_, ?_, ?_⟩
  · have source := Field.sourceDir.get_foldl_merged_standard payloads
    simp only [Field.sourceDir] at source
    exact source
  · have library := Field.libraryDir.get_foldl_merged_standard payloads
    simp only [Field.libraryDir] at library
    exact library
  · rw [← flag]
    exact Field.searchIncludes.get_foldl_merged_standard payloads
  · rw [← flag]
    exact Field.level.get_foldl_merged_standard payloads
  · intro s payload payload' same
    rw [merged_eq, merged_eq, patches_eq, patches_eq, same]
  · intro s payload
    rw [merged_eq, merged_eq, patches_known]
  · intro s p bare
    rw [merged_eq, merged_eq, patches_scoped bare]
    rfl

/-- A blank name in the own section overrides a good one beside it, a library of the wrong type
leaves the section beside it alone, and null sets no level. -/
theorem last_writer_wins_scoped :
    let first : Json := .object
      [("navigation", .object
        [("sourceDirName", .string " code "), ("searchIncludes", .bool false)]),
      ("au3-analyzer", .object [("navigation", .object [("sourceDirName", .string "\u00A0")])])]
    let second : Json := .object
      [("navigation", .object [("libraryDirName", .integer 5)]),
      ("au3-analyzer", .object [("logging", .object [("level", .string "debug")])])]
    let third : Json := .object
      [("logging", .object [("level", .null), ("other", .bool true)])]
    let settings := [first, second, third].foldl merged standard
    settings.layout.sourceDir = "src" ∧ settings.layout.libraryDir = "lib" ∧
      settings.layout.searchIncludes = false ∧ settings.level = .debug ∧
      merged settings (.object [("au3-analyzer", third)]) = merged settings third := by
  intro first second third settings
  obtain ⟨source, library, searched, level, _, _, own⟩ := last_writer_wins [first, second, third]
  refine ⟨source.trans ?_, library.trans ?_, searched.trans ?_, level.trans ?_, ?_⟩
  · decide +kernel
  · decide +kernel
  · decide +kernel
  · decide +kernel
  · exact own settings third rfl

end Settings

end AutoItNav
