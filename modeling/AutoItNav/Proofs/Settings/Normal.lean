import AutoItNav.Proofs.Settings.Layout
import AutoItNav.Proofs.Text.Trim
import AutoItNav.Server.Handler

/-!
The normal form of settings. Names of directories and extensions are never empty and have no white
space at their ends, whatever the payloads were. An extension begins with no dot and is left alone
by payloads that set nothing, unless one was given that has white space among the dots in front: the
dots behind it are left standing, and each later payload takes some more of them away.
-/
namespace AutoItNav

open Text

/-- Not empty, and without white space at either end. -/
structure IsName (s : String) : Prop where
  inhabited : s.toList ≠ []
  tight : Tight s.toList

/-- Begins with a dot. -/
def Dotted (s : String) : Prop := s.toList.head? = some '.'

/-- White space stands in front of a dot, and only dots in front of that. -/
def DotsApart (s : String) : Prop :=
  ∃ dots blanks rest, trim s.toList = dots ++ blanks ++ '.' :: rest ∧ blanks ≠ [] ∧
    (∀ c ∈ dots, c = '.') ∧ ∀ c ∈ blanks, isBlank c = true

theorem isName_iff {s : String} : IsName s ↔ s.toList ≠ [] ∧ Tight s.toList :=
  ⟨fun name => ⟨name.inhabited, name.tight⟩, fun name => ⟨name.1, name.2⟩⟩

instance (s : String) : Decidable (IsName s) := decidable_of_iff _ isName_iff.symm

instance (s : String) : Decidable (Dotted s) := inferInstanceAs (Decidable (_ = _))

variable {value fallback : String}

theorem isName_nonBlankOr (name : IsName fallback) : IsName (nonBlankOr value fallback) := by
  unfold nonBlankOr
  dsimp only
  split
  · exact name
  · next inhabited =>
      constructor
      · intro empty
        exact inhabited (String.toList_eq_nil_iff.mp empty ▸ rfl)
      · rw [trimmed, String.toList_ofList]
        exact tight_trim value.toList

theorem IsName.trimmed_eq (name : IsName value) : trimmed value = value := by
  rw [trimmed, name.tight.trim_eq, String.ofList_toList]

theorem IsName.nonBlankOr_eq (name : IsName value) : nonBlankOr value fallback = value := by
  unfold nonBlankOr
  rw [name.trimmed_eq]
  apply if_neg
  intro empty
  exact name.inhabited (String.toList_eq_nil_iff.mpr (String.isEmpty_iff.mp empty))

theorem toList_undotted (s : String) :
    (undotted s).toList = (trim s.toList).dropWhile (· = '.') := by
  rw [undotted, trimmed, String.toList_ofList, String.toList_ofList]

theorem dotsApart_iff {s : String} :
    DotsApart s ↔ (trim (undotted s).toList).head? = some '.' := by
  rw [head?_trim, toList_undotted]
  constructor
  · intro apart
    obtain ⟨dots, blanks, rest, cut, inhabited, dot, blank⟩ := apart
    obtain ⟨c, blanks, rfl⟩ := List.exists_cons_of_ne_nil inhabited
    have solid : c ≠ '.' := by
      intro same
      have white := blank c List.mem_cons_self
      rw [same] at white
      cases white
    have after : (trim s.toList).dropWhile (· = '.') = c :: blanks ++ '.' :: rest := by
      rw [cut, List.append_assoc, List.dropWhile_append_of_pos (by simpa using dot)]
      exact List.dropWhile_cons_of_neg (by simpa using solid)
    rw [after, trimStart, List.dropWhile_append_of_pos blank]
    rfl
  · intro front
    obtain ⟨rest, same⟩ := List.head?_eq_some_iff.mp front
    refine ⟨(trim s.toList).takeWhile (· = '.'),
      ((trim s.toList).dropWhile (· = '.')).takeWhile isBlank, rest, ?_, ?_, ?_, ?_⟩
    · rw [List.append_assoc, ← same, trimStart, List.takeWhile_append_dropWhile,
        List.takeWhile_append_dropWhile]
    · -- without white space between them the dots would all have been dropped
      intro none
      have whole := List.takeWhile_append_dropWhile (p := isBlank)
        (l := (trim s.toList).dropWhile (· = '.'))
      rw [none, List.nil_append] at whole
      rw [trimStart, whole] at front
      simpa using head?_dropWhile front
    · intro c member
      simpa using List.mem_takeWhile_imp member
    · intro c member
      exact List.mem_takeWhile_imp member

instance (s : String) : Decidable (DotsApart s) := decidable_of_iff _ dotsApart_iff.symm

/-- The dots of a name that has any in front are apart only behind the first of them. -/
theorem IsName.dotted_of_dotsApart (name : IsName value) (apart : DotsApart value) :
    Dotted value := by
  obtain ⟨dots, blanks, rest, cut, inhabited, dot, blank⟩ := apart
  rw [name.tight.trim_eq] at cut
  unfold Dotted
  cases dots with
  | cons c dots =>
      rw [cut, dot c List.mem_cons_self]
      rfl
  | nil =>
      obtain ⟨c, blanks, rfl⟩ := List.exists_cons_of_ne_nil inhabited
      have solid := name.tight.front c (by rw [cut]; rfl)
      rw [blank c List.mem_cons_self] at solid
      cases solid

/-- An extension is left with a dot in front only if its dots are apart. -/
theorem dotted_nonBlankOr_undotted (plain : ¬Dotted fallback) :
    Dotted (nonBlankOr (undotted value) fallback) ↔ DotsApart value := by
  rw [dotsApart_iff]
  unfold nonBlankOr Dotted
  dsimp only
  split
  · next empty =>
      have none : trim (undotted value).toList = [] := by
        rw [← String.toList_ofList (l := trim _)]
        exact String.toList_eq_nil_iff.mpr (String.isEmpty_iff.mp empty)
      rw [none]
      exact iff_of_false plain (by simp)
  · rw [trimmed, String.toList_ofList]

theorem nonBlankOr_undotted_eq_iff (name : IsName value) (plain : ¬Dotted fallback) :
    nonBlankOr (undotted value) fallback = value ↔ ¬Dotted value := by
  constructor
  · intro kept dotted
    unfold nonBlankOr at kept
    dsimp only at kept
    split at kept
    · exact plain (kept ▸ dotted)
    · -- the dot in front is gone for good, so less is left than there was
      obtain ⟨rest, whole⟩ := List.head?_eq_some_iff.mp dotted
      have fewer := (rest.dropWhile_sublist (· = '.')).length_le
      have least := length_trim_le (undotted value).toList
      have back := congrArg (fun s => s.toList.length) kept
      rw [trimmed, String.toList_ofList] at back
      rw [back, toList_undotted, name.tight.trim_eq, whole,
        List.dropWhile_cons_of_pos (by simp), List.length_cons] at least
      omega
  · intro clean
    have same : undotted value = value := by
      rw [← String.ofList_toList (s := undotted value), toList_undotted, name.tight.trim_eq,
        dropWhile_of_front, String.ofList_toList]
      intro c front
      rw [decide_eq_false_iff_not]
      intro dot
      exact clean (front.trans (congrArg some dot))
    rw [same, name.nonBlankOr_eq]

/-- Directories and the extension have names. -/
structure Layout.Named (l : Layout) : Prop where
  source : IsName l.sourceDir
  library : IsName l.libraryDir
  extension : IsName l.extension

theorem Layout.standard_named : Layout.standard.Named := by
  constructor <;> decide +kernel

theorem Layout.standard_clean : ¬Dotted Layout.standard.extension := by decide +kernel

def Patch.nothing : Patch := ⟨none, none, none, none, none⟩

namespace Settings

open Layout (standard_named standard_clean)

variable {s : Settings} {payload : Json}

theorem extension_normalized (s : Settings) : s.normalized.layout.extension =
    nonBlankOr (undotted s.layout.extension) Layout.standard.extension := by
  rw [normalized]

theorem named_normalized (s : Settings) : s.normalized.layout.Named := by
  rw [normalized]
  constructor <;> dsimp only
  · exact isName_nonBlankOr standard_named.source
  · exact isName_nonBlankOr standard_named.library
  · exact isName_nonBlankOr standard_named.extension

theorem dotted_normalized :
    Dotted s.normalized.layout.extension ↔ DotsApart s.layout.extension := by
  rw [extension_normalized]
  exact dotted_nonBlankOr_undotted standard_clean

/-- Settings with names are in normal form unless the extension begins with a dot. -/
theorem normalized_eq_self_iff (named : s.layout.Named) :
    s.normalized = s ↔ ¬Dotted s.layout.extension := by
  rw [← nonBlankOr_undotted_eq_iff named.extension standard_clean]
  constructor
  · intro kept
    rw [← extension_normalized, kept]
  · intro extension
    unfold normalized
    rw [named.source.nonBlankOr_eq, named.library.nonBlankOr_eq, extension]

/-- The patches that a payload brings, in the order in which they are made. -/
def patches (payload : Json) : List Patch := (candidates payload).filterMap Patch.ofJson?

/-- None of the settings is set by the payload. -/
def SetsNothing (payload : Json) : Prop := ∀ p ∈ patches payload, p = .nothing

instance (payload : Json) : Decidable (SetsNothing payload) :=
  inferInstanceAs (Decidable (∀ _ ∈ _, _))

/-- The extension that a payload sets; the last patch that names one counts. -/
def extension? (payload : Json) : Option String :=
  ((patches payload).filterMap Patch.extension).getLast?

/-- Of several patches the last one that sets a setting counts. -/
theorem get_foldl_patched {α : Type} (get : Settings → α) (set? : Patch → Option α)
    (step : ∀ s p, get (s.patched p) = (set? p).getD (get s)) (l : List Patch) (s : Settings) :
    get (l.foldl patched s) = (l.filterMap set?).getLast?.getD (get s) := by
  induction l generalizing s with
  | nil => rfl
  | cons p l ih =>
      rw [List.foldl_cons, ih, step]
      cases set : set? p with
      | none => simp [set]
      | some a => simp [set, List.getLast?_cons]

theorem merged_of_setsNothing (quiet : SetsNothing payload) : s.merged payload = s.normalized := by
  have kept : (patches payload).foldl patched s = s := by
    unfold SetsNothing at quiet
    generalize patches payload = l at quiet
    induction l with
    | nil => rfl
    | cons p l ih =>
        obtain ⟨rfl, later⟩ := List.forall_mem_cons.mp quiet
        exact ih later
  exact congrArg normalized kept

theorem dotted_merged : Dotted (s.merged payload).layout.extension ↔
    DotsApart ((extension? payload).getD s.layout.extension) := by
  have last := get_foldl_patched (fun s => s.layout.extension) Patch.extension
    (fun _ _ => rfl) (patches payload) s
  rw [merged, dotted_normalized]
  exact last ▸ Iff.rfl

/-- Settings as they should be: no name is empty or has white space at its ends, and the extension
is written without a dot in front. -/
structure Normal (s : Settings) : Prop where
  named : s.layout.Named
  clean : ¬Dotted s.layout.extension

theorem normal_standard : Normal standard := ⟨standard_named, standard_clean⟩

/-- A payload keeps the normal form unless the dots of the extension that it sets are apart. -/
theorem Normal.merged (normal : Normal s)
    (plain : ∀ e, extension? payload = some e → ¬DotsApart e) : Normal (s.merged payload) := by
  refine ⟨named_normalized _, ?_⟩
  rw [dotted_merged]
  cases set : extension? payload with
  | some e => exact plain e set
  | none =>
      intro apart
      exact normal.clean (normal.named.extension.dotted_of_dotsApart apart)

theorem Normal.foldl_merged {payloads : List Json} (normal : Normal s)
    (plain : ∀ payload ∈ payloads, ∀ e, extension? payload = some e → ¬DotsApart e) :
    Normal (payloads.foldl Settings.merged s) := by
  induction payloads generalizing s with
  | nil => exact normal
  | cons payload payloads ih =>
      obtain ⟨first, later⟩ := List.forall_mem_cons.mp plain
      rw [List.foldl_cons]
      exact ih (normal.merged first) later

/-- The settings that the options of a session and the payloads after them lead to. -/
def told (options : Option Json) (payloads : List Json) : Settings :=
  payloads.foldl merged (initial options)

theorem told_eq (options : Option Json) (payloads : List Json) :
    told options payloads = (options.toList ++ payloads).foldl merged standard := by
  rw [told, List.foldl_append]
  cases options <;> rfl

theorem named_foldl_merged {payloads : List Json} (named : s.layout.Named) :
    (payloads.foldl merged s).layout.Named := by
  induction payloads generalizing s with
  | nil => exact named
  | cons payload payloads ih =>
      rw [List.foldl_cons]
      exact ih (named_normalized _)

/-- Names are names after all payloads, and one more payload that sets nothing changes nothing
exactly when the extension has no dot in front. That is so unless a payload sets an extension with
its dots apart; such a payload is then handled without a new value for the settings. -/
theorem normal_told (options : Option Json) (payloads : List Json) :
    (told options payloads).layout.Named ∧
      (∀ quiet, SetsNothing quiet →
        ((told options payloads).merged quiet = told options payloads ↔
          ¬Dotted (told options payloads).layout.extension)) ∧
      ((∀ payload ∈ options.toList ++ payloads,
          ∀ e, extension? payload = some e → ¬DotsApart e) →
        ¬Dotted (told options payloads).layout.extension ∧
          ∀ quiet, SetsNothing quiet →
            (told options payloads).merged quiet = told options payloads ∧
              ∀ shared : Server.Shared, shared.settings = told options payloads →
                (Server.configurationHandler quiet).resume shared = (shared, .finished)) := by
  have named : (told options payloads).layout.Named := by
    rw [told_eq]
    exact named_foldl_merged normal_standard.named
  have kept : ∀ quiet, SetsNothing quiet →
      ((told options payloads).merged quiet = told options payloads ↔
        ¬Dotted (told options payloads).layout.extension) := by
    intro quiet nothing
    rw [merged_of_setsNothing nothing]
    exact normalized_eq_self_iff named
  refine ⟨named, kept, ?_⟩
  intro plain
  have normal : Normal (told options payloads) := by
    rw [told_eq]
    exact normal_standard.foldl_merged plain
  refine ⟨normal.clean, ?_⟩
  intro quiet nothing
  have same := (kept quiet nothing).mpr normal.clean
  refine ⟨same, ?_⟩
  intro shared holds
  simp [Server.configurationHandler, Server.Handler.resume, Server.Handler.settle, holds, same]

/-- White space behind the dots in front is taken away with them, white space alone is no name, and
a null sets nothing. -/
theorem normal_told_trimmed :
    let options : Json := .object [("navigation", .object
      [("sourceDirName", .string " \u00A0"), ("scriptExtension", .string "\t.. a. ")])]
    let payload : Json := .object [("au3-analyzer", .object [("navigation", .object
      [("libraryDirName", .string " my lib")])])]
    let quiet : Json := .object [("navigation", .object
      [("scriptExtension", .null), ("other", .integer 1)])]
    let settings : Settings := ⟨⟨"src", "my lib", "a.", true⟩, .info⟩
    told (some options) [payload] = settings ∧ SetsNothing quiet ∧
      (Server.configurationHandler quiet).resume ⟨.empty, settings⟩ =
        (⟨.empty, settings⟩, .finished) := by
  intro options payload quiet settings
  have reached : told (some options) [payload] = settings := by decide +kernel
  have nothing : SetsNothing quiet := by decide +kernel
  have first : extension? options = some "\t.. a. " := by decide +kernel
  have second : extension? payload = none := by decide +kernel
  have plain : ∀ p ∈ (some options).toList ++ [payload],
      ∀ e, extension? p = some e → ¬DotsApart e := by
    intro p member e set
    rcases List.mem_cons.mp member with rfl | member
    · obtain rfl := Option.some.inj (first.symm.trans set)
      decide +kernel
    · obtain rfl := List.mem_singleton.mp member
      cases second.symm.trans set
  obtain ⟨_, _, settled⟩ := normal_told (some options) [payload]
  obtain ⟨_, handled⟩ := (settled plain).2 quiet nothing
  exact ⟨reached, nothing, handled ⟨.empty, settings⟩ reached.symm⟩

/-- With white space between its dots, an extension keeps the second of them until another payload
comes, even one that sets nothing. -/
theorem dotted_told_apart :
    let options : Json := .object [("navigation", .object [("scriptExtension", .string ". .x")])]
    let quiet : Json := .object []
    SetsNothing quiet ∧ (told (some options) []).layout.extension = ".x" ∧
      ((told (some options) []).merged quiet).layout.extension = "x" ∧
      (told (some options) []).merged quiet ≠ told (some options) [] := by
  decide +kernel

end Settings

end AutoItNav
