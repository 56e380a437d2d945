import AutoItNav.Proofs.Include.Precedence
import AutoItNav.Proofs.Text.Trim

/-!
The two separators in targets. In a relative target either one divides names wherever it stands; an
absolute target is a path as it is written, and in it only one of them does.
-/
namespace AutoItNav.Include

open Text

/-- The separator that is not `c`; what is none stays as it is. -/
def otherSeparator (c : Char) : Char := if c = '\\' then '/' else if c = '/' then '\\' else c

/-- A text with its separators exchanged at the chosen places. -/
def exchanged (chosen : Nat → Bool) (t : Text) : Text :=
  t.mapIdx fun i c => if chosen i then otherSeparator c else c

/-- What a character is to a relative target. -/
def slashed (c : Char) : Char := if isSeparator c then '/' else c

variable {chosen : Nat → Bool} {d d' : Include} {t : Text}

theorem slashed_otherSeparator (c : Char) : slashed (otherSeparator c) = slashed c := by
  unfold otherSeparator
  split
  · next back =>
      subst back
      rfl
  · split
    · next forward =>
        subst forward
        rfl
    · rfl

theorem isBlank_slashed (c : Char) : isBlank (slashed c) = isBlank c := by
  unfold slashed
  split
  · next separator =>
      rw [isSeparator, Bool.or_eq_true, decide_eq_true_eq, decide_eq_true_eq] at separator
      rcases separator with rfl | rfl
      · decide
      · rfl
  · rfl

theorem map_slashed_exchanged (chosen : Nat → Bool) (t : Text) :
    (exchanged chosen t).map slashed = t.map slashed := by
  apply List.ext_getElem?
  intro i
  rw [List.getElem?_map, List.getElem?_map, exchanged, List.getElem?_mapIdx, Option.map_map]
  congr 1
  funext c
  rw [Function.comp_apply]
  split
  · exact slashed_otherSeparator c
  · rfl

/-- Targets that differ in their separators only are trimmed alike. -/
theorem map_slashed_trim {t t' : Text} (same : t.map slashed = t'.map slashed) :
    (trim t).map slashed = (trim t').map slashed := by
  rw [← trim_map isBlank_slashed, ← trim_map isBlank_slashed, same]

theorem length_takeWhile_exchanged (chosen : Nat → Bool) (t : Text) :
    ((exchanged chosen t).takeWhile isBlank).length = (t.takeWhile isBlank).length := by
  have blanks : ∀ t : Text, (t.takeWhile isBlank).length =
      ((t.map slashed).takeWhile isBlank).length := by
    intro t
    have same : isBlank ∘ slashed = isBlank := funext isBlank_slashed
    rw [List.takeWhile_map, List.length_map, same]
  rw [blanks, map_slashed_exchanged, ← blanks]

/-- A target begins as before if the exchange leaves its first character alone. -/
theorem head?_trim_exchanged (first : chosen (t.takeWhile isBlank).length = false) :
    (trim (exchanged chosen t)).head? = (trim t).head? := by
  rw [head?_trim, head?_trim, head?_trimStart, head?_trimStart, length_takeWhile_exchanged,
    exchanged, List.getElem?_mapIdx, first]
  exact Option.map_id_apply

theorem targetPath_of_absolute (absolute : (trim d.target).head? = some '/') :
    d.targetPath = .ofText (trim d.target) := if_pos absolute

theorem targetPath_congr (relative : (trim d.target).head? ≠ some '/')
    (relative' : (trim d'.target).head? ≠ some '/')
    (same : d.target.map slashed = d'.target.map slashed) : d.targetPath = d'.targetPath := by
  have names := map_slashed_trim same
  rw [targetPath, targetPath]
  dsimp only
  rw [if_neg relative, if_neg relative']
  change ((pieces '/' ((trim d.target).map slashed)).filter (· ≠ [])).foldl _ _ = _
  rw [names]
  rfl

/-- What a directive means follows from its kind and from the place that its target names. -/
theorem resolve?_congr (same : d.targetPath = d'.targetPath) (kind : d.kind = d'.kind)
    (dir : Option Path) (candidates : List Path) :
    d.resolve? dir candidates = d'.resolve? dir candidates := by
  rw [resolve?, resolve?, same, kind]

theorem isAbsolute_ofText {t : Text} (absolute : t.head? = some '/') :
    (Path.ofText t).isAbsolute = true := by
  obtain ⟨rest, rfl⟩ := List.head?_eq_some_iff.mp absolute
  rfl

theorem named_of_absolute (absolute : (trim d.target).head? = some '/') :
    d.targetPath.normalized.isAbsolute = true ∧ d.targetPath.normalized.bytes ≠ [] := by
  have rooted : d.targetPath.normalized.isAbsolute = true := by
    rw [Path.isAbsolute_normalized, targetPath_of_absolute absolute, isAbsolute_ofText absolute]
  obtain ⟨rest, bytes⟩ := Path.exists_bytes_of_isAbsolute rooted
  exact ⟨rooted, by simp [bytes]⟩

/-- An absolute target means the first candidate that is at its place, whatever its delimiters. -/
theorem resolve?_of_absolute (absolute : (trim d.target).head? = some '/') (dir : Option Path)
    (candidates : List Path) :
    d.resolve? dir candidates = candidates.findIdx? (·.same d.targetPath.normalized) := by
  obtain ⟨rooted, named⟩ := named_of_absolute absolute
  have place : place? d.targetPath.normalized dir = some d.targetPath.normalized := if_pos rooted
  cases kind : d.kind with
  | quoted =>
      rw [resolve?_of_quoted named kind, besideIn?_of_place place, trailingIn?_of_absolute rooted,
        Option.or_none]
  | library =>
      rw [resolve?_of_library named kind, besideIn?_of_place place, trailingIn?_of_absolute rooted,
        Option.none_or]

/-- Absolute targets mean the same among all candidates only if their normal forms do. -/
theorem resolve?_absolute_iff (absolute : (trim d.target).head? = some '/')
    (absolute' : (trim d'.target).head? = some '/') :
    (∀ dir candidates, d.resolve? dir candidates = d'.resolve? dir candidates) ↔
      d.targetPath.normalized.same d'.targetPath.normalized = true := by
  simp only [resolve?_of_absolute absolute, resolve?_of_absolute absolute']
  constructor
  · intro alike
    have found := alike none [d.targetPath.normalized]
    have here : d.targetPath.normalized.same d.targetPath.normalized = true :=
      Path.same_iff.mpr rfl
    rw [List.findIdx?_singleton, List.findIdx?_singleton, here, if_pos rfl] at found
    by_contra apart
    rw [if_neg apart] at found
    cases found
  · intro same dir candidates
    have steps := Path.same_iff.mp same
    simp only [Path.same, steps]

/-- Which separator stands where makes no difference to a target that is not absolute, unless the
exchange makes it one. To an absolute one it makes none if the normal form stays the same. -/
theorem resolve?_exchanged (t : Text) (first : chosen (t.takeWhile isBlank).length = false)
    (kind : IncludeKind) (number : UInt32) :
    let d : Include := ⟨t, kind, number⟩
    let d' : Include := ⟨exchanged chosen t, kind, number⟩
    ((trim t).head? ≠ some '/' →
        ∀ dir candidates, d'.resolve? dir candidates = d.resolve? dir candidates) ∧
      ((trim t).head? = some '/' →
        ((∀ dir candidates, d'.resolve? dir candidates = d.resolve? dir candidates) ↔
          (Path.ofText (trim (exchanged chosen t))).normalized.same
            (Path.ofText (trim t)).normalized = true)) := by
  intro d d'
  have front := head?_trim_exchanged first
  constructor
  · intro relative dir candidates
    have relative' : (trim d'.target).head? ≠ some '/' := front ▸ relative
    have path : d'.targetPath = d.targetPath :=
      targetPath_congr relative' relative (map_slashed_exchanged chosen t)
    exact resolve?_congr path rfl dir candidates
  · intro absolute
    have absolute' : (trim d'.target).head? = some '/' := front.trans absolute
    rw [resolve?_absolute_iff absolute' absolute, targetPath_of_absolute absolute',
      targetPath_of_absolute (d := d) absolute]

/-- A relative target with both separators exchanged, and an absolute one in which the step up at
the root hides that a name has become longer. -/
theorem resolve?_exchanged_up :
    let t := " ..\\lib/c.au3".toList
    let chosen : Nat → Bool := fun i => i ≠ 1
    let rooted := "/x/y/../../c.au3".toList
    let second : Nat → Bool := fun i => i = 2
    chosen (t.takeWhile isBlank).length = false ∧ second (rooted.takeWhile isBlank).length = false ∧
      exchanged chosen t = " ../lib\\c.au3".toList ∧
      exchanged second rooted = "/x\\y/../../c.au3".toList ∧
      (∀ dir candidates, (⟨exchanged chosen t, .library, 0⟩ : Include).resolve? dir candidates =
        (⟨t, .library, 0⟩ : Include).resolve? dir candidates) ∧
      ∀ dir candidates, (⟨exchanged second rooted, .quoted, 0⟩ : Include).resolve? dir candidates =
        (⟨rooted, .quoted, 0⟩ : Include).resolve? dir candidates := by
  intro t chosen rooted second
  have first : chosen (t.takeWhile isBlank).length = false := by decide +kernel
  have first' : second (rooted.takeWhile isBlank).length = false := by decide +kernel
  refine ⟨first, first', by decide +kernel, by decide +kernel, ?_, ?_⟩
  · exact (resolve?_exchanged t first .library 0).1 (by decide +kernel)
  · apply ((resolve?_exchanged rooted first' .quoted 0).2 (by decide +kernel)).mpr
    decide +kernel

/-- A backslash divides no names in an absolute target, so the file is not found. -/
theorem unresolved_of_backslash :
    let t := "/p\\src/b.au3".toList
    let chosen : Nat → Bool := fun i => i = 2
    let dir : Path := .ofString "/p/src"
    let candidates : List Path := [.ofString "/p/lib/b.au3", .ofString "/p/src/b.au3"]
    chosen (t.takeWhile isBlank).length = false ∧ exchanged chosen t = "/p/src/b.au3".toList ∧
      (⟨t, .quoted, 0⟩ : Include).resolve? (some dir) candidates = none ∧
      (⟨exchanged chosen t, .quoted, 0⟩ : Include).resolve? (some dir) candidates = some 1 := by
  decide +kernel

end AutoItNav.Include
