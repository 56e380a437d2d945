import AutoItNav.Proofs.Include.Select
import AutoItNav.Proofs.Path.Meaning
import Mathlib.Order.Bounds.Basic

/-!
Which candidate a directive means. A quoted target means the file at its place in the document's
directory before any other candidate that ends with it; a library target the first that ends with
it, wherever the document is. Further candidates take nothing away from those that are there.
-/
namespace AutoItNav.Include

variable {d : Include} {dir : Option Path} {target p w folder : Path} {candidates : List Path}
  {i : Nat} {f : Path → Bool}

/-- Where a target is in a directory. An absolute one is there by itself. -/
def place? (target : Path) (dir : Option Path) : Option Path :=
  if target.isAbsolute then some target else dir.map fun folder => (folder.join target).normalized

/-- The place of a target in normal form is where the target itself leads, in normal form. -/
theorem place?_eq (p : Path) (dir : Option Path) : place? p.normalized dir =
    (if p.isAbsolute then some p else dir.map (·.join p)).map Path.normalized := by
  rw [place?, p.isAbsolute_normalized]
  split
  · rfl
  · rw [Option.map_map]
    congr 1
    funext folder
    exact Path.normalized_join_normalized folder p

theorem place?_normalized (p folder : Path) :
    place? p.normalized (some folder) = some (folder.join p).normalized := by
  rw [place?_eq]
  split
  · next absolute => rw [Path.join, if_pos absolute]; rfl
  · rfl

/-- The indices of the candidates that pass a test. -/
def indices (candidates : List Path) (f : Path → Bool) : Set Nat :=
  {i | ∃ c, candidates[i]? = some c ∧ f c = true}

theorem findIdx?_eq_some_iff_isLeast :
    candidates.findIdx? f = some i ↔ IsLeast (indices candidates f) i := by
  rw [List.findIdx?_eq_some_iff_getElem]
  constructor
  · rintro ⟨inside, holds, least⟩
    refine ⟨⟨candidates[i], List.getElem?_eq_getElem inside, holds⟩, ?_⟩
    rintro j ⟨c, listed, holds'⟩
    by_contra before
    obtain ⟨inside', rfl⟩ := List.getElem?_eq_some_iff.mp listed
    exact least j (Nat.lt_of_not_le before) holds'
  · rintro ⟨⟨c, listed, holds⟩, least⟩
    obtain ⟨inside, rfl⟩ := List.getElem?_eq_some_iff.mp listed
    refine ⟨inside, holds, ?_⟩
    intro j before holds'
    have after : i ≤ j := least ⟨_, List.getElem?_eq_getElem (by omega), holds'⟩
    omega

theorem FirstOfKind.isLeast (first : FirstOfKind candidates i) :
    ∃ c, candidates[i]? = some c ∧ IsLeast (indices candidates (·.same c)) i := by
  obtain ⟨kind, alike, found⟩ := first
  obtain ⟨⟨c, listed, holds⟩, least⟩ := findIdx?_eq_some_iff_isLeast.mp found
  refine ⟨c, listed, ⟨c, listed, Path.same_iff.mpr rfl⟩, ?_⟩
  rintro j ⟨q, listed', same⟩
  exact least ⟨q, listed', (alike q c same).trans holds⟩

theorem besideIn?_eq : besideIn? target dir candidates =
    (place? target dir).bind fun w => candidates.findIdx? (·.same w) := by
  rw [besideIn?, place?]
  split <;> rfl

theorem besideIn?_of_place (place : place? target dir = some w) :
    besideIn? target dir candidates = candidates.findIdx? (·.same w) := by
  rw [besideIn?_eq, place, Option.bind_some]

theorem besideIn?_eq_none_iff : besideIn? target dir candidates = none ↔
    ∀ w, place? target dir = some w → ∀ c ∈ candidates, ¬c.same w = true := by
  rw [besideIn?_eq, Option.bind_eq_none_iff]
  simp only [List.findIdx?_eq_none_iff, Bool.not_eq_true]

theorem trailingIn?_of_absolute (absolute : target.isAbsolute = true) :
    trailingIn? target candidates = none := if_pos absolute

theorem trailingIn?_of_relative (relative : target.isAbsolute = false) :
    trailingIn? target candidates = candidates.findIdx? (·.endsWith target) :=
  if_neg (by simp [relative])

theorem trailingIn?_eq_none_iff : trailingIn? target candidates = none ↔
    (target.isAbsolute = false → ∀ c ∈ candidates, ¬c.endsWith target = true) := by
  cases rooted : target.isAbsolute with
  | true => simp [trailingIn?_of_absolute rooted]
  | false => simp [trailingIn?_of_relative rooted, List.findIdx?_eq_none_iff]

theorem resolve?_of_quoted (named : d.targetPath.normalized.bytes ≠ [])
    (quoted : d.kind = .quoted) :
    d.resolve? dir candidates = (besideIn? d.targetPath.normalized dir candidates).or
      (trailingIn? d.targetPath.normalized candidates) := by
  rw [resolve?, if_neg (by simpa using named), quoted]
  exact Option.orElse_eq_or

theorem resolve?_of_library (named : d.targetPath.normalized.bytes ≠ [])
    (library : d.kind = .library) :
    d.resolve? dir candidates = (trailingIn? d.targetPath.normalized candidates).or
      (besideIn? d.targetPath.normalized dir candidates) := by
  rw [resolve?, if_neg (by simpa using named), library]
  exact Option.orElse_eq_or

/-- What is at the place of a target that does not lead up ends with the target. -/
theorem endsWith_of_place (relative : p.isAbsolute = false)
    (down : p.normalized.components.head? ≠ some .parent)
    (place : place? p.normalized dir = some w) {c : Path} (here : c.same w = true) :
    c.endsWith p.normalized = true := by
  rw [place?, if_neg (by simp [Path.isAbsolute_normalized, relative])] at place
  obtain ⟨folder, _, rfl⟩ := Option.map_eq_some_iff.mp place
  rw [Path.endsWith_iff, Path.same_iff.mp here, Path.components_normalized_join relative down]
  exact List.suffix_append ..

/-- A library target that does not lead up is not looked for beside the document. -/
theorem resolve?_of_down (named : d.targetPath.normalized.bytes ≠ []) (library : d.kind = .library)
    (relative : d.targetPath.normalized.isAbsolute = false)
    (down : d.targetPath.normalized.components.head? ≠ some .parent) :
    d.resolve? dir candidates = candidates.findIdx? (·.endsWith d.targetPath.normalized) := by
  have relative' : d.targetPath.isAbsolute = false :=
    d.targetPath.isAbsolute_normalized.symm.trans relative
  rw [resolve?_of_library named library, trailingIn?_of_relative relative]
  cases found : candidates.findIdx? (·.endsWith d.targetPath.normalized) with
  | some i => rfl
  | none =>
      rw [Option.none_or, besideIn?_eq_none_iff]
      intro w place c member here
      have missed := List.findIdx?_eq_none_iff.mp found c member
      rw [endsWith_of_place relative' down place here] at missed
      cases missed

theorem resolve?_eq_none_iff (named : d.targetPath.normalized.bytes ≠ []) :
    d.resolve? dir candidates = none ↔
      (∀ w, place? d.targetPath.normalized dir = some w → ∀ c ∈ candidates, ¬c.same w = true) ∧
      (d.targetPath.normalized.isAbsolute = false →
        ∀ c ∈ candidates, ¬c.endsWith d.targetPath.normalized = true) := by
  rw [← besideIn?_eq_none_iff, ← trailingIn?_eq_none_iff]
  cases kind : d.kind with
  | quoted => rw [resolve?_of_quoted named kind, Option.or_eq_none_iff]
  | library => rw [resolve?_of_library named kind, Option.or_eq_none_iff, and_comm]

theorem resolve?_at_place (named : d.targetPath.normalized.bytes ≠ []) (quoted : d.kind = .quoted)
    (place : place? d.targetPath.normalized dir = some w)
    (present : ∃ c ∈ candidates, c.same w = true) :
    ∃ i, d.resolve? dir candidates = some i ∧ IsLeast (indices candidates (·.same w)) i := by
  cases found : candidates.findIdx? (·.same w) with
  | none =>
      obtain ⟨c, member, here⟩ := present
      rw [List.findIdx?_eq_none_iff.mp found c member] at here
      cases here
  | some i =>
      refine ⟨i, ?_, findIdx?_eq_some_iff_isLeast.mp found⟩
      rw [resolve?_of_quoted named quoted, besideIn?_of_place place, found, Option.some_or]

theorem resolve?_of_no_place (named : d.targetPath.normalized.bytes ≠ [])
    (quoted : d.kind = .quoted)
    (absent : ∀ w, place? d.targetPath.normalized dir = some w →
      ∀ c ∈ candidates, ¬c.same w = true) :
    d.resolve? dir candidates = candidates.findIdx? (·.endsWith d.targetPath.normalized) := by
  rw [resolve?_of_quoted named quoted, besideIn?_eq_none_iff.mpr absent, Option.none_or]
  cases rooted : d.targetPath.normalized.isAbsolute with
  | false => exact trailingIn?_of_relative rooted
  | true =>
      rw [trailingIn?_of_absolute rooted, eq_comm, List.findIdx?_eq_none_iff]
      intro c member
      rw [← Bool.not_eq_true, Path.endsWith_of_absolute rooted]
      exact absent _ (if_pos rooted) c member

/-- The rules by which a directive finds its candidate, the directory and the candidates being any:
the index is the first of its path; a quoted target means what is at its place, or else the first
candidate that ends with it; a library target that does not lead up means that first candidate in
every directory; and nothing is found only where neither is there. -/
theorem resolve?_precedence (dir : Option Path) (candidates : List Path)
    (named : d.targetPath.normalized.bytes ≠ []) :
    let target := d.targetPath.normalized
    let found := d.resolve? dir candidates
    (∀ i, found = some i →
        ∃ c, candidates[i]? = some c ∧ IsLeast (indices candidates (·.same c)) i) ∧
      (d.kind = .quoted →
        (∀ w, place? target dir = some w → (∃ c ∈ candidates, c.same w = true) →
          ∃ i, found = some i ∧ IsLeast (indices candidates (·.same w)) i) ∧
        ((∀ w, place? target dir = some w → ∀ c ∈ candidates, ¬c.same w = true) →
          ∀ i, found = some i ↔ IsLeast (indices candidates (·.endsWith target)) i)) ∧
      (d.kind = .library → target.isAbsolute = true ∨ target.components.head? ≠ some .parent →
        (∀ dir', d.resolve? dir' candidates = found) ∧
        (target.isAbsolute = false →
          ∀ i, found = some i ↔ IsLeast (indices candidates (·.endsWith target)) i)) ∧
      (found = none ↔
        (∀ w, place? target dir = some w → ∀ c ∈ candidates, ¬c.same w = true) ∧
        (target.isAbsolute = false → ∀ c ∈ candidates, ¬c.endsWith target = true)) := by
  intro target found
  refine ⟨?_, ?_, ?_, resolve?_eq_none_iff named⟩
  · intro i here
    exact (firstOfKind_resolve? here).isLeast
  · intro quoted
    refine ⟨fun w place present => resolve?_at_place named quoted place present, ?_⟩
    intro absent i
    rw [← findIdx?_eq_some_iff_isLeast, ← resolve?_of_no_place named quoted absent]
  · intro library shape
    cases rooted : target.isAbsolute with
    | true =>
        refine ⟨?_, fun relative => by cases relative⟩
        intro dir'
        have anywhere : ∀ dir, place? target dir = some target := fun _ => if_pos rooted
        dsimp only [found]
        rw [resolve?_of_library named library, resolve?_of_library named library,
          besideIn?_of_place (anywhere dir'), besideIn?_of_place (anywhere dir)]
    | false =>
        have down := shape.resolve_left (by simp [rooted])
        have trailing : ∀ dir, d.resolve? dir candidates =
            candidates.findIdx? (·.endsWith target) :=
          fun _ => resolve?_of_down named library rooted down
        refine ⟨fun dir' => (trailing dir').trans (trailing dir).symm, ?_⟩
        intro _ i
        rw [← findIdx?_eq_some_iff_isLeast, ← trailing dir]

/-- The file beside the document comes second among the candidates. -/
theorem resolve?_precedence_beside :
    let candidates : List Path := [.ofString "/p/lib/b.au3", .ofString "/p/src/b.au3"]
    let quoted : Include := ⟨".\\b.au3".toList, .quoted, 0⟩
    let library : Include := ⟨"./b.au3".toList, .library, 0⟩
    quoted.targetPath.normalized.bytes ≠ [] ∧ library.targetPath.normalized.bytes ≠ [] ∧
      (∃ i, quoted.resolve? (some (.ofString "/p/src")) candidates = some i ∧
        IsLeast (indices candidates (·.same (.ofString "/p/src/b.au3"))) i) ∧
      ∀ dir, library.resolve? dir candidates = some 0 := by
  intro candidates quoted library
  have named : quoted.targetPath.normalized.bytes ≠ [] := by decide +kernel
  have named' : library.targetPath.normalized.bytes ≠ [] := by decide +kernel
  obtain ⟨_, beside, _⟩ := resolve?_precedence (some (.ofString "/p/src")) candidates named
  obtain ⟨_, _, trailing, _⟩ := resolve?_precedence none candidates named'
  refine ⟨named, named', ?_, ?_⟩
  · exact (beside rfl).1 _ (by decide +kernel) ⟨_, List.mem_cons_of_mem _ List.mem_cons_self, rfl⟩
  · intro dir
    rw [(trailing rfl (.inr (by decide +kernel))).1 dir]
    decide +kernel

theorem findIdx?_append_of_some {library : List Path} (found : candidates.findIdx? f = some i) :
    (candidates ++ library).findIdx? f = some i := by
  rw [List.findIdx?_append, found, Option.some_or]

variable {library : List Path}

theorem besideIn?_append (found : besideIn? target dir candidates = some i) :
    besideIn? target dir (candidates ++ library) = some i := by
  rw [besideIn?_eq] at found ⊢
  obtain ⟨w, place, found⟩ := Option.bind_eq_some_iff.mp found
  exact Option.bind_eq_some_iff.mpr ⟨w, place, findIdx?_append_of_some found⟩

theorem trailingIn?_append (found : trailingIn? target candidates = some i) :
    trailingIn? target (candidates ++ library) = some i := by
  unfold trailingIn? at found ⊢
  split
  · next absolute => rwa [if_pos absolute] at found
  · next relative =>
      rw [if_neg relative] at found
      exact findIdx?_append_of_some found

/-- No settled path ends with a target that leads up. -/
theorem down_of_endsWith {c : Path} (settled : c.Settled) (ends : c.endsWith target = true) :
    target.components.head? ≠ some .parent := by
  intro up
  have member := List.mem_of_head? up
  exact settled.parent_not_mem ((Path.endsWith_iff.mp ends).subset member)

/-- The place of a target that does not lead up is below the directory. -/
theorem below_of_place (named : p.normalized.bytes ≠ []) (relative : p.isAbsolute = false)
    (down : p.normalized.components.head? ≠ some .parent)
    (place : place? p.normalized (some folder) = some w) {c : Path} (here : c.same w = true) :
    c.Below folder.normalized := by
  have relative' : p.normalized.isAbsolute = false := p.isAbsolute_normalized.trans relative
  rw [place?, if_neg (by simp [relative'])] at place
  obtain rfl := Option.some.inj place
  have whole := Path.same_iff.mp here
  refine ⟨?_, p.normalized.components, ?_, ?_⟩
  · rw [Path.isAbsolute_congr whole, Path.isAbsolute_normalized, Path.isAbsolute_normalized,
      Path.isAbsolute_join relative']
  · intro none
    rw [Path.components_normalized] at none
    rw [Path.normalized, none] at named
    exact named rfl
  · rw [whole, Path.components_normalized_join relative down]

theorem exists_of_besideIn? (found : besideIn? target dir candidates = some i) :
    ∃ w, place? target dir = some w ∧ ∃ c ∈ candidates, c.same w = true := by
  obtain ⟨w, place, found⟩ := Option.bind_eq_some_iff.mp (besideIn?_eq.symm.trans found)
  obtain ⟨inside, here, _⟩ := List.findIdx?_eq_some_iff_getElem.mp found
  exact ⟨w, place, _, List.getElem_mem inside, here⟩

theorem exists_of_trailingIn? (found : trailingIn? target candidates = some i) :
    target.isAbsolute = false ∧ ∃ c ∈ candidates, c.endsWith target = true := by
  unfold trailingIn? at found
  split at found
  · cases found
  · next relative =>
      obtain ⟨inside, ends, _⟩ := List.findIdx?_eq_some_iff_getElem.mp found
      exact ⟨by simpa using relative, _, List.getElem_mem inside, ends⟩

/-- Where a target that does not lead up is at no place of its own, files outside the directory put
none there. -/
theorem besideIn?_append_of_none (named : p.normalized.bytes ≠ []) (relative : p.isAbsolute = false)
    (down : p.normalized.components.head? ≠ some .parent)
    (outside : ∀ folder, dir = some folder → ∀ c ∈ library, ¬c.Below folder.normalized)
    (apart : besideIn? p.normalized dir candidates = none) :
    besideIn? p.normalized dir (candidates ++ library) = none := by
  rw [besideIn?_eq_none_iff] at apart ⊢
  intro w place c member here
  rcases List.mem_append.mp member with before | added
  · exact apart w place c before here
  · have relative' : p.normalized.isAbsolute = false := p.isAbsolute_normalized.trans relative
    have joined := place
    rw [place?, if_neg (by simp [relative'])] at joined
    obtain ⟨folder, located, _⟩ := Option.map_eq_some_iff.mp joined
    rw [located] at place
    exact outside folder located c added (below_of_place named relative down place here)

/-- Where a target has a place but nothing ends with it, it leads up or is absolute, and then no
settled path ends with it. -/
theorem trailingIn?_append_of_none (settled : ∀ c ∈ library, c.Settled)
    (beside : besideIn? p.normalized dir candidates = some i)
    (missed : trailingIn? p.normalized candidates = none) :
    trailingIn? p.normalized (candidates ++ library) = none := by
  rw [trailingIn?_eq_none_iff] at missed ⊢
  intro relative c member ends
  rcases List.mem_append.mp member with before | added
  · exact missed relative c before ends
  · obtain ⟨w, place, c', member', here⟩ := exists_of_besideIn? beside
    have down := down_of_endsWith (settled c added) ends
    have relative' := p.isAbsolute_normalized.symm.trans relative
    exact missed relative c' member' (endsWith_of_place relative' down place here)

theorem named_of_resolve? (found : d.resolve? dir candidates = some i) :
    d.targetPath.normalized.bytes ≠ [] := by
  intro none
  rw [resolve?, if_pos (by simp [none])] at found
  cases found

/-- What a directive means among the scripts of one tree it still means when another tree is added
that has no file below the document's directory. -/
theorem resolve?_append (settled : ∀ p ∈ candidates ++ library, p.Settled)
    (outside : ∀ folder, dir = some folder → ∀ p ∈ library, ¬p.Below folder.normalized)
    (found : d.resolve? dir candidates = some i) :
    d.resolve? dir (candidates ++ library) = some i := by
  have named := named_of_resolve? found
  cases kind : d.kind with
  | quoted =>
      rw [resolve?_of_quoted named kind, Option.or_eq_some_iff] at found ⊢
      rcases found with beside | ⟨apart, trailing⟩
      · exact .inl (besideIn?_append beside)
      · obtain ⟨relative, c, member, ends⟩ := exists_of_trailingIn? trailing
        have down := down_of_endsWith (settled c (List.mem_append_left library member)) ends
        have relative' := d.targetPath.isAbsolute_normalized.symm.trans relative
        exact .inr ⟨besideIn?_append_of_none named relative' down outside apart,
          trailingIn?_append trailing⟩
  | library =>
      rw [resolve?_of_library named kind, Option.or_eq_some_iff] at found ⊢
      rcases found with trailing | ⟨missed, beside⟩
      · exact .inl (trailingIn?_append trailing)
      · have others : ∀ p ∈ library, p.Settled :=
          fun p member => settled p (List.mem_append_right candidates member)
        exact .inr ⟨trailingIn?_append_of_none others beside missed, besideIn?_append beside⟩

/-- A library file that the target leads up to, and one of the same name in another project. -/
theorem resolve?_append_leading_up :
    let d : Include := ⟨"..\\lib\\c.au3".toList, .library, 0⟩
    let here : Path := .ofString "/p/lib/c.au3"
    let there : Path := .ofString "/q/lib/c.au3"
    let dir : Path := .ofString "/p/src"
    (here.Settled ∧ there.Settled ∧ ¬there.Below dir.normalized) ∧
      d.resolve? (some dir) [here] = some 0 ∧
        d.resolve? (some dir) ([here] ++ [there]) = some 0 := by
  intro d here there dir
  have settled : here.Settled ∧ there.Settled := ⟨⟨rfl, by decide +kernel⟩, rfl, by decide +kernel⟩
  have outside : ¬there.Below dir.normalized := by
    rintro ⟨_, lower, _, whole⟩
    have start : dir.normalized.components <+: there.components := ⟨lower, whole.symm⟩
    revert start
    decide +kernel
  have found : d.resolve? (some dir) [here] = some 0 := by decide +kernel
  refine ⟨⟨settled.1, settled.2, outside⟩, found, ?_⟩
  apply resolve?_append _ _ found
  · intro p member
    rcases List.mem_cons.mp member with rfl | member
    · exact settled.1
    · obtain rfl := List.mem_singleton.mp member
      exact settled.2
  · intro folder located p member
    obtain rfl := Option.some.inj located
    obtain rfl := List.mem_singleton.mp member
    exact outside

end AutoItNav.Include
