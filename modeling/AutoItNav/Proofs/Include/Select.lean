import AutoItNav.Include.Resolve
import Mathlib.Data.List.Basic
import Mathlib.Data.Option.Basic

/-!
Which scripts are included: those that a directive of the document refers to, each once and in the
order of the first reference.
-/
namespace AutoItNav.Include

/-- `order` takes each of the `mentions` once, by its first one. -/
structure FirstMentions (mentions order : List Nat) : Prop where
  mem : ∀ i, i ∈ order ↔ i ∈ mentions
  ordered : order.Pairwise fun i j => mentions.idxOf i < mentions.idxOf j

theorem FirstMentions.nodup {mentions order : List Nat} (first : FirstMentions mentions order) :
    order.Nodup := by
  apply first.ordered.imp
  rintro i _ before rfl
  exact Nat.lt_irrefl _ before

theorem FirstMentions.unique {mentions order order' : List Nat}
    (first : FirstMentions mentions order) (first' : FirstMentions mentions order') :
    order = order' := by
  have perm : order.Perm order' := by
    apply (List.perm_ext_iff_of_nodup first.nodup first'.nodup).mpr
    intro i
    rw [first.mem, first'.mem]
  apply perm.eq_of_pairwise _ first.ordered first'.ordered
  intro i j _ _ before after
  omega

variable {seen l : List Nat} {i : Nat}

theorem mem_firstUses : i ∈ firstUses seen l ↔ i ∈ l ∧ i ∉ seen := by
  induction l generalizing seen with
  | nil => simp [firstUses]
  | cons j l ih =>
      rw [firstUses]
      split
      · next known =>
          rw [List.contains_iff_mem] at known
          rw [ih, List.mem_cons]
          constructor
          · rintro ⟨later, fresh⟩
            exact ⟨.inr later, fresh⟩
          · rintro ⟨rfl | later, fresh⟩
            · exact absurd known fresh
            · exact ⟨later, fresh⟩
      · next unknown =>
          rw [List.contains_iff_mem] at unknown
          rw [List.mem_cons, ih, List.mem_cons, List.mem_cons, not_or]
          constructor
          · rintro (rfl | ⟨later, _, fresh⟩)
            · exact ⟨.inl rfl, unknown⟩
            · exact ⟨.inr later, fresh⟩
          · rintro ⟨rfl | later, fresh⟩
            · exact .inl rfl
            · by_cases same : i = j
              · exact .inl same
              · exact .inr ⟨later, same, fresh⟩

theorem ordered_firstUses (seen l : List Nat) :
    (firstUses seen l).Pairwise fun i j => l.idxOf i < l.idxOf j := by
  induction l generalizing seen with
  | nil => exact List.Pairwise.nil
  | cons j l ih =>
      -- one more mention in front moves every other number one place back
      have moved : ∀ seen, j ∈ seen → (firstUses seen l).Pairwise
          fun i k => (j :: l).idxOf i < (j :: l).idxOf k := by
        intro seen known
        apply (ih seen).imp_of_mem
        intro i k member member' before
        have other : ∀ i ∈ firstUses seen l, j ≠ i := by
          rintro _ member rfl
          exact (mem_firstUses.mp member).2 known
        rw [List.idxOf_cons_ne _ (other i member), List.idxOf_cons_ne _ (other k member')]
        exact Nat.succ_lt_succ before
      rw [firstUses]
      split
      · next known => exact moved seen (List.contains_iff_mem.mp known)
      · refine List.pairwise_cons.mpr ⟨?_, moved _ List.mem_cons_self⟩
        intro k member
        have other : j ≠ k := by
          rintro rfl
          exact (mem_firstUses.mp member).2 List.mem_cons_self
        rw [List.idxOf_cons_self, List.idxOf_cons_ne _ other]
        exact Nat.succ_pos _

theorem firstMentions_firstUses (l : List Nat) : FirstMentions l (firstUses [] l) := by
  refine ⟨?_, ordered_firstUses [] l⟩
  intro i
  simp [mem_firstUses]

/-- The candidate with index `i` is the first of a kind, and paths with the same components are of
the same kind. -/
def FirstOfKind (candidates : List Path) (i : Nat) : Prop :=
  ∃ kind : Path → Bool, (∀ p q, p.same q = true → kind p = kind q) ∧
    candidates.findIdx? kind = some i

theorem FirstOfKind.lt {candidates : List Path} (first : FirstOfKind candidates i) :
    i < candidates.length := by
  obtain ⟨kind, _, found⟩ := first
  exact (List.findIdx?_eq_some_iff_getElem.mp found).1

/-- Of candidates with the same components only one is the first of a kind. -/
theorem FirstOfKind.unique {candidates : List Path} {j : Nat} {p q : Path}
    (first : FirstOfKind candidates i) (second : FirstOfKind candidates j)
    (here : candidates[i]? = some p) (there : candidates[j]? = some q) (same : p.same q = true) :
    i = j := by
  obtain ⟨kind, alike, found⟩ := first
  obtain ⟨kind', alike', found'⟩ := second
  obtain ⟨inside, holds, least⟩ := List.findIdx?_eq_some_iff_getElem.mp found
  obtain ⟨inside', holds', least'⟩ := List.findIdx?_eq_some_iff_getElem.mp found'
  obtain rfl : candidates[i] = p := (List.getElem_eq_iff inside).mpr here
  obtain rfl : candidates[j] = q := (List.getElem_eq_iff inside').mpr there
  rcases Nat.lt_trichotomy i j with before | equal | after
  · exact absurd ((alike' _ _ same).trans holds') (least' i before)
  · exact equal
  · exact absurd ((alike _ _ same).symm.trans holds) (least j after)

theorem firstOfKind_besideIn? {target : Path} {dir : Option Path} {candidates : List Path}
    (found : besideIn? target dir candidates = some i) : FirstOfKind candidates i := by
  obtain ⟨wanted, found⟩ : ∃ wanted, candidates.findIdx? (·.same wanted) = some i := by
    rw [besideIn?] at found
    split at found
    · exact ⟨target, found⟩
    · obtain ⟨wanted, _, found⟩ := Option.bind_eq_some_iff.mp found
      exact ⟨wanted, found⟩
  refine ⟨(·.same wanted), ?_, found⟩
  intro p q same
  have steps : p.components = q.components := of_decide_eq_true same
  simp only [Path.same, steps]

theorem firstOfKind_trailingIn? {target : Path} {candidates : List Path}
    (found : trailingIn? target candidates = some i) : FirstOfKind candidates i := by
  rw [trailingIn?] at found
  split at found
  · cases found
  · refine ⟨(·.endsWith target), ?_, found⟩
    intro p q same
    have steps : p.components = q.components := of_decide_eq_true same
    simp only [Path.endsWith, steps]

theorem firstOfKind_resolve? {d : Include} {dir : Option Path} {candidates : List Path}
    (found : d.resolve? dir candidates = some i) : FirstOfKind candidates i := by
  simp only [resolve?] at found
  split at found
  · cases found
  · split at found
    all_goals rw [Option.orElse_eq_some] at found
    · rcases found with beside | ⟨_, trailing⟩
      · exact firstOfKind_besideIn? beside
      · exact firstOfKind_trailingIn? trailing
    · rcases found with trailing | ⟨_, beside⟩
      · exact firstOfKind_trailingIn? trailing
      · exact firstOfKind_besideIn? beside

/-- The candidates that the directives of a text refer to, directive by directive. -/
def mentions (t : Text) (dir : Option Path) (candidates : List Path) : List Nat :=
  (parseText t).filterMap (resolve? · dir (candidates.map Path.normalized))

theorem firstOfKind_of_mem_mentions {t : Text} {dir : Option Path} {candidates : List Path}
    (member : i ∈ mentions t dir candidates) :
    FirstOfKind (candidates.map Path.normalized) i := by
  obtain ⟨d, _, found⟩ := List.mem_filterMap.mp member
  exact firstOfKind_resolve? found

/-- What a text includes out of the candidates. -/
def Included (t : Text) (dir : Option Path) (candidates included : List Path) : Prop :=
  ∃ order, FirstMentions (mentions t dir candidates) order ∧
    included.map some = order.map (candidates[·]?)

theorem included_select (t : Text) (dir : Option Path) (candidates : List Path) :
    Included t dir candidates (select t dir candidates) := by
  have first := firstMentions_firstUses (mentions t dir candidates)
  refine ⟨_, first, ?_⟩
  change ((firstUses [] (mentions t dir candidates)).filterMap (candidates[·]?)).map some = _
  rw [List.map_filterMap_some_eq_filter_map_isSome, List.filter_eq_self]
  intro script member
  obtain ⟨i, listed, rfl⟩ := List.mem_map.mp member
  have inside := (firstOfKind_of_mem_mentions ((first.mem i).mp listed)).lt
  rw [List.length_map] at inside
  simp [inside]

theorem Included.mem {t : Text} {dir : Option Path} {candidates included : List Path} {p : Path}
    (includes : Included t dir candidates included) (member : p ∈ included) : p ∈ candidates := by
  obtain ⟨order, _, same⟩ := includes
  have listed : some p ∈ included.map some := List.mem_map.mpr ⟨p, member, rfl⟩
  rw [same] at listed
  obtain ⟨i, _, found⟩ := List.mem_map.mp listed
  exact List.mem_of_getElem? found

theorem mem_select {t : Text} {dir : Option Path} {candidates : List Path} {p : Path} :
    p ∈ select t dir candidates ↔ ∃ d ∈ parseText t, ∃ i,
      d.resolve? dir (candidates.map Path.normalized) = some i ∧ candidates[i]? = some p := by
  constructor
  · intro member
    obtain ⟨i, taken, listed⟩ := List.mem_filterMap.mp member
    obtain ⟨d, written, found⟩ := List.mem_filterMap.mp (mem_firstUses.mp taken).1
    exact ⟨d, written, i, found, listed⟩
  · rintro ⟨d, written, i, found, listed⟩
    refine List.mem_filterMap.mpr ⟨i, mem_firstUses.mpr ⟨?_, List.not_mem_nil⟩, listed⟩
    exact List.mem_filterMap.mpr ⟨d, written, found⟩

/-- What the indices taken have to do with each other, the scripts that they stand for have. -/
theorem pairwise_included {candidates included : List Path} {order : List Nat}
    {R : Path → Path → Prop} (same : included.map some = order.map (candidates[·]?))
    (apart : order.Pairwise fun i j => ∀ p q, candidates[i]? = some p →
      candidates[j]? = some q → R p q) : included.Pairwise R := by
  have scripts : (included.map some).Pairwise fun o o' => ∀ p q, o = some p → o' = some q →
      R p q := by
    rw [same]
    exact List.pairwise_map.mpr apart
  apply (List.pairwise_map.mp scripts).imp
  intro p q related
  exact related p q rfl rfl

/-- No script is included twice, however its path is spelled. -/
theorem Included.distinct {t : Text} {dir : Option Path} {candidates included : List Path}
    (includes : Included t dir candidates included) :
    included.Pairwise fun p q => ¬p.normalized.same q.normalized = true := by
  obtain ⟨order, first, same⟩ := includes
  apply pairwise_included same
  apply first.nodup.imp_of_mem
  intro i j member member' other p q here there alike
  have kind := firstOfKind_of_mem_mentions ((first.mem i).mp member)
  have kind' := firstOfKind_of_mem_mentions ((first.mem j).mp member')
  apply other
  apply kind.unique kind' _ _ alike
  · rw [List.getElem?_map, here]
    rfl
  · rw [List.getElem?_map, there]
    rfl

/-- The candidate that a directive means. -/
def referent? (d : Include) (dir : Option Path) (candidates : List Path) : Option Path :=
  (d.resolve? dir (candidates.map Path.normalized)).bind (candidates[·]?)

/-- The number of the first directive that means the script `p`. -/
def firstMention (t : Text) (dir : Option Path) (candidates : List Path) (p : Path) : Nat :=
  (parseText t).findIdx fun d => d.referent? dir candidates = some p

/-- A directive means the script of an index that one resolves to only if it resolves to it. -/
theorem referent?_eq_some {t : Text} {dir : Option Path} {candidates : List Path} {p : Path}
    (mentioned : i ∈ mentions t dir candidates) (here : candidates[i]? = some p) (d : Include) :
    d.referent? dir candidates = some p ↔
      d.resolve? dir (candidates.map Path.normalized) = some i := by
  constructor
  · intro means
    obtain ⟨j, found, there⟩ := Option.bind_eq_some_iff.mp means
    have listed : ∀ k : Nat, candidates[k]? = some p →
        (candidates.map Path.normalized)[k]? = some p.normalized := by
      intro k place
      rw [List.getElem?_map, place]
      rfl
    rw [found, (firstOfKind_resolve? found).unique (firstOfKind_of_mem_mentions mentioned)
      (listed j there) (listed i here) (decide_eq_true rfl)]
  · intro found
    rw [referent?, found, Option.bind_some, here]

theorem firstMention_eq {t : Text} {dir : Option Path} {candidates : List Path} {p : Path}
    (mentioned : i ∈ mentions t dir candidates) (here : candidates[i]? = some p) :
    firstMention t dir candidates p =
      (parseText t).findIdx fun d => d.resolve? dir (candidates.map Path.normalized) = some i := by
  unfold firstMention
  congr 1
  funext d
  exact decide_eq_decide.mpr (referent?_eq_some mentioned here d)

/-- Directives that resolve to nothing do not change which of two indices is mentioned first. -/
theorem findIdx_lt_of_idxOf_filterMap {f : Include → Option Nat} {ds : List Include} {i j : Nat}
    (before : (ds.filterMap f).idxOf i < (ds.filterMap f).idxOf j) :
    (ds.findIdx fun d => f d = some i) < ds.findIdx fun d => f d = some j := by
  induction ds with
  | nil => exact absurd before (Nat.lt_irrefl _)
  | cons d ds ih =>
      rw [List.findIdx_cons, List.findIdx_cons]
      cases found : f d with
      | none =>
          rw [List.filterMap_cons_none found] at before
          simpa using ih before
      | some k =>
          rw [List.filterMap_cons_some found] at before
          have other : k ≠ j := by
            rintro rfl
            rw [List.idxOf_cons_self] at before
            exact Nat.not_lt_zero _ before
          have later : decide (some k = some j) = false := by simp [other]
          by_cases same : k = i
          · rw [same] at later ⊢
            rw [later, decide_eq_true rfl]
            exact Nat.succ_pos _
          · have later' : decide (some k = some i) = false := by simp [same]
            rw [List.idxOf_cons_ne _ same, List.idxOf_cons_ne _ other] at before
            rw [later, later']
            exact Nat.succ_lt_succ (ih (Nat.lt_of_succ_lt_succ before))

/-- The scripts that a text includes are the candidates that its directives mean, in the order of
the first directive for each, and no two of them are one file. -/
theorem select_by_first_mention (t : Text) (dir : Option Path) (candidates : List Path) :
    let included := select t dir candidates
    (∀ p, p ∈ included ↔ ∃ d ∈ parseText t, ∃ i,
        d.resolve? dir (candidates.map Path.normalized) = some i ∧ candidates[i]? = some p) ∧
      (included.Pairwise fun p q =>
        firstMention t dir candidates p < firstMention t dir candidates q) ∧
      included.Pairwise fun p q => ¬p.normalized.same q.normalized = true := by
  intro included
  have includes := included_select t dir candidates
  refine ⟨fun _ => mem_select, ?_, includes.distinct⟩
  obtain ⟨order, first, same⟩ := includes
  apply pairwise_included same
  apply first.ordered.imp_of_mem
  intro i j member member' before p q here there
  rw [firstMention_eq ((first.mem i).mp member) here,
    firstMention_eq ((first.mem j).mp member') there]
  exact findIdx_lt_of_idxOf_filterMap before

end AutoItNav.Include
