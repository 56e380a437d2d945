import AutoItNav.Document.Store

/-!
The store seen through its lookups: what each operation does to the document under a URI.
-/
namespace AutoItNav.Store

variable (s : Store) (uri other : Uri)

theorem uri_of_get? {s : Store} {uri : Uri} {d : Document} (found : s.get? uri = some d) :
    d.uri = uri := by
  simpa using List.find?_some found

theorem get?_close : (s.close uri).get? other = if uri = other then none else s.get? other := by
  unfold close get?
  rw [List.find?_filter]
  split
  · next same =>
      subst other
      apply List.find?_eq_none.mpr
      intro d _
      simp
  · next differs =>
      congr 1
      funext d
      by_cases asked : d.uri = other
      · simp [asked, Ne.symm differs]
      · simp [asked]

theorem get?_insert (d : Document) :
    (s.insert d).get? uri = if d.uri = uri then some d else s.get? uri := by
  have closed := s.get?_close d.uri uri
  unfold get? at closed ⊢
  unfold insert
  rw [List.find?_cons]
  by_cases same : d.uri = uri
  · simp [same]
  · simpa [same] using closed

theorem get?_change (edits : List Edit) (version : Int) :
    (s.change uri edits version).get? other =
      if uri = other then (s.get? other).map (·.change edits version) else s.get? other := by
  unfold change get?
  rw [List.find?_map]
  have asked : ∀ d : Document,
      (if d.uri = uri then d.change edits version else d).uri = d.uri := by
    intro d
    split <;> rfl
  simp only [Function.comp_def, asked]
  cases found : s.documents.find? (fun d => decide (d.uri = other)) with
  | none => simp
  | some d =>
      have named := uri_of_get? found
      by_cases same : uri = other
      · simp [same, named]
      · simp [same, named, Ne.symm same]

/-- Changing a document that is not open leaves the whole store as it is. -/
theorem change_of_not_open {s : Store} {uri : Uri} (closed : s.get? uri = none)
    (edits : List Edit) (version : Int) : s.change uri edits version = s := by
  have absent : ∀ d ∈ s.documents, d.uri ≠ uri := by
    simpa [get?] using closed
  have kept : s.documents.map (fun d => if d.uri = uri then d.change edits version else d) =
      s.documents :=
    calc
      _ = s.documents.map id := List.map_congr_left fun d member => if_neg (absent d member)
      _ = s.documents := List.map_id _
  simp only [change, kept]

end AutoItNav.Store
