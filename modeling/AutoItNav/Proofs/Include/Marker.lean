import AutoItNav.Include.Directive
import AutoItNav.Proofs.Text.Trim

/-!
Marker lines of comment blocks. A marker counts in any ASCII case, with blanks in front of it and no
longer word made of it; carriage returns at the end of its line change nothing.
-/
namespace AutoItNav

open Text

theorem beginsAscii_iff {literal t : Text} :
    beginsAscii literal t = true ↔ literal.map lowerAscii <+: t.map lowerAscii := by
  induction literal generalizing t with
  | nil => simp [beginsAscii]
  | cons a literal ih =>
      cases t with
      | nil => simp [beginsAscii]
      | cons c t =>
          rw [beginsAscii, Bool.and_eq_true, ih, sameAscii, decide_eq_true_eq, List.map_cons,
            List.map_cons, List.cons_prefix_cons]

/-- Only letters are lowered, and all of them lie above the other ASCII characters. -/
theorem eq_of_lowerAscii {c d : Char} (same : lowerAscii c = d) (plain : d.toNat < 97) : c = d := by
  unfold lowerAscii at same
  split at same
  · next upper =>
      have low : 65 ≤ c.toNat := UInt32.le_iff_toNat_le.mp upper.1
      have high : c.toNat ≤ 90 := UInt32.le_iff_toNat_le.mp upper.2
      have letters : ∀ n ∈ List.range' 65 26, 97 ≤ (Char.ofNat (n + 32)).toNat := by decide
      have letter := letters c.toNat (List.mem_range'_1.mpr ⟨low, by omega⟩)
      rw [same] at letter
      omega
  · exact same

theorem length_le_of_beginsAscii {literal t : Text} (begins : beginsAscii literal t = true) :
    literal.length ≤ t.length := by
  simpa using (beginsAscii_iff.mp begins).length_le

theorem isBlank_of_returns {trail : Text} (returns : ∀ c ∈ trail, c = '\r') :
    ∀ c ∈ trail, isBlank c = true := by
  intro c member
  rw [returns c member]
  rfl

/-- Carriage returns at the end of a text do not make it begin with more. -/
theorem beginsAscii_append {literal t trail : Text} (foreign : '\r' ∉ literal)
    (returns : ∀ c ∈ trail, c = '\r') :
    beginsAscii literal (t ++ trail) = beginsAscii literal t := by
  induction literal generalizing t with
  | nil => rfl
  | cons a literal ih =>
      obtain ⟨other, later⟩ := List.ne_and_not_mem_of_not_mem_cons foreign
      cases t with
      | cons c t => rw [List.cons_append, beginsAscii, beginsAscii, ih later]
      | nil =>
          cases trail with
          | nil => rfl
          | cons c trail =>
              have apart : sameAscii a '\r' = false := by
                rw [sameAscii, decide_eq_false_iff_not]
                intro same
                exact other (eq_of_lowerAscii same (by decide)).symm
              rw [List.nil_append, beginsAscii, beginsAscii, returns c List.mem_cons_self, apart]
              rfl

namespace Include

variable {markers : List Text} {line trail : Text}

/-- Blanks, then one of the markers in any ASCII case, and nothing behind it that would make a
longer word of it. -/
def IsMarkerLine (markers : List Text) (line : Text) : Prop :=
  ∃ blank word rest, line = blank ++ (word ++ rest) ∧ (∀ c ∈ blank, isBlank c = true) ∧
    (∃ marker ∈ markers, word.map lowerAscii = marker.map lowerAscii) ∧
    ∀ c, rest.head? = some c → isAlphanumeric c = false ∧ c ≠ '-' ∧ c ≠ '_'

/-- The line opens a comment block. -/
def Opens (line : Text) : Prop := IsMarkerLine startMarkers line

/-- The line closes a comment block, if one is open. -/
def Closes (line : Text) : Prop := IsMarkerLine endMarkers line

theorem head?_of_spelled {marker word : Text} (first : marker.head? = some '#')
    (spelled : word.map lowerAscii = marker.map lowerAscii) : word.head? = some '#' := by
  have lowered := congrArg List.head? spelled
  rw [List.head?_map, List.head?_map, first] at lowered
  obtain ⟨c, front, same⟩ := Option.map_eq_some_iff.mp lowered
  rw [front, eq_of_lowerAscii same (by decide)]
  rfl

theorem isMarker_iff (marked : ∀ marker ∈ markers, marker.head? = some '#') :
    isMarker markers (trimStart line) = true ↔ IsMarkerLine markers line := by
  constructor
  · intro found
    obtain ⟨marker, member, found⟩ := List.any_eq_true.mp found
    rw [Bool.and_eq_true, Bool.not_eq_true'] at found
    obtain ⟨begins, stops⟩ := found
    refine ⟨line.takeWhile isBlank, (trimStart line).take marker.length,
      (trimStart line).drop marker.length, ?_, fun c => List.mem_takeWhile_imp,
      ⟨marker, member, ?_⟩, ?_⟩
    · rw [List.take_append_drop, trimStart, List.takeWhile_append_dropWhile]
    · have spelled := List.prefix_iff_eq_take.mp (beginsAscii_iff.mp begins)
      rw [List.length_map] at spelled
      rw [List.map_take, ← spelled]
    · intro c front
      rw [front] at stops
      simpa [and_assoc] using stops
  · rintro ⟨blank, word, rest, rfl, blanks, ⟨marker, member, spelled⟩, stops⟩
    have length : word.length = marker.length := by simpa using congrArg List.length spelled
    have start : trimStart (blank ++ (word ++ rest)) = word ++ rest := by
      have front := head?_of_spelled (marked marker member) spelled
      obtain ⟨tail, rfl⟩ := List.head?_eq_some_iff.mp front
      rw [trimStart, List.dropWhile_append_of_pos blanks]
      exact List.dropWhile_cons_of_neg (by decide)
    refine List.any_eq_true.mpr ⟨marker, member, ?_⟩
    rw [start, ← length, List.drop_left, Bool.and_eq_true, beginsAscii_iff, ← spelled,
      List.map_append]
    refine ⟨List.prefix_append .., ?_⟩
    cases rest with
    | nil => rfl
    | cons c rest => simpa [and_assoc] using stops c rfl

theorem isMarker_start_iff : isMarker startMarkers (trimStart line) = true ↔ Opens line :=
  isMarker_iff (by decide)

theorem isMarker_end_iff : isMarker endMarkers (trimStart line) = true ↔ Closes line :=
  isMarker_iff (by decide)

instance : DecidablePred Opens := fun _ => decidable_of_iff _ isMarker_start_iff

instance : DecidablePred Closes := fun _ => decidable_of_iff _ isMarker_end_iff

/-- No line is a start marker and an end marker. -/
theorem not_closes_of_opens (opens : Opens line) : ¬Closes line := by
  intro closes
  obtain ⟨first, member, found⟩ := List.any_eq_true.mp (isMarker_start_iff.mpr opens)
  obtain ⟨last, member', found'⟩ := List.any_eq_true.mp (isMarker_end_iff.mpr closes)
  rw [Bool.and_eq_true, beginsAscii_iff] at found found'
  have apart : ∀ a ∈ startMarkers, ∀ b ∈ endMarkers,
      ¬a.map lowerAscii <+: b.map lowerAscii ∧ ¬b.map lowerAscii <+: a.map lowerAscii := by decide
  obtain ⟨shorter, longer⟩ := apart first member last member'
  rcases List.prefix_or_prefix_of_prefix found.1 found'.1 with inside | inside
  · exact shorter inside
  · exact longer inside

/-- Carriage returns at the end of a line are no part of a marker. -/
theorem isMarker_append (foreign : ∀ marker ∈ markers, '\r' ∉ marker)
    (returns : ∀ c ∈ trail, c = '\r') (line : Text) :
    isMarker markers (trimStart (line ++ trail)) = isMarker markers (trimStart line) := by
  have front : ∀ rest, (rest ++ trail).head?.any (fun c => isAlphanumeric c || c = '-' || c = '_') =
      rest.head?.any fun c => isAlphanumeric c || c = '-' || c = '_' := by
    intro rest
    cases rest with
    | cons c rest => rfl
    | nil =>
        cases trail with
        | nil => rfl
        | cons c trail =>
            have plain : isAlphanumeric '\r' = false := by decide
            rw [returns c List.mem_cons_self]
            simp [plain]
  rw [trimStart_append (isBlank_of_returns returns)]
  split
  · next empty => rw [empty]
  · rw [Bool.eq_iff_iff, isMarker, isMarker, List.any_eq_true, List.any_eq_true]
    refine exists_congr fun marker => and_congr_right fun member => ?_
    rw [beginsAscii_append (foreign marker member) returns]
    cases begins : beginsAscii marker (trimStart line) with
    | false => rfl
    | true =>
        rw [List.drop_append_of_le_length (length_le_of_beginsAscii begins), front]

theorem opens_append (returns : ∀ c ∈ trail, c = '\r') : Opens (line ++ trail) ↔ Opens line := by
  rw [← isMarker_start_iff, ← isMarker_start_iff, isMarker_append (by decide) returns]

theorem closes_append (returns : ∀ c ∈ trail, c = '\r') : Closes (line ++ trail) ↔ Closes line := by
  rw [← isMarker_end_iff, ← isMarker_end_iff, isMarker_append (by decide) returns]

end Include

end AutoItNav
