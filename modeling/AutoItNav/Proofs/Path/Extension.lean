import AutoItNav.Files.Scan
import AutoItNav.Proofs.Text.Pieces
import AutoItNav.Text.CaseFold

/-!
Extensions of file names. The bytes behind the last dot of a name fit an extension if they are text
that differs from it in the case of ASCII letters only.
-/
namespace AutoItNav

/-- The file name is something, a dot and the extension, in whatever case its ASCII letters are. -/
def Path.EndsIn (p : Path) (extension : Text) : Prop :=
  ∃ base spelled, base ≠ [] ∧ dot ∉ Utf8.encode spelled ∧
    p.fileName? = some (base ++ dot :: Utf8.encode spelled) ∧
    spelled.map lowerAscii = extension.map lowerAscii

theorem Path.extension?_eq_some_iff {p : Path} {ending : Bytes} :
    p.extension? = some ending ↔
      ∃ base, base ≠ [] ∧ dot ∉ ending ∧ p.fileName? = some (base ++ dot :: ending) := by
  constructor
  · intro found
    obtain ⟨name, named, found⟩ := Option.bind_eq_some_iff.mp found
    dsimp only at found
    split at found
    · next short =>
        have longer : (name.reverse.takeWhile (· ≠ dot)).length ≠ name.reverse.length := by
          rw [List.length_reverse]
          omega
        obtain ⟨back, front, cut, foreign⟩ := exists_append_separator longer
        rw [cut, takeWhile_append_separator foreign] at short found
        obtain rfl := Option.some.inj found
        have whole := congrArg List.reverse cut
        rw [List.reverse_append, List.reverse_cons, List.reverse_reverse, List.append_assoc]
          at whole
        refine ⟨front.reverse, ?_, by simpa using foreign, whole ▸ named⟩
        rintro none
        rw [whole, none] at short
        simp at short
    · cases found
  · rintro ⟨base, some, foreign, named⟩
    have back : (base ++ dot :: ending).reverse = ending.reverse ++ dot :: base.reverse := by simp
    have foreign' : dot ∉ ending.reverse := by simpa using foreign
    have length := List.length_pos_iff.mpr some
    rw [extension?, named, Option.bind_eq_bind, Option.bind_some]
    dsimp only
    rw [back, takeWhile_append_separator foreign', if_pos, List.reverse_reverse]
    simp only [List.length_reverse, List.length_append, List.length_cons]
    omega

theorem lowerByte_lt_iff (b : UInt8) : lowerByte b < 128 ↔ b < 128 := by
  have every : ∀ n < 256, lowerByte (UInt8.ofNat n) < 128 ↔ UInt8.ofNat n < 128 := by
    decide +kernel
  simpa using every b.toNat b.toNat_lt

theorem lowerByte_of_le {b : UInt8} (high : 128 ≤ b) : lowerByte b = b := by
  unfold lowerByte
  rw [if_neg]
  rintro ⟨_, low⟩
  exact absurd (UInt8.le_trans high low) (by decide)

theorem map_lowerByte_of_le {bytes : Bytes} (high : ∀ b ∈ bytes, 128 ≤ b) :
    bytes.map lowerByte = bytes := by
  rw [List.map_congr_left fun b member => lowerByte_of_le (high b member), List.map_id']

theorem le_of_mem_utf8EncodeChar {c : Char} {b : UInt8} (high : 128 ≤ c.toNat)
    (member : b ∈ String.utf8EncodeChar c) : 128 ≤ b := by
  rw [Char.toNat] at high
  simp only [String.utf8EncodeChar] at member
  rw [UInt8.le_iff_toNat_le]
  split at member
  · omega
  · repeat' split at member
    all_goals
      simp only [List.mem_cons, List.not_mem_nil, or_false] at member
      rcases member with rfl | rfl | rfl | rfl <;> simp <;> omega

theorem lowerAscii_of_le {c : Char} (high : 128 ≤ c.toNat) : lowerAscii c = c := by
  unfold lowerAscii
  rw [if_neg]
  rintro ⟨_, low⟩
  have low : c.toNat ≤ 90 := UInt32.le_iff_toNat_le.mp low
  omega

theorem utf8EncodeChar_injective : Function.Injective String.utf8EncodeChar := by
  intro c d same
  have found := List.utf8DecodeChar?_utf8Encode_singleton (c := c)
  rw [List.utf8Encode_singleton, same, ← List.utf8Encode_singleton,
    List.utf8DecodeChar?_utf8Encode_singleton] at found
  exact (Option.some.inj found).symm

/-- Lowering the bytes of a character is lowering the character. -/
theorem map_lowerByte_utf8EncodeChar (c : Char) :
    (String.utf8EncodeChar c).map lowerByte = String.utf8EncodeChar (lowerAscii c) := by
  by_cases ascii : c.toNat < 128
  · have every : ∀ n < 128, (String.utf8EncodeChar (Char.ofNat n)).map lowerByte =
        String.utf8EncodeChar (lowerAscii (Char.ofNat n)) := by
      decide +kernel
    simpa using every c.toNat ascii
  · rw [Nat.not_lt] at ascii
    rw [lowerAscii_of_le ascii, map_lowerByte_of_le fun b => le_of_mem_utf8EncodeChar ascii]

theorem map_lowerByte_encode (t : Text) :
    (Utf8.encode t).map lowerByte = Utf8.encode (t.map lowerAscii) := by
  simp only [Utf8.encode, List.map_flatMap, List.flatMap_map, map_lowerByte_utf8EncodeChar]

theorem exists_char_of_map_lowerByte {bytes : Bytes} {c : Char}
    (same : bytes.map lowerByte = (String.utf8EncodeChar c).map lowerByte) :
    ∃ d, bytes = String.utf8EncodeChar d ∧ lowerAscii d = lowerAscii c := by
  by_cases ascii : c.toNat < 128
  · have single : String.utf8EncodeChar c = [c.val.toUInt8] :=
      String.utf8EncodeChar_eq_singleton
        (Char.utf8Size_eq_one_iff.mpr (UInt32.le_iff_toNat_le.mpr (Nat.le_of_lt_succ ascii)))
    rw [single, List.map_singleton, List.map_eq_singleton_iff] at same
    obtain ⟨b, rfl, lowered⟩ := same
    have low : b < 128 := by
      rw [← lowerByte_lt_iff, lowered, lowerByte_lt_iff, UInt8.lt_iff_toNat_lt,
        UInt32.toNat_toUInt8]
      exact (Nat.mod_le ..).trans_lt ascii
    have every : ∀ n < 128, [UInt8.ofNat n] = String.utf8EncodeChar (Char.ofNat n) := by
      decide +kernel
    have spelled : [b] = String.utf8EncodeChar (Char.ofNat b.toNat) := by
      simpa using every b.toNat low
    refine ⟨Char.ofNat b.toNat, spelled, utf8EncodeChar_injective ?_⟩
    rw [← map_lowerByte_utf8EncodeChar, ← map_lowerByte_utf8EncodeChar, ← spelled, single,
      List.map_singleton, List.map_singleton, lowered]
  · rw [Nat.not_lt] at ascii
    have high : ∀ b ∈ bytes, 128 ≤ b := by
      intro b member
      have lowered : lowerByte b ∈ (String.utf8EncodeChar c).map lowerByte :=
        same ▸ List.mem_map_of_mem member
      rw [map_lowerByte_of_le fun b => le_of_mem_utf8EncodeChar ascii] at lowered
      have := le_of_mem_utf8EncodeChar ascii lowered
      rwa [← UInt8.not_lt, ← lowerByte_lt_iff, UInt8.not_lt]
    rw [map_lowerByte_of_le high, map_lowerByte_of_le fun b => le_of_mem_utf8EncodeChar ascii]
      at same
    exact ⟨c, same, rfl⟩

theorem exists_text_of_map_lowerByte {bytes : Bytes} {t : Text}
    (same : bytes.map lowerByte = (Utf8.encode t).map lowerByte) :
    ∃ spelled, bytes = Utf8.encode spelled ∧ spelled.map lowerAscii = t.map lowerAscii := by
  induction t generalizing bytes with
  | nil =>
      rw [List.map_eq_nil_iff.mp same]
      exact ⟨[], rfl, rfl⟩
  | cons c t ih =>
      rw [Utf8.encode, List.flatMap_cons, List.map_append] at same
      obtain ⟨front, back, rfl, first, later⟩ := List.map_eq_append_iff.mp same
      obtain ⟨d, rfl, lowered⟩ := exists_char_of_map_lowerByte first
      obtain ⟨spelled, rfl, lowered'⟩ := ih later
      exact ⟨d :: spelled, rfl, congrArg₂ List.cons lowered lowered'⟩

theorem Path.hasExtension_iff {p : Path} {extension : String} :
    p.hasExtension extension = true ↔ p.EndsIn extension.toList := by
  rw [hasExtension, Option.any_eq_true]
  constructor
  · rintro ⟨ending, found, same⟩
    obtain ⟨base, some, foreign, named⟩ := extension?_eq_some_iff.mp found
    obtain ⟨spelled, rfl, lowered⟩ := exists_text_of_map_lowerByte (of_decide_eq_true same)
    exact ⟨base, spelled, some, foreign, named, lowered⟩
  · rintro ⟨base, spelled, some, foreign, named, lowered⟩
    refine ⟨_, extension?_eq_some_iff.mpr ⟨base, some, foreign, named⟩, decide_eq_true ?_⟩
    rw [map_lowerByte_encode, map_lowerByte_encode, lowered]

end AutoItNav
