import AutoItNav.Settings.Patch

/-!
How payloads shape the layout. It goes its own way: whatever payloads say of the level, and
whatever the level was before, has no part in it.
-/
namespace AutoItNav

/-- A patch as if it said nothing of the level. -/
def Patch.withoutLevel (p : Patch) : Patch := { p with level := none }

namespace Layout

def patched (l : Layout) (p : Patch) : Layout := (Settings.patched ⟨l, .info⟩ p).layout

def normalized (l : Layout) : Layout := (Settings.normalized ⟨l, .info⟩).layout

def merged (l : Layout) (patches : List Patch) : Layout := (patches.foldl patched l).normalized

end Layout

namespace Settings

/-- What a payload says of the layout, patch by patch. -/
def layoutPatches (payload : Json) : List Patch :=
  ((candidates payload).filterMap Patch.ofJson?).map Patch.withoutLevel

theorem layout_patched (s : Settings) (p : Patch) :
    (s.patched p).layout = s.layout.patched p.withoutLevel := rfl

theorem layout_normalized (s : Settings) : s.normalized.layout = s.layout.normalized := rfl

theorem layout_merged (s : Settings) (payload : Json) :
    (s.merged payload).layout = s.layout.merged (layoutPatches payload) := by
  rw [merged, layout_normalized, Layout.merged, layoutPatches, List.foldl_map]
  congr 1
  exact (List.foldl_hom Settings.layout fun s p => (layout_patched s p).symm).symm

/-- The layout that a row of payloads leads to. -/
theorem layout_foldl_merged (s : Settings) (payloads : List Json) :
    (payloads.foldl merged s).layout =
      (payloads.map layoutPatches).foldl Layout.merged s.layout := by
  rw [List.foldl_map]
  exact (List.foldl_hom Settings.layout fun s payload => (layout_merged s payload).symm).symm

end Settings

end AutoItNav
