import Caption.Layout.Arrangement
import Caption.Proofs.Scalar.Zero

/-!
# Layouts up to the sign of zeros

Single precision has two zeros, which compare equal. Sums and differences that place text tell
them apart only in the sign of a zero that comes out, so an arrangement whose box starts at the
negative zero has every glyph and every bar where it has them with the positive one, up to the
sign of zeros.

## Main definitions

* `Rect.unsigned`, `Layout.unsigned`, `Arrangement.unsigned`: places without a negative zero

## Main statements

* `Layout.unsigned_arrange`: an arrangement is the same up to the sign of zeros
-/
namespace Caption

open Scalar Single

/-! ## One zero for both -/

/-- The same rectangle, with no negative zero for its place. -/
def Rect.unsigned (r : Rect Float32) : Rect Float32 :=
  ⟨Single.unsigned r.x, Single.unsigned r.y, r.width, r.height⟩

def PlacedGlyph.unsigned (g : PlacedGlyph Float32) : PlacedGlyph Float32 :=
  { g with x := Single.unsigned g.x, baseline := Single.unsigned g.baseline }

def Arrangement.unsigned (a : Arrangement Float32) : Arrangement Float32 :=
  ⟨a.glyphs.map PlacedGlyph.unsigned, a.bars.map Rect.unsigned⟩

/-- The same layout, with no negative zero for the place of its text. -/
def Layout.unsigned (l : Layout Float32) : Layout Float32 :=
  { l with drawBox := l.drawBox.unsigned, clip := l.clip.map Rect.unsigned }

namespace Layout

/-! ## Arrangements -/

section Congruence

variable (font : Font Float32) {x x' y y' : Float32}

theorem placeRun_congr (hy : Single.unsigned y = Single.unsigned y')
    (hx : Single.unsigned x = Single.unsigned x') (s : List Char) :
    (placeRun font y x s).map PlacedGlyph.unsigned =
      (placeRun font y' x' s).map PlacedGlyph.unsigned := by
  induction s generalizing x x' with
  | nil => rfl
  | cons c s ih =>
    have hrest := ih (unsigned_add_congr hx (font.advance c))
    simp only [placeRun, List.map_cons, hrest, PlacedGlyph.unsigned, hx, hy]

theorem placeColumn_congr (hx : Single.unsigned x = Single.unsigned x')
    (hy : Single.unsigned y = Single.unsigned y') (s : List Char) :
    (placeColumn font x y s).map PlacedGlyph.unsigned =
      (placeColumn font x' y' s).map PlacedGlyph.unsigned := by
  have hcell (row : Nat) (c : Char) :
      PlacedGlyph.unsigned ⟨font.glyph c, c, x + half (font.lineHeight - font.advance c),
          y + font.cellHeight * ofInt row + font.ascent⟩ =
        PlacedGlyph.unsigned ⟨font.glyph c, c, x' + half (font.lineHeight - font.advance c),
          y' + font.cellHeight * ofInt row + font.ascent⟩ := by
    simp only [PlacedGlyph.unsigned, unsigned_add_congr hx,
      unsigned_add_congr (unsigned_add_congr hy _)]
  unfold placeColumn
  simp only [List.mapIdx_eq_zipIdx_map, List.map_map, Function.comp_def, hcell]

theorem runBars_congr (hx : Single.unsigned x = Single.unsigned x')
    (hy : Single.unsigned y = Single.unsigned y') (advance : Float32) :
    (runBars font x y advance).map Rect.unsigned =
      (runBars font x' y' advance).map Rect.unsigned := by
  unfold runBars
  cases font.style.underline <;> cases font.style.strikeout <;>
    simp only [List.map_append, List.map_cons, List.map_nil, Rect.unsigned, hx, if_true, if_false,
      Bool.false_eq_true, unsigned_sub_congr (unsigned_add_congr hy _),
      unsigned_sub_congr (unsigned_sub_congr hy _)]

theorem columnBars_congr (hx : Single.unsigned x = Single.unsigned x')
    (hy : Single.unsigned y = Single.unsigned y') (advance : Float32) :
    (columnBars font x y advance).map Rect.unsigned =
      (columnBars font x' y' advance).map Rect.unsigned := by
  unfold columnBars
  cases font.style.underline <;> cases font.style.strikeout <;>
    simp only [List.map_append, List.map_cons, List.map_nil, Rect.unsigned, hx, hy, if_true,
      if_false, Bool.false_eq_true, unsigned_add_congr hx]

end Congruence

variable (l : Layout Float32) (font : Font Float32) (box : Rect Float32)

theorem unsigned_lineEdge (index : Nat) :
    Single.unsigned (l.unsigned.lineEdge font box.unsigned index) =
      Single.unsigned (l.lineEdge font box index) := by
  unfold lineEdge
  change Single.unsigned (if l.placement.vertical then _ else _) = _
  split
  · exact unsigned_sub_congr (unsigned_add_congr (unsigned_add_unsigned _ _) _) _
  · exact unsigned_add_congr (unsigned_add_unsigned _ _) _

theorem keepsSpan_unsigned {start start' : Float32}
    (h : Single.unsigned start' = Single.unsigned start) (extent : Float32) :
    l.unsigned.keepsSpan start' extent = l.keepsSpan start extent := by
  unfold keepsSpan
  cases hclip : l.clip with
  | none =>
    have hclip' : l.unsigned.clip = none := congrArg (Option.map Rect.unsigned) hclip
    simp only [hclip']
  | some clip =>
    have hclip' : l.unsigned.clip = some clip.unsigned := congrArg (Option.map Rect.unsigned) hclip
    have hspan : Single.unsigned (clipSpan l.placement clip.unsigned).1 =
          Single.unsigned (clipSpan l.placement clip).1 ∧
        Single.unsigned (clipSpan l.placement clip.unsigned).2 =
          Single.unsigned (clipSpan l.placement clip).2 := by
      unfold clipSpan
      split
      · exact ⟨Single.unsigned_unsigned _, unsigned_add_unsigned _ _⟩
      · exact ⟨Single.unsigned_unsigned _, unsigned_add_unsigned _ _⟩
    simp only [hclip']
    change (lt start' (clipSpan l.placement clip.unsigned).2 &&
      lt (clipSpan l.placement clip.unsigned).1 (start' + extent)) = _
    rw [lt_congr h hspan.2, lt_congr hspan.1 (unsigned_add_congr h extent)]

theorem unsigned_placeLine {edge edge' : Float32}
    (h : Single.unsigned edge' = Single.unsigned edge) (line : Line Float32) :
    (l.unsigned.placeLine font box.unsigned edge' line).unsigned =
      (l.placeLine font box edge line).unsigned := by
  unfold placeLine
  change Arrangement.unsigned (if l.placement.vertical then _ else _) = _
  split
  · have hglyphs := placeColumn_congr font h (unsigned_add_unsigned box.y
      (l.placement.flowOffset box.height line.advance)) line.chars
    have hbars := columnBars_congr font h (unsigned_add_unsigned box.y
      (l.placement.flowOffset box.height line.advance)) line.advance
    refine congrArg₂ Arrangement.mk hglyphs ?_
    dsimp only
    split
    · exact hbars
    · rfl
  · have hglyphs := placeRun_congr font (unsigned_add_congr h font.ascent)
      (unsigned_add_unsigned box.x (l.placement.flowOffset box.width line.advance)) line.chars
    have hbars := runBars_congr font
      (unsigned_add_unsigned box.x (l.placement.flowOffset box.width line.advance))
      (unsigned_add_congr h font.ascent) line.advance
    refine congrArg₂ Arrangement.mk hglyphs ?_
    dsimp only
    split
    · exact hbars
    · rfl

theorem unsigned_arrangeLine (index : Nat) (line : Line Float32) :
    (l.unsigned.arrangeLine font box.unsigned index line).unsigned =
      (l.arrangeLine font box index line).unsigned := by
  have hedge := l.unsigned_lineEdge font box index
  unfold arrangeLine
  dsimp only
  rw [l.keepsSpan_unsigned hedge]
  split
  · exact l.unsigned_placeLine font box hedge line
  · rfl

theorem unsigned_concat (as : List (Arrangement Float32)) :
    (Arrangement.concat as).unsigned = .concat (as.map Arrangement.unsigned) := by
  simp only [Arrangement.concat, Arrangement.unsigned, List.map_flatMap, List.flatMap_map]

/-- A layout draws the same up to the sign of zeros. -/
theorem unsigned_arrange :
    (l.unsigned.arrange box.unsigned).unsigned = (l.arrange box).unsigned := by
  have hfont : l.unsigned.font = l.font := rfl
  have hlines : l.unsigned.lines = l.lines := rfl
  unfold arrange
  rw [hfont, hlines]
  cases l.font with
  | none => rfl
  | some font =>
    simp only [unsigned_concat, List.mapIdx_eq_zipIdx_map, List.map_map, Function.comp_def,
      unsigned_arrangeLine]

end Layout

end Caption
