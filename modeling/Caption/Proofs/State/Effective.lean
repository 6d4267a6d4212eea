import Caption.State

/-!
# Settings that count

Some settings are read only while a switch is on: the text or the file, the outline's and the
extents' fields. Others are cut to what fits: a colour to 24 bits, style bits to four, a size to
numbers from zero up. What remains of settings after that is in the effective part of a state.

## Main definitions

* `Settings.Alike`: settings that differ only in what does not count
* `State.effective`: a state with nothing left over from what is switched off

## Main statements

* `State.effective_apply`: alike settings leave the same effective state
-/
namespace Caption

/-- Settings that differ only in what their common switches turn off and in ignored bits: those of
a colour above 24, style bits above the lowest four, the size below zero. -/
structure Settings.Alike (s t : Settings) : Prop where
  readFromFile : s.readFromFile = t.readFromFile
  text : s.readFromFile = false → s.text = t.text
  file : s.readFromFile = true → s.file = t.file
  face : s.font.face = t.font.face
  size : max 0 s.font.size = max 0 t.font.size
  flags : s.font.flags &&& 15 = t.font.flags &&& 15
  color : s.color &&& 0xFFFFFF = t.color &&& 0xFFFFFF
  opacity : s.opacity = t.opacity
  backColor : s.backColor &&& 0xFFFFFF = t.backColor &&& 0xFFFFFF
  backOpacity : s.backOpacity = t.backOpacity
  align : s.align = t.align
  valign : s.valign = t.valign
  vertical : s.vertical = t.vertical
  outline : s.outline = t.outline
  outlineSize : s.outline = true → s.outlineSize = t.outlineSize
  outlineColor : s.outline = true →
    s.outlineColor &&& 0xFFFFFF = t.outlineColor &&& 0xFFFFFF
  outlineOpacity : s.outline = true → s.outlineOpacity = t.outlineOpacity
  extents : s.extents = t.extents
  extentsWrap : s.extents = true → s.extentsWrap = t.extentsWrap
  extentsWidth : s.extents = true → s.extentsWidth = t.extentsWidth
  extentsHeight : s.extents = true → s.extentsHeight = t.extentsHeight

/-! ## Ignored bits -/

theorem swapRedBlue_mask (c : UInt32) : swapRedBlue (c &&& 0xFFFFFF) = swapRedBlue c := by
  unfold swapRedBlue
  simp only [UInt32.and_assoc]
  rfl

theorem swapRedBlue_congr {c d : UInt32} (h : c &&& 0xFFFFFF = d &&& 0xFFFFFF) :
    swapRedBlue c = swapRedBlue d := by
  rw [← swapRedBlue_mask c, h, swapRedBlue_mask]

theorem Style.ofBits_mask (bits : UInt32) : ofBits (bits &&& 15) = ofBits bits := by
  unfold ofBits
  simp only [UInt32.and_assoc]
  rfl

namespace FontRequest

/-- Sizes below zero count as zero. -/
theorem clampSize_max (size : Int64) : clampSize (max 0 size) = clampSize size := by
  have hmax : max 0 size = if 0 ≤ size then size else 0 := rfl
  rw [hmax]
  split
  next => rfl
  next h =>
    have hneg : size < 0 := Int64.not_le.1 h
    simp only [clampSize, hneg, if_true]
    rfl

theorem clampSize_nonneg (size : Int64) : 0 ≤ (clampSize size).toInt := by
  unfold clampSize
  split
  next => decide
  next hneg =>
    split
    next => decide
    next hmax =>
      have hlow : 0 ≤ size.toInt := Int64.le_iff_toInt_le.1 (Int64.not_lt.1 hneg)
      have hhigh : size.toInt ≤ 2147483647 := Int64.le_iff_toInt_le.1 (Int64.not_lt.1 hmax)
      rw [Int64.toInt_toInt32]
      rw [Int.bmod_eq_of_le] <;> omega

end FontRequest

/-! ## What is left over -/

namespace State

/-- The same state with nothing left over from what is switched off. What was read already, where
from, and the canvas before are left out too: nothing that is measured or drawn depends on them. -/
def effective (st : State) : State :=
  { st with
    readFromFile := false
    file := ""
    outlineSize := if st.outline then st.outlineSize else 0
    outlineColor := if st.outline then st.outlineColor else 0
    outlineOpacity := if st.outline then st.outlineOpacity else 0
    wrap := if st.extents then st.wrap else false
    extentsWidth := if st.extents then st.extentsWidth else 0
    extentsHeight := if st.extents then st.extentsHeight else 0
    canvas := ⟨0, 0⟩ }

theorem sourceText_alike {s t : Settings} (h : s.Alike t) (read : TextReader) :
    sourceText s read = sourceText t read := by
  unfold sourceText
  cases hs : s.readFromFile with
  | true => simp only [← h.readFromFile, hs, h.file hs, if_true]
  | false => simp only [← h.readFromFile, hs, h.text hs, Bool.false_eq_true, if_false]

/-- Whatever was shown before, settings that are alike leave the same to be read. -/
theorem effective_apply {s t : Settings} (h : s.Alike t) (st st' : State) (read : TextReader) :
    (st.apply s read).value.effective = (st'.apply t read).value.effective := by
  have hfont : FontRequest.ofSettings s.font = .ofSettings t.font := by
    unfold FontRequest.ofSettings
    rw [h.face, ← FontRequest.clampSize_max, h.size, FontRequest.clampSize_max,
      ← Style.ofBits_mask, h.flags, Style.ofBits_mask]
  have hcolor := swapRedBlue_congr h.color
  have hbackColor := swapRedBlue_congr h.backColor
  have houtline {α : Type} {a b c : α} (hab : s.outline = true → a = b) :
      (if t.outline then a else c) = if t.outline then b else c :=
    ite_congr rfl (fun ht => hab (h.outline.trans ht)) fun _ => rfl
  have hextents {α : Type} {a b c : α} (hab : s.extents = true → a = b) :
      (if t.extents then a else c) = if t.extents then b else c :=
    ite_congr rfl (fun ht => hab (h.extents.trans ht)) fun _ => rfl
  change effective (st.withText s (sourceText s read).value) =
    effective (st'.withText t (sourceText t read).value)
  simp only [effective, withText, sourceText_alike h, hfont, hcolor, hbackColor, h.opacity,
    h.backOpacity, h.align, h.valign, h.vertical, h.outline, h.extents, State.mk.injEq, true_and,
    and_true]
  refine ⟨?_, ?_, ?_, ?_, ?_, ?_⟩
  · exact houtline h.outlineSize
  · exact houtline fun hs => swapRedBlue_congr (h.outlineColor hs)
  · exact houtline h.outlineOpacity
  · exact hextents h.extentsWrap
  · exact hextents h.extentsWidth
  · exact hextents h.extentsHeight

end State

end Caption
