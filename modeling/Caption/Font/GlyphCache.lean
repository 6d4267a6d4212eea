import Caption.Font.Typeface
import Caption.Memo

/-!
# Cached look-ups in a face

Measuring asks for the same few characters again and again. A cache keeps the glyphs and the
advances that a face has given, misses included.
-/
namespace Caption

structure GlyphCache (α : Type) where
  glyphs : Memo Char (Option GlyphId)
  advances : Memo GlyphId α

namespace GlyphCache

variable {α : Type}

def empty : GlyphCache α := ⟨.empty, .empty⟩

end GlyphCache

namespace Typeface

variable {α : Type}

def askGlyph (f : Typeface α) (c : Char) : StateM (GlyphCache α) (Option GlyphId) := fun cache => do
  let (g, glyphs) ← (Memo.ask c (pure (f.glyph? c))).run cache.glyphs
  return (g, { cache with glyphs := glyphs })

def askAdvance (f : Typeface α) (g : GlyphId) : StateM (GlyphCache α) α := fun cache => do
  let (a, advances) ← (Memo.ask g (pure (f.advance g))).run cache.advances
  return (a, { cache with advances := advances })

end Typeface

end Caption
