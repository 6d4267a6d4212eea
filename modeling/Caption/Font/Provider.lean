import Caption.Error
import Caption.Font.Typeface
import Caption.Style

/-!
# Providers of faces

A provider gives faces by family and style, or says why there is none. It may remember what it
was asked and what it gave, so it acts on a state of its own.
-/
namespace Caption

abbrev FontProvider (σ : Type) (ε : Type := FontError) :=
  String → Style → StateM σ (Except ε (Typeface Float32))

/-- Block faces of some families, with a list of the families asked for. -/
structure BlockShelf where
  families : List String
  /-- Oldest request first. -/
  requests : List String
deriving DecidableEq, Repr

namespace BlockShelf

def ofFamilies (families : List String) : BlockShelf := ⟨families, []⟩

def load : FontProvider BlockShelf := fun family _ shelf =>
  (if shelf.families.contains family then .ok (.plainBlock family)
    else .error (.familyNotFound family),
    { shelf with requests := shelf.requests ++ [family] })

end BlockShelf

end Caption
