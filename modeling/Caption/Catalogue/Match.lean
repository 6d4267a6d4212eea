import Caption.Catalogue.Design

/-!
# Matching designs

Of the faces of a family, the one nearest to a style: first by width, then by slant, then by
weight, as style sheets choose.

## Main definitions

* `closestFromBelow?`, `closestFromAbove?`: the nearest number, one side tried first
* `narrowed`: the candidates that the rules leave
-/
namespace Caption

/-- The largest number up to a limit, else the smallest above it. -/
def closestFromBelow? (limit : Nat) (ns : List Nat) : Option Nat :=
  (ns.filter (· ≤ limit)).max?.or (ns.filter (limit < ·)).min?

/-- The smallest number from a limit on, else the largest below it. -/
def closestFromAbove? (limit : Nat) (ns : List Nat) : Option Nat :=
  (ns.filter (limit ≤ ·)).min?.or (ns.filter (· < limit)).max?

/-- Narrower faces are tried before wider ones. -/
def bestWidth? (widths : List Nat) : Option Nat := closestFromBelow? Design.normalWidth widths

def slantOrder (italic : Bool) : List Slant :=
  if italic then [.italic, .oblique, .upright] else [.upright, .oblique, .italic]

def bestSlant? (italic : Bool) (slants : List Slant) : Option Slant :=
  (slantOrder italic).find? slants.contains

/-- A medium face may stand in for a normal one; apart from that normal text gets a lighter
face rather than a heavier one, and bold text a heavier rather than a lighter. -/
def bestWeight? (bold : Bool) (weights : List Nat) : Option Nat :=
  if bold then closestFromAbove? Design.boldWeight weights
  else if weights.contains Design.normalWeight then some Design.normalWeight
  else if weights.contains Design.mediumWeight then some Design.mediumWeight
  else closestFromBelow? Design.normalWeight weights

/-- Keeps what has the value chosen for a property. -/
def keepBest {α β : Type} [BEq β] (key : α → β) (best? : List β → Option β) (xs : List α) :
    List α :=
  match best? (xs.map key) with
  | some best => xs.filter fun x => key x == best
  | none => []

def narrowed {α : Type} (design : α → Design) (style : Style) (xs : List α) : List α :=
  keepBest (fun x => (design x).weight) (bestWeight? style.bold)
    (keepBest (fun x => (design x).slant) (bestSlant? style.italic)
      (keepBest (fun x => (design x).width) bestWidth? xs))

end Caption
