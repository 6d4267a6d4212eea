import Caption.OpenType.Metrics
import Caption.Style

/-!
# Designs

The weight, width and slant of a face, by which the faces of one family are told apart.
-/
namespace Caption

inductive Slant where
  | upright | italic | oblique
deriving DecidableEq, Repr

structure Design where
  weight : Nat
  /-- From 1, the narrowest, to 9. -/
  width : Nat
  slant : Slant
deriving DecidableEq, Repr

namespace Design

def normalWeight : Nat := 400

def mediumWeight : Nat := 500

def boldWeight : Nat := 700

/-- From this weight on a face counts as a bold design. -/
def boldFrom : Nat := 600

def normalWidth : Nat := 5

def normal : Design := ⟨normalWeight, normalWidth, .upright⟩

def isBold (d : Design) : Bool := boldFrom ≤ d.weight

def isSlanted (d : Design) : Bool := d.slant != .upright

def widthOf (n : Nat) : Nat := if 1 ≤ n ∧ n ≤ 9 then n else normalWidth

/-- Obliques are told from italics since the fourth version. -/
def slantOf (version flags : Nat) : Slant :=
  if flags.testBit 0 then .italic
  else if 4 ≤ version ∧ flags.testBit 9 then .oblique
  else .upright

end Design

namespace OpenType

open Bytes

/-- The versions of the style table that designs are read from. -/
def lastStyleVersion : Nat := 5

def Directory.statedDesign? (d : Directory) : Option Design := do
  let t ← d.style?
  let version ← u16? t 0
  if version ≤ lastStyleVersion then
    return ⟨← u16? t 4, Design.widthOf (← u16? t 6), Design.slantOf version (← u16? t 62)⟩
  else none

/-- Whether the font gives an angle for its slant. -/
def Directory.isTilted (d : Directory) : Bool :=
  match d.table? "post" >>= ofLength? 16 >>= (u32? · 4) with
  | some angle => angle != 0
  | none => false

def Directory.design (d : Directory) : Design :=
  let stated := d.statedDesign?.getD Design.normal
  if stated.slant = .upright ∧ d.isTilted then { stated with slant := .italic } else stated

end OpenType

end Caption
