/-!
# Memo tables

Answers kept for later. A table starts empty and each key is computed on its first request only;
what computing does besides giving an answer is done then, and not again.

## Main definitions

* `Memo.ask`: the answer for a key, computed if it is not kept
* `Memo.Sound`: every answer kept is a function's
-/
namespace Caption

/-- Newest entry first. -/
structure Memo (κ ν : Type) where
  entries : List (κ × ν)

namespace Memo

variable {κ ν : Type} [BEq κ]

def empty : Memo κ ν := ⟨[]⟩

def find? (m : Memo κ ν) (k : κ) : Option ν := m.entries.lookup k

def insert (m : Memo κ ν) (k : κ) (v : ν) : Memo κ ν := ⟨(k, v) :: m.entries⟩

/-- The keys that were computed, the newest first. -/
def keys (m : Memo κ ν) : List κ := m.entries.map Prod.fst

def ask {μ : Type → Type} [Monad μ] (k : κ) (compute : μ ν) : StateT (Memo κ ν) μ ν := fun m =>
  match m.find? k with
  | some v => pure (v, m)
  | none => do
    let v ← compute
    pure (v, m.insert k v)

def Sound (f : κ → ν) (m : Memo κ ν) : Prop := ∀ k v, m.find? k = some v → v = f k

theorem sound_empty (f : κ → ν) : (empty : Memo κ ν).Sound f := by
  intro k v h
  simp [find?, empty] at h

section Ask

variable {μ : Type → Type} [Monad μ] {k : κ} {m : Memo κ ν}

theorem ask_of_find? {v : ν} (h : m.find? k = some v) (compute : μ ν) :
    (ask k compute).run m = pure (v, m) := by
  simp [ask, h, StateT.run]

theorem ask_of_missing (h : m.find? k = none) (compute : μ ν) :
    (ask k compute).run m = compute >>= fun v => pure (v, m.insert k v) := by
  simp [ask, h, StateT.run]

end Ask

end Memo

end Caption
