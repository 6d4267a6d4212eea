/-!
# Log

What a computation reports besides its value. Warnings name a step that failed and was done
without; details are of interest only when something is looked for.

## Main definitions

* `LogEntry`: one line of the log
* `Logged`: a value with the lines reported on the way to it
-/
namespace Caption

inductive Severity where
  | warning
  | detail
deriving DecidableEq, Repr

structure LogEntry where
  severity : Severity
  text : String
deriving DecidableEq, Repr

/-- Oldest line first. -/
structure Logged (α : Type) where
  value : α
  log : List LogEntry
deriving Repr

namespace Logged

def pure {α : Type} (a : α) : Logged α := ⟨a, []⟩

def bind {α β : Type} (x : Logged α) (f : α → Logged β) : Logged β :=
  ⟨(f x.value).value, x.log ++ (f x.value).log⟩

instance : Monad Logged where
  pure := pure
  bind := bind

def warn (text : String) : Logged Unit := ⟨(), [⟨.warning, text⟩]⟩

def detail (text : String) : Logged Unit := ⟨(), [⟨.detail, text⟩]⟩

@[simp] theorem value_pure {α : Type} (a : α) : (Pure.pure a : Logged α).value = a := rfl

@[simp] theorem log_pure {α : Type} (a : α) : (Pure.pure a : Logged α).log = [] := rfl

@[simp] theorem value_bind {α β : Type} (x : Logged α) (f : α → Logged β) :
    (x >>= f).value = (f x.value).value := rfl

@[simp] theorem log_bind {α β : Type} (x : Logged α) (f : α → Logged β) :
    (x >>= f).log = x.log ++ (f x.value).log := rfl

end Logged

end Caption
