import Caption.Font.Resolver

/-!
# Steady answers

A provider of faces may remember what it was asked. It is steady among some memories if it gives
one answer from all of them and never leaves them. A search that asks a steady provider is steady
itself: it ends in the same font each time.

## Main definitions

* `Steady`: an act whose answer does not depend on the memory
* `FontProvider.Steady`: a provider whose answers do not
* `silent`: an act without what it reports

## Main statements

* `BlockShelf.steady_load`
* `Resolver.steady_resolve`
-/
namespace Caption

variable {σ ε α β : Type}

/-! ## Acts -/

/-- From all memories among some an act gives one answer, and it stays among them. -/
structure Steady (among : σ → Prop) (act : StateM σ α) : Prop where
  same : ∀ {x y : σ}, among x → among y → (act.run x).1 = (act.run y).1
  stays : ∀ {x : σ}, among x → among (act.run x).2

namespace Steady

variable {among : σ → Prop}

theorem pure (among : σ → Prop) (a : α) : Steady among (Pure.pure a) where
  same _ _ := rfl
  stays h := h

theorem bind {act : StateM σ α} {f : α → StateM σ β} (hact : Steady among act)
    (hf : ∀ a, Steady among (f a)) : Steady among (act >>= f) where
  same {x y} hx hy := by
    have hanswer := hact.same hx hy
    calc ((act >>= f).run x).1
        = ((f (act.run x).1).run (act.run x).2).1 := rfl
      _ = ((f (act.run y).1).run (act.run x).2).1 := by rw [hanswer]
      _ = ((f (act.run y).1).run (act.run y).2).1 := (hf _).same (hact.stays hx) (hact.stays hy)
  stays h := (hf _).stays (hact.stays h)

end Steady

/-- The same act with nothing reported. -/
def silent (act : StateT σ Logged α) : StateM σ α := fun x => (act x).value

theorem silent_bind (act : StateT σ Logged α) (f : α → StateT σ Logged β) :
    silent (act >>= f) = silent act >>= fun a => silent (f a) := rfl

/-! ## Providers -/

/-- Every request gets one answer from all memories among some. -/
def FontProvider.Steady (p : FontProvider σ ε) (among : σ → Prop) : Prop :=
  ∀ family style, Caption.Steady among (p family style)

/-- A shelf of block faces answers by its families only, whatever it was asked before. -/
theorem BlockShelf.steady_load (families : List String) :
    FontProvider.Steady BlockShelf.load (fun shelf => shelf.families = families) := by
  intro family style
  refine ⟨fun {x y} hx hy => ?_, fun h => h⟩
  have hsame : x.families = y.families := hx.trans hy.symm
  change (if x.families.contains family then _ else _) = _
  rw [hsame]
  rfl

/-! ## Searches -/

namespace Resolver

variable {among : σ → Prop}

theorem steady_attempt {ask : StateM σ (Except Error (Typeface Float32))}
    (h : Steady among ask) (warning : String → String) :
    Steady among (silent (attempt ask warning)) := by
  have hanswer (x : σ) : (silent (attempt ask warning)).run x =
      ((ask.run x).1.toOption, (ask.run x).2) := by
    change (attempt ask warning x).value = ((ask x).1.toOption, (ask x).2)
    unfold attempt
    split
    next hx => rw [hx]; rfl
    next hx => rw [hx]; rfl
  refine ⟨fun hx hy => ?_, fun hx => ?_⟩
  · rw [hanswer, hanswer, h.same hx hy]
  · rw [hanswer]
    exact h.stays hx

variable [Cause ε] {r : Resolver σ ε}

theorem steady_ask (h : r.provider.Steady among) (family : String) (style : Style) :
    Steady among (r.ask family style) :=
  (h family style).bind fun _ => .pure among _

theorem steady_requested (h : r.provider.Steady among) (q : FontRequest) :
    Steady among (r.requested q) := by
  unfold requested
  split
  next => exact .pure among _
  next => exact steady_ask h q.face q.style

theorem steady_face? (h : r.provider.Steady among) (q : FontRequest) :
    Steady among (silent (r.face? q)) := by
  unfold face?
  rw [silent_bind]
  refine (steady_attempt (steady_requested h q) _).bind fun first => ?_
  cases first with
  | some face => exact .pure among _
  | none => exact steady_attempt (steady_ask h r.defaultFace q.style) _

/-- A search for a font is as steady as the provider that it asks. -/
theorem steady_resolve (h : r.provider.Steady among) (q : FontRequest) :
    Steady among (silent (r.resolve q)) := by
  unfold resolve
  rw [silent_bind]
  refine (steady_face? h q).bind fun face? => ?_
  cases face? with
  | some face => exact .pure among _
  | none => exact .pure among _

end Resolver

end Caption
