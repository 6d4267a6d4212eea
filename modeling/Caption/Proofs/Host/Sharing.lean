import Mathlib.Data.List.Perm.Basic
import Caption.Proofs.Host.Calls

/-!
# Surfaces that share a host

Any number of surfaces may be made, fed, drawn and dropped on one host in any order, while the
host refuses new textures or not and while others hold its graphics context. The host then stores
the textures of the surfaces in use and no others, each with the pixels its surface handed over
last.

## Main definitions

* `Client`: a surface with the pixels it shows
* `Stage`: a host with its clients; `Stage.step`, `Stage.run`: what is done with them
* `Owns`: whose textures a host stores
* `Stage.Orderly`: what holds at any time

## Main statements

* `Owns.release`, `Owns.acquire`, `Owns.refill`: what becomes of ownership
* `Stage.shared_step`: one act keeps ownership
* `Stage.orderly_run`: the host is in order after any acts
-/
namespace Caption

open Host

/-- A surface in use and the last pixels it handed over with success. -/
structure Client where
  surface : Surface
  shown : Option Pixels

/-- A host and its clients in the order of their making. A client that was dropped leaves its
place empty. -/
structure Stage where
  host : Host
  clients : List (Option Client)
  /-- How many graphics scopes are open around what the clients do. -/
  scopes : Nat

inductive Act where
  | make (name : String)
  | sync (k : Nat) (p : Pixels)
  | draw (k : Nat)
  | drop (k : Nat)
  | setFailing (on : Bool)
  | openScope
  | closeScope

namespace Stage

def start : Stage := ⟨.empty, [], 0⟩

def client? (s : Stage) (k : Nat) : Option Client := s.clients[k]?.join

/-- A client hands over pixels; it shows them if that succeeds. -/
def sync (s : Stage) (k : Nat) (c : Client) (p : Pixels) : Stage :=
  let ((result, surface), host) := outcome (c.surface.sync p) s.host
  let shown := match result with
    | .ok (.ok _) => some p
    | _ => c.shown
  { s with host := host, clients := s.clients.set k (some ⟨surface, shown⟩) }

/-- An act of a client that is not there, or the end of a scope that is not open, is none. -/
def step (s : Stage) : Act → Stage
  | .make name => { s with clients := s.clients ++ [some ⟨.new name, none⟩] }
  | .sync k p =>
    match s.client? k with
    | some c => s.sync k c p
    | none => s
  | .draw k =>
    match s.client? k with
    | some c => { s with host := (outcome c.surface.draw s.host).2 }
    | none => s
  | .drop k =>
    match s.client? k with
    | some c =>
      { s with host := (outcome c.surface.drop s.host).2, clients := s.clients.set k none }
    | none => s
  | .setFailing on => { s with host := s.host.setFailing on }
  | .openScope => { s with host := (outcome enter s.host).2, scopes := s.scopes + 1 }
  | .closeScope =>
    if s.scopes = 0 then s
    else { s with host := (outcome leave s.host).2, scopes := s.scopes - 1 }

def run (acts : List Act) : Stage := acts.foldl step start

end Stage

/-! ## Ownership -/

/-- The texture of a client, if it is in use and has one. -/
def Client.handle (c : Option Client) : Option TextureId := c.bind fun c => c.surface.texture

open Client (handle)

/-- The host stores the textures that the clients hold, each held once and all of them made by
it, and every client shows what the host stores for it. -/
structure Owns (h : Host) (clients : Nat → Option Client) : Prop where
  stored_iff : ∀ id, id ∈ h.stored ↔ ∃ k, handle (clients k) = some id
  unshared : ∀ j k id, handle (clients j) = some id → handle (clients k) = some id → j = k
  made : ∀ id ∈ h.stored, id ≤ h.created
  distinct : h.stored.Nodup
  shows : ∀ k c id, clients k = some c → c.surface.texture = some id →
    ∃ p, c.shown = some p ∧ h.texture? id = some p ∧ c.surface.size = p.canvas

namespace Owns

variable {h h' : Host} {clients : Nat → Option Client} {k : Nat} {c d : Client}
  {x : Option Client}

theorem handle_update (j : Nat) :
    handle (Function.update clients k x j) = if j = k then handle x else handle (clients j) := by
  by_cases hj : j = k <;> simp [hj]

theorem exists_handle_update (id : TextureId) :
    (∃ j, handle (Function.update clients k x j) = some id) ↔
      handle x = some id ∨ ∃ j, j ≠ k ∧ handle (clients j) = some id := by
  simp only [handle_update]
  constructor
  · rintro ⟨j, hj⟩
    by_cases hjk : j = k
    · exact .inl (by simpa [hjk] using hj)
    · exact .inr ⟨j, hjk, by simpa [hjk] using hj⟩
  · rintro (hx | ⟨j, hjk, hj⟩)
    · exact ⟨k, by simpa using hx⟩
    · exact ⟨j, by simpa [hjk] using hj⟩

/-- Only what is stored and the count of what was made matter. -/
theorem congr (ho : Owns h clients) (ht : h'.textures = h.textures)
    (hn : h'.created = h.created) : Owns h' clients := by
  have hstored : h'.stored = h.stored := by rw [stored, ht, stored]
  have htexture : ∀ id, h'.texture? id = h.texture? id := by
    intro id
    rw [texture?, ht, texture?]
  refine ⟨?_, ho.unshared, ?_, ?_, ?_⟩
  · simpa only [hstored] using ho.stored_iff
  · simpa only [hstored, hn] using ho.made
  · simpa only [hstored] using ho.distinct
  · simpa only [htexture] using ho.shows

/-- A client without a texture may come, go or change. -/
theorem update_of_none (ho : Owns h clients) (hk : handle (clients k) = none)
    (hx : handle x = none) : Owns h (Function.update clients k x) := by
  obtain ⟨hstored, hunshared, hmade, hdistinct, hshows⟩ := ho
  have hsame : ∀ j, handle (Function.update clients k x j) = handle (clients j) := by
    intro j
    rw [handle_update]
    split
    next hj => rw [hj, hk, hx]
    next => rfl
  refine ⟨?_, ?_, hmade, hdistinct, ?_⟩
  · simpa only [hsame] using hstored
  · simpa only [hsame] using hunshared
  · intro j e id he hid
    have hj : j ≠ k := by
      rintro rfl
      rw [Function.update_self] at he
      simp [he, handle, hid] at hx
    rw [Function.update_of_ne hj] at he
    exact hshows j e id he hid

/-- A client that gives its texture back leaves the others theirs. -/
theorem release (ho : Owns h clients) (hc : clients k = some c) (hx : handle x = none) :
    Owns (Surface.release h c.surface.texture) (Function.update clients k x) := by
  have hk : handle (clients k) = c.surface.texture := by rw [hc]; rfl
  cases hid : c.surface.texture with
  | none => exact ho.update_of_none (hk.trans hid) hx
  | some gone =>
    rw [hid] at hk
    obtain ⟨hstored, hunshared, hmade, hdistinct, hshows⟩ := ho
    have hmem : ∀ id, id ∈ (h.erase gone).stored ↔ id ∈ h.stored ∧ id ≠ gone := by
      simp [stored_erase]
    refine Owns.congr (h := h.erase gone) ⟨?_, ?_, ?_, ?_, ?_⟩ rfl rfl
    · intro id
      rw [hmem, hstored, exists_handle_update, hx]
      grind
    · grind [handle_update]
    · intro id hin
      exact hmade id ((hmem id).1 hin).1
    · rw [stored_erase]
      exact hdistinct.filter _
    · intro j e id he heid
      have hj : j ≠ k := by
        rintro rfl
        rw [Function.update_self] at he
        simp [he, handle, heid] at hx
      rw [Function.update_of_ne hj] at he
      have hne : id ≠ gone := by
        rintro rfl
        exact hj (hunshared j k id (by rw [he]; exact heid) hk)
      rw [texture?_erase, if_neg hne]
      exact hshows j e id he heid

/-- A new texture is no one else's. -/
theorem acquire (ho : Owns h clients) (hk : handle (clients k) = none) {p : Pixels}
    (hd : d.surface.texture = some (h.created + 1)) (hsize : d.surface.size = p.canvas)
    (hshown : d.shown = some p) : Owns (h.insert p) (Function.update clients k (some d)) := by
  obtain ⟨hstored, hunshared, hmade, hdistinct, hshows⟩ := ho
  have hfresh : h.created + 1 ∉ h.stored := fun hin =>
    absurd (hmade _ hin) (Nat.not_succ_le_self _)
  have hnew : handle (some d) = some (h.created + 1) := hd
  refine ⟨?_, ?_, ?_, ?_, ?_⟩
  · intro id
    rw [stored_insert, List.mem_cons, hstored, exists_handle_update, hnew]
    grind
  · grind [handle_update]
  · intro id hin
    rw [stored_insert, List.mem_cons] at hin
    rcases hin with rfl | hin
    · exact Nat.le_refl _
    · exact Nat.le_succ_of_le (hmade id hin)
  · rw [stored_insert]
    exact List.nodup_cons.2 ⟨hfresh, hdistinct⟩
  · intro j e id he heid
    by_cases hj : j = k
    · subst hj
      rw [Function.update_self, Option.some.injEq] at he
      subst he
      rw [hd, Option.some.injEq] at heid
      subst heid
      exact ⟨p, hshown, by rw [texture?_insert, if_pos rfl], hsize⟩
    · rw [Function.update_of_ne hj] at he
      have hin : id ∈ h.stored := (hstored id).2 ⟨j, by rw [he]; exact heid⟩
      have hne : id ≠ h.created + 1 := by
        rintro rfl
        exact hfresh hin
      rw [texture?_insert, if_neg hne]
      exact hshows j e id he heid

/-- New bytes for a texture reach its client only. -/
theorem refill (ho : Owns h clients) (hc : clients k = some c) {id : TextureId} {p : Pixels}
    (hid : c.surface.texture = some id) (hsize : c.surface.size = p.canvas)
    (hd : d.surface = c.surface) (hshown : d.shown = some p) :
    Owns (h.refilled id p.data) (Function.update clients k (some d)) := by
  obtain ⟨hstored, hunshared, hmade, hdistinct, hshows⟩ := ho
  obtain ⟨old, -, hold, holdSize⟩ := hshows k c id hc hid
  have hp : ({ old with data := p.data } : Pixels) = p := by
    have hcanvas : old.canvas = p.canvas := holdSize.symm.trans hsize
    simp only [Pixels.canvas, Canvas.mk.injEq] at hcanvas
    obtain ⟨hw, hh⟩ := hcanvas
    rw [hw, hh]
  have hk : handle (clients k) = some id := by rw [hc]; exact hid
  have hnew : handle (some d) = some id := by rw [← hid, ← hd]; rfl
  have hsame : ∀ j, handle (Function.update clients k (some d) j) = handle (clients j) := by
    intro j
    rw [handle_update]
    split
    next hj => rw [hj, hk, hnew]
    next => rfl
  rw [refilled, hold]
  dsimp only
  rw [hp]
  refine Owns.congr (h := h.replace id p) ⟨?_, ?_, ?_, ?_, ?_⟩ rfl rfl
  · simpa only [hsame, stored_replace] using hstored
  · simpa only [hsame] using hunshared
  · rw [stored_replace]
    exact hmade
  · rwa [stored_replace]
  · intro j e id' he heid
    by_cases hj : j = k
    · subst hj
      rw [Function.update_self, Option.some.injEq] at he
      subst he
      rw [hd, hid, Option.some.injEq] at heid
      subst heid
      exact ⟨p, hshown, by rw [texture?_replace, if_pos rfl, hold]; rfl, by rw [hd, hsize]⟩
    · rw [Function.update_of_ne hj] at he
      have hne : id' ≠ id := by
        rintro rfl
        exact hj (hunshared j k id' (by rw [he]; exact heid) hk)
      rw [texture?_replace, if_neg hne]
      exact hshows j e id' he heid

end Owns

/-! ## Acts -/

namespace Stage

/-- The host stores what its clients hold. -/
def Shared (s : Stage) : Prop := Owns s.host s.client?

theorem client?_append (s : Stage) (c : Client) :
    { s with clients := s.clients ++ [some c] }.client? =
      Function.update s.client? s.clients.length (some c) := by
  funext j
  unfold client?
  grind

theorem client?_length (s : Stage) : s.client? s.clients.length = none := by
  simp [client?]

theorem client?_set {s : Stage} {k : Nat} {c : Client} (hc : s.client? k = some c) (h : Host)
    (x : Option Client) :
    { s with host := h, clients := s.clients.set k x }.client? =
      Function.update s.client? k x := by
  funext j
  unfold client? at hc ⊢
  grind

theorem shared_sync {s : Stage} (ho : s.Shared) {k : Nat} {c : Client}
    (hc : s.client? k = some c) (p : Pixels) : (s.sync k c p).Shared := by
  obtain ⟨r, surface, host, hout, hsync⟩ := c.surface.synced p s.host
  have hentered : Owns s.host.entered s.client? := ho.congr rfl rfl
  unfold Stage.sync Shared
  rw [hout]
  dsimp only
  rw [client?_set hc]
  refine Owns.congr (h := host) ?_ rfl rfl
  cases hsync with
  | updated held size => exact hentered.refill hc held size rfl rfl
  | refused | rowOverflow =>
    rw [show (⟨c.surface, c.shown⟩ : Client) = c from rfl, ← hc, Function.update_eq_self]
    exact hentered
  | created ok =>
    have hfree := (hentered.release hc (x := none) rfl).acquire (k := k) (p := p)
      (d := ⟨{ c.surface with texture := some (s.host.entered.created + 1), size := p.canvas },
        some p⟩) (by simp [handle]) (by simp) rfl rfl
    rw [Function.update_idem] at hfree
    exact hfree.congr rfl rfl
  | failed | bytesOverflow => exact (hentered.release hc rfl).congr rfl rfl

theorem shared_drop {s : Stage} (ho : s.Shared) {k : Nat} {c : Client}
    (hc : s.client? k = some c) : (s.step (.drop k)).Shared := by
  have hentered : Owns s.host.entered s.client? := ho.congr rfl rfl
  simp only [step, hc, Shared]
  rw [client?_set hc, Surface.outcome_drop]
  split
  next => exact (hentered.release hc rfl).congr rfl rfl
  next hnone =>
    refine ho.update_of_none ?_ rfl
    rw [hc]
    simpa [handle] using hnone

theorem shared_step {s : Stage} (ho : s.Shared) (a : Act) : (s.step a).Shared := by
  cases a with
  | make name =>
    unfold Shared step
    rw [client?_append]
    exact ho.update_of_none (by rw [client?_length]; rfl) rfl
  | sync k p =>
    simp only [step]
    split
    next c hc => exact shared_sync ho hc p
    next => exact ho
  | draw k =>
    simp only [step]
    split
    next c hc =>
      refine Owns.congr ho ?_ ?_ <;>
        · rw [Surface.outcome_draw]
          split <;> rfl
    next => exact ho
  | drop k =>
    cases hc : s.client? k with
    | some c => exact shared_drop ho hc
    | none => simpa only [step, hc] using ho
  | setFailing on => exact Owns.congr ho rfl rfl
  | openScope => exact Owns.congr ho rfl rfl
  | closeScope =>
    simp only [step]
    split
    next => exact ho
    next => exact Owns.congr ho rfl rfl

theorem shared_run (acts : List Act) : (run acts).Shared := by
  have hstart : start.Shared := by
    refine ⟨?_, ?_, ?_, ?_, ?_⟩ <;> simp [start, Host.empty, stored, client?, handle]
  unfold run
  generalize start = s at hstart ⊢
  induction acts generalizing s with
  | nil => exact hstart
  | cons a acts ih => exact ih _ (shared_step hstart a)

/-! ## The graphics context -/

theorem depth_step_sync (s : Stage) (k : Nat) (p : Pixels) :
    (s.step (.sync k p)).host.depth = s.host.depth := by
  simp only [step]
  split
  next c hc => exact (c.surface.context_sync p s.host).1
  next => rfl

theorem depth_step_drop (s : Stage) (k : Nat) :
    (s.step (.drop k)).host.depth = s.host.depth := by
  simp only [step]
  split
  next c hc => exact (c.surface.context_drop s.host).1
  next => rfl

theorem outsideCalls_step (s : Stage) (a : Act) :
    (s.step a).host.outsideCalls = s.host.outsideCalls := by
  cases a with
  | make | setFailing | openScope => rfl
  | sync k p =>
    simp only [step]
    split
    next c hc => exact (c.surface.context_sync p s.host).2
    next => rfl
  | draw k =>
    simp only [step]
    split
    next c hc =>
      rw [Surface.outcome_draw]
      split <;> rfl
    next => rfl
  | drop k =>
    simp only [step]
    split
    next c hc => exact (c.surface.context_drop s.host).2
    next => rfl
  | closeScope =>
    simp only [step]
    split <;> rfl

/-! ## Order -/

/-- What holds of a stage at any time. -/
structure Orderly (s : Stage) : Prop where
  /-- The textures stored are those of the clients in use. -/
  stored_iff : ∀ id, id ∈ s.host.stored ↔
    ∃ k c, s.client? k = some c ∧ c.surface.texture = some id
  /-- Each is stored once. -/
  distinct : s.host.stored.Nodup
  /-- Each is held by one client. -/
  unshared : ∀ j k c d id, s.client? j = some c → s.client? k = some d →
    c.surface.texture = some id → d.surface.texture = some id → j = k
  /-- A client's texture has its size and shows what it handed over last with success. -/
  shows : ∀ k c id, s.client? k = some c → c.surface.texture = some id →
    s.host.textureSize? id = some c.surface.size ∧
      ∃ p, c.shown = some p ∧ s.host.texture? id = some p
  /-- Handing over pixels and dropping leave the graphics context as they found it. -/
  depth : ∀ k p, (s.step (.sync k p)).host.depth = s.host.depth ∧
    (s.step (.drop k)).host.depth = s.host.depth
  /-- No act calls on textures without the graphics context. -/
  outsideCalls : ∀ a, (s.step a).host.outsideCalls ≤ s.host.outsideCalls

theorem handle_eq_some_iff {x : Option Client} {id : TextureId} :
    handle x = some id ↔ ∃ c, x = some c ∧ c.surface.texture = some id := Option.bind_eq_some_iff

/-- After any acts the host and its clients are in order. -/
theorem orderly_run (acts : List Act) : (run acts).Orderly := by
  obtain ⟨hstored, hunshared, -, hdistinct, hshows⟩ := shared_run acts
  refine ⟨?_, hdistinct, ?_, ?_, ?_, ?_⟩
  · intro id
    rw [hstored]
    simp only [handle_eq_some_iff]
  · intro j k c d id hc hd hcid hdid
    exact hunshared j k id (handle_eq_some_iff.2 ⟨c, hc, hcid⟩) (handle_eq_some_iff.2 ⟨d, hd, hdid⟩)
  · intro k c id hc hid
    obtain ⟨p, hshown, hp, hsize⟩ := hshows k c id hc hid
    refine ⟨?_, p, hshown, hp⟩
    rw [textureSize?, hp, hsize]
    rfl
  · exact fun k p => ⟨depth_step_sync _ k p, depth_step_drop _ k⟩
  · exact fun a => Nat.le_of_eq (outsideCalls_step _ a)

end Stage

end Caption
