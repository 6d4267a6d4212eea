import Caption.Memo

/-!
# Keys that are computed once

A table asked for some keys, one after another, gives each key what computing it gave on its first
request, whatever it would give later. To see when a key is computed, computing leaves a note: the
notes are the keys that the table has got, and it never gets a key twice.

## Main definitions

* `Memo.note`: computing that leaves a note of its key
* `Memo.askAll`: requests one after another

## Main statements

* `Memo.answered_askAll`: requests on any table
* `Memo.asked_askAll`: requests on a new table
* `Memo.holds_ask`: one request for what a function computes
-/
namespace Caption

namespace Memo

variable {κ ν : Type}

theorem keys_insert (m : Memo κ ν) (k : κ) (v : ν) : (m.insert k v).keys = k :: m.keys := rfl

/-- Notes the key, the newest first. What is given for a key may differ from request to request. -/
def note (c : κ × ν) : StateM (List κ) ν := do
  modify (c.1 :: ·)
  return c.2

variable [BEq κ]

def askAll (cs : List (κ × ν)) : StateT (Memo κ ν) (StateM (List κ)) (List ν) :=
  cs.mapM fun c => ask c.1 (note c)

/-- What requests come to: the answers with the table afterwards, and the notes. -/
structure Answered (m : Memo κ ν) (notes : List κ) (cs : List (κ × ν))
    (r : (List ν × Memo κ ν) × List κ) : Prop where
  answers : r.1.1.map some = cs.map fun c => (m.find? c.1).or (cs.lookup c.1)
  find? : ∀ k, r.1.2.find? k = (m.find? k).or (cs.lookup k)
  computed : ∃ fresh, r.2 = fresh ++ notes ∧ r.1.2.keys = fresh ++ m.keys
  nodup : m.keys.Nodup → r.1.2.keys.Nodup

theorem Answered.nil (m : Memo κ ν) (notes : List κ) : Answered m notes [] (([], m), notes) where
  answers := rfl
  find? k := by simp
  computed := ⟨[], rfl, rfl⟩
  nodup := id

variable [LawfulBEq κ] {m : Memo κ ν} {k : κ}

theorem find?_insert_self (m : Memo κ ν) (k : κ) (v : ν) : (m.insert k v).find? k = some v :=
  List.lookup_cons_self

theorem find?_insert_of_ne {j : κ} (h : j ≠ k) (v : ν) : (m.insert k v).find? j = m.find? j := by
  rw [find?, insert, List.lookup_cons, beq_false_of_ne h]
  rfl

theorem mem_keys_iff : k ∈ m.keys ↔ (m.find? k).isSome := by
  obtain ⟨entries⟩ := m
  unfold keys find?
  induction entries with
  | nil => simp
  | cons e entries ih =>
    obtain ⟨j, v⟩ := e
    by_cases h : k = j
    · subst h
      simp
    · simp [List.lookup_cons, beq_false_of_ne h, h, ih]

theorem nodup_insert (hm : m.keys.Nodup) (hk : m.find? k = none) (v : ν) :
    (m.insert k v).keys.Nodup := by
  rw [keys_insert, List.nodup_cons, mem_keys_iff, hk]
  exact ⟨by simp, hm⟩

namespace Answered

variable {notes : List κ} {cs : List (κ × ν)} {r : (List ν × Memo κ ν) × List κ}

/-- A key that is kept is answered from the table, and nothing else happens. -/
theorem kept {v : ν} (hk : m.find? k = some v) (h : Answered m notes cs r) (v' : ν) :
    Answered m notes ((k, v') :: cs) ((v :: r.1.1, r.1.2), r.2) := by
  have hlater (j : κ) :
      (m.find? j).or (((k, v') :: cs).lookup j) = (m.find? j).or (cs.lookup j) := by
    by_cases hj : j = k
    · rw [hj, hk, Option.some_or, Option.some_or]
    · rw [List.lookup_cons, beq_false_of_ne hj]
  refine ⟨?_, fun j => ?_, h.computed, h.nodup⟩
  · simp only [hlater, List.map_cons, h.answers, hk, Option.some_or]
  · rw [hlater, h.find?]

/-- A key that is missing is computed. -/
theorem missing {v : ν} (hk : m.find? k = none) (h : Answered (m.insert k v) (k :: notes) cs r) :
    Answered m notes ((k, v) :: cs) ((v :: r.1.1, r.1.2), r.2) := by
  have hlater (j : κ) :
      (m.find? j).or (((k, v) :: cs).lookup j) = ((m.insert k v).find? j).or (cs.lookup j) := by
    by_cases hj : j = k
    · rw [hj, hk, find?_insert_self, List.lookup_cons_self]
      rfl
    · rw [find?_insert_of_ne hj, List.lookup_cons, beq_false_of_ne hj]
  obtain ⟨fresh, hnotes, hkeys⟩ := h.computed
  refine ⟨?_, fun j => ?_, ⟨fresh ++ [k], by simp [hnotes], by simp [hkeys, keys_insert]⟩,
    fun hm => h.nodup (nodup_insert hm hk v)⟩
  · simp only [hlater, List.map_cons, h.answers, find?_insert_self, Option.some_or]
  · rw [hlater, h.find?]

end Answered

omit [LawfulBEq κ] in
/-- One request and then the others. -/
theorem askAll_cons (c : κ × ν) (cs : List (κ × ν)) (m : Memo κ ν) (notes : List κ) :
    ((askAll (c :: cs)).run m).run notes =
      let first := ((ask c.1 (note c)).run m).run notes
      let rest := ((askAll cs).run first.1.2).run first.2
      ((first.1.1 :: rest.1.1, rest.1.2), rest.2) := by
  unfold askAll
  rw [List.mapM_cons]
  rfl

theorem answered_askAll (m : Memo κ ν) (notes : List κ) (cs : List (κ × ν)) :
    Answered m notes cs (((askAll cs).run m).run notes) := by
  induction cs generalizing m notes with
  | nil => exact .nil m notes
  | cons c cs ih =>
    obtain ⟨k, v⟩ := c
    rw [askAll_cons]
    cases hk : m.find? k with
    | some kept =>
      have hfirst : ((ask k (note (k, v))).run m).run notes = ((kept, m), notes) := by
        rw [ask_of_find? hk]
        rfl
      rw [hfirst]
      exact (ih m notes).kept hk v
    | none =>
      have hfirst : ((ask k (note (k, v))).run m).run notes = ((v, m.insert k v), k :: notes) := by
        rw [ask_of_missing hk]
        rfl
      rw [hfirst]
      exact (ih _ _).missing hk

/-- On a new table every answer is what computing its key gave first, and just the keys that were
asked for are computed, none of them twice. -/
theorem asked_askAll (cs : List (κ × ν)) :
    let r := ((askAll cs).run empty).run []
    r.1.1.map some = cs.map (fun c => cs.lookup c.1) ∧ r.2.Nodup ∧
      (∀ k, k ∈ r.2 ↔ k ∈ cs.map Prod.fst) ∧ ∀ k, r.1.2.find? k = cs.lookup k := by
  intro r
  have h : Answered empty [] cs r := answered_askAll empty [] cs
  have hfind (k : κ) : r.1.2.find? k = cs.lookup k := (h.find? k).trans Option.none_or
  obtain ⟨fresh, hnotes, hkeys⟩ := h.computed
  have hcomputed : r.2 = r.1.2.keys := hnotes.trans hkeys.symm
  refine ⟨h.answers.trans (List.map_congr_left fun c _ => Option.none_or), ?_, fun k => ?_, hfind⟩
  · exact hcomputed ▸ h.nodup List.nodup_nil
  · rw [hcomputed, mem_keys_iff, hfind]
    exact (mem_keys_iff (m := ⟨cs⟩)).symm

/-! ## Requests for what a function computes -/

/-- A table that keeps only what a function gives, every key once. -/
structure Holds (f : κ → ν) (m : Memo κ ν) : Prop where
  sound : m.Sound f
  nodup : m.keys.Nodup

omit [LawfulBEq κ] in
theorem holds_empty (f : κ → ν) : (empty : Memo κ ν).Holds f := ⟨sound_empty f, List.nodup_nil⟩

theorem Holds.insert {f : κ → ν} (h : m.Holds f) (hk : m.find? k = none) :
    (m.insert k (f k)).Holds f where
  sound j v hj := by
    by_cases hjk : j = k
    · subst hjk
      rw [find?_insert_self] at hj
      exact (Option.some.inj hj).symm
    · rw [find?_insert_of_ne hjk] at hj
      exact h.sound j v hj
  nodup := nodup_insert h.nodup hk (f k)

/-- A request for what a function computes is answered by it, and what the table keeps stays so. -/
theorem Holds.ask {f : κ → ν} (h : m.Holds f) (k : κ) :
    ∃ m', (ask k (pure (f k) : Id ν)).run m = (f k, m') ∧ m'.Holds f := by
  cases hk : m.find? k with
  | some v =>
    obtain rfl := h.sound k v hk
    exact ⟨m, ask_of_find? hk _, h⟩
  | none => exact ⟨_, ask_of_missing hk _, h.insert hk⟩

end Memo

end Caption
