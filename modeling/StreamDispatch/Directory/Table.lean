/-!
# Keyed tables

A table is a list of records kept in increasing order of their keys, one record per key.
Putting a record replaces the record with the same key or inserts it in its place, so a table
built from any sequence of puts holds the last record put for each key, in key order, however
the puts were ordered between keys. `KeyedBy key xs` says that the keys of `xs` strictly
increase; a put keeps it for keys in a strict total order (`KeyedBy.putBy`), and so every table
built by puts has it (`KeyedBy.tableOf`).
-/

namespace StreamDispatch

/-- Puts a record into a table ordered by `key`, replacing the record with the same key. -/
def putBy {α κ : Type} [LT κ] [DecidableRel (α := κ) (· < ·)] [DecidableEq κ] (key : α → κ)
    (x : α) : List α → List α
  | [] => [x]
  | y :: ys =>
    if key x < key y then x :: y :: ys
    else if key x = key y then x :: ys
    else y :: putBy key x ys

/-- The record of a table with a key. -/
def findBy {α κ : Type} [DecidableEq κ] (key : α → κ) (k : κ) (xs : List α) : Option α :=
  xs.find? fun x => key x = k

/-- The table holding the records of a list, the last record of each key winning. -/
def tableOf {α κ : Type} [LT κ] [DecidableRel (α := κ) (· < ·)] [DecidableEq κ] (key : α → κ)
    (xs : List α) : List α :=
  xs.foldl (fun t x => putBy key x t) []

/-! ## Finding after a put -/

/-- The record found under a key has that key. -/
theorem findBy_key {α κ : Type} [DecidableEq κ] {key : α → κ} {k : κ} {xs : List α} {x : α}
    (h : findBy key k xs = some x) : key x = k := by
  unfold findBy at h
  simpa using List.find?_some h

section Lookup

variable {α κ : Type} [LT κ] [DecidableRel (α := κ) (· < ·)] [DecidableEq κ]

/-- A record put into a table is found under its key, and every other key finds what it found
before, whatever order the table is in. -/
theorem findBy_putBy (key : α → κ) (x : α) (k : κ) :
    ∀ xs : List α, findBy key k (putBy key x xs) = if key x = k then some x else findBy key k xs
  | [] => by by_cases h : key x = k <;> simp [putBy, findBy, h]
  | y :: ys => by
    by_cases hlt : key x < key y
    · rw [putBy, if_pos hlt]
      by_cases h : key x = k <;> simp [findBy, h]
    · by_cases heq : key x = key y
      · -- the put replaces `y`, which has the same key
        rw [putBy, if_neg hlt, if_pos heq]
        by_cases h : key y = k <;> simp [findBy, heq, h]
      · -- `y` stays in front, and the put goes on into the rest
        have ih := findBy_putBy key x k ys
        rw [putBy, if_neg hlt, if_neg heq]
        by_cases hy : key y = k
        · have hx : ¬ key x = k := fun h => heq (h.trans hy.symm)
          simp [findBy, hy, hx]
        · simp only [findBy, List.find?_cons, hy, decide_false] at ih ⊢
          exact ih

/-- Putting a record whose key no record has adds it to the table. -/
theorem putBy_perm_of_fresh (key : α → κ) (x : α) :
    ∀ xs : List α, (∀ y ∈ xs, key y ≠ key x) → (putBy key x xs).Perm (x :: xs)
  | [] => fun _ => List.Perm.refl _
  | y :: ys => fun hfresh => by
    have hy : key x ≠ key y := fun h => hfresh y List.mem_cons_self h.symm
    by_cases hlt : key x < key y
    · simp only [putBy, hlt, if_true]
      exact List.Perm.refl _
    · simp only [putBy, hlt, hy, if_false]
      have hrest := putBy_perm_of_fresh key x ys fun z hz => hfresh z (List.mem_cons_of_mem y hz)
      exact (hrest.cons y).trans (List.Perm.swap x y ys)

end Lookup

/-! ## Keyed tables -/

section Order

variable {α κ : Type} [LT κ]

/-- The keys of a table strictly increase: one record per key, in key order. -/
def KeyedBy (key : α → κ) (xs : List α) : Prop := xs.Pairwise fun a b => key a < key b

/-- Whether a table is keyed is decided pair by pair, so a table written out proves it. -/
instance [DecidableRel (α := κ) (· < ·)] (key : α → κ) (xs : List α) :
    Decidable (KeyedBy key xs) :=
  List.instDecidablePairwise xs

/-- A keyed table holds no two records with one key. -/
theorem KeyedBy.pairwise_ne (hirrefl : ∀ a : κ, ¬ a < a) {key : α → κ} {xs : List α}
    (h : KeyedBy key xs) : xs.Pairwise fun a b => key a ≠ key b := by
  unfold KeyedBy at h
  apply h.imp
  intro a b hab heq
  rw [heq] at hab
  exact hirrefl _ hab

/-- A keyed table holds each record once. -/
theorem KeyedBy.nodup (hirrefl : ∀ a : κ, ¬ a < a) {key : α → κ} {xs : List α}
    (h : KeyedBy key xs) : xs.Nodup :=
  (h.pairwise_ne hirrefl).imp fun hne heq => hne (congrArg key heq)

variable [DecidableRel (α := κ) (· < ·)] [DecidableEq κ]

/-- Every record of a table after a put is the record put or was there before. -/
theorem mem_putBy {key : α → κ} {x y : α} : ∀ {xs : List α}, y ∈ putBy key x xs → y = x ∨ y ∈ xs
  | [], h => by simpa [putBy] using h
  | z :: zs, h => by
    by_cases hlt : key x < key z
    · rw [putBy, if_pos hlt] at h
      exact List.mem_cons.1 h
    · by_cases heq : key x = key z
      · rw [putBy, if_neg hlt, if_pos heq] at h
        rcases List.mem_cons.1 h with rfl | h
        · exact .inl rfl
        · exact .inr (List.mem_cons_of_mem z h)
      · rw [putBy, if_neg hlt, if_neg heq] at h
        rcases List.mem_cons.1 h with rfl | h
        · exact .inr List.mem_cons_self
        · rcases mem_putBy h with rfl | h
          · exact .inl rfl
          · exact .inr (List.mem_cons_of_mem z h)

/-- **A put keeps a table keyed**, for keys in a strict total order: the record goes in front of
the first larger key or replaces the record with its own key. -/
theorem KeyedBy.putBy (htrans : ∀ a b c : κ, a < b → b < c → a < c)
    (htotal : ∀ a b : κ, ¬ a < b → a ≠ b → b < a) (key : α → κ) (x : α) :
    ∀ {xs : List α}, KeyedBy key xs → KeyedBy key (StreamDispatch.putBy key x xs)
  | [], _ => by simp [StreamDispatch.putBy, KeyedBy]
  | y :: ys, h => by
    unfold KeyedBy at h ⊢
    obtain ⟨hy, hys⟩ := List.pairwise_cons.1 h
    by_cases hlt : key x < key y
    · -- in front of `y`, below every key of the table
      rw [StreamDispatch.putBy, if_pos hlt]
      refine List.Pairwise.cons (fun z hz => ?_) h
      rcases List.mem_cons.1 hz with rfl | hz
      · exact hlt
      · exact htrans _ _ _ hlt (hy z hz)
    · by_cases heq : key x = key y
      · -- in place of `y`
        rw [StreamDispatch.putBy, if_neg hlt, if_pos heq]
        exact List.Pairwise.cons (fun z hz => heq ▸ hy z hz) hys
      · -- past `y`, into the rest
        rw [StreamDispatch.putBy, if_neg hlt, if_neg heq]
        have hyx : key y < key x := htotal _ _ hlt heq
        refine List.Pairwise.cons (fun z hz => ?_) (KeyedBy.putBy htrans htotal key x hys)
        rcases mem_putBy hz with rfl | hz
        · exact hyx
        · exact hy z hz

/-- A table built by puts from a keyed one is keyed. -/
theorem KeyedBy.foldl_putBy (htrans : ∀ a b c : κ, a < b → b < c → a < c)
    (htotal : ∀ a b : κ, ¬ a < b → a ≠ b → b < a) (key : α → κ) :
    ∀ (xs : List α) {t : List α}, KeyedBy key t →
      KeyedBy key (xs.foldl (fun t x => StreamDispatch.putBy key x t) t)
  | [], _, h => h
  | x :: xs, _, h => KeyedBy.foldl_putBy htrans htotal key xs (KeyedBy.putBy htrans htotal key x h)

/-- The table of a list of records is keyed. -/
theorem KeyedBy.tableOf (htrans : ∀ a b c : κ, a < b → b < c → a < c)
    (htotal : ∀ a b : κ, ¬ a < b → a ≠ b → b < a) (key : α → κ) (xs : List α) :
    KeyedBy key (StreamDispatch.tableOf key xs) :=
  KeyedBy.foldl_putBy htrans htotal key xs List.Pairwise.nil

end Order

end StreamDispatch
