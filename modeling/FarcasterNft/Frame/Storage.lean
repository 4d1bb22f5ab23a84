import Mathlib.Logic.Function.Basic
import Mathlib.Data.Set.Insert
import Mathlib.Data.List.Basic

/-!
# Storage maps and bounded vectors

The two containers every FRAME pallet stores its data in. A storage map holds at most one
value under each key, and is read and written one key at a time. A bounded vector is a list
that carries the proof that it fits its capacity, so that an oversized one cannot be stored.
-/

namespace Frame

/-! ### Storage maps -/

/-- A storage map: every key is either vacant or holds one value. -/
abbrev StorageMap (K V : Type*) := K → Option V

namespace StorageMap

variable {K V : Type*}

/-- The map as it is at genesis. -/
def empty : StorageMap K V := fun _ => none

@[simp] lemma empty_apply (k : K) : (empty : StorageMap K V) k = none := rfl

variable [DecidableEq K]

protected def insert (m : StorageMap K V) (k : K) (v : V) : StorageMap K V :=
  Function.update m k (some v)

protected def remove (m : StorageMap K V) (k : K) : StorageMap K V :=
  Function.update m k none

/-- Write back an optional value, as `try_mutate` does: `none` removes the key. -/
def put (m : StorageMap K V) (k : K) (v : Option V) : StorageMap K V :=
  Function.update m k v

@[simp] lemma put_some (m : StorageMap K V) (k : K) (v : V) :
    m.put k (some v) = m.insert k v := rfl

@[simp] lemma insert_self (m : StorageMap K V) (k : K) (v : V) :
    m.insert k v k = some v := by simp [StorageMap.insert]

@[simp] lemma remove_self (m : StorageMap K V) (k : K) : m.remove k k = none := by
  simp [StorageMap.remove]

lemma insert_of_ne (m : StorageMap K V) {k k' : K} (v : V) (h : k' ≠ k) :
    m.insert k v k' = m k' := by simp [StorageMap.insert, h]

lemma remove_of_ne (m : StorageMap K V) {k k' : K} (h : k' ≠ k) :
    m.remove k k' = m k' := by simp [StorageMap.remove, h]

/-- An insertion changes the value under its own key only. -/
lemma eq_of_insert_ne {m : StorageMap K V} {k k' : K} {v : V} (h : m.insert k v k' ≠ m k') :
    k' = k := by
  by_contra hk
  exact h (insert_of_ne m v hk)

lemma eq_of_remove_ne {m : StorageMap K V} {k k' : K} (h : m.remove k k' ≠ m k') : k' = k := by
  by_contra hk
  exact h (remove_of_ne m hk)

/-- What is stored after an insertion is what was inserted, or was stored elsewhere before. -/
lemma insert_eq_some_iff {m : StorageMap K V} {k k' : K} {v w : V} :
    m.insert k v k' = some w ↔ (k' = k ∧ v = w) ∨ (k' ≠ k ∧ m k' = some w) := by
  by_cases h : k' = k
  · simp [h]
  · simp [insert_of_ne, h]

lemma insert_ne_none_iff {m : StorageMap K V} {k k' : K} {v : V} :
    m.insert k v k' ≠ none ↔ k' = k ∨ m k' ≠ none := by
  by_cases h : k' = k
  · simp [h]
  · simp [insert_of_ne, h]

lemma remove_eq_some_iff {m : StorageMap K V} {k k' : K} {w : V} :
    m.remove k k' = some w ↔ k' ≠ k ∧ m k' = some w := by
  by_cases h : k' = k
  · simp [h]
  · simp [remove_of_ne, h]

lemma remove_ne_none_iff {m : StorageMap K V} {k k' : K} :
    m.remove k k' ≠ none ↔ k' ≠ k ∧ m k' ≠ none := by
  by_cases h : k' = k
  · simp [h]
  · simp [remove_of_ne, h]

/-- The same insertion into two maps that agree elsewhere. -/
lemma insert_congr {m m' : StorageMap K V} {k k' : K} {v : V} (h : m k' = m' k') :
    m.insert k v k' = m'.insert k v k' := by
  by_cases hk : k' = k
  · simp [hk]
  · simp [insert_of_ne, hk, h]

lemma remove_congr {m m' : StorageMap K V} {k k' : K} (h : m k' = m' k') :
    m.remove k k' = m'.remove k k' := by
  by_cases hk : k' = k
  · simp [hk]
  · simp [remove_of_ne, hk, h]

/-- Inserting what is already stored changes nothing. -/
lemma insert_eq_of_apply {m : StorageMap K V} {k : K} {v : V} (h : m k = some v) :
    m.insert k v = m := by
  rw [StorageMap.insert, ← h, Function.update_eq_self]

lemma remove_comm (m : StorageMap K V) (k k' : K) :
    (m.remove k).remove k' = (m.remove k').remove k := by
  funext j
  by_cases hj : j = k
  · subst hj
    by_cases hj' : j = k'
    · simp [hj']
    · simp [remove_of_ne, hj']
  · by_cases hj' : j = k'
    · subst hj'
      simp [remove_of_ne, hj]
    · simp [remove_of_ne, hj, hj']

/-- Apply a function to the value under a key, if there is one. -/
def modify (m : StorageMap K V) (k : K) (f : V → V) : StorageMap K V := m.put k ((m k).map f)

lemma modify_eq_insert {m : StorageMap K V} {k : K} {v : V} (h : m k = some v) (f : V → V) :
    m.modify k f = m.insert k (f v) := by
  rw [modify, h, Option.map_some, put_some]

/-- Modifications of one entry commute if the functions do. -/
lemma modify_comm (m : StorageMap K V) (k : K) {f g : V → V} (h : ∀ v, f (g v) = g (f v)) :
    (m.modify k f).modify k g = (m.modify k g).modify k f := by
  simp [modify, put, Function.comp_def, h]

@[simp] lemma insert_insert (m : StorageMap K V) (k : K) (v w : V) :
    (m.insert k v).insert k w = m.insert k w := by simp [StorageMap.insert]

/-! ### Mapping the values -/

section

variable {W : Type*}

omit [DecidableEq K] in
/-- Keep the keys and transform the values. -/
def mapValues (f : V → W) (m : StorageMap K V) : StorageMap K W := fun k => (m k).map f

omit [DecidableEq K] in
@[simp] lemma mapValues_apply (f : V → W) (m : StorageMap K V) (k : K) :
    m.mapValues f k = (m k).map f := rfl

@[simp] lemma mapValues_insert (f : V → W) (m : StorageMap K V) (k : K) (v : V) :
    (m.insert k v).mapValues f = (m.mapValues f).insert k (f v) := by
  funext k'
  by_cases hk : k' = k
  · simp [hk]
  · simp [insert_of_ne, hk]

@[simp] lemma mapValues_remove (f : V → W) (m : StorageMap K V) (k : K) :
    (m.remove k).mapValues f = (m.mapValues f).remove k := by
  funext k'
  by_cases hk : k' = k
  · simp [hk]
  · simp [remove_of_ne, hk]

end

/-! ### Double maps -/

variable {K₁ K₂ : Type*} [DecidableEq K₁] [DecidableEq K₂]

omit [DecidableEq K₁] [DecidableEq K₂] in
/-- The second keys under which a double map holds a value for the first key `k`. -/
def keysUnder (m : StorageMap (K₁ × K₂) V) (k : K₁) : Set K₂ := {k' | m (k, k') ≠ none}

omit [DecidableEq K₁] [DecidableEq K₂] in
@[simp] lemma mem_keysUnder {m : StorageMap (K₁ × K₂) V} {k : K₁} {k' : K₂} :
    k' ∈ m.keysUnder k ↔ m (k, k') ≠ none := Iff.rfl

lemma keysUnder_insert_self (m : StorageMap (K₁ × K₂) V) (k : K₁) (k' : K₂) (v : V) :
    (m.insert (k, k') v).keysUnder k = insert k' (m.keysUnder k) := by
  ext j
  by_cases hj : j = k'
  · simp [hj]
  · simp [insert_of_ne, hj]

lemma keysUnder_insert_of_ne (m : StorageMap (K₁ × K₂) V) {k j : K₁} (k' : K₂) (v : V)
    (h : j ≠ k) : (m.insert (k, k') v).keysUnder j = m.keysUnder j := by
  ext j'
  simp [insert_of_ne, h]

/-- Overwriting a value adds no key. -/
lemma keysUnder_insert_of_mem {m : StorageMap (K₁ × K₂) V} {k : K₁} {k' : K₂} {w : V} (v : V)
    (h : m (k, k') = some w) (j : K₁) : (m.insert (k, k') v).keysUnder j = m.keysUnder j := by
  by_cases hj : j = k
  · subst hj
    rw [keysUnder_insert_self, Set.insert_eq_of_mem (by simp [h])]
  · exact keysUnder_insert_of_ne m k' v hj

lemma keysUnder_remove_self (m : StorageMap (K₁ × K₂) V) (k : K₁) (k' : K₂) :
    (m.remove (k, k')).keysUnder k = m.keysUnder k \ {k'} := by
  ext j
  by_cases hj : j = k'
  · simp [hj]
  · simp [remove_of_ne, hj]

lemma keysUnder_remove_of_ne (m : StorageMap (K₁ × K₂) V) {k j : K₁} (k' : K₂) (h : j ≠ k) :
    (m.remove (k, k')).keysUnder j = m.keysUnder j := by
  ext j'
  simp [remove_of_ne, h]

end StorageMap

/-! ### Bounded vectors -/

/-- A vector of at most `n` elements. -/
@[ext] structure BoundedVec (α : Type*) (n : ℕ) where
  val : List α
  bound : val.length ≤ n
  deriving DecidableEq

namespace BoundedVec

variable {α : Type*} {n : ℕ}

/-- The empty vector. -/
def new : BoundedVec α n := ⟨[], Nat.zero_le n⟩

/-- Accept a list that fits. -/
def tryFrom (l : List α) : Option (BoundedVec α n) :=
  if h : l.length ≤ n then some ⟨l, h⟩ else none

/-- Append one element if there is room for it. -/
def tryPush (v : BoundedVec α n) (a : α) : Option (BoundedVec α n) :=
  if h : v.val.length < n then
    some ⟨v.val ++ [a], by rw [List.length_append, List.length_singleton]; exact h⟩
  else none

/-- Keep the elements that satisfy `p`, in their order. -/
def retain (v : BoundedVec α n) (p : α → Bool) : BoundedVec α n :=
  ⟨v.val.filter p, Nat.le_trans (List.length_filter_le p v.val) v.bound⟩

@[simp] lemma val_new : (new : BoundedVec α n).val = [] := rfl

@[simp] lemma val_retain (v : BoundedVec α n) (p : α → Bool) :
    (v.retain p).val = v.val.filter p := rfl

lemma tryFrom_eq_some_iff {l : List α} {v : BoundedVec α n} :
    tryFrom l = some v ↔ v.val = l := by
  rw [tryFrom]
  constructor
  · intro h
    split_ifs at h
    cases h; rfl
  · rintro rfl
    rw [dif_pos v.bound]

lemma tryFrom_isSome_iff {l : List α} :
    (∃ v : BoundedVec α n, tryFrom l = some v) ↔ l.length ≤ n := by
  constructor
  · rintro ⟨v, hv⟩
    exact tryFrom_eq_some_iff.mp hv ▸ v.bound
  · intro h
    exact ⟨⟨l, h⟩, tryFrom_eq_some_iff.mpr rfl⟩

lemma tryFrom_eq_none_iff {l : List α} :
    (tryFrom l : Option (BoundedVec α n)) = none ↔ n < l.length := by
  rw [Option.eq_none_iff_forall_ne_some, ← not_exists, tryFrom_isSome_iff, Nat.not_le]

lemma tryPush_eq_some_iff {v w : BoundedVec α n} {a : α} :
    v.tryPush a = some w ↔ w.val = v.val ++ [a] := by
  rw [tryPush]
  constructor
  · intro h
    split_ifs at h
    cases h; rfl
  · intro h
    have hlt : v.val.length < n := by
      have hbound := w.bound
      rw [h, List.length_append, List.length_singleton] at hbound
      exact hbound
    rw [dif_pos hlt]
    exact congrArg some (BoundedVec.ext h.symm)

lemma tryPush_isSome_iff {v : BoundedVec α n} {a : α} :
    (∃ w, v.tryPush a = some w) ↔ v.val.length < n := by
  constructor
  · rintro ⟨w, hw⟩
    have hbound := w.bound
    rw [tryPush_eq_some_iff.mp hw, List.length_append, List.length_singleton] at hbound
    exact hbound
  · intro h
    exact ⟨_, dif_pos h⟩

lemma tryPush_eq_none_iff {v : BoundedVec α n} {a : α} :
    v.tryPush a = none ↔ n ≤ v.val.length := by
  rw [Option.eq_none_iff_forall_ne_some, ← not_exists, tryPush_isSome_iff, Nat.not_lt]

end BoundedVec

end Frame
