import FarcasterNft.Frame.Storage

/-!
# Dispatchable calls and the storage layer

A dispatchable call is a program that reads and writes a state and either returns or fails.
A failure keeps the writes made so far: rolling them back is the business of the storage
layer, `withStorageLayer`, in which FRAME runs every dispatched call.

Storage items are lenses into the state, so that one set of operations and one set of
execution lemmas serves every pallet.
-/

namespace Frame

/-! ### Errors and origins -/

/-- Why a currency refuses a transfer. -/
inductive CurrencyError where
  | fundsUnavailable
  | belowMinimum
  | notExpendable
  | other
  deriving DecidableEq

/-- Why a dispatch fails: `module` carries the error of the pallet the call belongs to. -/
inductive DispatchError (E : Type) where
  | badOrigin
  | module (e : E)
  | currency (e : CurrencyError)
  deriving DecidableEq

/-- Who sends a call. -/
inductive RawOrigin (AccountId : Type) where
  | root
  | signed (who : AccountId)
  | none

/-! ### Calls as state-passing programs -/

/-- A dispatchable call over the state `S` of a pallet with errors `E`. The state survives a
failure. -/
abbrev Dispatchable (S E α : Type) := ExceptT (DispatchError E) (StateM S) α

variable {S E α β : Type}

/-- Run a call: its result, and the state it leaves behind. -/
def exec (x : Dispatchable S E α) (s : S) : Except (DispatchError E) α × S := x.run.run s

@[simp] lemma exec_pure (a : α) (s : S) : exec (pure a : Dispatchable S E α) s = (.ok a, s) := rfl

@[simp] lemma exec_throw (e : DispatchError E) (s : S) :
    exec (throw e : Dispatchable S E α) s = (.error e, s) := rfl

@[simp] lemma exec_get (s : S) : exec (get : Dispatchable S E S) s = (.ok s, s) := rfl

@[simp] lemma exec_modify (f : S → S) (s : S) :
    exec (modify f : Dispatchable S E Unit) s = (.ok (), f s) := rfl

/-- Sequencing: the rest runs on the state the first part leaves, unless that part failed. -/
lemma exec_bind (x : Dispatchable S E α) (f : α → Dispatchable S E β) (s : S) :
    exec (x >>= f) s = match exec x s with
      | (.ok a, t) => exec (f a) t
      | (.error e, t) => (.error e, t) := by
  simp only [exec, ExceptT.run_bind, StateT.run_bind]
  rcases x.run.run s with ⟨_ | _, t⟩ <;> rfl

/-- A sequence returns exactly if both of its parts do. -/
lemma exec_bind_ok_iff {x : Dispatchable S E α} {f : α → Dispatchable S E β} {s t : S} {b : β} :
    exec (x >>= f) s = (.ok b, t) ↔
      ∃ a u, exec x s = (.ok a, u) ∧ exec (f a) u = (.ok b, t) := by
  rw [exec_bind]
  rcases exec x s with ⟨_ | a, u⟩
  · simp
  · simp

lemma exec_map_ok_iff {x : Dispatchable S E α} {f : α → β} {s t : S} {b : β} :
    exec (f <$> x) s = (.ok b, t) ↔ ∃ a, exec x s = (.ok a, t) ∧ f a = b := by
  rw [← bind_pure_comp, exec_bind_ok_iff]
  constructor
  · rintro ⟨a, u, hx, hf⟩
    simp only [exec_pure, Prod.mk.injEq, Except.ok.injEq] at hf
    exact ⟨a, hf.2 ▸ hx, hf.1⟩
  · rintro ⟨a, hx, rfl⟩
    exact ⟨a, t, hx, rfl⟩

/-- A sequence fails exactly if one of its parts does. What the first part wrote stays. -/
lemma exec_bind_error_iff {x : Dispatchable S E α} {f : α → Dispatchable S E β} {s t : S}
    {e : DispatchError E} :
    exec (x >>= f) s = (.error e, t) ↔
      exec x s = (.error e, t) ∨
        ∃ a u, exec x s = (.ok a, u) ∧ exec (f a) u = (.error e, t) := by
  rw [exec_bind]
  rcases exec x s with ⟨_ | a, u⟩
  · simp
  · simp

@[simp] lemma exec_map_error_iff {x : Dispatchable S E α} {f : α → β} {s t : S}
    {e : DispatchError E} : exec (f <$> x) s = (.error e, t) ↔ exec x s = (.error e, t) := by
  rw [← bind_pure_comp, exec_bind_error_iff]
  simp

/-- Fail with a pallet error unless the condition holds. -/
def ensure (p : Prop) [Decidable p] (e : E) : Dispatchable S E Unit :=
  if p then pure () else throw (.module e)

@[simp] lemma exec_ensure_ok_iff {p : Prop} [Decidable p] {e : E} {s t : S} {u : Unit} :
    exec (ensure p e : Dispatchable S E Unit) s = (.ok u, t) ↔ p ∧ t = s := by
  rw [ensure]
  split_ifs with hp
  · simp [hp, eq_comm]
  · simp [hp]

@[simp] lemma exec_ensure_error_iff {p : Prop} [Decidable p] {e : E} {e' : DispatchError E}
    {s t : S} :
    exec (ensure p e : Dispatchable S E Unit) s = (.error e', t) ↔
      ¬p ∧ e' = .module e ∧ t = s := by
  rw [ensure]
  split_ifs with hp
  · simp [hp]
  · simp [hp, eq_comm]

/-- Unwrap an optional value, or fail with a pallet error. -/
def okOr (o : Option α) (e : E) : Dispatchable S E α :=
  match o with
  | some a => pure a
  | none => throw (.module e)

@[simp] lemma exec_okOr_ok_iff {o : Option α} {e : E} {s t : S} {a : α} :
    exec (okOr o e : Dispatchable S E α) s = (.ok a, t) ↔ o = some a ∧ t = s := by
  cases o with
  | none => simp [okOr]
  | some b => simp [okOr, eq_comm]

@[simp] lemma exec_okOr_error_iff {o : Option α} {e : E} {e' : DispatchError E} {s t : S} :
    exec (okOr o e : Dispatchable S E α) s = (.error e', t) ↔
      o = none ∧ e' = .module e ∧ t = s := by
  cases o with
  | none => simp [okOr, eq_comm]
  | some b => simp [okOr]

/-- Only a signed origin has an account. -/
def ensureSigned {AccountId : Type} (origin : RawOrigin AccountId) : Dispatchable S E AccountId :=
  match origin with
  | .signed who => pure who
  | _ => throw .badOrigin

@[simp] lemma exec_ensureSigned_ok_iff {AccountId : Type} {origin : RawOrigin AccountId}
    {s t : S} {who : AccountId} :
    exec (ensureSigned origin : Dispatchable S E AccountId) s = (.ok who, t) ↔
      origin = .signed who ∧ t = s := by
  cases origin <;> simp [ensureSigned, eq_comm]

@[simp] lemma exec_ensureSigned_error_iff {AccountId : Type} {origin : RawOrigin AccountId}
    {s t : S} {e : DispatchError E} :
    exec (ensureSigned origin : Dispatchable S E AccountId) s = (.error e, t) ↔
      (∀ who, origin ≠ .signed who) ∧ e = .badOrigin ∧ t = s := by
  cases origin <;> simp [ensureSigned, eq_comm]

/-! ### Storage items -/

/-- A storage map inside the state `S`: where it is read from and how it is written back. -/
structure MapItem (S K V : Type) where
  read : S → StorageMap K V
  write : S → StorageMap K V → S

/-- A single stored value inside the state `S`. -/
structure ValueItem (S V : Type) where
  read : S → V
  write : S → V → S

namespace ValueItem

variable {V : Type}

def get (item : ValueItem S V) : Dispatchable S E V := do
  return item.read (← MonadState.get)

def put (item : ValueItem S V) (v : V) : Dispatchable S E Unit :=
  modify fun s => item.write s v

@[simp] lemma exec_get (item : ValueItem S V) (s : S) :
    exec (item.get : Dispatchable S E V) s = (.ok (item.read s), s) := rfl

@[simp] lemma exec_put (item : ValueItem S V) (v : V) (s : S) :
    exec (item.put v : Dispatchable S E Unit) s = (.ok (), item.write s v) := rfl

end ValueItem

namespace MapItem

variable {K V : Type}

def get (item : MapItem S K V) (k : K) : Dispatchable S E (Option V) := do
  return item.read (← MonadState.get) k

/-- The value under a key of a map declared with `ValueQuery`: the default if it is vacant. -/
def getOrDefault [Inhabited V] (item : MapItem S K V) (k : K) : Dispatchable S E V := do
  return (item.read (← MonadState.get) k).getD default

def containsKey (item : MapItem S K V) (k : K) : Dispatchable S E Bool := do
  return (item.read (← MonadState.get) k).isSome

@[simp] lemma exec_get (item : MapItem S K V) (k : K) (s : S) :
    exec (item.get k : Dispatchable S E (Option V)) s = (.ok (item.read s k), s) := rfl

@[simp] lemma exec_getOrDefault [Inhabited V] (item : MapItem S K V) (k : K) (s : S) :
    exec (item.getOrDefault k : Dispatchable S E V) s =
      (.ok ((item.read s k).getD default), s) := rfl

@[simp] lemma exec_containsKey (item : MapItem S K V) (k : K) (s : S) :
    exec (item.containsKey k : Dispatchable S E Bool) s = (.ok (item.read s k).isSome, s) := rfl

variable [DecidableEq K]

def insert (item : MapItem S K V) (k : K) (v : V) : Dispatchable S E Unit :=
  modify fun s => item.write s ((item.read s).insert k v)

def remove (item : MapItem S K V) (k : K) : Dispatchable S E Unit :=
  modify fun s => item.write s ((item.read s).remove k)

/-- Mutate the value under a key by a fallible closure, and write it back if that succeeds. -/
def tryMutate (item : MapItem S K V) (k : K) (f : Option V → Dispatchable S E (Option V)) :
    Dispatchable S E Unit := do
  let v ← f (← item.get k)
  modify fun s => item.write s ((item.read s).put k v)

@[simp] lemma exec_insert (item : MapItem S K V) (k : K) (v : V) (s : S) :
    exec (item.insert k v : Dispatchable S E Unit) s =
      (.ok (), item.write s ((item.read s).insert k v)) := rfl

@[simp] lemma exec_remove (item : MapItem S K V) (k : K) (s : S) :
    exec (item.remove k : Dispatchable S E Unit) s =
      (.ok (), item.write s ((item.read s).remove k)) := rfl

lemma exec_tryMutate_ok_iff {item : MapItem S K V} {k : K}
    {f : Option V → Dispatchable S E (Option V)} {s t : S} {u : Unit} :
    exec (item.tryMutate k f) s = (.ok u, t) ↔
      ∃ v s', exec (f (item.read s k)) s = (.ok v, s') ∧
        t = item.write s' ((item.read s').put k v) := by
  simp only [tryMutate, exec_bind_ok_iff, exec_get, exec_modify, Prod.mk.injEq, Except.ok.injEq]
  constructor
  · rintro ⟨_, _, ⟨rfl, rfl⟩, v, s', hf, -, rfl⟩
    exact ⟨v, s', hf, rfl⟩
  · rintro ⟨v, s', hf, rfl⟩
    exact ⟨_, _, ⟨rfl, rfl⟩, v, s', hf, trivial, rfl⟩

/-- A mutation fails exactly if its closure does, and then writes nothing back. -/
lemma exec_tryMutate_error_iff {item : MapItem S K V} {k : K}
    {f : Option V → Dispatchable S E (Option V)} {s t : S} {e : DispatchError E} :
    exec (item.tryMutate k f) s = (.error e, t) ↔
      exec (f (item.read s k)) s = (.error e, t) := by
  simp [tryMutate, exec_bind_error_iff]

end MapItem

/-! ### The storage layer -/

/-- Run a call inside a storage layer: a failure restores the state it started from. -/
def withStorageLayer (x : Dispatchable S E α) (s : S) : Except (DispatchError E) α × S :=
  match exec x s with
  | (.ok a, t) => (.ok a, t)
  | (.error e, _) => (.error e, s)

lemma withStorageLayer_ok_iff {x : Dispatchable S E α} {s t : S} {a : α} :
    withStorageLayer x s = (.ok a, t) ↔ exec x s = (.ok a, t) := by
  rw [withStorageLayer]
  rcases exec x s with ⟨_ | _, u⟩ <;> simp

lemma withStorageLayer_error_iff {x : Dispatchable S E α} {s t : S} {e : DispatchError E} :
    withStorageLayer x s = (.error e, t) ↔ t = s ∧ ∃ u, exec x s = (.error e, u) := by
  rw [withStorageLayer]
  rcases exec x s with ⟨_ | _, u⟩
  · simp [eq_comm, and_comm]
  · simp

/-- A call that fails under the storage layer leaves no trace. -/
lemma withStorageLayer_error {x : Dispatchable S E α} {s t : S} {e : DispatchError E}
    (h : withStorageLayer x s = (.error e, t)) : t = s :=
  (withStorageLayer_error_iff.mp h).1

end Frame
