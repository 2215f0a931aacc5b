import Mathlib.Order.Defs.Unbundled

/-!
# Computations whose failures keep the state they reached

`EStateM ε σ α` runs from a state and returns a value or an error, and in both
cases the state it reached. Code that writes to a disk and stops at the first
failed write (`?` in a loop of side effects) is of this kind: what was written
before the failure stays written.

Two kinds of rules:

* `bind_apply` and `bind_apply_ok` run a `>>=` whose first part is known;
* `Stays R x` says that `x` relates by `R` the state it starts from and the state
  it ends in, returned or failed. For a preorder `R` this composes through `>>=`
  (`Stays.bind`) and loops (`Stays.forM`), which is how a property of each primitive
  step becomes one of a whole program. For a state that is a log of effects,
  `AppendsOnly P` is such a preorder: the log grows by entries that satisfy `P`.

Nothing here names the program being verified.
-/

namespace EStateM

variable {ε σ α β : Type}

/-- The state a run ends in, whether it returned or failed. -/
def Result.state : Result ε σ α → σ
  | .ok _ s => s
  | .error _ s => s

/-- What a run returned, or its error. -/
def Result.value : Result ε σ α → Except ε α
  | .ok a _ => .ok a
  | .error e _ => .error e

@[simp] theorem Result.state_ok (a : α) (s : σ) : (Result.ok a s : Result ε σ α).state = s := rfl

@[simp] theorem Result.state_error (e : ε) (s : σ) : (Result.error e s : Result ε σ α).state = s :=
  rfl

theorem bind_apply (x : EStateM ε σ α) (f : α → EStateM ε σ β) (s : σ) :
    (x >>= f) s = match x s with
      | .ok a s' => f a s'
      | .error e s' => .error e s' := rfl

theorem bind_apply_ok {x : EStateM ε σ α} {s s' : σ} {a : α} (h : x s = .ok a s')
    (f : α → EStateM ε σ β) : (x >>= f) s = f a s' := by
  rw [bind_apply, h]

@[simp] theorem pure_apply (a : α) (s : σ) : (pure a : EStateM ε σ α) s = .ok a s := rfl

@[simp] theorem throw_apply (e : ε) (s : σ) : (throw e : EStateM ε σ α) s = .error e s := rfl

theorem get_bind_apply (f : σ → EStateM ε σ β) (s : σ) : (get >>= f) s = f s s := rfl

theorem adaptExcept_apply_ok {ε' : Type} {x : EStateM ε σ α} {s s' : σ} {a : α}
    (h : x s = .ok a s') (f : ε → ε') : x.adaptExcept f s = .ok a s' := by
  show (match x s with
    | Result.error e s => Result.error (f e) s
    | Result.ok a s => Result.ok a s) = _
  rw [h]

/-- Runs `x` and drops its error: the run goes on from the state `x` reached. -/
def discardError {ε' : Type} (x : EStateM ε' σ Unit) : EStateM ε σ Unit := fun s => .ok () (x s).state

@[simp] theorem discardError_apply {ε' : Type} (x : EStateM ε' σ Unit) (s : σ) :
    (discardError x : EStateM ε σ Unit) s = .ok () (x s).state := rfl

/-- An `Except` value as a computation that leaves the state alone. -/
def ofExcept (x : Except ε α) : EStateM ε σ α := fun s =>
  match x with
  | .ok a => .ok a s
  | .error e => .error e s

/-- Rust's `inspect_err` with a handler whose own result is dropped: after a failure of `x` the
handler runs, and the failure is kept. -/
def inspectErr {ε' : Type} (x : EStateM ε σ α) (handler : ε → EStateM ε' σ Unit) : EStateM ε σ α :=
  fun s => match x s with
    | .ok a s' => .ok a s'
    | .error e s' => .error e (handler e s').state

/-- Runs `x` and returns what it returned, or its error, as a value. -/
def capture {ε' : Type} (x : EStateM ε' σ α) : EStateM ε σ (Except ε' α) := fun s =>
  match x s with
  | .ok a s' => .ok (.ok a) s'
  | .error e s' => .ok (.error e) s'

/-- A `>>=` that returned ran its first part to a value, and its continuation from there. -/
theorem bind_apply_eq_ok {x : EStateM ε σ α} {f : α → EStateM ε σ β} {s s' : σ} {b : β}
    (h : (x >>= f) s = .ok b s') : ∃ a t, x s = .ok a t ∧ f a t = .ok b s' := by
  rw [bind_apply] at h
  cases hx : x s with
  | ok a t =>
    rw [hx] at h
    exact ⟨a, t, rfl, h⟩
  | error e t =>
    rw [hx] at h
    cases h

theorem adaptExcept_apply_eq_ok {ε' : Type} {x : EStateM ε σ α} {f : ε → ε'} {s s' : σ} {a : α}
    (h : x.adaptExcept f s = .ok a s') : x s = .ok a s' := by
  change (match x s with
    | Result.error e s => (Result.error (f e) s : Result ε' σ α)
    | Result.ok a s => Result.ok a s) = _ at h
  cases hx : x s with
  | ok a' t =>
    rw [hx] at h
    cases h
    rfl
  | error e t =>
    rw [hx] at h
    cases h

theorem ofExcept_apply_eq_ok {x : Except ε α} {s s' : σ} {a : α} (h : ofExcept x s = .ok a s') :
    x = .ok a ∧ s' = s := by
  cases x with
  | ok a' =>
    cases h
    exact ⟨rfl, rfl⟩
  | error e => cases h

theorem capture_apply {ε' : Type} (x : EStateM ε' σ α) (s : σ) :
    (capture x : EStateM ε σ (Except ε' α)) s = .ok (x s).value (x s).state := by
  simp only [capture]
  cases x s <;> rfl

theorem inspectErr_apply_ok {ε' : Type} {x : EStateM ε σ α} {s s' : σ} {a : α} (h : x s = .ok a s')
    (handler : ε → EStateM ε' σ Unit) : x.inspectErr handler s = .ok a s' := by
  simp only [inspectErr, h]

theorem inspectErr_apply_error {ε' : Type} {x : EStateM ε σ α} {s s' : σ} {e : ε}
    (h : x s = .error e s') (handler : ε → EStateM ε' σ Unit) :
    x.inspectErr handler s = .error e (handler e s').state := by
  simp only [inspectErr, h]

theorem inspectErr_apply_eq_ok {ε' : Type} {x : EStateM ε σ α} {handler : ε → EStateM ε' σ Unit}
    {s s' : σ} {a : α} (h : x.inspectErr handler s = .ok a s') : x s = .ok a s' := by
  cases hx : x s with
  | ok a' t =>
    rw [inspectErr_apply_ok hx] at h
    rw [h]
  | error e t =>
    rw [inspectErr_apply_error hx] at h
    cases h

/-! ### Relating the start and the end of every run -/

/-- Every run of `x` ends, returned or failed, in a state related by `R` to its start. -/
def Stays (R : σ → σ → Prop) (x : EStateM ε σ α) : Prop := ∀ s, R s (x s).state

section Stays

variable {R : σ → σ → Prop}

theorem Stays.pure [Std.Refl R] (a : α) : Stays R (Pure.pure a : EStateM ε σ α) :=
  fun s => Std.Refl.refl s

theorem Stays.throw [Std.Refl R] (e : ε) : Stays R (MonadExcept.throw e : EStateM ε σ α) :=
  fun s => Std.Refl.refl s

theorem Stays.bind [IsTrans σ R] {x : EStateM ε σ α} {f : α → EStateM ε σ β} (hx : Stays R x)
    (hf : ∀ a, Stays R (f a)) : Stays R (x >>= f) := by
  intro s
  have h := hx s
  rw [bind_apply]
  -- a failed first part ends the run where it stopped; otherwise the rest continues from there
  cases hxs : x s with
  | ok a s' =>
    rw [hxs, Result.state_ok] at h
    exact trans_of R h (hf a s')
  | error e s' =>
    rw [hxs, Result.state_error] at h
    exact h

/-- A computation that starts from a known `Except` value keeps what its continuation keeps at
every value it can return. -/
theorem Stays.ofExcept_bind [Std.Refl R] {x : Except ε α} {f : α → EStateM ε σ β}
    (hf : ∀ a, x = .ok a → Stays R (f a)) : Stays R (ofExcept x >>= f) := by
  intro s
  cases x with
  | ok a => exact hf a rfl s
  | error e => exact Std.Refl.refl s

theorem Stays.adaptExcept {ε' : Type} {x : EStateM ε σ α} (h : Stays R x) (f : ε → ε') :
    Stays R (x.adaptExcept f) := by
  intro s
  have hs := h s
  show R s (match x s with
    | Result.error e s => (Result.error (f e) s : Result ε' σ α)
    | Result.ok a s => Result.ok a s).state
  cases hxs : x s with
  | ok a s' => rw [hxs] at hs; exact hs
  | error e s' => rw [hxs] at hs; exact hs

theorem Stays.discardError {ε' : Type} {x : EStateM ε' σ Unit} (h : Stays R x) :
    Stays R (EStateM.discardError x : EStateM ε σ Unit) :=
  h

theorem Stays.ofExcept [Std.Refl R] (x : Except ε α) :
    Stays R (EStateM.ofExcept x : EStateM ε σ α) := by
  intro s
  cases x <;> exact Std.Refl.refl s

theorem Stays.inspectErr [IsTrans σ R] {ε' : Type} {x : EStateM ε σ α}
    {handler : ε → EStateM ε' σ Unit} (hx : Stays R x) (hh : ∀ e, Stays R (handler e)) :
    Stays R (x.inspectErr handler) := by
  intro s
  have h := hx s
  cases hxs : x s with
  | ok a s' =>
    rw [hxs, Result.state_ok] at h
    rw [inspectErr_apply_ok hxs]
    exact h
  | error e s' =>
    rw [hxs, Result.state_error] at h
    rw [inspectErr_apply_error hxs]
    exact trans_of R h (hh e s')

theorem Stays.mono {R' : σ → σ → Prop} {x : EStateM ε σ α} (h : Stays R x)
    (hR : ∀ s s', R s s' → R' s s') : Stays R' x :=
  fun s => hR s _ (h s)

/-- A loop over a list keeps what each of its turns keeps. -/
theorem Stays.forM [Std.Refl R] [IsTrans σ R] {l : List α} {f : α → EStateM ε σ PUnit}
    (hf : ∀ a ∈ l, Stays R (f a)) : Stays R (l.forM f) := by
  induction l with
  | nil => exact Stays.pure _
  | cons a l ih =>
    show Stays R (f a >>= fun _ => l.forM f)
    exact Stays.bind (hf a List.mem_cons_self) fun _ =>
      ih fun b hb => hf b (List.mem_cons_of_mem _ hb)

end Stays

/-! ### Logs that only grow -/

/-- A log grows from `l` to `l'` by entries that all satisfy `P`. -/
def AppendsOnly {δ : Type} (P : δ → Prop) (l l' : List δ) : Prop :=
  ∃ added, l' = l ++ added ∧ ∀ d ∈ added, P d

section AppendsOnly

variable {δ : Type} {P : δ → Prop}

instance : Std.Refl (AppendsOnly P) :=
  ⟨fun l => ⟨[], (List.append_nil l).symm, fun _ h => absurd h List.not_mem_nil⟩⟩

instance : IsTrans (List δ) (AppendsOnly P) :=
  ⟨fun _ _ _ ⟨x, hx, px⟩ ⟨y, hy, py⟩ =>
    ⟨x ++ y, by rw [hy, hx, List.append_assoc], fun d hd =>
      (List.mem_append.mp hd).elim (px d) (py d)⟩⟩

/-- Appending one entry that satisfies `P`. -/
theorem AppendsOnly.append_singleton {d : δ} (hd : P d) (l : List δ) :
    AppendsOnly P l (l ++ [d]) :=
  ⟨[d], rfl, fun _ h => (List.mem_singleton.mp h) ▸ hd⟩

/-- Every entry a log grown from nothing holds satisfies `P`. -/
theorem AppendsOnly.of_nil {l : List δ} (h : AppendsOnly P [] l) : ∀ d ∈ l, P d := by
  obtain ⟨added, rfl, hadded⟩ := h
  exact hadded

end AppendsOnly

/-! ### Runs that return -/

/-- Every run of `x` returns. -/
def Returns (x : EStateM ε σ α) : Prop := ∀ s, ∃ a s', x s = .ok a s'

theorem Returns.pure (a : α) : Returns (Pure.pure a : EStateM ε σ α) := fun s => ⟨a, s, rfl⟩

theorem Returns.bind {x : EStateM ε σ α} {f : α → EStateM ε σ β} (hx : Returns x)
    (hf : ∀ a, Returns (f a)) : Returns (x >>= f) := by
  intro s
  obtain ⟨a, s', hxs⟩ := hx s
  rw [bind_apply_ok hxs]
  exact hf a s'

theorem Returns.adaptExcept {ε' : Type} {x : EStateM ε σ α} (h : Returns x) (f : ε → ε') :
    Returns (x.adaptExcept f) := by
  intro s
  obtain ⟨a, s', hxs⟩ := h s
  exact ⟨a, s', adaptExcept_apply_ok hxs f⟩

theorem Returns.discardError {ε' : Type} (x : EStateM ε' σ Unit) :
    Returns (EStateM.discardError x : EStateM ε σ Unit) :=
  fun s => ⟨(), _, discardError_apply x s⟩

end EStateM
