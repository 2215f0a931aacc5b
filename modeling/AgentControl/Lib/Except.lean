import Mathlib.Data.List.Basic
import Mathlib.Data.List.Forall2

/-!
# Fallible code in the `Except` monad

Rust's `?` is `>>=` in `Except`, a `for` loop with `?` inside is `List.forM`, and
`map_err` is `Except.mapError`. A bind on a known value runs by `simp` (`pure_eq_ok`,
`ok_bind`, `error_bind`, `throw_bind`), and so does `mapError` (`mapError_ok`,
`mapError_error`).
Peeling such code apart is always the same three moves, stated once here as one
inversion lemma per combinator, used with `obtain`:

* a bind succeeded iff its first computation succeeded and the continuation did
  on that value (`bind_eq_ok`);
* a loop succeeded iff every iteration did (`forM_eq_ok`), and a map iff every
  element's image did, in order (`mapM_eq_ok`); a fold whose every turn returns
  its accumulator returns where it started (`foldlM_eq_ok_of_forall`);
* a map succeeded iff its computation did (`map_eq_ok`), and `mapError` changes
  errors only (`mapError_eq_ok`).

Which error a failed computation returned is `error?`; two computations in sequence return
the error of the first of them that fails (`error?_seq`).

`Option::ok_or_else` is `Option.okOrElse`, which succeeds exactly on a value
(`Option.okOrElse_eq_ok`).
-/

namespace Except

variable {ε ε' α β : Type}

@[simp] theorem pure_eq_ok (a : α) : (pure a : Except ε α) = .ok a := rfl

@[simp] theorem ok_bind (a : α) (f : α → Except ε β) : (Except.ok a >>= f) = f a := rfl

@[simp] theorem error_bind (e : ε) (f : α → Except ε β) : (Except.error e >>= f) = .error e := rfl

@[simp] theorem throw_bind (e : ε) (f : α → Except ε β) : (throw e >>= f : Except ε β) = .error e :=
  rfl

@[simp] theorem mapError_ok (g : ε → ε') (a : α) : (Except.ok a : Except ε α).mapError g = .ok a :=
  rfl

@[simp] theorem mapError_error (g : ε → ε') (e : ε) :
    (Except.error e : Except ε α).mapError g = .error (g e) := rfl

theorem bind_eq_ok {x : Except ε α} {f : α → Except ε β} {b : β} :
    x >>= f = .ok b ↔ ∃ a, x = .ok a ∧ f a = .ok b := by
  cases x with
  | error e => simp [bind, Except.bind]
  | ok a => simp [bind, Except.bind]

theorem map_eq_ok {x : Except ε α} {f : α → β} {b : β} :
    f <$> x = .ok b ↔ ∃ a, x = .ok a ∧ f a = b := by
  cases x with
  | error e => simp [Functor.map, Except.map]
  | ok a => simp [Functor.map, Except.map]

theorem mapError_eq_ok {x : Except ε α} {g : ε → ε'} {a : α} :
    x.mapError g = .ok a ↔ x = .ok a := by
  cases x with
  | error e => simp [Except.mapError]
  | ok a' => simp [Except.mapError]

/-- A fold whose every turn returns the accumulator it was given returns where it started. -/
theorem foldlM_eq_ok_of_forall {l : List α} {f : β → α → Except ε β}
    (hf : ∀ a ∈ l, ∀ b, f b a = .ok b) (b : β) : l.foldlM f b = .ok b := by
  induction l with
  | nil => rfl
  | cons a l ih =>
    rw [List.foldlM_cons, hf a List.mem_cons_self b, ok_bind]
    exact ih fun a' ha' => hf a' (List.mem_cons_of_mem a ha')

/-- A loop in `Except` succeeds iff every iteration succeeds. -/
theorem forM_eq_ok {l : List α} {f : α → Except ε Unit} :
    l.forM f = .ok () ↔ ∀ a ∈ l, f a = .ok () := by
  rw [List.forM_eq_forM]
  induction l with
  | nil => simp [pure, Except.pure]
  | cons a l ih =>
    rw [List.forM_cons, bind_eq_ok, List.forall_mem_cons, ← ih]
    constructor
    · rintro ⟨⟨⟩, h1, h2⟩
      exact ⟨h1, h2⟩
    · rintro ⟨h1, h2⟩
      exact ⟨(), h1, h2⟩

/-- A map in `Except` succeeds iff every element's image does, in order. -/
theorem mapM_eq_ok {l : List α} {f : α → Except ε β} {l' : List β} :
    l.mapM f = .ok l' ↔ List.Forall₂ (fun a b => f a = .ok b) l l' := by
  induction l generalizing l' with
  | nil =>
    cases l' with
    | nil => simp [pure, Except.pure]
    | cons b l' => simp [pure, Except.pure]
  | cons a l ih =>
    rw [List.mapM_cons, bind_eq_ok]
    constructor
    · rintro ⟨b, hb, hrest⟩
      obtain ⟨bs, hbs, hl'⟩ := bind_eq_ok.mp hrest
      cases hl'
      exact List.Forall₂.cons hb (ih.mp hbs)
    · intro h
      cases h with
      | cons hb hrest => exact ⟨_, hb, bind_eq_ok.mpr ⟨_, ih.mpr hrest, rfl⟩⟩

/-- An element of the joined results of a successful map is in the image of one element. -/
theorem mem_flatten_of_mapM_eq_ok {l : List α} {f : α → Except ε (List β)} {ls : List (List β)}
    (h : l.mapM f = .ok ls) {b : β} : b ∈ ls.flatten ↔ ∃ a ∈ l, ∃ bs, f a = .ok bs ∧ b ∈ bs := by
  have hall := mapM_eq_ok.mp h
  clear h
  induction hall with
  | nil => simp
  | @cons a bs l ls hab _ ih =>
    rw [List.flatten_cons, List.mem_append]
    constructor
    · rintro (hb | hb)
      · exact ⟨a, List.mem_cons_self, bs, hab, hb⟩
      · obtain ⟨a', ha', bs', hf, hb⟩ := ih.mp hb
        exact ⟨a', List.mem_cons_of_mem _ ha', bs', hf, hb⟩
    · rintro ⟨a', ha', bs', hf, hb⟩
      rcases List.mem_cons.mp ha' with rfl | ha'
      · rw [hab] at hf
        cases hf
        exact Or.inl hb
      · exact Or.inr (ih.mpr ⟨a', ha', bs', hf, hb⟩)

/-- The error of a computation that failed. -/
def error? : Except ε α → Option ε
  | .error e => some e
  | .ok _ => none

@[simp] theorem error?_ok (a : α) : (Except.ok a : Except ε α).error? = none := rfl

@[simp] theorem error?_error (e : ε) : (Except.error e : Except ε α).error? = some e := rfl

@[simp] theorem error?_map (f : α → β) (x : Except ε α) : (f <$> x).error? = x.error? := by
  cases x <;> rfl

theorem error?_eq_none {x : Except ε α} : x.error? = none ↔ ∃ a, x = .ok a := by
  cases x <;> simp

/-- Two computations in sequence fail with the error of the first of them that fails. -/
theorem error?_seq {γ : Type} (x : Except ε α) (y : Except ε β) (f : α → β → γ) :
    (do let a ← x; let b ← y; pure (f a b) : Except ε γ).error? = x.error?.or y.error? := by
  cases x <;> cases y <;> rfl

end Except

namespace Option

variable {ε α : Type}

/-- `Option::ok_or_else`: the value, or the error. -/
def okOrElse (o : Option α) (e : ε) : Except ε α :=
  match o with
  | some a => .ok a
  | none => .error e

@[simp] theorem okOrElse_eq_ok {o : Option α} {e : ε} {a : α} : o.okOrElse e = .ok a ↔ o = some a := by
  cases o <;> simp [okOrElse]

end Option
