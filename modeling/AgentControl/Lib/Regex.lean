import Mathlib.Computability.Language

/-!
# Regular expressions over character classes

Mathlib's `RegularExpression` has single letters as atoms. Practical patterns are
written over *classes*: `[a-z]`, `\s`, `.`, a case-insensitive letter. Here an atom
is a decidable class `cls p`, matching one symbol `a` with `p a`, and the meaning of
an expression is a Mathlib `Language`, so the algebra of languages (`*`, `+`, `∗`)
is used as it is.

`ends r w` lists the lengths of the prefixes of `w` that `r` matches. It is
structurally recursive (the star iterates with the length of the input as fuel),
so it evaluates by `decide`, and `mem_ends` proves it exact: it is the decision
procedure behind `isMatch` (some infix matches, a search) and `fullMatch` (the
whole input matches, a pattern anchored with `^…$`).

`Avoids` says that no class of an expression accepts a given symbol; then no word
of its language contains that symbol (`not_mem_of_avoids`). Delimiters of patterns
are found this way: a word of `r` ends at the first symbol `r` avoids. `Within P`
says that every class accepts only symbols with `P`, and then so does every word
(`forall_mem_of_within`). A search of an input that the expression matches whole
finds the input itself (`findIter_of_fullMatch`).

The last section fixes the two Unicode classes of the usual regex dialects, `\s`
(the `White_Space` property) and `\d` (general category `Nd`).
-/

namespace Regex

open Computability

/-- Regular expressions with one-symbol classes as atoms. -/
inductive Re (α : Type) where
  | eps
  | cls (p : α → Bool)
  | seq (r s : Re α)
  | alt (r s : Re α)
  | star (r : Re α)

namespace Re

variable {α : Type}

/-- The language of an expression. -/
def lang : Re α → Language α
  | eps => 1
  | cls p => {w | ∃ a, w = [a] ∧ p a = true}
  | seq r s => r.lang * s.lang
  | alt r s => r.lang + s.lang
  | star r => r.lang∗

/-- One given symbol. -/
def lit [DecidableEq α] (a : α) : Re α := cls fun b => b = a

/-- A given word, symbol by symbol. -/
def str [DecidableEq α] : List α → Re α
  | [] => eps
  | a :: w => seq (lit a) (str w)

/-- The expression `r+`. -/
def plus (r : Re α) : Re α := seq r (star r)

/-- A word expression matches the word and nothing else. -/
theorem mem_lang_str [DecidableEq α] {u w : List α} : w ∈ (str u).lang ↔ w = u := by
  induction u generalizing w with
  | nil => exact Language.mem_one w
  | cons a u ih =>
    rw [str, lang, Language.mem_mul]
    constructor
    · rintro ⟨x, ⟨b, rfl, hb⟩, y, hy, rfl⟩
      rw [ih.mp hy, show b = a from of_decide_eq_true hb]
      rfl
    · rintro rfl
      exact ⟨[a], ⟨a, rfl, decide_eq_true rfl⟩, u, ih.mpr rfl, rfl⟩

/-- The prefix lengths a star of a matcher `f` reaches, iterating at most `k` times. -/
def starEnds (f : List α → List Nat) : Nat → List α → List Nat
  | 0, _ => [0]
  | k + 1, w =>
    0 :: (f w).flatMap fun n => if n = 0 then [] else (starEnds f k (w.drop n)).map (n + ·)

/-- The lengths of the prefixes of `w` in the language of the expression. -/
def ends : Re α → List α → List Nat
  | eps, _ => [0]
  | cls p, w =>
    match w with
    | a :: _ => if p a then [1] else []
    | [] => []
  | seq r s, w => (ends r w).flatMap fun n => (ends s (w.drop n)).map (n + ·)
  | alt r s, w => ends r w ++ ends s w
  | star r, w => starEnds (ends r) w.length w

/-- The search `is_match`: some infix of `w` is in the language. -/
def isMatch (r : Re α) : List α → Bool
  | [] => !(r.ends []).isEmpty
  | a :: w => !(r.ends (a :: w)).isEmpty || isMatch r w

/-- The anchored match `^r$`: the whole input is in the language. -/
def fullMatch (r : Re α) (w : List α) : Bool := (r.ends w).contains w.length

/-! ## Prefixes -/

/-- A word that splits a prefix of `w` splits into a prefix and a prefix of the rest. -/
theorem take_eq_append {w a b : List α} {n : Nat} (h : w.take n = a ++ b) :
    a = w.take a.length ∧ b = (w.drop a.length).take b.length := by
  have hp : a ++ b <+: w := h ▸ List.take_prefix n w
  obtain ⟨t, ht⟩ := hp
  subst ht
  simp

theorem take_add_mem_mul {w : List α} {m k : Nat} {l l' : Language α}
    (hm : w.take m ∈ l) (hk : (w.drop m).take k ∈ l') : w.take (m + k) ∈ l * l' := by
  rw [List.take_add]
  exact Language.mem_mul.mpr ⟨_, hm, _, hk, rfl⟩

theorem take_eq_nil_iff_of_le {w : List α} {n : Nat} (hn : n ≤ w.length) :
    w.take n = [] ↔ n = 0 := by
  rw [List.take_eq_nil_iff]
  constructor
  · rintro (h | rfl)
    · exact h
    · simpa using hn
  · intro h
    exact Or.inl h

/-- A non-empty word of a star starts with a non-empty word of the starred language. -/
theorem mem_kstar_cons {l : Language α} {x : List α} (hx : x ∈ l∗) (hne : x ≠ []) :
    ∃ a b, a ≠ [] ∧ a ∈ l ∧ b ∈ l∗ ∧ x = a ++ b := by
  rw [Language.kstar_def_nonempty] at hx
  obtain ⟨S, rfl, hS⟩ := hx
  cases S with
  | nil => exact absurd rfl hne
  | cons a S =>
    refine ⟨a, S.flatten, (hS a (by simp)).2, (hS a (by simp)).1, ?_, by simp⟩
    exact Language.join_mem_kstar fun y hy => (hS y (by simp [hy])).1

/-! ## The matcher is exact -/

/-- The star iteration is exact once its fuel covers the input. -/
theorem mem_starEnds {f : List α → List Nat} {l : Language α}
    (hf : ∀ w n, n ∈ f w ↔ n ≤ w.length ∧ w.take n ∈ l) :
    ∀ (k : Nat) (w : List α) (n : Nat), w.length ≤ k →
      (n ∈ starEnds f k w ↔ n ≤ w.length ∧ w.take n ∈ l∗)
  | 0, w, n, hk => by
    have hw : w = [] := List.eq_nil_of_length_eq_zero (Nat.le_zero.mp hk)
    subst hw
    simp [starEnds, Language.nil_mem_kstar]
  | k + 1, w, n, hk => by
    simp only [starEnds, List.mem_cons, List.mem_flatMap, List.mem_ite_nil_left, List.mem_map]
    constructor
    · rintro (rfl | ⟨m, hm, hm0, j, hj, rfl⟩)
      · exact ⟨Nat.zero_le _, by simp [Language.nil_mem_kstar]⟩
      · obtain ⟨hml, hmw⟩ := (hf w m).mp hm
        have hlen : (w.drop m).length ≤ k := by simp; omega
        obtain ⟨hjl, hjw⟩ := (mem_starEnds hf k (w.drop m) j hlen).mp hj
        refine ⟨by simp at hjl; omega, ?_⟩
        rw [← Language.one_add_self_mul_kstar_eq_kstar]
        exact Or.inr (take_add_mem_mul hmw hjw)
    · rintro ⟨hn, hnw⟩
      by_cases h0 : n = 0
      · exact Or.inl h0
      · right
        have hne : w.take n ≠ [] := fun h => h0 ((take_eq_nil_iff_of_le hn).mp h)
        obtain ⟨a, b, ha0, ha, hb, hab⟩ := mem_kstar_cons hnw hne
        obtain ⟨hta, htb⟩ := take_eq_append hab
        have hlen : (w.take n).length = a.length + b.length := by rw [hab, List.length_append]
        simp only [List.length_take, Nat.min_eq_left hn] at hlen
        have ha1 : a.length ≠ 0 := by simpa using ha0
        refine ⟨a.length, (hf w a.length).mpr ⟨by omega, hta ▸ ha⟩, ha1, b.length, ?_, by omega⟩
        have hdl : (w.drop a.length).length ≤ k := by simp; omega
        exact (mem_starEnds hf k _ _ hdl).mpr ⟨by simp; omega, htb ▸ hb⟩

/-- Exactness of the matcher: `ends` lists precisely the lengths of the prefixes in the language. -/
theorem mem_ends (r : Re α) :
    ∀ (w : List α) (n : Nat), n ∈ r.ends w ↔ n ≤ w.length ∧ w.take n ∈ r.lang := by
  induction r with
  | eps =>
    intro w n
    simp only [ends, List.mem_singleton, lang, Language.mem_one]
    constructor
    · rintro rfl
      simp
    · rintro ⟨hn, h⟩
      exact (take_eq_nil_iff_of_le hn).mp h
  | cls p =>
    intro w n
    cases w with
    | nil =>
      simp only [ends, List.not_mem_nil, List.length_nil, List.take_nil, false_iff, not_and]
      rintro - ⟨a, ha, -⟩
      exact List.cons_ne_nil _ _ ha.symm
    | cons a w =>
      constructor
      · intro h
        simp only [ends] at h
        split at h
        · rename_i hp
          obtain rfl := List.mem_singleton.mp h
          exact ⟨by simp, a, rfl, hp⟩
        · simp at h
      · rintro ⟨hn, b, hb, hpb⟩
        -- a one-symbol prefix has length one, and its symbol is `a`
        have hn1 : n = 1 := by
          have hl := congrArg List.length hb
          simp only [List.length_take, List.length_cons, List.length_nil] at hl hn
          omega
        subst hn1
        simp only [List.take_succ_cons, List.take_zero, List.cons.injEq, and_true] at hb
        subst hb
        simp [ends, hpb]
  | seq r s ihr ihs =>
    intro w n
    simp only [ends, List.mem_flatMap, List.mem_map, lang]
    constructor
    · rintro ⟨m, hm, j, hj, rfl⟩
      obtain ⟨hml, hmw⟩ := (ihr w m).mp hm
      obtain ⟨hjl, hjw⟩ := (ihs _ j).mp hj
      exact ⟨by simp at hjl; omega, take_add_mem_mul hmw hjw⟩
    · rintro ⟨hn, hnw⟩
      obtain ⟨a, ha, b, hb, hab⟩ := Language.mem_mul.mp hnw
      obtain ⟨hta, htb⟩ := take_eq_append hab.symm
      have hlen : (w.take n).length = a.length + b.length := by rw [← hab, List.length_append]
      simp only [List.length_take, Nat.min_eq_left hn] at hlen
      exact ⟨a.length, (ihr w _).mpr ⟨by omega, hta ▸ ha⟩, b.length,
        (ihs _ _).mpr ⟨by simp; omega, htb ▸ hb⟩, by omega⟩
  | alt r s ihr ihs =>
    intro w n
    simp only [ends, List.mem_append, ihr, ihs, lang, Language.mem_add]
    tauto
  | star r ih =>
    intro w n
    exact mem_starEnds ih w.length w n (Nat.le_refl _)

/-- The anchored match decides membership of the whole input. -/
theorem fullMatch_iff (r : Re α) (w : List α) : r.fullMatch w = true ↔ w ∈ r.lang := by
  simp [fullMatch, mem_ends]

/-! ## Searching left to right -/

/-- `w` cut into its matches and the symbols between them, after `skip` symbols that are still
inside the previous match: scanning left to right, a match is taken at the leftmost position
where a non-empty one starts, the longest there, and the scan goes on after it. -/
def pieces (r : Re α) : Nat → List α → List (α ⊕ List α)
  | _, [] => []
  | skip + 1, _ :: w => pieces r skip w
  | 0, a :: w =>
    match (r.ends (a :: w)).max? with
    | some (n + 1) => .inr ((a :: w).take (n + 1)) :: pieces r n w
    | _ => .inl a :: pieces r 0 w

/-- The matches of a left-to-right search without overlaps (`find_iter`), for a pattern that
prefers the longest match at each start. -/
def findIter (r : Re α) (w : List α) : List (List α) := (pieces r 0 w).filterMap Sum.getRight?

/-- The text of a piece. -/
def pieceText : α ⊕ List α → List α
  | .inl a => [a]
  | .inr m => m

theorem pieces_length (r : Re α) : ∀ w : List α, pieces r w.length w = []
  | [] => rfl
  | _ :: w => pieces_length r w

/-- A search of an input that the expression matches whole finds the input itself. -/
theorem findIter_of_fullMatch {r : Re α} {w : List α} (h : r.fullMatch w = true)
    (hne : w ≠ []) : findIter r w = [w] := by
  obtain ⟨a, w, rfl⟩ := List.exists_cons_of_ne_nil hne
  -- the whole input is the longest prefix that matches
  have hmax : (r.ends (a :: w)).max? = some (w.length + 1) := by
    rw [List.max?_eq_some_iff]
    refine ⟨List.contains_iff_mem.mp h, fun n hn => ((mem_ends r _ n).mp hn).1⟩
  rw [findIter, pieces, hmax]
  simp [pieces_length]

/-! ## Symbols an expression never reads -/

/-- No class of the expression accepts `c`. -/
def Avoids (c : α) : Re α → Prop
  | eps => True
  | cls p => p c = false
  | seq r s => Avoids c r ∧ Avoids c s
  | alt r s => Avoids c r ∧ Avoids c s
  | star r => Avoids c r

/-- A word of an expression that avoids `c` does not contain `c`. -/
theorem not_mem_of_avoids {c : α} {r : Re α} (hr : Avoids c r) {w : List α}
    (hw : w ∈ r.lang) : c ∉ w := by
  induction r generalizing w with
  | eps =>
    rw [lang, Language.mem_one] at hw
    simp [hw]
  | cls p =>
    obtain ⟨a, rfl, ha⟩ := hw
    have hc : p c = false := hr
    simp only [List.mem_singleton]
    rintro rfl
    rw [hc] at ha
    exact Bool.false_ne_true ha
  | seq r s ihr ihs =>
    obtain ⟨a, ha, b, hb, rfl⟩ := Language.mem_mul.mp hw
    simp only [List.mem_append, not_or]
    exact ⟨ihr hr.1 ha, ihs hr.2 hb⟩
  | alt r s ihr ihs =>
    rcases (Language.mem_add _ _ _).mp hw with h | h
    · exact ihr hr.1 h
    · exact ihs hr.2 h
  | star r ih =>
    obtain ⟨L, rfl, hL⟩ := Language.mem_kstar.mp hw
    simp only [List.mem_flatten, not_exists, not_and]
    intro y hy
    exact ih hr (hL y hy)

/-- Every class of the expression accepts only symbols with `P`. -/
def Within (P : α → Prop) : Re α → Prop
  | eps => True
  | cls p => ∀ a, p a = true → P a
  | seq r s => Within P r ∧ Within P s
  | alt r s => Within P r ∧ Within P s
  | star r => Within P r

theorem within_str [DecidableEq α] {P : α → Prop} {u : List α} (h : ∀ a ∈ u, P a) :
    Within P (str u) := by
  induction u with
  | nil => trivial
  | cons b u ih =>
    refine ⟨fun a ha => ?_, ih fun a hu => h a (List.mem_cons_of_mem b hu)⟩
    rw [of_decide_eq_true ha]
    exact h b List.mem_cons_self

/-- Every symbol of a word of an expression within `P` has `P`. -/
theorem forall_mem_of_within {P : α → Prop} {r : Re α} (hr : Within P r) {w : List α}
    (hw : w ∈ r.lang) : ∀ a ∈ w, P a := by
  induction r generalizing w with
  | eps =>
    rw [lang, Language.mem_one] at hw
    simp [hw]
  | cls p =>
    obtain ⟨b, rfl, hb⟩ := hw
    intro a ha
    rw [List.mem_singleton.mp ha]
    exact hr b hb
  | seq r s ihr ihs =>
    obtain ⟨a, ha, b, hb, rfl⟩ := Language.mem_mul.mp hw
    simp only [List.mem_append]
    rintro c (hc | hc)
    · exact ihr hr.1 ha c hc
    · exact ihs hr.2 hb c hc
  | alt r s ihr ihs =>
    rcases (Language.mem_add _ _ _).mp hw with h | h
    · exact ihr hr.1 h
    · exact ihs hr.2 h
  | star r ih =>
    obtain ⟨L, rfl, hL⟩ := Language.mem_kstar.mp hw
    simp only [List.mem_flatten]
    rintro c ⟨y, hy, hc⟩
    exact ih hr (hL y hy) c hc

end Re

/-! ## Unicode classes -/

/-- The class `\s` in Unicode mode: the code points with the `White_Space` property. -/
def isSpace (c : Char) : Bool :=
  let n := c.toNat
  (0x09 ≤ n && n ≤ 0x0D) || n == 0x20 || n == 0x85 || n == 0xA0 || n == 0x1680 ||
    (0x2000 ≤ n && n ≤ 0x200A) || n == 0x2028 || n == 0x2029 || n == 0x202F ||
    n == 0x205F || n == 0x3000

/-- The first code points of the runs of ten decimal digits of general category `Nd`. -/
def decimalZeros : List Nat :=
  [0x30, 0x660, 0x6F0, 0x7C0, 0x966, 0x9E6, 0xA66, 0xAE6, 0xB66, 0xBE6, 0xC66, 0xCE6, 0xD66,
    0xDE6, 0xE50, 0xED0, 0xF20, 0x1040, 0x1090, 0x17E0, 0x1810, 0x1946, 0x19D0, 0x1A80,
    0x1A90, 0x1B50, 0x1BB0, 0x1C40, 0x1C50, 0xA620, 0xA8D0, 0xA900, 0xA9D0, 0xA9F0, 0xAA50,
    0xABF0, 0xFF10, 0x104A0, 0x10D30, 0x10D40, 0x11066, 0x110F0, 0x11136, 0x111D0, 0x112F0,
    0x11450, 0x114D0, 0x11650, 0x116C0, 0x116D0, 0x116DA, 0x11730, 0x118E0, 0x11950,
    0x11BF0, 0x11C50, 0x11D50, 0x11DA0, 0x11F50, 0x16130, 0x16A60, 0x16AC0, 0x16B50,
    0x16D70, 0x1CCF0, 0x1D7CE, 0x1D7D8, 0x1D7E2, 0x1D7EC, 0x1D7F6, 0x1E140, 0x1E2F0,
    0x1E4F0, 0x1E5F1, 0x1E950, 0x1FBF0]

/-- The class `\d` in Unicode mode: a code point of general category `Nd`. -/
def isDigit (c : Char) : Bool :=
  decimalZeros.any fun z => z ≤ c.toNat && c.toNat < z + 10

end Regex
