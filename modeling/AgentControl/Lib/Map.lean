import Mathlib.Data.List.AList
import AgentControl.Lib.Except

/-!
# Maps

A `HashMap` is an association list (`AList`), whose keys are distinct by construction.
`HashMap::extend` inserts entries in turn (`AList.extend`), so that afterwards a key holds the
value the entries give it, or else what it held (`lookup_extend`); and
`HashMap::entry(k).or_insert_with(d)` followed by an update of the entry is
`AList.modifyOrInsert`: the update applies to what the key held, or to `d`.

Nothing here names the program being verified.
-/

namespace AList

variable {α : Type} [DecidableEq α] {β : α → Type}

/-- `HashMap::extend`: each entry is inserted in turn, replacing the value of its key. -/
def extend (m : AList β) (l : List (Sigma β)) : AList β :=
  l.foldl (fun m kv => m.insert kv.1 kv.2) m

/-- `HashMap::entry(k).or_insert_with(|| d)` and an update `f` of the entry. -/
def modifyOrInsert (m : AList β) (k : α) (d : β k) (f : β k → β k) : AList β :=
  m.insert k (f ((m.lookup k).getD d))

/-- After an extension by entries of distinct keys, a key holds the value the entries give it, or
else what it held. -/
theorem lookup_extend : ∀ {l : List (Sigma β)}, l.NodupKeys → ∀ (m : AList β) (k : α),
    (m.extend l).lookup k = (l.dlookup k).or (m.lookup k)
  | [], _, m, k => by simp [extend]
  | ⟨a, b⟩ :: l, hl, m, k => by
    obtain ⟨ha, hl⟩ := List.nodupKeys_cons.mp hl
    rw [extend, List.foldl_cons, ← extend, lookup_extend hl]
    by_cases hk : k = a
    · -- the key of the first entry: no later entry has it
      subst hk
      rw [List.dlookup_eq_none.mpr ha, lookup_insert, List.dlookup_cons_eq]
      rfl
    · rw [lookup_insert_ne hk, List.dlookup_cons_ne _ _ hk]

/-- Extending by another map: a key holds the value that map gives it, or else what it held. -/
@[simp] theorem lookup_extend_entries (m m' : AList β) (k : α) :
    (m.extend m'.entries).lookup k = (m'.lookup k).or (m.lookup k) :=
  lookup_extend m'.nodupKeys m k

theorem mem_extend : ∀ {l : List (Sigma β)} {m : AList β} {k : α},
    k ∈ m.extend l ↔ k ∈ l.keys ∨ k ∈ m
  | [], _, _ => by simp [extend]
  | ⟨a, b⟩ :: l, m, k => by
    rw [extend, List.foldl_cons, ← extend, mem_extend, mem_insert, List.keys_cons, List.mem_cons]
    tauto

/-- A key no entry has keeps what it held. -/
theorem lookup_extend_of_not_mem_keys : ∀ {l : List (Sigma β)} (m : AList β) {k : α},
    k ∉ l.keys → (m.extend l).lookup k = m.lookup k
  | [], _, _, _ => rfl
  | ⟨a, b⟩ :: l, m, k, hk => by
    rw [List.keys_cons, List.mem_cons, not_or] at hk
    rw [extend, List.foldl_cons, ← extend, lookup_extend_of_not_mem_keys _ hk.2,
      lookup_insert_ne hk.1]

/-- Where every entry of a key gives it the same value, an extension holds that value there,
whatever the entries of other keys, and however many there are of this one. -/
theorem lookup_extend_of_forall_mem : ∀ {l : List (Sigma β)} (m : AList β) {k : α} {v : β k},
    ⟨k, v⟩ ∈ l → (∀ v', ⟨k, v'⟩ ∈ l → v' = v) → (m.extend l).lookup k = some v
  | [], _, _, _, hmem, _ => absurd hmem List.not_mem_nil
  | ⟨a, b⟩ :: l, m, k, v, hmem, huniq => by
    rw [extend, List.foldl_cons, ← extend]
    by_cases hl : k ∈ l.keys
    · -- a later entry of the key decides
      obtain ⟨v', hv'⟩ := List.mem_keys.mp hl
      have hv := huniq v' (List.mem_cons_of_mem _ hv')
      subst hv
      exact lookup_extend_of_forall_mem _ hv' fun v'' h => huniq v'' (List.mem_cons_of_mem _ h)
    · -- only the first entry has the key
      have hhead : (⟨k, v⟩ : Sigma β) = ⟨a, b⟩ := by
        rcases List.mem_cons.mp hmem with h | h
        · exact h
        · exact absurd (List.mem_keys_of_mem h) hl
      obtain ⟨rfl, hb⟩ := Sigma.mk.inj hhead
      rw [lookup_extend_of_not_mem_keys _ hl, lookup_insert, eq_of_heq hb]

section Rename

variable {α' : Type} [DecidableEq α'] {β' : α' → Type} {f : α → α'}

omit [DecidableEq α] [DecidableEq α'] in
/-- Renaming the keys of a map by an injective function keeps them distinct. -/
theorem nodupKeys_map_entries (m : AList β) (hf : Function.Injective f) (g : ∀ a, β a → β' (f a)) :
    (m.entries.map (Sigma.map f g)).NodupKeys := by
  have hkeys : (m.entries.map (Sigma.map f g)).keys = m.keys.map f := by
    simp only [AList.keys, List.keys, List.map_map]
    rfl
  rw [List.NodupKeys, hkeys]
  exact m.nodupKeys.map hf

/-- A map rebuilt under keys renamed by an injective function holds at a renamed key what the
original held at the key, mapped. -/
theorem lookup_extend_map_entries (m : AList β) (hf : Function.Injective f)
    (g : ∀ a, β a → β' (f a)) (k : α) :
    ((∅ : AList β').extend (m.entries.map (Sigma.map f g))).lookup (f k) = (m.lookup k).map (g k) := by
  rw [lookup_extend (nodupKeys_map_entries m hf g), lookup_empty, Option.or_none]
  exact List.dlookup_map m.entries hf g k

omit [DecidableEq α] in
/-- A map rebuilt under renamed keys holds nothing at a key that is no renaming. -/
theorem lookup_extend_map_entries_of_ne (m : AList β) (g : ∀ a, β a → β' (f a)) {k' : α'}
    (hk' : ∀ a, f a ≠ k') :
    ((∅ : AList β').extend (m.entries.map (Sigma.map f g))).lookup k' = none := by
  rw [lookup_eq_none, mem_extend]
  simp only [List.keys, List.mem_map, notMem_empty, or_false, not_exists, not_and]
  rintro x ⟨y, -, rfl⟩
  exact hk' y.1

end Rename

@[simp] theorem lookup_modifyOrInsert_self (m : AList β) (k : α) (d : β k) (f : β k → β k) :
    (m.modifyOrInsert k d f).lookup k = some (f ((m.lookup k).getD d)) :=
  lookup_insert m

theorem lookup_modifyOrInsert_ne {m : AList β} {k k' : α} (d : β k) (f : β k → β k)
    (h : k' ≠ k) : (m.modifyOrInsert k d f).lookup k' = m.lookup k' :=
  lookup_insert_ne h

theorem mem_modifyOrInsert {m : AList β} {k k' : α} (d : β k) (f : β k → β k) :
    k' ∈ m.modifyOrInsert k d f ↔ k' = k ∨ k' ∈ m :=
  mem_insert m

section Pairs

variable {δ : Type} [BEq α] [LawfulBEq α]

omit [BEq α] [LawfulBEq α] in
/-- The entries of a map of one value type as pairs, in the order iterating the map gives them. -/
def toPairs (m : AList fun _ : α => δ) : List (α × δ) := m.entries.map fun kv => (kv.1, kv.2)

theorem lookup_map_entries (k : α) :
    ∀ l : List (Σ _ : α, δ), (l.map fun kv => (kv.1, kv.2)).lookup k = l.dlookup k
  | [] => rfl
  | ⟨a, b⟩ :: l => by
    by_cases hk : k = a
    · subst hk
      simp
    · rw [List.map_cons, List.lookup_cons, List.dlookup_cons_ne _ _ hk, lookup_map_entries k l,
        beq_false_of_ne hk]

/-- Looking a key up among the pairs is looking it up in the map. -/
@[simp] theorem lookup_toPairs (m : AList fun _ : α => δ) (k : α) : (toPairs m).lookup k = m.lookup k :=
  lookup_map_entries k m.entries

end Pairs

end AList
