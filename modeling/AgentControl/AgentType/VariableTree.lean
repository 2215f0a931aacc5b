import AgentControl.AgentType.Variables
import AgentControl.Values.Config

/-!
# The variable tree of an agent type

The variables of an agent type are a tree (`variable/tree.rs`): a name maps to a variable or to
named subtrees, and a variable is referred to by its path, the names joined by `.`
(`TEMPLATE_KEY_SEPARATOR`). Rendering fills the tree with the values of a sub-agent
(`fill_with_values`, `update_specs`): a value under the name of a variable is merged into it, and
a mapping under the name of a subtree fills the subtree. It then flattens the tree into a map
from paths to variables (`flatten`) and refuses it when a variable has neither a value nor a
default (`check_all_vars_are_populated`).

The tree is read through its variables, each with the names of its path (`Tree.leaves`):
flattening keeps each under the text of its path (`VarTree.flatten_eq`), and filling keeps the
paths and gives a final value to exactly the variables the values give a value to
(`fillWithValues_leaves`). The proof of the latter follows the loop of `update_specs`: each name
of the values is visited once, and a spec is the one it started with until its name is visited
(`pending_foldlM`). A variable that the deserializer built has a default exactly when it is not
required, so every path the check names is that of a required variable left without a value, and
when no two variables share a path it names all of them (`fillWithValues_population_check`). Two
can: a name may itself hold a `.`, and a variable named `a.b` then has the path of the variable
`b` under `a`. The flattened map keeps one of the two, the later in the order of the maps, and a
required variable without a value can disappear behind one with a default
(`shadowed_required_variable_passes_check`).
-/

namespace AgentControl

/-- Models `TEMPLATE_KEY_SEPARATOR`. -/
def templateKeySeparator : List Char := ".".toList

/-- Models `Tree<T>`: a variable, or named subtrees. -/
inductive Tree (α : Type) where
  | «end» (a : α)
  | mapping (m : List (List Char × Tree α))

/-- Models `VarTree<T>`: the named trees at the top. -/
structure VarTree (α : Type) where
  map : List (List Char × Tree α)

section Flatten

variable {α : Type}

mutual

/-- Models `inner_flatten`: the variables under `key`, each under its path. -/
def innerFlatten (key : List Char) : Tree α → List (List Char × α)
  | .«end» s => [(key, s)]
  | .mapping m => innerFlattenMapping key m

/-- The loop of `inner_flatten` over a mapping: each subtree under the key, the separator and
its name. -/
def innerFlattenMapping (key : List Char) : List (List Char × Tree α) → List (List Char × α)
  | [] => []
  | (k, v) :: rest =>
    innerFlatten (key ++ templateKeySeparator ++ k) v ++ innerFlattenMapping key rest

end

/-- Entries collected into a map, as `collect` and `extend` do: a later entry replaces an earlier
one of the same key. -/
def collectMap (l : List (List Char × α)) : AList fun _ : List Char => α :=
  l.foldl (fun m kv => m.insert kv.1 kv.2) ∅

/-- Models `VarTree::flatten`. -/
def VarTree.flatten (t : VarTree α) : AList fun _ : List Char => α :=
  collectMap (t.map.flatMap fun kv => innerFlatten kv.1 kv.2)

/-! The variables of a tree with their paths, and what flattening makes of them. -/

mutual

/-- The variables of a tree, each with the names of its path. -/
def Tree.leaves : Tree α → List (List (List Char) × α)
  | .«end» s => [([], s)]
  | .mapping m => mappingLeaves m

/-- The variables of a mapping, each with the names of its path. -/
def mappingLeaves : List (List Char × Tree α) → List (List (List Char) × α)
  | [] => []
  | (k, t) :: rest => t.leaves.map (fun l => (k :: l.1, l.2)) ++ mappingLeaves rest

end

/-- The variables of a variable tree, each with the names of its path. -/
def VarTree.leaves (t : VarTree α) : List (List (List Char) × α) := mappingLeaves t.map

mutual

/-- The names of every mapping of a tree are distinct, as those of a `HashMap` are. -/
def Tree.NodupKeys : Tree α → Prop
  | .«end» _ => True
  | .mapping m => (m.map Prod.fst).Nodup ∧ mappingNodupKeys m

/-- The names of every mapping in the subtrees of a mapping are distinct. -/
def mappingNodupKeys : List (List Char × Tree α) → Prop
  | [] => True
  | (_, t) :: rest => t.NodupKeys ∧ mappingNodupKeys rest

end

/-- The names of every mapping of a variable tree are distinct. -/
def VarTree.NodupKeys (t : VarTree α) : Prop := (Tree.mapping t.map).NodupKeys

/-- A key followed by names, each after the separator, as `inner_flatten` extends a key. -/
def joinPath (key : List Char) (p : List (List Char)) : List Char :=
  key ++ p.flatMap (templateKeySeparator ++ ·)

/-- The text of a path: its names joined by the separator. -/
def dottedPath : List (List Char) → List Char
  | [] => []
  | k :: p => joinPath k p

theorem joinPath_cons (key k : List Char) (p : List (List Char)) :
    joinPath key (k :: p) = joinPath (key ++ templateKeySeparator ++ k) p := by
  simp [joinPath]

mutual

theorem innerFlatten_eq : ∀ (key : List Char) (t : Tree α),
    innerFlatten key t = t.leaves.map fun l => (joinPath key l.1, l.2)
  | key, .«end» s => by simp [innerFlatten, Tree.leaves, joinPath]
  | key, .mapping m => by rw [innerFlatten, Tree.leaves, innerFlattenMapping_eq]

theorem innerFlattenMapping_eq : ∀ (key : List Char) (m : List (List Char × Tree α)),
    innerFlattenMapping key m = (mappingLeaves m).map fun l => (joinPath key l.1, l.2)
  | _, [] => rfl
  | key, (k, t) :: rest => by
    rw [innerFlattenMapping, mappingLeaves, innerFlatten_eq, innerFlattenMapping_eq,
      List.map_append, List.map_map]
    simp [Function.comp_def, joinPath_cons]

end

theorem flatMap_innerFlatten (m : List (List Char × Tree α)) :
    m.flatMap (fun kv => innerFlatten kv.1 kv.2) =
      (mappingLeaves m).map fun l => (dottedPath l.1, l.2) := by
  induction m with
  | nil => rfl
  | cons kt rest ih =>
    obtain ⟨k, t⟩ := kt
    rw [List.flatMap_cons, ih, innerFlatten_eq, mappingLeaves, List.map_append, List.map_map]
    rfl

/-- Flattening keeps every variable of the tree, under the text of its path. -/
theorem VarTree.flatten_eq (t : VarTree α) :
    t.flatten = collectMap (t.leaves.map fun l => (dottedPath l.1, l.2)) := by
  rw [flatten, leaves, flatMap_innerFlatten]

/-! Collecting into a map: its keys depend on the keys of the entries only, and entries of distinct
keys are all kept. -/

theorem keys_foldl_insert {β : Type} :
    ∀ {l : List (List Char × α)} {l' : List (List Char × β)}, l.map Prod.fst = l'.map Prod.fst →
    ∀ {m : AList fun _ : List Char => α} {m' : AList fun _ : List Char => β}, m.keys = m'.keys →
    (l.foldl (fun m kv => m.insert kv.1 kv.2) m).keys =
      (l'.foldl (fun m kv => m.insert kv.1 kv.2) m').keys
  | [], [], _, _, _, hm => hm
  | (a, b) :: l, (a', b') :: l', h, m, m', hm => by
    simp only [List.map_cons, List.cons.injEq] at h
    obtain ⟨rfl, h⟩ := h
    rw [List.foldl_cons, List.foldl_cons]
    exact keys_foldl_insert h (by rw [AList.keys_insert, AList.keys_insert, hm])

theorem collectMap_keys_eq {β : Type} {l : List (List Char × α)} {l' : List (List Char × β)}
    (h : l.map Prod.fst = l'.map Prod.fst) : (collectMap l).keys = (collectMap l').keys :=
  keys_foldl_insert h rfl

theorem entries_foldl_insert :
    ∀ {l : List (List Char × α)}, (l.map Prod.fst).Nodup →
    ∀ {m : AList fun _ : List Char => α}, (∀ kv ∈ l, kv.1 ∉ m) →
    (l.foldl (fun m kv => m.insert kv.1 kv.2) m).entries =
      (l.map fun kv => (⟨kv.1, kv.2⟩ : Σ _ : List Char, α)).reverse ++ m.entries
  | [], _, _, _ => rfl
  | (a, b) :: l, hl, m, hm => by
    simp only [List.map_cons, List.nodup_cons, List.mem_map] at hl
    -- the later keys are neither `a` nor in `m`
    have hfresh : ∀ kv ∈ l, kv.1 ∉ m.insert a b := by
      intro kv hkv hmem
      rcases (AList.mem_insert m).mp hmem with heq | hmem
      · exact hl.1 ⟨kv, hkv, heq⟩
      · exact hm kv (List.mem_cons_of_mem _ hkv) hmem
    rw [List.foldl_cons, entries_foldl_insert hl.2 hfresh,
      AList.entries_insert_of_notMem (hm (a, b) List.mem_cons_self)]
    simp

/-- Entries of distinct keys are all collected. -/
theorem mem_collectMap_entries {l : List (List Char × α)} (hl : (l.map Prod.fst).Nodup)
    {k : List Char} {a : α} :
    (⟨k, a⟩ : Σ _ : List Char, α) ∈ (collectMap l).entries ↔ (k, a) ∈ l := by
  rw [collectMap, entries_foldl_insert hl (fun _ _ => AList.notMem_empty _)]
  simp

theorem mem_of_mem_entries_foldl_insert :
    ∀ {l : List (List Char × α)} {m : AList fun _ : List Char => α} {k : List Char} {a : α},
    (⟨k, a⟩ : Σ _ : List Char, α) ∈ (l.foldl (fun m kv => m.insert kv.1 kv.2) m).entries →
    (k, a) ∈ l ∨ (⟨k, a⟩ : Σ _ : List Char, α) ∈ m.entries
  | [], _, _, _, h => .inr h
  | (k', a') :: l, m, k, a, h => by
    rw [List.foldl_cons] at h
    rcases mem_of_mem_entries_foldl_insert h with hl | hm
    · exact .inl (List.mem_cons_of_mem _ hl)
    · rw [AList.entries_insert, List.mem_cons] at hm
      rcases hm with heq | hm
      · cases heq
        exact .inl List.mem_cons_self
      · exact .inr ((List.kerase_sublist _ _).subset hm)

/-- Every collected entry is one of the entries. -/
theorem mem_of_mem_collectMap_entries {l : List (List Char × α)} {k : List Char} {a : α}
    (h : (⟨k, a⟩ : Σ _ : List Char, α) ∈ (collectMap l).entries) : (k, a) ∈ l :=
  (mem_of_mem_entries_foldl_insert h).resolve_right List.not_mem_nil

end Flatten

/-- The paths of the variables with neither a value nor a default, as
`check_all_vars_are_populated` collects them. -/
def notPopulated {ν : Type} (vars : AList fun _ : List Char => Variable ν) : List (List Char) :=
  vars.entries.filterMap fun kv => if kv.2.getFinalValue.isNone then some kv.1 else none

/-- Models `TemplateRenderer::check_all_vars_are_populated`. -/
def checkAllVarsArePopulated {ν : Type} (vars : AList fun _ : List Char => Variable ν) :
    Except AgentTypeError Unit :=
  let notPopulated := notPopulated vars
  if !notPopulated.isEmpty then .error (.valuesNotPopulated notPopulated) else .ok ()

theorem mem_notPopulated {ν : Type} {vars : AList fun _ : List Char => Variable ν} {k : List Char} :
    k ∈ notPopulated vars ↔ ∃ v, (⟨k, v⟩ : Σ _ : List Char, Variable ν) ∈ vars.entries ∧
      v.getFinalValue = none := by
  simp [notPopulated]

/-- The check refuses exactly when a variable is not populated, and names all of them. -/
theorem checkAllVarsArePopulated_eq {ν : Type} (vars : AList fun _ : List Char => Variable ν) :
    checkAllVarsArePopulated vars =
      if notPopulated vars = [] then .ok ()
      else .error (.valuesNotPopulated (notPopulated vars)) := by
  by_cases h : notPopulated vars = [] <;> simp [checkAllVarsArePopulated, h]

section Fill

variable {ν : Type} (reader : ValueReader ν)

/-- The spec under `key` replaced, as `get_mut` and the assignment through it do. -/
def setSpec (key : List Char) (spec : Tree (Variable ν))
    (vars : List (List Char × Tree (Variable ν))) : List (List Char × Tree (Variable ν)) :=
  vars.map fun kv => if kv.1 = key then (key, spec) else kv

/-- The body of the loop of `update_specs`, given how the spec under each name takes a value. -/
def updateSpecsStep (specs : List (List Char × (ν → Except AgentTypeError (Tree (Variable ν)))))
    (vars : List (List Char × Tree (Variable ν))) (kv : Σ _ : List Char, ν) :
    Except AgentTypeError (List (List Char × Tree (Variable ν))) :=
  match specs.lookup kv.1 with
  -- an unexpected variable in the configuration
  | none => pure vars
  | some update => do
    let spec ← update kv.2
    pure (setSpec kv.1 spec vars)

/-- The loop of `update_specs` over the values; the first failure is the result. -/
def updateSpecsLoop (specs : List (List Char × (ν → Except AgentTypeError (Tree (Variable ν)))))
    (values : AList fun _ : List Char => ν) (agentVars : List (List Char × Tree (Variable ν))) :
    Except AgentTypeError (List (List Char × Tree (Variable ν))) :=
  values.entries.foldlM (updateSpecsStep specs) agentVars

mutual

/-- How the spec of one name takes the value under that name: a variable merges the value, a
subtree is filled with the mapping the value reads as. -/
def updateSpec (value : ν) : Tree (Variable ν) → Except AgentTypeError (Tree (Variable ν))
  | .«end» e => .«end» <$> e.mergeWithYamlValue reader value
  | .mapping m => do
    let v ← (reader.asMap value).mapError .valueConversion
    .mapping <$> updateSpecsLoop (specUpdates m) v m

/-- Each spec of a mapping by its name, as the update it takes from a value. -/
def specUpdates : List (List Char × Tree (Variable ν)) →
    List (List Char × (ν → Except AgentTypeError (Tree (Variable ν))))
  | [] => []
  | (k, t) :: rest => (k, fun value => updateSpec value t) :: specUpdates rest

end

/-- Models `update_specs`. Each name of the values is visited once, so the spec it finds is the
one the loop started with. -/
def updateSpecs (values : AList fun _ : List Char => ν)
    (agentVars : List (List Char × Tree (Variable ν))) :
    Except AgentTypeError (List (List Char × Tree (Variable ν))) :=
  updateSpecsLoop (specUpdates reader agentVars) values agentVars

/-- Models `VariableTree::fill_with_values`. -/
def VarTree.fillWithValues (t : VarTree (Variable ν)) (values : YAMLConfig ν) :
    Except AgentTypeError (VarTree (Variable ν)) := do
  let vars ← updateSpecs reader values.map t.map
  pure ⟨vars⟩

theorem updateSpec_mapping (value : ν) (m : List (List Char × Tree (Variable ν))) :
    updateSpec reader value (.mapping m) =
      (do
        let v ← (reader.asMap value).mapError .valueConversion
        Tree.mapping <$> updateSpecs reader v m) := rfl

/-! What filling does to each variable. The loop of `update_specs` visits every name of the values
once; a spec is the one it started with until its name is visited (`Pending`), and from then on
its update by the value under its name (`SpecUpdated`). -/

theorem updateSpecsStep_eq_ok
    {specs : List (List Char × (ν → Except AgentTypeError (Tree (Variable ν))))}
    {vars vars' : List (List Char × Tree (Variable ν))} {kv : Σ _ : List Char, ν}
    (h : updateSpecsStep specs vars kv = .ok vars') :
    (specs.lookup kv.1 = none ∧ vars' = vars) ∨
      ∃ update spec, specs.lookup kv.1 = some update ∧ update kv.2 = .ok spec ∧
        vars' = setSpec kv.1 spec vars := by
  unfold updateSpecsStep at h
  split at h
  · rename_i hnone
    exact .inl ⟨hnone, (Except.ok.inj h).symm⟩
  · rename_i update hsome
    obtain ⟨spec, hspec, hset⟩ := Except.bind_eq_ok.mp h
    exact .inr ⟨update, spec, hsome, hspec, (Except.ok.inj hset).symm⟩

/-- The update a name of a mapping takes is that of the spec under the name. -/
theorem lookup_specUpdates (k : List Char) :
    ∀ m : List (List Char × Tree (Variable ν)),
    (specUpdates reader m).lookup k = (m.lookup k).map fun t value => updateSpec reader value t
  | [] => rfl
  | (k', t) :: rest => by
    rw [specUpdates, List.lookup_cons, List.lookup_cons]
    cases k == k' with
    | true => rfl
    | false => exact lookup_specUpdates k rest

theorem lookup_eq_of_mem {β : Type} :
    ∀ {m : List (List Char × β)}, (m.map Prod.fst).Nodup →
    ∀ {kt}, kt ∈ m → m.lookup kt.1 = some kt.2
  | (k, t) :: rest, hn, kt, hkt => by
    simp only [List.map_cons, List.nodup_cons, List.mem_map] at hn
    rcases List.mem_cons.mp hkt with rfl | hkt
    · simp
    · have hne : kt.1 ≠ k := fun heq => hn.1 ⟨kt, hkt, heq⟩
      rw [List.lookup_cons, beq_false_of_ne hne]
      exact lookup_eq_of_mem hn.2 hkt

/-- The values give a value at a path: one under its first name, which for a longer path reads
as a mapping that gives a value at the rest. -/
def ValuesAt : (AList fun _ : List Char => ν) → List (List Char) → Prop
  -- never the path of a variable of a mapping; so that `ValueAt` is `ValuesAt` (`valueAt_eq`)
  | _, [] => True
  | vs, k :: p => ∃ w, vs.lookup k = some w ∧ (p = [] ∨ ∃ v, reader.asMap w = .ok v ∧ ValuesAt v p)

/-- A value gives a value at a path: itself at the end of the path, else through the mapping it
reads as. -/
def ValueAt (value : ν) (p : List (List Char)) : Prop :=
  p = [] ∨ ∃ v, reader.asMap value = .ok v ∧ ValuesAt reader v p

theorem valuesAt_cons {vs : AList fun _ : List Char => ν} {k : List Char} {p : List (List Char)} :
    ValuesAt reader vs (k :: p) ↔ ∃ w, vs.lookup k = some w ∧ ValueAt reader w p := Iff.rfl

theorem valueAt_eq {value : ν} {v : AList fun _ : List Char => ν} (h : reader.asMap value = .ok v) :
    ValueAt reader value = ValuesAt reader v := by
  funext p
  cases p with
  | nil => simp [ValueAt, ValuesAt]
  | cons k p => simp [ValueAt, h]

/-- A variable of a tree and what filling made of it: the same path, a final value when a value is
given at the path, and the variable as it was otherwise. -/
def LeafFilled (given : List (List Char) → Prop) (l l' : List (List Char) × Variable ν) : Prop :=
  l'.1 = l.1 ∧ (given l.1 → l'.2.getFinalValue.isSome) ∧ (¬ given l.1 → l'.2 = l.2)

/-- Variables filled under a name are filled under the path through it. -/
theorem forall₂_leafFilled_map_cons {given given' : List (List Char) → Prop} {k : List Char}
    (hgiven : ∀ p, given (k :: p) ↔ given' p) {ls ls' : List (List (List Char) × Variable ν)}
    (h : List.Forall₂ (LeafFilled given') ls ls') :
    List.Forall₂ (LeafFilled given) (ls.map fun l => (k :: l.1, l.2))
      (ls'.map fun l => (k :: l.1, l.2)) := by
  rw [List.forall₂_map_left_iff, List.forall₂_map_right_iff]
  exact h.imp fun l l' hl => by simpa [LeafFilled, hgiven] using hl

variable (values : AList fun _ : List Char => ν)

/-- What `update_specs` makes of a spec: its update by the value under its name, the spec itself
when the values have nothing under its name. -/
def SpecUpdated (kt kt' : List Char × Tree (Variable ν)) : Prop :=
  kt'.1 = kt.1 ∧ match values.lookup kt.1 with
    | none => kt'.2 = kt.2
    | some w => updateSpec reader w kt.2 = .ok kt'.2

/-- The spec the loop of `update_specs` holds for `kt` while the entries `rs` of the values remain
to be visited. -/
def Pending (rs : List (Σ _ : List Char, ν)) (kt kt' : List Char × Tree (Variable ν)) : Prop :=
  if kt.1 ∈ rs.keys then kt' = kt else SpecUpdated reader values kt kt'

theorem Pending.fst_eq {rs : List (Σ _ : List Char, ν)} {kt kt' : List Char × Tree (Variable ν)}
    (h : Pending reader values rs kt kt') : kt'.1 = kt.1 := by
  unfold Pending at h
  split at h
  · rw [h]
  · exact h.1

theorem pending_cons_of_ne {rs : List (Σ _ : List Char, ν)} {kv : Σ _ : List Char, ν}
    {kt kt' : List Char × Tree (Variable ν)} (hne : kt.1 ≠ kv.1) :
    Pending reader values (kv :: rs) kt kt' ↔ Pending reader values rs kt kt' := by
  simp [Pending, List.keys_cons, hne]

theorem pending_nil : Pending reader values [] = SpecUpdated reader values := by
  funext kt kt'
  simp [Pending]

/-- One turn of the loop of `update_specs`: the spec under the visited name is updated by the
value under it, and every other spec is left as it was. -/
theorem pending_step {m acc acc' : List (List Char × Tree (Variable ν))}
    {kv : Σ _ : List Char, ν} {rs : List (Σ _ : List Char, ν)} (hm : (m.map Prod.fst).Nodup)
    (hkv : values.lookup kv.1 = some kv.2) (hrs : kv.1 ∉ rs.keys)
    (hacc : List.Forall₂ (Pending reader values (kv :: rs)) m acc)
    (h : updateSpecsStep (specUpdates reader m) acc kv = .ok acc') :
    List.Forall₂ (Pending reader values rs) m acc' := by
  rcases updateSpecsStep_eq_ok h with ⟨hnone, rfl⟩ | ⟨update, spec, hsome, hspec, rfl⟩
  · -- an unexpected name: no spec of the mapping has it
    rw [lookup_specUpdates, Option.map_eq_none_iff] at hnone
    have hall : ∀ kt ∈ m, kt.1 ≠ kv.1 := fun kt hkt heq => by
      have hlookup := lookup_eq_of_mem hm hkt
      rw [heq, hnone] at hlookup
      cases hlookup
    refine ((List.forall₂_and_left _ _).mpr ⟨hall, hacc⟩).imp ?_
    rintro kt kt' ⟨hne, h⟩
    exact (pending_cons_of_ne reader values hne).mp h
  · rw [lookup_specUpdates, Option.map_eq_some_iff] at hsome
    obtain ⟨t0, ht0, rfl⟩ := hsome
    rw [setSpec, List.forall₂_map_right_iff]
    refine ((List.forall₂_and_left _ _).mpr ⟨fun kt hkt => hkt, hacc⟩).imp ?_
    rintro kt kt' ⟨hkt, h⟩
    by_cases heq : kt.1 = kv.1
    · -- the visited spec: still the one the loop started with, now its update
      have hkt' : kt' = kt := by simpa [Pending, List.keys_cons, heq] using h
      have ht : kt.2 = t0 := by
        rw [← heq, lookup_eq_of_mem hm hkt] at ht0
        exact Option.some.inj ht0
      subst kt'
      have hnot : kt.1 ∉ rs.keys := heq ▸ hrs
      rw [if_pos heq, Pending, if_neg hnot, SpecUpdated]
      refine ⟨heq.symm, ?_⟩
      rw [heq, hkv]
      exact ht ▸ hspec
    · have hne' : kt'.1 ≠ kv.1 := by rw [h.fst_eq]; exact heq
      rw [if_neg hne']
      exact (pending_cons_of_ne reader values heq).mp h

/-- The loop of `update_specs` over entries of distinct names, each the value under its name,
ends with every spec that was pending for them updated. -/
theorem pending_foldlM {m : List (List Char × Tree (Variable ν))} (hm : (m.map Prod.fst).Nodup) :
    ∀ {rs : List (Σ _ : List Char, ν)} {acc m' : List (List Char × Tree (Variable ν))},
    rs.NodupKeys → (∀ kv ∈ rs, values.lookup kv.1 = some kv.2) →
    List.Forall₂ (Pending reader values rs) m acc →
    rs.foldlM (updateSpecsStep (specUpdates reader m)) acc = .ok m' →
    List.Forall₂ (SpecUpdated reader values) m m'
  | [], acc, m', _, _, hacc, h => by
    rw [List.foldlM_nil] at h
    cases h
    rwa [← pending_nil]
  | kv :: rs, acc, m', hrs, hsub, hacc, h => by
    rw [List.foldlM_cons] at h
    obtain ⟨acc1, h1, h⟩ := Except.bind_eq_ok.mp h
    obtain ⟨hkv, hrs⟩ := List.nodupKeys_cons.mp hrs
    exact pending_foldlM hm hrs (fun kv' h' => hsub kv' (List.mem_cons_of_mem _ h'))
      (pending_step reader values hm (hsub kv List.mem_cons_self) hkv hacc h1) h

/-- `update_specs` on a mapping of distinct names updates each spec by the value under its name. -/
theorem updateSpecs_specUpdated {m m' : List (List Char × Tree (Variable ν))}
    (hm : (m.map Prod.fst).Nodup) (h : updateSpecs reader values m = .ok m') :
    List.Forall₂ (SpecUpdated reader values) m m' := by
  refine pending_foldlM reader values hm values.nodupKeys
    (fun kv hkv => AList.mem_lookup_iff.mpr hkv) ?_ h
  -- before the loop every spec is pending: its name is still to be visited, or not in the values
  refine List.forall₂_same.mpr fun kt _ => ?_
  unfold Pending
  split
  · rfl
  · rename_i hnot
    have hnone : values.lookup kt.1 = none :=
      AList.lookup_eq_none.mpr fun hmem => hnot (AList.mem_keys.mp hmem)
    simp [SpecUpdated, hnone]

/-- What `update_specs` made of the specs of a mapping, variable by variable. -/
theorem mappingLeaves_of_specUpdated {m m' : List (List Char × Tree (Variable ν))}
    (hsub : ∀ kt ∈ m, ∀ value t', updateSpec reader value kt.2 = .ok t' →
      List.Forall₂ (LeafFilled (ValueAt reader value)) kt.2.leaves t'.leaves)
    (h : List.Forall₂ (SpecUpdated reader values) m m') :
    List.Forall₂ (LeafFilled (ValuesAt reader values)) (mappingLeaves m) (mappingLeaves m') := by
  induction h with
  | nil => exact .nil
  | @cons kt kt' m m' hkt _ ih =>
    obtain ⟨k, t⟩ := kt
    obtain ⟨k', t'⟩ := kt'
    obtain ⟨hk, hkt⟩ := hkt
    dsimp only at hk hkt
    subst k'
    rw [mappingLeaves, mappingLeaves]
    refine List.rel_append ?_ (ih fun kt hkt => hsub kt (List.mem_cons_of_mem _ hkt))
    -- the values under the name decide what became of the subtree
    cases hw : values.lookup k with
    | none =>
      rw [hw] at hkt
      subst t'
      have hsame : List.Forall₂ (LeafFilled fun _ => False) t.leaves t.leaves :=
        List.forall₂_same.mpr fun l _ => by simp [LeafFilled]
      exact forall₂_leafFilled_map_cons (by simp [valuesAt_cons, hw]) hsame
    | some w =>
      rw [hw] at hkt
      exact forall₂_leafFilled_map_cons (by simp [valuesAt_cons, hw])
        (hsub (k, t) List.mem_cons_self w t' hkt)

mutual

/-- Filling a tree with a value fills every variable at a path the value gives a value at, and
leaves the others as they were. -/
theorem updateSpec_leaves : ∀ {value : ν} (t : Tree (Variable ν)) {t' : Tree (Variable ν)},
    t.NodupKeys → updateSpec reader value t = .ok t' →
    List.Forall₂ (LeafFilled (ValueAt reader value)) t.leaves t'.leaves
  | value, .«end» e, t', _, h => by
    rw [updateSpec] at h
    obtain ⟨e', he, rfl⟩ := Except.map_eq_ok.mp h
    rw [Tree.leaves, Tree.leaves]
    exact .cons ⟨rfl, fun _ => Variable.getFinalValue_of_merge reader he,
      fun hno => absurd (Or.inl rfl) hno⟩ .nil
  | value, .mapping m, t', hn, h => by
    rw [updateSpec_mapping] at h
    obtain ⟨v, hv, h⟩ := Except.bind_eq_ok.mp h
    obtain ⟨m', hm', rfl⟩ := Except.map_eq_ok.mp h
    rw [Tree.leaves, Tree.leaves, valueAt_eq reader (Except.mapError_eq_ok.mp hv)]
    exact mappingLeaves_of_specUpdated reader v (mapping_updateSpec_leaves m hn.2)
      (updateSpecs_specUpdated reader v hn.1 hm')

/-- `updateSpec_leaves` for every subtree of a mapping. -/
theorem mapping_updateSpec_leaves : ∀ (m : List (List Char × Tree (Variable ν))),
    mappingNodupKeys m → ∀ kt ∈ m, ∀ value t', updateSpec reader value kt.2 = .ok t' →
      List.Forall₂ (LeafFilled (ValueAt reader value)) kt.2.leaves t'.leaves
  | [], _ => fun _ hkt => absurd hkt List.not_mem_nil
  | (k, t) :: rest, hn => by
    intro kt hkt value t' h
    rcases List.mem_cons.mp hkt with rfl | hkt
    · exact updateSpec_leaves t hn.1 h
    · exact mapping_updateSpec_leaves rest hn.2 kt hkt value t' h

end

/-- Filling a variable tree fills every variable at a path the values give a value at, and leaves
the others as they were. -/
theorem fillWithValues_leaves {t t' : VarTree (Variable ν)} {values : YAMLConfig ν}
    (hn : t.NodupKeys) (h : t.fillWithValues reader values = .ok t') :
    List.Forall₂ (LeafFilled (ValuesAt reader values.map)) t.leaves t'.leaves := by
  obtain ⟨m', hm', ht'⟩ := Except.bind_eq_ok.mp h
  cases Except.ok.inj ht'
  exact mappingLeaves_of_specUpdated reader values.map (mapping_updateSpec_leaves reader t.map hn.2)
    (updateSpecs_specUpdated reader values.map hn.1 hm')

end Fill

section Population

/-! The population check after filling, read variable by variable of the tree. -/

variable {ν : Type} (reader : ValueReader ν)

theorem exists_mem_iff_of_forall₂ {α β : Type} {R : α → β → Prop} {P : β → Prop} {Q : α → Prop}
    (hR : ∀ a b, R a b → (P b ↔ Q a)) :
    ∀ {l : List α} {l' : List β}, List.Forall₂ R l l' → ((∃ b ∈ l', P b) ↔ ∃ a ∈ l, Q a)
  | _, _, .nil => by simp
  | _, _, .cons hab h => by
    rw [List.exists_mem_cons_iff, List.exists_mem_cons_iff, hR _ _ hab,
      exists_mem_iff_of_forall₂ hR h]

theorem map_fst_of_leafFilled {given : List (List Char) → Prop} :
    ∀ {ls ls' : List (List (List Char) × Variable ν)}, List.Forall₂ (LeafFilled given) ls ls' →
    ls'.map Prod.fst = ls.map Prod.fst
  | _, _, .nil => rfl
  | _, _, .cons h hs => by rw [List.map_cons, List.map_cons, h.1, map_fst_of_leafFilled hs]

/-- A variable from a definition has no value after filling exactly when it is required and no
value was given at its path. -/
theorem getFinalValue_eq_none_of_leafFilled {given : List (List Char) → Prop}
    {l l' : List (List Char) × Variable ν} (hdef : l.2.variableType.FromDefinition)
    (h : LeafFilled given l l') :
    l'.2.getFinalValue = none ↔ l.2.isRequired = true ∧ ¬ given l.1 := by
  by_cases hg : given l.1
  · have hsome := h.2.1 hg
    simp only [hg, not_true_eq_false, and_false, iff_false]
    exact Option.isSome_iff_ne_none.mp hsome
  · rw [h.2.2 hg]
    simp only [hg, not_false_eq_true, and_true]
    exact VariableType.getFinalValue_eq_none_iff hdef

section Filled

variable {t t' : VarTree (Variable ν)} {values : YAMLConfig ν}
  (hdef : ∀ l ∈ t.leaves, l.2.variableType.FromDefinition) (hn : t.NodupKeys)
  (h : t.fillWithValues reader values = .ok t')

include hn h in
theorem dottedPaths_fillWithValues :
    t'.leaves.map (fun l => dottedPath l.1) = t.leaves.map (fun l => dottedPath l.1) := by
  have hpaths := congrArg (List.map dottedPath)
    (map_fst_of_leafFilled (fillWithValues_leaves reader hn h))
  simpa only [List.map_map, Function.comp_def] using hpaths

include hn h in
/-- Filling never adds or removes a flattened path. -/
theorem flatten_keys_fillWithValues : t'.flatten.keys = t.flatten.keys := by
  rw [VarTree.flatten_eq, VarTree.flatten_eq]
  apply collectMap_keys_eq
  simpa only [List.map_map, Function.comp_def] using dottedPaths_fillWithValues reader hn h

include hdef hn h in
/-- The variables that filling leaves without a value are the required ones that the values give
nothing to. -/
theorem exists_unpopulated_iff (k : List Char) :
    (∃ l' ∈ t'.leaves, dottedPath l'.1 = k ∧ l'.2.getFinalValue = none) ↔
      ∃ l ∈ t.leaves, dottedPath l.1 = k ∧ l.2.isRequired = true ∧
        ¬ ValuesAt reader values.map l.1 := by
  have hfill := (List.forall₂_and_left _ _).mpr ⟨hdef, fillWithValues_leaves reader hn h⟩
  refine exists_mem_iff_of_forall₂ ?_ hfill
  rintro l l' ⟨hdefl, hl⟩
  rw [hl.1, getFinalValue_eq_none_of_leafFilled hdefl hl]

include hdef hn h in
/-- Every path the check names is that of a required variable the values give nothing to. -/
theorem unpopulated_of_mem_notPopulated {k : List Char} (hk : k ∈ notPopulated t'.flatten) :
    ∃ l ∈ t.leaves, dottedPath l.1 = k ∧ l.2.isRequired = true ∧
      ¬ ValuesAt reader values.map l.1 := by
  obtain ⟨v, hmem, hv⟩ := mem_notPopulated.mp hk
  rw [VarTree.flatten_eq] at hmem
  obtain ⟨l', hl', hkv⟩ := List.mem_map.mp (mem_of_mem_collectMap_entries hmem)
  obtain ⟨rfl, rfl⟩ := Prod.mk.inj hkv
  exact (exists_unpopulated_iff reader hdef hn h _).mp ⟨l', hl', rfl, hv⟩

include hdef hn h in
/-- When no two variables share a path, the check names every required variable the values give
nothing to. -/
theorem mem_notPopulated_of_unpopulated
    (hdistinct : (t.leaves.map fun l => dottedPath l.1).Nodup)
    {l : List (List Char) × Variable ν} (hl : l ∈ t.leaves) (hreq : l.2.isRequired = true)
    (hnot : ¬ ValuesAt reader values.map l.1) : dottedPath l.1 ∈ notPopulated t'.flatten := by
  obtain ⟨l', hl', hk, hv⟩ :=
    (exists_unpopulated_iff reader hdef hn h _).mpr ⟨l, hl, rfl, hreq, hnot⟩
  -- the paths after filling are those before, so they are distinct too
  have hdistinct' : ((t'.leaves.map fun l => (dottedPath l.1, l.2)).map Prod.fst).Nodup := by
    simpa only [List.map_map, Function.comp_def, dottedPaths_fillWithValues reader hn h]
      using hdistinct
  rw [mem_notPopulated, VarTree.flatten_eq]
  exact ⟨l'.2, (mem_collectMap_entries hdistinct').mpr (List.mem_map.mpr ⟨l', hl', by rw [hk]⟩), hv⟩

end Filled

/-- Filling keeps the flattened paths, and the population check then refuses exactly when a path
is not populated, naming all of them. Every path it names is that of a required variable the
values give nothing to; when no two variables share a path, it names every such variable. -/
theorem fillWithValues_population_check {t t' : VarTree (Variable ν)} {values : YAMLConfig ν}
    (hdef : ∀ l ∈ t.leaves, l.2.variableType.FromDefinition) (hn : t.NodupKeys)
    (h : t.fillWithValues reader values = .ok t') :
    t'.flatten.keys = t.flatten.keys ∧
    checkAllVarsArePopulated t'.flatten =
      (if notPopulated t'.flatten = [] then .ok ()
        else .error (.valuesNotPopulated (notPopulated t'.flatten))) ∧
    (∀ k ∈ notPopulated t'.flatten, ∃ l ∈ t.leaves, dottedPath l.1 = k ∧
      l.2.isRequired = true ∧ ¬ ValuesAt reader values.map l.1) ∧
    ((t.leaves.map fun l => dottedPath l.1).Nodup → ∀ l ∈ t.leaves, l.2.isRequired = true →
      ¬ ValuesAt reader values.map l.1 → dottedPath l.1 ∈ notPopulated t'.flatten) :=
  ⟨flatten_keys_fillWithValues reader hn h, checkAllVarsArePopulated_eq _,
    fun _ hk => unpopulated_of_mem_notPopulated reader hdef hn h hk,
    fun hdistinct _ hl hreq hnot =>
      mem_notPopulated_of_unpopulated reader hdef hn h hdistinct hl hreq hnot⟩

/-- A reader for the runs below: every value reads as `x`, `true`, `1` or the empty mapping. -/
def unitReader : ValueReader Unit :=
  ⟨fun _ => .ok "x".toList, fun _ => .ok true, fun _ => .ok "1".toList, fun _ => .ok ∅⟩

/-- A required boolean `b` under `a`, a required string `c`, and a number `d` with a default. -/
def nestedVarTree : VarTree (Variable Unit) :=
  ⟨[("a".toList, .mapping [("b".toList, .«end» ⟨.bool ⟨true, none, none⟩⟩)]),
    ("c".toList, .«end» ⟨.string ⟨⟨true, none, none⟩, ⟨[]⟩⟩⟩),
    ("d".toList, .«end» ⟨.number ⟨false, some "1".toList, none⟩⟩)]⟩

/-- `nestedVarTree` once `c` took the value `x`. -/
def nestedVarTreeFilled : VarTree (Variable Unit) :=
  ⟨[("a".toList, .mapping [("b".toList, .«end» ⟨.bool ⟨true, none, none⟩⟩)]),
    ("c".toList, .«end» ⟨.string ⟨⟨true, none, some "x".toList⟩, ⟨[]⟩⟩⟩),
    ("d".toList, .«end» ⟨.number ⟨false, some "1".toList, none⟩⟩)]⟩

/-- Values with one entry, under `c`. -/
def valuesForC : YAMLConfig Unit := ⟨(∅ : AList fun _ : List Char => Unit).insert "c".toList ()⟩

theorem fillWithValues_population_check_at_nested :
    (∀ l ∈ nestedVarTree.leaves, l.2.variableType.FromDefinition) ∧ nestedVarTree.NodupKeys ∧
    nestedVarTree.fillWithValues unitReader valuesForC = .ok nestedVarTreeFilled ∧
    (nestedVarTreeFilled.flatten.keys = nestedVarTree.flatten.keys ∧
      checkAllVarsArePopulated nestedVarTreeFilled.flatten =
        (if notPopulated nestedVarTreeFilled.flatten = [] then .ok ()
          else .error (.valuesNotPopulated (notPopulated nestedVarTreeFilled.flatten))) ∧
      (∀ k ∈ notPopulated nestedVarTreeFilled.flatten, ∃ l ∈ nestedVarTree.leaves,
        dottedPath l.1 = k ∧ l.2.isRequired = true ∧ ¬ ValuesAt unitReader valuesForC.map l.1) ∧
      ((nestedVarTree.leaves.map fun l => dottedPath l.1).Nodup → ∀ l ∈ nestedVarTree.leaves,
        l.2.isRequired = true → ¬ ValuesAt unitReader valuesForC.map l.1 →
          dottedPath l.1 ∈ notPopulated nestedVarTreeFilled.flatten)) := by
  have hdef : ∀ l ∈ nestedVarTree.leaves, l.2.variableType.FromDefinition := by
    simp [nestedVarTree, VarTree.leaves, mappingLeaves, Tree.leaves, VariableType.FromDefinition,
      Fields.FromDefinition]
  have hn : nestedVarTree.NodupKeys := by
    simp [nestedVarTree, VarTree.NodupKeys, Tree.NodupKeys, mappingNodupKeys]
  have hfill : nestedVarTree.fillWithValues unitReader valuesForC = .ok nestedVarTreeFilled := rfl
  exact ⟨hdef, hn, hfill, fillWithValues_population_check unitReader hdef hn hfill⟩

/-- A required boolean `b` under `a`, and beside `a` a boolean named `a.b` with a default. -/
def shadowingVarTree : VarTree (Variable Unit) :=
  ⟨[("a".toList, .mapping [("b".toList, .«end» ⟨.bool ⟨true, none, none⟩⟩)]),
    ("a.b".toList, .«end» ⟨.bool ⟨false, some false, none⟩⟩)]⟩

/-- With no values the required variable at `a.b` has no value, yet the check passes: the
flattened map keeps the later variable of that path, the one named `a.b`, which has a default. -/
theorem shadowed_required_variable_passes_check :
    (∀ l ∈ shadowingVarTree.leaves, l.2.variableType.FromDefinition) ∧
    shadowingVarTree.NodupKeys ∧
    shadowingVarTree.fillWithValues unitReader ⟨∅⟩ = .ok shadowingVarTree ∧
    (∃ l ∈ shadowingVarTree.leaves, dottedPath l.1 = "a.b".toList ∧ l.2.isRequired = true ∧
      ¬ ValuesAt unitReader (∅ : AList fun _ : List Char => Unit) l.1) ∧
    checkAllVarsArePopulated shadowingVarTree.flatten = .ok () := by
  refine ⟨?_, ?_, rfl, ⟨(["a".toList, "b".toList], ⟨.bool ⟨true, none, none⟩⟩), ?_, ?_⟩, ?_⟩
  · simp [shadowingVarTree, VarTree.leaves, mappingLeaves, Tree.leaves,
      VariableType.FromDefinition, Fields.FromDefinition]
  · simp [shadowingVarTree, VarTree.NodupKeys, Tree.NodupKeys, mappingNodupKeys]
  · simp [shadowingVarTree, VarTree.leaves, mappingLeaves, Tree.leaves]
  · refine ⟨by decide, rfl, ?_⟩
    simp [valuesAt_cons]
  · decide

end Population

end AgentControl
