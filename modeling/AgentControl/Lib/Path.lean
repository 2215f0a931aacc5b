import Mathlib.Data.List.Infix

/-!
# Paths as their components

A path is what `std::path::Path::components` makes of it on Unix: an optional
root (or a leading `.`), then `..` and names, with repeated separators and
interior `.` gone. A `PathBuf` carries that normal form as a field, so every
path in a development built on this library, whether parsed from text, read
from a file or built by `join`, has it.

The operations are the ones `std::path` defines on components: `starts_with`
compares them, `join` appends a relative path (an absolute one replaces), and
`parent` drops the last one. `parse` is `Path::new(text)` followed by
`components()`, and it reads back what `display` prints (`parse_display`).

Nothing here names the program being verified.
-/

/-- A path component, as `std::path::Component` on Unix. -/
inductive PathBuf.Component where
  | rootDir
  | curDir
  | parentDir
  | normal (name : List Char)
  deriving DecidableEq, Repr

namespace PathBuf.Component

/-- A text that can be a `Normal` component: not empty, not `.` or `..`, without a separator. -/
def IsName (n : List Char) : Prop := n ≠ [] ∧ n ≠ ['.'] ∧ n ≠ ['.', '.'] ∧ '/' ∉ n

instance (n : List Char) : Decidable (IsName n) := inferInstanceAs (Decidable (_ ∧ _))

/-- A component that may follow the first one: a name or `..`. -/
def IsInner : Component → Prop
  | normal n => IsName n
  | parentDir => True
  | _ => False

instance : DecidablePred IsInner := fun c =>
  match c with
  | normal n => inferInstanceAs (Decidable (IsName n))
  | parentDir => isTrue trivial
  | rootDir => isFalse id
  | curDir => isFalse id

/-- The text of a component. -/
def text : Component → List Char
  | rootDir => ['/']
  | curDir => ['.']
  | parentDir => ['.', '.']
  | normal n => n

/-- Whether a component is `Component::Normal`. -/
def isNormal : Component → Bool
  | normal _ => true
  | _ => false

/-- `{:?}` of a component (escapes left out). -/
def debug : Component → List Char
  | rootDir => "RootDir".toList
  | curDir => "CurDir".toList
  | parentDir => "ParentDir".toList
  | normal n => "Normal(\"".toList ++ n ++ "\")".toList

end PathBuf.Component

open PathBuf.Component in
/-- The normal form of a component list: a root or a `.` may only come first, and every other
component is a name or `..`. -/
def PathBuf.Normalized : List PathBuf.Component → Prop
  | rootDir :: rest => ∀ c ∈ rest, IsInner c
  | curDir :: rest => ∀ c ∈ rest, IsInner c
  | cs => ∀ c ∈ cs, IsInner c

/-- A path, by its components in normal form. -/
structure PathBuf where
  components : List PathBuf.Component
  normalized : PathBuf.Normalized components

namespace PathBuf

open Component

theorem ext_iff' {p q : PathBuf} : p = q ↔ p.components = q.components := by
  cases p
  cases q
  simp

instance : DecidableEq PathBuf := fun _ _ => decidable_of_iff _ ext_iff'.symm

/-! ### Normal form -/

theorem normalized_of_inner {cs : List Component} (h : ∀ c ∈ cs, IsInner c) : Normalized cs := by
  match cs, h with
  | [], _ => exact fun c hc => absurd hc List.not_mem_nil
  | rootDir :: _, h => exact absurd (h _ List.mem_cons_self) id
  | curDir :: _, h => exact absurd (h _ List.mem_cons_self) id
  | parentDir :: rest, h => exact h
  | normal n :: rest, h => exact h

/-- Past its first component, a normal path has only names and `..`. -/
theorem Normalized.tail_inner {cs : List Component} (h : Normalized cs) :
    ∀ c ∈ cs.tail, IsInner c := by
  match cs, h with
  | [], _ => exact fun c hc => absurd hc List.not_mem_nil
  | rootDir :: _, h => exact h
  | curDir :: _, h => exact h
  | parentDir :: _, h => exact fun c hc => h c (List.mem_cons_of_mem _ hc)
  | normal _ :: _, h => exact fun c hc => h c (List.mem_cons_of_mem _ hc)

theorem Normalized.append {cs ds : List Component} (hc : Normalized cs) (hd : ∀ d ∈ ds, IsInner d) :
    Normalized (cs ++ ds) := by
  match cs, hc with
  | [], _ => exact normalized_of_inner hd
  | rootDir :: rest, hc =>
    exact fun c h => (List.mem_append.mp h).elim (hc c) (hd c)
  | curDir :: rest, hc =>
    exact fun c h => (List.mem_append.mp h).elim (hc c) (hd c)
  | parentDir :: rest, hc =>
    exact fun c h => (List.mem_append.mp h).elim (hc c) (hd c)
  | normal _ :: rest, hc =>
    exact fun c h => (List.mem_append.mp h).elim (hc c) (hd c)

theorem Normalized.dropLast {cs : List Component} (h : Normalized cs) : Normalized cs.dropLast := by
  match cs, h with
  | [], _ => exact fun c hc => absurd hc List.not_mem_nil
  | [_], _ => exact fun c hc => absurd hc List.not_mem_nil
  | c₀ :: c₁ :: rest, h =>
    have hrest : ∀ c ∈ (c₁ :: rest).dropLast, IsInner c :=
      fun c hc => h.tail_inner c (List.dropLast_subset _ hc)
    rw [List.dropLast_cons_cons]
    match c₀ with
    | rootDir => exact hrest
    | curDir => exact hrest
    | parentDir => exact fun c hc => (List.mem_cons.mp hc).elim (· ▸ trivial) (hrest c)
    | normal n =>
      exact fun c hc => (List.mem_cons.mp hc).elim
        (fun e => e ▸ h (normal n) List.mem_cons_self) (hrest c)

/-- A prefix of a normal path is one. -/
theorem Normalized.of_prefix {cs ds : List Component} (h : Normalized cs) (hp : ds <+: cs) :
    Normalized ds := by
  obtain ⟨rest, rfl⟩ := hp
  match ds, h with
  | [], _ => exact fun c hc => absurd hc List.not_mem_nil
  | rootDir :: _, h => exact fun c hc => h c (List.mem_append_left _ hc)
  | curDir :: _, h => exact fun c hc => h c (List.mem_append_left _ hc)
  | parentDir :: _, h => exact fun c hc => h c (List.mem_append_left _ hc)
  | normal _ :: _, h => exact fun c hc => h c (List.mem_append_left _ hc)

/-- The `/`-separated segments of a text, empty ones included. -/
def segments : List Char → List (List Char)
  | [] => [[]]
  | c :: rest =>
    if c = '/' then [] :: segments rest
    else match segments rest with
      | [] => [[c]]
      | seg :: segs => (c :: seg) :: segs

theorem not_mem_of_mem_segments : ∀ {text seg : List Char}, seg ∈ segments text → '/' ∉ seg
  | [], seg, h => by
    rw [segments, List.mem_singleton] at h
    subst h
    exact List.not_mem_nil
  | c :: rest, seg, h => by
    unfold segments at h
    split at h
    · rcases List.mem_cons.mp h with rfl | h
      · exact List.not_mem_nil
      · exact not_mem_of_mem_segments h
    · rename_i hc
      have ih : ∀ s ∈ segments rest, '/' ∉ s := fun s hs => not_mem_of_mem_segments hs
      split at h
      · rw [List.mem_singleton] at h
        subst h
        simpa using Ne.symm hc
      · rename_i seg₀ segs hsegs
        rcases List.mem_cons.mp h with rfl | h
        · have h₀ := ih seg₀ (by rw [hsegs]; exact List.mem_cons_self)
          simpa [Ne.symm hc] using h₀
        · exact ih seg (by rw [hsegs]; exact List.mem_cons_of_mem _ h)

/-- A text without a separator is one segment. -/
theorem segments_of_not_mem : ∀ {text : List Char}, '/' ∉ text → segments text = [text]
  | [], _ => rfl
  | c :: rest, h => by
    have hc : c ≠ '/' := fun hc => h (hc ▸ List.mem_cons_self)
    have hrest : segments rest = [rest] := segments_of_not_mem fun hr => h (List.mem_cons_of_mem _ hr)
    rw [segments, if_neg hc, hrest]

/-- The component a segment stands for past the first one: none for an empty segment or `.`. -/
def innerOf (seg : List Char) : Option Component :=
  if seg = [] ∨ seg = ['.'] then none
  else if seg = ['.', '.'] then some parentDir
  else some (normal seg)

theorem innerOf_inner {seg : List Char} (hs : '/' ∉ seg) {c : Component}
    (h : innerOf seg = some c) : IsInner c := by
  unfold innerOf at h
  split at h
  · cases h
  · rename_i h₁
    split at h
    · cases h
      trivial
    · rename_i h₂
      cases h
      push Not at h₁
      exact ⟨h₁.1, h₁.2, h₂, hs⟩

theorem filterMap_innerOf_inner {segs : List (List Char)} (hs : ∀ s ∈ segs, '/' ∉ s) :
    ∀ c ∈ segs.filterMap innerOf, IsInner c := by
  intro c hc
  obtain ⟨seg, hseg, hc⟩ := List.mem_filterMap.mp hc
  exact innerOf_inner (hs seg hseg) hc

/-- Models `Path::new(text).components()` on Unix. -/
def parse (text : List Char) : PathBuf :=
  have hinner : ∀ segs : List (List Char), (∀ s ∈ segs, '/' ∉ s) →
      ∀ c ∈ segs.filterMap innerOf, IsInner c := fun _ hs => filterMap_innerOf_inner hs
  have hsegs : ∀ s ∈ segments text, '/' ∉ s := fun _ h => not_mem_of_mem_segments h
  if text.head? = some '/' then
    ⟨rootDir :: (segments text).filterMap innerOf, hinner _ hsegs⟩
  else
    match hm : segments text with
    | ['.'] :: rest =>
      ⟨curDir :: rest.filterMap innerOf,
        hinner rest fun s hs => hsegs s (by rw [hm]; exact List.mem_cons_of_mem _ hs)⟩
    | segs => ⟨segs.filterMap innerOf, normalized_of_inner (hinner segs (hm ▸ hsegs))⟩

/-- A name parses to the path of that one name. -/
theorem parse_of_isName {n : List Char} (hn : IsName n) : (parse n).components = [normal n] := by
  obtain ⟨hne, hdot, hdotdot, hslash⟩ := hn
  have hseg : segments n = [n] := segments_of_not_mem hslash
  have hhead : n.head? ≠ some '/' := fun h => hslash (List.mem_of_mem_head? h)
  have hinner : innerOf n = some (normal n) := by
    simp [innerOf, hne, hdot, hdotdot]
  unfold parse
  rw [if_neg hhead]
  split
  · -- a leading `.` segment would be the whole name
    rename_i rest hm
    rw [hseg, List.cons.injEq] at hm
    exact absurd hm.1 hdot
  · show (segments n).filterMap innerOf = _
    rw [hseg, List.filterMap_cons, hinner, List.filterMap_nil]

example : (parse "/var/./lib//x/".toList).components =
    [rootDir, normal "var".toList, normal "lib".toList, normal "x".toList] := by decide

example : (parse "./../a".toList).components = [curDir, parentDir, normal ['a']] := by decide

/-! ### Operations -/

/-- Models `Path::is_absolute` on Unix: the path has a root. -/
def isAbsolute (p : PathBuf) : Bool := p.components.head? == some rootDir

theorem join_normalized {p q : PathBuf} (hq : q.isAbsolute = false) :
    Normalized (p.components ++ q.components.filter (· ≠ curDir)) := by
  refine p.normalized.append fun c hc => ?_
  obtain ⟨hmem, hne⟩ := List.mem_filter.mp hc
  have hq' := q.normalized
  -- a relative path starts with `.` or an inner component; `.` was filtered out
  match hcs : q.components, hq' with
  | [], _ => rw [hcs] at hmem; cases hmem
  | rootDir :: _, _ => simp [isAbsolute, hcs] at hq
  | curDir :: rest, hq' =>
    rw [hcs] at hmem
    rcases List.mem_cons.mp hmem with rfl | hmem
    · simp at hne
    · exact hq' c hmem
  | parentDir :: rest, hq' => rw [hcs] at hmem; exact hq' c hmem
  | normal n :: rest, hq' => rw [hcs] at hmem; exact hq' c hmem

/-- Models `Path::join`: an absolute path replaces, a relative one is appended (its leading `.`
disappears, as `components()` drops an interior `.`). -/
def join (p q : PathBuf) : PathBuf :=
  if hq : q.isAbsolute then q
  else if p.components = [] then q
  else ⟨p.components ++ q.components.filter (· ≠ curDir), join_normalized (by simpa using hq)⟩

/-- Models `Path::starts_with`: compares whole components. -/
def startsWith (p base : PathBuf) : Bool := base.components.isPrefixOf p.components

/-- Models `Path::parent`: the path without its last component, none for a root or an empty
path. -/
def parent (p : PathBuf) : Option PathBuf :=
  match p.components.getLast? with
  | some rootDir => none
  | none => none
  | some _ => some ⟨p.components.dropLast, p.normalized.dropLast⟩

/-- `components().count()` -/
def depth (p : PathBuf) : Nat := p.components.length

/-- The text of a path, as `Path::display` prints its components. -/
def display (p : PathBuf) : List Char :=
  match p.components with
  | rootDir :: rest => '/' :: List.intercalate ['/'] (rest.map text)
  | cs => List.intercalate ['/'] (cs.map text)

/-- The path with its first `k` components. -/
def take (p : PathBuf) (k : Nat) : PathBuf :=
  ⟨p.components.take k, p.normalized.of_prefix (List.take_prefix _ _)⟩

/-- The path and every path above it, from the top down: `Path::ancestors` in the order
`create_dir_all` makes them, without the empty path a relative path ends in. -/
def ancestors (p : PathBuf) : List PathBuf := (List.range p.depth).map fun k => p.take (k + 1)

/-- `{:?}` of a path: its text in quotes (escapes left out). -/
def debug (p : PathBuf) : List Char := '"' :: p.display ++ ['"']

/-- Models `Path::file_name`: the last component, when it is a name. -/
def fileName (p : PathBuf) : Option (List Char) :=
  match p.components.getLast? with
  | some (normal n) => some n
  | _ => none

/-! ### Their spec lemmas -/

theorem startsWith_iff {p base : PathBuf} :
    p.startsWith base = true ↔ base.components <+: p.components :=
  List.isPrefixOf_iff_prefix

theorem mem_ancestors {p q : PathBuf} :
    q ∈ p.ancestors ↔ q.components <+: p.components ∧ q.components ≠ [] := by
  simp only [ancestors, List.mem_map, List.mem_range, depth]
  constructor
  · rintro ⟨k, hk, rfl⟩
    refine ⟨List.take_prefix _ _, ?_⟩
    simp only [take, ne_eq, List.take_eq_nil_iff, not_or]
    exact ⟨by omega, List.ne_nil_of_length_pos (by omega)⟩
  · rintro ⟨hpre, hne⟩
    have hlen : 0 < q.components.length := List.length_pos_of_ne_nil hne
    refine ⟨q.components.length - 1, by have := hpre.length_le; omega, ?_⟩
    rw [ext_iff']
    simp only [take, Nat.sub_add_cancel hlen]
    exact (List.prefix_iff_eq_take.mp hpre).symm

/-- A path with one name component. -/
def ofName (n : List Char) (hn : Component.IsName n) : PathBuf :=
  ⟨[normal n], normalized_of_inner fun c hc => by
    rw [List.mem_singleton] at hc
    subst hc
    exact hn⟩

/-- Joining one name appends it. -/
theorem join_components_of_eq_normal {p q : PathBuf} {n : List Char}
    (hq : q.components = [normal n]) : (p.join q).components = p.components ++ [normal n] := by
  have habs : q.isAbsolute = false := by simp [isAbsolute, hq]
  unfold join
  rw [dif_neg (by simp [habs])]
  split
  · rename_i hp
    rw [hp, hq]
    rfl
  · show p.components ++ q.components.filter (· ≠ curDir) = _
    rw [hq]
    rfl

/-- The parent of a path that ends in a name is the path without it. -/
theorem parent_components_of_eq_append {p : PathBuf} {cs : List Component} {n : List Char}
    (h : p.components = cs ++ [normal n]) : p.parent.map components = some cs := by
  unfold parent
  split
  · rename_i hl
    rw [h, List.getLast?_concat] at hl
    cases hl
  · rename_i hl
    rw [h, List.getLast?_concat] at hl
    cases hl
  · simp [h]

/-- Joining one name gives a path whose parent is the one joined onto. -/
theorem parent_join_of_eq_normal {p q : PathBuf} {n : List Char} (hq : q.components = [normal n]) :
    (p.join q).parent = some p := by
  obtain ⟨r, hr, hrc⟩ := Option.map_eq_some_iff.mp
    (parent_components_of_eq_append (join_components_of_eq_normal hq : (p.join q).components = _))
  rw [hr, ext_iff'.mpr hrc]

/-! ### Printing and parsing again -/

/-- A segment and a separator: the segment, then the segments of the rest. -/
theorem segments_append_sep : ∀ {seg : List Char} (rest : List Char), '/' ∉ seg →
    segments (seg ++ '/' :: rest) = seg :: segments rest
  | [], rest, _ => by rw [List.nil_append, segments, if_pos rfl]
  | c :: seg, rest, h => by
    have hc : c ≠ '/' := fun hc => h (hc ▸ List.mem_cons_self)
    rw [List.cons_append, segments, if_neg hc,
      segments_append_sep rest fun hs => h (List.mem_cons_of_mem _ hs)]

/-- Texts joined by separators split back into the texts. -/
theorem segments_intercalate : ∀ {segs : List (List Char)}, segs ≠ [] →
    (∀ s ∈ segs, '/' ∉ s) → segments (List.intercalate ['/'] segs) = segs
  | [], h, _ => absurd rfl h
  | [s], _, hs => by
    rw [List.intercalate_singleton]
    exact segments_of_not_mem (hs s List.mem_cons_self)
  | s :: t :: rest, _, hs => by
    rw [List.intercalate_cons_cons, List.append_assoc, List.singleton_append,
      segments_append_sep _ (hs s List.mem_cons_self),
      segments_intercalate (List.cons_ne_nil t rest) fun s' h => hs s' (List.mem_cons_of_mem _ h)]

/-- The text of an inner component has no separator. -/
theorem not_mem_text_of_inner {c : Component} (hc : IsInner c) : '/' ∉ c.text := by
  cases c with
  | normal n => exact hc.2.2.2
  | parentDir => decide
  | rootDir => exact hc.elim
  | curDir => exact hc.elim

/-- An inner component is what its text stands for. -/
theorem innerOf_text {c : Component} (hc : IsInner c) : innerOf c.text = some c := by
  cases c with
  | normal n =>
    obtain ⟨hne, hdot, hdotdot, -⟩ := hc
    simp [innerOf, text, hne, hdot, hdotdot]
  | parentDir => rfl
  | rootDir => exact hc.elim
  | curDir => exact hc.elim

/-- The texts of inner components stand for them. -/
theorem filterMap_innerOf_text {cs : List Component} (hcs : ∀ c ∈ cs, IsInner c) :
    (cs.map text).filterMap innerOf = cs := by
  rw [List.filterMap_map]
  calc cs.filterMap (innerOf ∘ text) = cs.filterMap some :=
        List.filterMap_congr fun c h => innerOf_text (hcs c h)
    _ = cs := List.filterMap_some

/-- The texts of components, joined by separators, split back into them. -/
theorem segments_intercalate_text {cs : List Component} (hne : cs ≠ [])
    (hcs : ∀ c ∈ cs, '/' ∉ c.text) :
    segments (List.intercalate ['/'] (cs.map text)) = cs.map text := by
  refine segments_intercalate (by simpa using hne) ?_
  simp only [List.mem_map]
  rintro s ⟨c, hc, rfl⟩
  exact hcs c hc

/-- A text that does not start with a separator parses as its segments, unless the first is `.`. -/
theorem parse_components_of_segments {s : List Char} {segs : List (List Char)}
    (hhead : s.head? ≠ some '/') (hsegs : segments s = segs) (hdot : segs.head? ≠ some ['.']) :
    (parse s).components = segs.filterMap innerOf := by
  unfold parse
  split
  · contradiction
  · split
    · rename_i rest hm
      rw [hsegs] at hm
      subst hm
      exact absurd rfl hdot
    · show (segments s).filterMap innerOf = _
      rw [hsegs]

/-- The head of texts joined by separators is that of the first text, when it has one. -/
theorem head?_intercalate {a : List Char} (l : List (List Char)) (ha : a ≠ []) :
    (List.intercalate ['/'] (a :: l)).head? = a.head? := by
  cases l with
  | nil => rw [List.intercalate_singleton]
  | cons b l => rw [List.intercalate_cons_cons, List.append_assoc, List.head?_append_of_ne_nil _ ha]

/-- A path is the parse of its display. -/
theorem parse_display (p : PathBuf) : parse p.display = p := by
  obtain ⟨cs, hcs⟩ := p
  rw [ext_iff']
  rcases cs with _ | ⟨_ | _ | _ | n, rest⟩
  · rfl
  · -- a root: every segment after the leading separator
    have hrest : ∀ c ∈ rest, IsInner c := hcs
    show (parse ('/' :: List.intercalate ['/'] (rest.map text))).components = _
    unfold parse
    split
    · show rootDir :: (segments _).filterMap innerOf = _
      rw [segments, if_pos rfl, List.filterMap_cons_none rfl]
      cases rest with
      | nil => rfl
      | cons c rest =>
        rw [segments_intercalate_text (List.cons_ne_nil c rest)
          fun c' h => not_mem_text_of_inner (hrest c' h), filterMap_innerOf_text hrest]
    · rename_i h
      exact absurd rfl h
  · -- a leading `.`: the first segment
    have hrest : ∀ c ∈ rest, IsInner c := hcs
    have hsegs := segments_intercalate_text (List.cons_ne_nil curDir rest) fun c h => by
      rcases List.mem_cons.mp h with rfl | h
      · decide
      · exact not_mem_text_of_inner (hrest c h)
    show (parse (List.intercalate ['/'] ((curDir :: rest).map text))).components = _
    unfold parse
    split
    · rename_i h
      rw [List.map_cons, head?_intercalate _ (by decide)] at h
      cases h
    · split
      · rename_i rest' hm
        rw [hsegs, List.map_cons, List.cons.injEq] at hm
        obtain ⟨-, rfl⟩ := hm
        show curDir :: (rest.map text).filterMap innerOf = _
        rw [filterMap_innerOf_text hrest]
      · rename_i hm
        exact absurd hsegs (hm _)
  · -- a leading `..`
    have hcs' : ∀ c ∈ parentDir :: rest, IsInner c := hcs
    have hhead : (List.intercalate ['/'] ((parentDir :: rest).map text)).head? ≠ some '/' := by
      rw [List.map_cons, head?_intercalate _ (by decide)]
      decide
    show (parse (List.intercalate ['/'] ((parentDir :: rest).map text))).components = _
    rw [parse_components_of_segments hhead (segments_intercalate_text (List.cons_ne_nil _ _)
      fun c h => not_mem_text_of_inner (hcs' c h)) (by rw [List.map_cons, List.head?_cons]; decide),
      filterMap_innerOf_text hcs']
  · -- a leading name
    have hcs' : ∀ c ∈ normal n :: rest, IsInner c := hcs
    obtain ⟨hne, hdot, -, hslash⟩ := hcs' _ List.mem_cons_self
    have hhead : (List.intercalate ['/'] ((normal n :: rest).map text)).head? ≠ some '/' := by
      rw [List.map_cons, head?_intercalate _ (show (normal n).text ≠ [] from hne)]
      exact fun h => hslash (List.mem_of_mem_head? h)
    have hdot' : ((normal n :: rest).map text).head? ≠ some ['.'] := by
      rw [List.map_cons, List.head?_cons, Ne, Option.some_inj]
      exact hdot
    show (parse (List.intercalate ['/'] ((normal n :: rest).map text))).components = _
    rw [parse_components_of_segments hhead (segments_intercalate_text (List.cons_ne_nil _ _)
      fun c h => not_mem_text_of_inner (hcs' c h)) hdot', filterMap_innerOf_text hcs']
end PathBuf
