import Mathlib.Data.List.DropRight
import Mathlib.Algebra.GroupWithZero.Nat

/-!
# Text operations of Rust's `str`

Strings are lists of characters. `replace` is `str::replace`: the occurrences of a
pattern, found left to right without overlapping, are replaced. It is written
with a count of characters still to skip, so that it recurses structurally on the
text and evaluates by `decide`.

A text replaced in itself is the replacement (`replace_self`). `trimStartMatches` is `str::trim_start_matches`, written the same
way. `splitOnce` is `str::split_once` on a character; a text
splits at the first occurrence (`splitOnce_append`), and only there (`splitOnce_eq_some`).
A byte formatted as `{:02x}` is two lowercase hexadecimal digits (`hexByte`), and bytes so
written read back (`decodeHex_flatMap_hexByte`).

Nothing here names the program being verified.
-/

namespace Text

/-- `str::replace` after `skip` characters already replaced: every occurrence of `pat`, found
left to right without overlapping, becomes `rep`. An empty pattern replaces nothing. -/
def replaceFrom (pat rep : List Char) : Nat → List Char → List Char
  | _, [] => []
  | skip + 1, _ :: rest => replaceFrom pat rep skip rest
  | 0, c :: rest =>
    if pat ≠ [] ∧ pat <+: c :: rest then rep ++ replaceFrom pat rep (pat.length - 1) rest
    else c :: replaceFrom pat rep 0 rest

/-- Models `str::replace` for a non-empty pattern. -/
def replace (s pat rep : List Char) : List Char := replaceFrom pat rep 0 s

example : replace "a-b-c".toList ['-'] "--".toList = "a--b--c".toList := by decide

example : replace "aaa".toList "aa".toList ['b'] = "ba".toList := by decide

theorem replaceFrom_skip (pat rep : List Char) :
    ∀ (l s : List Char), replaceFrom pat rep l.length (l ++ s) = replaceFrom pat rep 0 s
  | [], _ => rfl
  | _ :: l, s => replaceFrom_skip pat rep l s

/-- A non-empty text replaced in itself is the replacement. -/
theorem replace_self {s : List Char} (hs : s ≠ []) (rep : List Char) : replace s s rep = rep := by
  obtain ⟨c, rest, rfl⟩ := List.exists_cons_of_ne_nil hs
  have hrest := replaceFrom_skip (c :: rest) rep rest []
  rw [List.append_nil] at hrest
  rw [replace, replaceFrom, if_pos ⟨hs, List.prefix_refl _⟩, List.length_cons,
    Nat.add_sub_cancel, hrest]
  simp [replaceFrom]

/-- `str::trim_matches` of a class: the characters of the class at both ends are removed. -/
def trimBy (p : Char → Bool) (s : List Char) : List Char := (s.dropWhile p).rdropWhile p

/-- `str::strip_prefix`. -/
def stripPrefix (s pre : List Char) : Option (List Char) :=
  if pre <+: s then some (s.drop pre.length) else none

/-- `str::trim_start_matches` of a text, after `skip` characters already removed: the pattern
is removed from the front as long as it is there. An empty pattern removes nothing. -/
def trimStartMatchesFrom (pat : List Char) : Nat → List Char → List Char
  | _, [] => []
  | skip + 1, _ :: rest => trimStartMatchesFrom pat skip rest
  | 0, c :: rest =>
    if pat ≠ [] ∧ pat <+: c :: rest then trimStartMatchesFrom pat (pat.length - 1) rest
    else c :: rest

/-- Models `str::trim_start_matches` of a text. -/
def trimStartMatches (s pat : List Char) : List Char := trimStartMatchesFrom pat 0 s

example : trimStartMatches "ababc".toList "ab".toList = "c".toList := by decide

theorem trimStartMatchesFrom_skip (pat : List Char) :
    ∀ (l s : List Char), trimStartMatchesFrom pat l.length (l ++ s) = trimStartMatchesFrom pat 0 s
  | [], _ => rfl
  | _ :: l, s => trimStartMatchesFrom_skip pat l s

theorem trimStartMatches_of_not_prefix {s pat : List Char} (h : ¬ pat <+: s) :
    trimStartMatches s pat = s := by
  cases s with
  | nil => rfl
  | cons c rest => simp [trimStartMatches, trimStartMatchesFrom, h]

/-- One occurrence of the pattern in front of a text that does not start with it is removed. -/
theorem trimStartMatches_append {pat s : List Char} (hpat : pat ≠ []) (h : ¬ pat <+: s) :
    trimStartMatches (pat ++ s) pat = s := by
  obtain ⟨c, ps, rfl⟩ := List.exists_cons_of_ne_nil hpat
  rw [trimStartMatches, List.cons_append, trimStartMatchesFrom,
    if_pos ⟨hpat, List.prefix_append _ _⟩, List.length_cons, Nat.add_sub_cancel,
    trimStartMatchesFrom_skip]
  exact trimStartMatches_of_not_prefix h

/-- `char::to_ascii_lowercase`. -/
def asciiLower (c : Char) : Char :=
  if 'A' ≤ c ∧ c ≤ 'Z' then Char.ofNat (c.toNat + 32) else c

/-- `str::eq_ignore_ascii_case`. -/
def eqIgnoreAsciiCase (s t : List Char) : Bool := s.map asciiLower == t.map asciiLower

/-- `str::len`: the length in UTF-8 bytes. -/
def utf8Len (s : List Char) : Nat := (s.map Char.utf8Size).sum

/-- `str::split_once` on a character: the text before its first occurrence, and the text
after it. -/
def splitOnce (c : Char) : List Char → Option (List Char × List Char)
  | [] => none
  | d :: s => if d = c then some ([], s) else (splitOnce c s).map fun p => (d :: p.1, p.2)

/-- A text splits at the first occurrence of `c`. -/
theorem splitOnce_append {c : Char} {a : List Char} (ha : c ∉ a) (b : List Char) :
    splitOnce c (a ++ c :: b) = some (a, b) := by
  induction a with
  | nil => simp [splitOnce]
  | cons d a ih =>
    have hd : d ≠ c := fun h => ha (h ▸ List.mem_cons_self)
    rw [List.cons_append, splitOnce, if_neg hd, ih fun h => ha (List.mem_cons_of_mem _ h)]
    rfl

theorem splitOnce_eq_some {c : Char} {s a b : List Char} (h : splitOnce c s = some (a, b)) :
    s = a ++ c :: b ∧ c ∉ a := by
  induction s generalizing a with
  | nil => cases h
  | cons d s ih =>
    unfold splitOnce at h
    split at h
    · -- `d` is the first occurrence
      rename_i hd
      cases h
      exact ⟨by rw [hd]; rfl, List.not_mem_nil⟩
    · rename_i hd
      obtain ⟨⟨a', b'⟩, h', heq⟩ := Option.map_eq_some_iff.mp h
      cases heq
      obtain ⟨rfl, hn⟩ := ih h'
      refine ⟨rfl, ?_⟩
      rw [List.mem_cons, not_or]
      exact ⟨Ne.symm hd, hn⟩

/-- The value of a non-empty run of ASCII digits. -/
def parseDigits : List Char → Option Nat
  | [] => none
  | c :: rest =>
    if '0' ≤ c ∧ c ≤ '9' then
      match rest with
      | [] => some (c.toNat - '0'.toNat)
      | _ => (parseDigits rest).map fun n => (c.toNat - '0'.toNat) * 10 ^ rest.length + n
    else none

/-- `u8::from_str`: an optional `+`, then decimal digits, at most 255. -/
def parseU8 (s : List Char) : Option (Fin 256) :=
  let digits := match s with
    | '+' :: rest => rest
    | _ => s
  match parseDigits digits with
  | some n => if h : n < 256 then some ⟨n, h⟩ else none
  | none => none

example : parseU8 "+255".toList = some 255 := by decide

example : parseU8 "256".toList = none := by decide

/-! ### Hexadecimal -/

/-- The lowercase hexadecimal digit of a value below sixteen. -/
def hexDigit (n : Nat) : Char := if n < 10 then Char.ofNat (48 + n) else Char.ofNat (87 + n)

/-- `format!("{b:02x}")`: a byte as two lowercase hexadecimal digits. -/
def hexByte (b : UInt8) : List Char := [hexDigit (b.toNat / 16), hexDigit (b.toNat % 16)]

/-- The value of a lowercase hexadecimal digit. -/
def hexDigitValue (c : Char) : Option Nat :=
  if '0' ≤ c ∧ c ≤ '9' then some (c.toNat - '0'.toNat)
  else if 'a' ≤ c ∧ c ≤ 'f' then some (c.toNat - 'a'.toNat + 10) else none

/-- Bytes written as pairs of hexadecimal digits; `none` for any other text. -/
def decodeHex : List Char → Option (List UInt8)
  | [] => some []
  | hi :: lo :: rest => do
    let h ← hexDigitValue hi
    let l ← hexDigitValue lo
    let bs ← decodeHex rest
    pure (UInt8.ofNat (16 * h + l) :: bs)
  | [_] => none

private theorem hexDigitValue_hexDigit_fin : ∀ n : Fin 16, hexDigitValue (hexDigit n) = some n := by
  decide

theorem hexDigitValue_hexDigit {n : Nat} (h : n < 16) : hexDigitValue (hexDigit n) = some n :=
  hexDigitValue_hexDigit_fin ⟨n, h⟩

theorem decodeHex_hexByte_append (b : UInt8) (rest : List Char) :
    decodeHex (hexByte b ++ rest) = (decodeHex rest).map (b :: ·) := by
  have hlt : b.toNat < 16 * 16 := b.toNat_lt
  have hhi := hexDigitValue_hexDigit (Nat.div_lt_of_lt_mul hlt)
  have hlo := hexDigitValue_hexDigit (Nat.mod_lt b.toNat (by decide : 16 > 0))
  -- the two digits give back the byte
  have hbyte : UInt8.ofNat (16 * (b.toNat / 16) + b.toNat % 16) = b := by
    rw [Nat.div_add_mod, UInt8.ofNat_toNat]
  simp only [hexByte, List.cons_append, List.nil_append, decodeHex, hhi, hlo, hbyte,
    Option.bind_eq_bind, Option.bind_some]
  cases decodeHex rest <;> rfl

/-- Bytes written in hexadecimal read back. -/
theorem decodeHex_flatMap_hexByte (bs : List UInt8) : decodeHex (bs.flatMap hexByte) = some bs := by
  induction bs with
  | nil => rfl
  | cons b bs ih => rw [List.flatMap_cons, decodeHex_hexByte_append, ih, Option.map_some]

end Text
