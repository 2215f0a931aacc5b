import AgentControl.AgentType.Variables
import AgentControl.Lib.Regex
import AgentControl.Lib.Except
import AgentControl.Lib.Text

/-!
# Rendering templates

A template string holds placeholders `${nr-var:name|indent 2}`: a namespaced
variable name, then pipe functions. `template_string` finds the placeholders of
the string with `TEMPLATE_RE`, renders each one (the variable's final value, then
its functions), and puts the result in with `str::replace`.

The replacement is made in the text rendered so far, not in the original one, and
`replace` rewrites every occurrence of the placeholder's text there, including one
that an earlier value brought in. `substituteOnce` is the single-pass substitution
the loop is meant to compute (each match of the original string replaced by its
own value, nothing rescanned); `template_string_rescans_values` shows that the two
differ as soon as a value holds the text of a later placeholder, and that the
result then depends on the order of the placeholders.

A YAML string value of an agent type is templated by `template_yaml_value_string`. When the
string is exactly one placeholder (`only_template_var_re`), the variable is looked up under the
text between `${` and `}` (`template_trim`), and its value keeps its type; otherwise the string
is templated by `template_string`. The pattern of one placeholder admits functions after the
name, but `template_trim` leaves them in the name: `templateYamlValueString_misses_piped_var`
shows that such a placeholder is looked up under its name and its functions, where
`template_string` renders the variable of the name (`templateString_placeholder`).

The two patterns are searched with `Regex.findIter`, which takes the longest match
at each start. The regex crate takes the first match in its order of preference;
for these patterns that is the longest one, since every repetition in them is
greedy over a class that the next part of the pattern cannot read.
-/

namespace AgentControl

open Regex Regex.Re

/-! ### The patterns -/

/-- `[a-z]` -/
def isAsciiLower (c : Char) : Bool := 'a' ≤ c && c ≤ 'z'

/-- `[a-zA-Z]` -/
def isAsciiAlpha (c : Char) : Bool := isAsciiLower c || ('A' ≤ c && c ≤ 'Z')

/-- `[a-zA-Z0-9\.\-_/:]`, the characters of a variable name. -/
def isVarChar (c : Char) : Bool :=
  isAsciiAlpha c || ('0' ≤ c && c ≤ '9') || c == '.' || c == '-' || c == '_' || c == '/' ||
    c == ':'

/-- The first group of `TEMPLATE_RE`: `nr-[a-z]+:[a-zA-Z0-9\.\-_/:]+`. -/
def templateVarRe : Re Char :=
  seq (str "nr-".toList) (seq (plus (cls isAsciiLower)) (seq (lit ':') (plus (cls isVarChar))))

/-- One pipe function of `TEMPLATE_RE`: `\s*\|\s*[a-zA-Z]+\s*\d*`. -/
def templatePipeRe : Re Char :=
  seq (star (cls isSpace)) (seq (lit '|') (seq (star (cls isSpace))
    (seq (plus (cls isAsciiAlpha)) (seq (star (cls isSpace)) (star (cls isDigit))))))

/-- Models `TEMPLATE_RE`. -/
def templateRe : Re Char :=
  seq (str "$\x7b".toList) (seq templateVarRe (seq (star templatePipeRe) (lit '\x7d')))

/-- Models `TEMPLATE_PIPE_FUNCTIONS`, `\\s*|\s*[a-zA-Z]+\s*\d*`: a backslash and `s`s, or a
function name and its number. -/
def templatePipeFunctionsRe : Re Char :=
  alt (seq (lit '\\') (star (lit 's')))
    (seq (star (cls isSpace)) (seq (plus (cls isAsciiAlpha)) (seq (star (cls isSpace))
      (star (cls isDigit)))))

/-- A match of `TEMPLATE_RE` with its groups, as `captures.extract()` gives them. -/
structure Captures where
  placeholder : List Char
  var : List Char
  functions : List Char
  deriving DecidableEq, Repr

/-- The groups of a match: after `${`, the variable name is the run of name characters, and
the functions are the rest before the closing `}`. -/
def Captures.ofMatch (m : List Char) : Captures :=
  let body := m.drop 2
  ⟨m, body.takeWhile isVarChar, (body.dropWhile isVarChar).dropLast⟩

/-- Models `captures_iter` of `TEMPLATE_RE`. -/
def templateCaptures (s : List Char) : List Captures := (findIter templateRe s).map Captures.ofMatch

example : templateCaptures "a $\x7bnr-var:x|indent 2\x7d b $\x7bnr-sub:y\x7d".toList =
    [⟨"$\x7bnr-var:x|indent 2\x7d".toList, "nr-var:x".toList, "|indent 2".toList⟩,
      ⟨"$\x7bnr-sub:y\x7d".toList, "nr-sub:y".toList, []⟩] := by
  decide

/-! ### Pipe functions -/

/-- Models `FunctionError`. -/
inductive FunctionError where
  | applying (message : List Char)
  | parsing (message : List Char)
  | unknownFunctionName (name : List Char)
  deriving DecidableEq, Repr

/-- Models `Display for FunctionError`. -/
def FunctionError.toString : FunctionError → List Char
  | .applying m => "applying function: ".toList ++ m
  | .parsing m => "parsing function: ".toList ++ m
  | .unknownFunctionName m => "not supported function: ".toList ++ m

/-- Models `INDENT_FUNCTION_NAME`. -/
def indentFunctionName : List Char := "indent".toList

/-- Models `Indent`. -/
structure Indent where
  spaces : Fin 256
  deriving DecidableEq, Repr

/-- Models `Indent::apply`: every newline is followed by the spaces. -/
def Indent.apply (i : Indent) (value : List Char) : Except FunctionError (List Char) :=
  .ok (Text.replace value ['\n'] ('\n' :: List.replicate i.spaces ' '))

/-- Models `Indent::parse`. -/
def Indent.parse (value : List Char) : Except FunctionError Indent :=
  let trimmedValue := (Text.trimBy isSpace value).map Text.asciiLower
  match Text.stripPrefix trimmedValue indentFunctionName with
  | none => .error (.unknownFunctionName value)
  | some nParameter =>
    match Text.parseU8 (Text.trimBy isSpace nParameter) with
    | some n => .ok ⟨n⟩
    | none => .error (.parsing ("parsing space number parameter: ".toList ++ value))

/-- Models `SupportedFunction`. -/
inductive SupportedFunction where
  | indent (i : Indent)
  deriving DecidableEq, Repr

/-- Models `Function for SupportedFunction`. -/
def SupportedFunction.apply : SupportedFunction → List Char → Except FunctionError (List Char)
  | .indent i, value => i.apply value

/-- Models `SupportedFunction::parse`. -/
def SupportedFunction.parse (value : List Char) : Except FunctionError SupportedFunction :=
  .indent <$> Indent.parse value

/-- Models `SupportedFunction::parse_function_list`. -/
def SupportedFunction.parseFunctionList (functionsStr : List Char) :
    Except FunctionError (List SupportedFunction) :=
  (findIter templatePipeFunctionsRe functionsStr).mapM fun m =>
    SupportedFunction.parse (m.dropWhile (· == '|'))

example : SupportedFunction.parseFunctionList "| indent0|indent 2|InDeNt3 | ".toList =
    .ok [.indent ⟨0⟩, .indent ⟨2⟩, .indent ⟨3⟩] := by
  decide

/-! ### `template_string` -/

section Render

variable {ν : Type} (printer : YamlPrinter ν) (vars : Variables ν)

/-- Models `normalized_var`. -/
def normalizedVar (name : List Char) : Except AgentTypeError (Variable ν) :=
  match vars.lookup name with
  | some v => .ok v
  | none => .error (.missingTemplateKey name)

/-- The body of the loop of `template_string` up to the replacement: the variable's final
value, printed, with the functions applied in turn. -/
def renderCaptures (c : Captures) : Except AgentTypeError (List Char) := do
  let normalizedVar ← normalizedVar vars c.var
  let value ← match normalizedVar.getFinalValue with
    | some v => pure (v.toString printer)
    | none => throw (.missingTemplateKey c.placeholder)
  let functions ← (SupportedFunction.parseFunctionList c.functions).mapError fun e =>
    .renderingTemplate e.toString
  functions.foldlM (fun acc m => (m.apply acc).mapError fun e => .renderingTemplate e.toString) value

/-- Models `template_string`: each placeholder is replaced in the text rendered so far. -/
def templateString (s : List Char) : Except AgentTypeError (List Char) :=
  (templateCaptures s).foldlM (fun renderResult c => do
    let finalValue ← renderCaptures printer vars c
    pure (Text.replace renderResult c.placeholder finalValue)) s

/-- Single-pass substitution, the specification of `template_string`: every match of the
original string is replaced by its own rendered value, and the rest is kept. -/
def substituteOnce (s : List Char) : Except AgentTypeError (List Char) := do
  let rendered ← (pieces templateRe 0 s).mapM fun
    | .inl c => pure [c]
    | .inr m => renderCaptures printer vars (Captures.ofMatch m)
  pure rendered.flatten

end Render

/-! ### A value holding another placeholder -/

/-- Variables whose `a` holds the text of the placeholder of `b`. -/
def nestedVars : Variables Unit :=
  (AList.singleton "nr-var:a".toList (Variable.newFinalStringVariable "$\x7bnr-var:b\x7d".toList)).insert
    "nr-var:b".toList (Variable.newFinalStringVariable "X".toList)

/-- Printing of YAML values, which these variables do not hold. -/
def noYaml : YamlPrinter Unit := ⟨fun _ => [], fun _ => []⟩

/-- When `a` comes first, the text its value brings in is replaced again by `b`'s value; a
single pass keeps it. When `b` comes first, it is kept. -/
theorem template_string_rescans_values :
    templateString noYaml nestedVars "$\x7bnr-var:a\x7d$\x7bnr-var:b\x7d".toList =
      .ok "XX".toList ∧
    substituteOnce noYaml nestedVars "$\x7bnr-var:a\x7d$\x7bnr-var:b\x7d".toList =
      .ok "$\x7bnr-var:b\x7dX".toList ∧
    templateString noYaml nestedVars "$\x7bnr-var:b\x7d$\x7bnr-var:a\x7d".toList =
      .ok "X$\x7bnr-var:b\x7d".toList := by
  decide

/-! ### Templating a YAML string value -/

/-- `TEMPLATE_BEGIN`. -/
def templateBegin : List Char := "$\x7b".toList

/-- `TEMPLATE_END`. -/
def templateEnd : Char := '\x7d'

/-- Models `only_template_var_re().is_match`: `TEMPLATE_RE` anchored at both ends. -/
def onlyTemplateVar (s : List Char) : Bool := templateRe.fullMatch s

/-- Models `template_trim`: every `${` in front, then every `}` at the end, is removed. -/
def templateTrim (s : List Char) : List Char :=
  (Text.trimStartMatches s templateBegin).rdropWhile (· == templateEnd)

/-- What `template_yaml_value_string` reads of `serde_json::Value` and `serde_saphyr`: the value
`Value::String` of a text, and `serde_saphyr::from_str`, its error by message. -/
structure YamlValues (ν : Type) where
  string : List Char → ν
  fromStr : List Char → Except (List Char) ν

section Typed

variable {ν : Type} (printer : YamlPrinter ν) (yaml : YamlValues ν) (vars : Variables ν)

/-- Models `template_yaml_value_string`. -/
def templateYamlValueString (s : List Char) : Except AgentTypeError ν :=
  -- more than one placeholder is templated as a string
  if !onlyTemplateVar s then yaml.string <$> templateString printer vars s
  else do
    let varName := templateTrim s
    let varSpec ← normalizedVar vars varName
    let varValue ← match varSpec.getFinalValue with
      | some v => pure v
      | none => throw (.missingValue varName)
    match varSpec.variableType with
    | .yaml _ =>
      match varValue.toYamlValue with
      | some v => pure v
      | none => throw (.unexpectedValueForKey varName (varValue.toString printer))
    | .bool _ | .number _ => (yaml.fromStr (varValue.toString printer)).mapError .serialization
    | _ => pure (yaml.string (varValue.toString printer))

end Typed

/-! ### One placeholder -/

theorem isVarChar_of_isSpace {c : Char} (h : isSpace c = true) : isVarChar c = false := by
  simp only [isSpace, Bool.or_eq_true, Bool.and_eq_true, decide_eq_true_eq, beq_iff_eq] at h
  simp only [isVarChar, isAsciiAlpha, isAsciiLower, Bool.or_eq_false_iff, Bool.and_eq_false_iff,
    decide_eq_false_iff_not, beq_eq_false_iff_ne, ne_eq, Char.le_def, UInt32.le_iff_toNat_le,
    Char.ext_iff, ← UInt32.toNat_inj]
  simp only [Char.toNat_val, Char.reduceToNat]
  omega

/-- A variable name starts with the `n` of its namespace. -/
theorem eq_cons_of_mem_templateVarRe {var : List Char} (hvar : var ∈ templateVarRe.lang) :
    ∃ rest, var = 'n' :: rest := by
  obtain ⟨x, hx, y, -, rfl⟩ := Language.mem_mul.mp hvar
  rw [mem_lang_str.mp hx]
  exact ⟨_, rfl⟩

theorem templateVarRe_within : Within (fun c => isVarChar c = true) templateVarRe := by
  have hlower : ∀ a, isAsciiLower a = true → isVarChar a = true := fun a ha => by
    simp [isVarChar, isAsciiAlpha, ha]
  simp only [templateVarRe, lit, plus, Within]
  -- the literal is decided through `List.all`: a decision over all characters is far too big
  refine ⟨within_str (List.all_eq_true.mp (by decide)), ⟨hlower, hlower⟩, fun a ha => ?_,
    fun _ h => h, fun _ h => h⟩
  rw [of_decide_eq_true ha]
  rfl

theorem templatePipes_avoids : Avoids templateEnd (star templatePipeRe) := by
  simp only [templatePipeRe, lit, plus, Avoids]
  decide

/-- A placeholder's name and functions do not hold its closing brace. -/
theorem templateEnd_not_mem {var fns : List Char} (hvar : var ∈ templateVarRe.lang)
    (hfns : fns ∈ (star templatePipeRe).lang) : templateEnd ∉ var ++ fns := by
  rw [List.mem_append, not_or]
  refine ⟨fun h => ?_, not_mem_of_avoids templatePipes_avoids hfns⟩
  have hend := forall_mem_of_within templateVarRe_within hvar templateEnd h
  exact absurd hend (by decide)

/-- What follows a variable name in a placeholder starts with a character that is not a name
character: a space or the `|` of a function, or the closing brace. -/
theorem head_of_mem_templatePipes {fns : List Char} (hfns : fns ∈ (star templatePipeRe).lang) :
    ∃ c rest, fns ++ [templateEnd] = c :: rest ∧ isVarChar c = false := by
  by_cases hne : fns = []
  · subst hne
    exact ⟨templateEnd, [], rfl, by decide⟩
  · obtain ⟨a, b, -, ha, -, rfl⟩ := mem_kstar_cons hfns hne
    -- a function is spaces, then `|`
    obtain ⟨u, hu, v, hv, rfl⟩ := Language.mem_mul.mp ha
    obtain ⟨x, ⟨bar, rfl, hbar⟩, y, -, rfl⟩ := Language.mem_mul.mp hv
    cases u with
    | nil =>
      refine ⟨bar, _, rfl, ?_⟩
      rw [of_decide_eq_true hbar]
      rfl
    | cons c u =>
      have hspaces : Within (fun c => isSpace c = true) (star (cls isSpace)) := fun _ h => h
      have hc := forall_mem_of_within hspaces hu c List.mem_cons_self
      exact ⟨c, _, rfl, isVarChar_of_isSpace hc⟩

section Placeholder

variable {var fns : List Char} (hvar : var ∈ templateVarRe.lang)
  (hfns : fns ∈ (star templatePipeRe).lang)
include hvar hfns

theorem templateTrim_placeholder :
    templateTrim (templateBegin ++ var ++ fns ++ [templateEnd]) = var ++ fns := by
  have hend := templateEnd_not_mem hvar hfns
  obtain ⟨rest, hrest⟩ := eq_cons_of_mem_templateVarRe hvar
  -- the name starts with `n`, so one `${` is removed
  have hbegin : ¬ templateBegin <+: var ++ fns ++ [templateEnd] := by
    simp [hrest, templateBegin]
  rw [templateTrim, List.append_assoc, List.append_assoc, ← List.append_assoc var,
    Text.trimStartMatches_append (by decide) hbegin,
    List.rdropWhile_concat_pos (· == templateEnd) (var ++ fns) templateEnd
      (beq_self_eq_true templateEnd), List.rdropWhile_eq_self_iff]
  intro hl hlast
  exact hend (eq_of_beq hlast ▸ List.getLast_mem hl)

theorem onlyTemplateVar_placeholder :
    onlyTemplateVar (templateBegin ++ var ++ fns ++ [templateEnd]) = true := by
  rw [onlyTemplateVar, fullMatch_iff, List.append_assoc, List.append_assoc]
  exact Language.mem_mul.mpr ⟨templateBegin, mem_lang_str.mpr rfl, _,
    Language.mem_mul.mpr ⟨var, hvar, _,
      Language.mem_mul.mpr ⟨fns, hfns, [templateEnd],
        ⟨templateEnd, rfl, decide_eq_true rfl⟩, rfl⟩,
      rfl⟩, rfl⟩

/-- `captures_iter` finds the placeholder, with its name and its functions. -/
theorem templateCaptures_placeholder :
    templateCaptures (templateBegin ++ var ++ fns ++ [templateEnd]) =
      [⟨templateBegin ++ var ++ fns ++ [templateEnd], var, fns⟩] := by
  obtain ⟨c, rest, hc, hcvar⟩ := head_of_mem_templatePipes hfns
  have hall := forall_mem_of_within templateVarRe_within hvar
  have hbody : (templateBegin ++ var ++ fns ++ [templateEnd]).drop 2 = var ++ c :: rest := by
    rw [List.append_assoc, List.append_assoc, ← hc]
    rfl
  have hstop : ¬ isVarChar c = true := by simp [hcvar]
  rw [templateCaptures, findIter_of_fullMatch (onlyTemplateVar_placeholder hvar hfns) (by simp),
    List.map_singleton, Captures.ofMatch]
  -- the name is the run of name characters, the functions what is left before the brace
  simp only [hbody, List.takeWhile_append_of_pos hall, List.dropWhile_append_of_pos hall,
    List.takeWhile_cons_of_neg hstop, List.dropWhile_cons_of_neg hstop, List.append_nil]
  rw [← hc, List.dropLast_concat]

/-- On one placeholder, `template_string` renders it, functions and all. -/
theorem templateString_placeholder {ν : Type} (printer : YamlPrinter ν) (vars : Variables ν) :
    templateString printer vars (templateBegin ++ var ++ fns ++ [templateEnd]) =
      renderCaptures printer vars ⟨templateBegin ++ var ++ fns ++ [templateEnd], var, fns⟩ := by
  have hne : templateBegin ++ var ++ fns ++ [templateEnd] ≠ [] := by simp
  rw [templateString, templateCaptures_placeholder hvar hfns]
  simp only [List.foldlM_cons, List.foldlM_nil, Text.replace_self hne, bind_pure]

end Placeholder

section TypedPlaceholder

variable {ν : Type} (printer : YamlPrinter ν) (yaml : YamlValues ν) (vars : Variables ν)

/-- On one placeholder with functions, the typed path looks the variable up under the whole text
between the braces, functions included, while `template_string` renders the variable the name
reads and applies the functions. Without a variable of that longer name, the typed path fails. -/
theorem templateYamlValueString_misses_piped_var {var fns : List Char}
    (hvar : var ∈ templateVarRe.lang) (hfns : fns ∈ (star templatePipeRe).lang)
    (hmissing : vars.lookup (var ++ fns) = none) :
    templateString printer vars (templateBegin ++ var ++ fns ++ [templateEnd]) =
        renderCaptures printer vars ⟨templateBegin ++ var ++ fns ++ [templateEnd], var, fns⟩ ∧
      templateYamlValueString printer yaml vars (templateBegin ++ var ++ fns ++ [templateEnd]) =
        .error (.missingTemplateKey (var ++ fns)) := by
  refine ⟨templateString_placeholder hvar hfns printer vars, ?_⟩
  rw [templateYamlValueString, onlyTemplateVar_placeholder hvar hfns,
    templateTrim_placeholder hvar hfns]
  simp [normalizedVar, hmissing]

end TypedPlaceholder

/-- A string variable `x` whose value is `a`. -/
def pipedVars : Variables Unit :=
  AList.singleton "nr-var:x".toList (Variable.newFinalStringVariable "a".toList)

/-- YAML values that these variables do not hold. -/
def unitYaml : YamlValues Unit := ⟨fun _ => (), fun _ => .ok ()⟩

theorem templateYamlValueString_misses_piped_var_at_indent :
    renderCaptures noYaml pipedVars
        ⟨templateBegin ++ "nr-var:x".toList ++ "|indent 2".toList ++ [templateEnd],
          "nr-var:x".toList, "|indent 2".toList⟩ = .ok "a".toList ∧
      (templateString noYaml pipedVars
          (templateBegin ++ "nr-var:x".toList ++ "|indent 2".toList ++ [templateEnd]) =
        renderCaptures noYaml pipedVars
          ⟨templateBegin ++ "nr-var:x".toList ++ "|indent 2".toList ++ [templateEnd],
            "nr-var:x".toList, "|indent 2".toList⟩ ∧
      templateYamlValueString noYaml unitYaml pipedVars
          (templateBegin ++ "nr-var:x".toList ++ "|indent 2".toList ++ [templateEnd]) =
        .error (.missingTemplateKey ("nr-var:x".toList ++ "|indent 2".toList))) :=
  ⟨by decide, templateYamlValueString_misses_piped_var noYaml unitYaml pipedVars
    ((fullMatch_iff _ _).mp (by decide)) ((fullMatch_iff _ _).mp (by decide)) (by decide)⟩

end AgentControl
