import AgentControl.Lib.Except
import AgentControl.Lib.Regex
import AgentControl.Opamp.RemoteConfig

/-!
# The remote-config validators

Two validators stand between a received `OpampRemoteConfig` and everything that
acts on it.

**The signature validator** walks *every* entry of the configuration map and
requires a signature for it that verifies over the entry's text. A validator
built with validation disabled has no key store and accepts everything. The key
store itself (`VerifierStore`: base64 decoding, fetching the current key,
checking the digest) is a parameter `verifySignature`; all the validator decides
is *which* entries are checked, and `SignatureValidator.validate_eq_ok` says: all
of them.

**The regex validator** walks only the `agentConfig*` entries and rejects the
first one that one of the deny-list patterns of its agent type matches. The only
agent type with rules is the infrastructure agent, with five patterns written
here as `Re Char` values, one constructor per regex construct.

A caller sees either through `SupportedRemoteConfigValidator`, which turns the
error into its display text.
-/

namespace AgentControl

open Regex

/-! ## Signatures -/

/-- Models `SignatureValidatorError::VerifySignature(message)` -/
inductive SignatureValidatorError where
  | verifySignature (message : List Char)
  deriving DecidableEq, Repr

/-- The `Display` text of a `SignatureValidatorError`. -/
def SignatureValidatorError.toText : SignatureValidatorError → List Char
  | verifySignature message => "failed to verify signature: ".toList ++ message

/-- Models `SignatureValidator`: no key store for the no-op validator. -/
structure SignatureValidator (κ : Type) where
  publicKeyStore : Option κ

section Signature

variable {κ : Type}
  (verifySignature : κ → List Char → List Char → List Char → Except (List Char) Unit)

/-- Models `SignatureValidator::validate`. `verifySignature store keyId content signature` is
`VerifierStore::verify_signature` with its error text. -/
def SignatureValidator.validate (v : SignatureValidator κ) (c : OpampRemoteConfig) :
    Except SignatureValidatorError Unit :=
  match v.publicKeyStore with
  | none => .ok ()
  | some publicKeyStore =>
    c.configsIter.forM fun (configName, configContent) => do
      let signature ← (c.signature configName).mapError fun e =>
        .verifySignature ("getting signature for config '".toList ++ configName ++
          "' config signature: ".toList ++ e.toText)
      (verifySignature publicKeyStore signature.keyId configContent signature.signature).mapError
        fun e => .verifySignature
          ("verifying signature for config '".toList ++ configName ++ "': ".toList ++ e)

/-- Every entry of the map carries a signature that verifies over the entry's text. -/
def EntriesVerified (store : κ) (c : OpampRemoteConfig) : Prop :=
  ∀ kv ∈ c.configsIter, ∃ s, c.signature kv.1 = .ok s ∧
    verifySignature store s.keyId kv.2 s.signature = .ok ()

variable {verifySignature}

/-- What an enabled signature validator accepts: exactly the configurations whose
every entry is signed. -/
theorem SignatureValidator.validate_eq_ok {v : SignatureValidator κ} {store : κ}
    (hs : v.publicKeyStore = some store) (c : OpampRemoteConfig) :
    v.validate verifySignature c = .ok () ↔ EntriesVerified verifySignature store c := by
  unfold validate
  rw [hs, Except.forM_eq_ok]
  apply forall_congr'
  rintro ⟨configName, configContent⟩
  apply imp_congr_right
  intro _
  rw [Except.bind_eq_ok]
  constructor
  · rintro ⟨s, hs1, hs2⟩
    exact ⟨s, Except.mapError_eq_ok.mp hs1, Except.mapError_eq_ok.mp hs2⟩
  · rintro ⟨s, hs1, hs2⟩
    exact ⟨s, Except.mapError_eq_ok.mpr hs1, Except.mapError_eq_ok.mpr hs2⟩

end Signature

/-! ## The deny list -/

/-- A character, or the four characters of its escaped spelling `\xNN`. -/
def litOrEscape (a : Char) (escape : String) : Re Char :=
  .alt (.lit a) (.str escape.toList)

/-- A character matched without regard to ASCII case, as inside `(?i:…)`. -/
def litCI (a : Char) : Re Char := .cls fun b => b.toLower = a.toLower

/-- A word matched without regard to ASCII case. -/
def strCI : List Char → Re Char
  | [] => .eps
  | a :: w => .seq (litCI a) (strCI w)

/-- The same as `litOrEscape`, inside `(?i:…)`. -/
def litOrEscapeCI (a : Char) (escape : String) : Re Char :=
  .alt (litCI a) (strCI escape.toList)

/-- The concatenation of a list of expressions. -/
def seqs : List (Re Char) → Re Char
  | [] => .eps
  | r :: rs => .seq r (seqs rs)

/-- Models `REGEX_COMMAND_FIELD`: `(c|\\x63)(o|\\x6f)(m|\\x6d)(m|\\x6d)(a|\\x61)(n|\\x6e)(d|\\x64)\s*:` -/
def regexCommandField : Re Char :=
  seqs [litOrEscape 'c' "\\x63", litOrEscape 'o' "\\x6f", litOrEscape 'm' "\\x6d",
    litOrEscape 'm' "\\x6d", litOrEscape 'a' "\\x61", litOrEscape 'n' "\\x6e",
    litOrEscape 'd' "\\x64", .star (.cls isSpace), .lit ':']

/-- Models `REGEX_EXEC_FIELD`: `(e|\\x65)(x|\\x78)(e|\\x65)(c|\\x63)\s*:` -/
def regexExecField : Re Char :=
  seqs [litOrEscape 'e' "\\x65", litOrEscape 'x' "\\x78", litOrEscape 'e' "\\x65",
    litOrEscape 'c' "\\x63", .star (.cls isSpace), .lit ':']

/-- Models `REGEX_BINARY_PATH_FIELD`: `(?i:(b|\\x62)(i|\\x69)(n|\\x6e)(a|\\x61)(r|\\x72)(y|\\x79)(_|\x5f)`
`(p|\\x70)(a|\\x61)(t|\\x74)(h|\\x68))`. The `\x5f` without a doubled backslash is the
regex escape of `_` itself. -/
def regexBinaryPathField : Re Char :=
  seqs [litOrEscapeCI 'b' "\\x62", litOrEscapeCI 'i' "\\x69", litOrEscapeCI 'n' "\\x6e",
    litOrEscapeCI 'a' "\\x61", litOrEscapeCI 'r' "\\x72", litOrEscapeCI 'y' "\\x79",
    .alt (.lit '_') (.lit '_'), litOrEscapeCI 'p' "\\x70", litOrEscapeCI 'a' "\\x61",
    litOrEscapeCI 't' "\\x74", litOrEscapeCI 'h' "\\x68"]

/-- Models `REGEX_NRI_FLEX`: `(n|\\x6e)(r|\\x72)(i|\\x69)(\-|\\x2d)(f|\\x66)(l|\\x6c)(e|\\x65)(x|\\x78)` -/
def regexNriFlex : Re Char :=
  seqs [litOrEscape 'n' "\\x6e", litOrEscape 'r' "\\x72", litOrEscape 'i' "\\x69",
    litOrEscape '-' "\\x2d", litOrEscape 'f' "\\x66", litOrEscape 'l' "\\x6c",
    litOrEscape 'e' "\\x65", litOrEscape 'x' "\\x78"]

/-- Models `REGEX_PROXY_ENV_VAR`: a case-insensitive `proxy`, `\s*:`, anything but a newline, then
an infra-agent (two opening braces) or Agent Control (`$`, brace, `nr-env:`) placeholder. -/
def regexProxyEnvVar : Re Char :=
  seqs [litOrEscapeCI 'p' "\\x70", litOrEscapeCI 'r' "\\x72", litOrEscapeCI 'o' "\\x6f",
    litOrEscapeCI 'x' "\\x78", litOrEscapeCI 'y' "\\x79", .star (.cls isSpace), .lit ':',
    .star (.cls fun c => c ≠ '\n'),
    .alt (seqs [.lit '\x7b', .lit '\x7b'])
      (seqs [.lit '$', .lit '\x7b', litOrEscape 'n' "\\x6e", litOrEscape 'r' "\\x72",
        litOrEscape '-' "\\x2d", litOrEscape 'e' "\\x65", litOrEscape 'n' "\\x6e",
        litOrEscape 'v' "\\x76", .lit ':'])]

/-- Models `AGENT_TYPE_NAME_INFRA_AGENT` -/
def agentTypeNameInfraAgent : List Char := "com.newrelic.infrastructure".toList

/-- The infrastructure agent's rules, with the names the errors report. -/
def infraAgentRules : List (List Char × Re Char) :=
  [("arbitrary command execution via 'command' field".toList, regexCommandField),
   ("arbitrary command execution via 'exec' field".toList, regexExecField),
   ("arbitrary command execution via 'binary_path' field".toList, regexBinaryPathField),
   ("'nri-flex' integration usage".toList, regexNriFlex),
   (("setting environment variables '$\x7bnr-env:HTTP_PROXY\x7d' or " ++
      "'\x7b\x7bPROXY_HOST\x7d\x7d' in proxy configuration").toList, regexProxyEnvVar)]

/-! ## The regex validator -/

/-- Models `RegexValidatorError::InvalidConfig(rule name)` -/
inductive RegexValidatorError where
  | invalidConfig (ruleName : List Char)
  deriving DecidableEq, Repr

/-- The `Display` text of a `RegexValidatorError`. -/
def RegexValidatorError.toText : RegexValidatorError → List Char
  | invalidConfig ruleName =>
    "invalid config: restricted values detected in the config: ".toList ++ ruleName ++
      " is not allowed".toList

/-- Models `RegexValidator`: the named deny patterns of each agent type name. -/
structure RegexValidator where
  rules : AList (fun _ : List Char => List (List Char × Re Char))

namespace RegexValidator

/-- Models `RegexValidator::default`: the infrastructure agent's five rules. -/
def default : RegexValidator := ⟨AList.singleton agentTypeNameInfraAgent infraAgentRules⟩

/-- Models `validate_regex_rules`: the first rule of the agent type that matches the text fails it. -/
def validateRegexRules (v : RegexValidator) (agentTypeName rawConfig : List Char) :
    Except RegexValidatorError Unit :=
  match v.rules.lookup agentTypeName with
  | none => .ok ()
  | some rules =>
    rules.forM fun (ruleName, regex) =>
      if regex.isMatch rawConfig then .error (.invalidConfig ruleName) else .ok ()

/-- Models `RegexValidator::validate`: the rules are checked on the `agentConfig*` entries. The
agent identity enters only through the name of its agent type. -/
def validate (v : RegexValidator) (agentTypeName : List Char) (c : OpampRemoteConfig) :
    Except RegexValidatorError Unit :=
  c.agentConfigsIter.forM fun (_, rawConfig) => v.validateRegexRules agentTypeName rawConfig

end RegexValidator

/-! ## Static dispatch -/

/-- Models `SupportedRemoteConfigValidator` -/
inductive SupportedRemoteConfigValidator (κ : Type) where
  | signature (v : SignatureValidator κ)
  | regex (v : RegexValidator)

/-- Models `SupportedRemoteConfigValidator::validate`: the error becomes its display text. -/
def SupportedRemoteConfigValidator.validate {κ : Type}
    (verifySignature : κ → List Char → List Char → List Char → Except (List Char) Unit) :
    SupportedRemoteConfigValidator κ → List Char → OpampRemoteConfig → Except (List Char) Unit
  | signature s, _, c => (s.validate verifySignature c).mapError SignatureValidatorError.toText
  | regex r, agentTypeName, c => (r.validate agentTypeName c).mapError RegexValidatorError.toText

end AgentControl
