import AgentControl.SubAgent.RemoteConfigParser
import AgentControl.Opamp.Validators

/-!
# What the deny list reads, and what is applied

A sub-agent's `AgentRemoteConfigParser` runs its validators on the message and
then extracts the values it applies. The two select entries of the configuration
map separately, by key prefix:

* `RegexValidator::validate` reads the `agentConfig*` entries
  (`agent_configs_iter`);
* `extract_remote_config_values` merges those, and then the one
  `override.agentConfig*` entry, which the first prefix does not select.

So an `exec:` field in the override entry reaches the applied values without any
rule having looked at it: `override_exec_passes_deny_list`.

The rules read text, not YAML. The `exec` rule catches the key written plainly, with white
space before its colon, but YAML has other spellings of the same key: quoted, or with an escape in a double-quoted key. Those pass the deny list, and
the values applied hold the key (`quoted_exec_key_passes_deny_list`).
-/

namespace AgentControl

open Regex

/-! ### An override the deny list does not read -/

/-- A message whose only entry is an override with an `exec:` field. -/
def execOverrideMessage : OpampRemoteConfig where
  hash := "o".toList
  state := .applying
  signatures := none
  configMap := AList.singleton "override.agentConfig".toList "exec: /bin/sh".toList

/-- YAML parsing of the message's one text, as `serde_saphyr` parses it. -/
def execOverrideYaml (text : List Char) : Except (List Char) (YAMLConfig (List Char)) :=
  if text = "exec: /bin/sh".toList then .ok ⟨AList.singleton "exec".toList "/bin/sh".toList⟩
  else .error "unsupported".toList

/-- A parser whose one validator is the deny list. -/
def denyListParser : AgentRemoteConfigParser (SupportedRemoteConfigValidator Unit) :=
  ⟨[.regex RegexValidator.default]⟩

/-- For the infrastructure agent the override entry matches the `exec` rule, and the message
still parses into values that hold its `exec` field. -/
theorem override_exec_passes_deny_list :
    regexExecField.isMatch "exec: /bin/sh".toList = true ∧
    ("override.agentConfig".toList, "exec: /bin/sh".toList) ∈ execOverrideMessage.configsIter ∧
    (denyListParser.parse (fun validator name c => validator.validate (fun _ _ _ _ => .ok ()) name c)
        execOverrideYaml agentTypeNameInfraAgent execOverrideMessage).map
      (fun r => r.map fun rc => rc.config.map.lookup "exec".toList) =
      .ok (some (some "/bin/sh".toList)) := by
  decide

/-! ### Keys the rules do not spell -/

/-- A message whose only entry quotes its `exec` key. -/
def quotedExecMessage : OpampRemoteConfig where
  hash := "q".toList
  state := .applying
  signatures := none
  configMap := AList.singleton "agentConfig".toList "\"exec\": /bin/sh".toList

/-- YAML parsing of the message's one text: a double-quoted key is the key between the
quotes. -/
def quotedExecYaml (text : List Char) : Except (List Char) (YAMLConfig (List Char)) :=
  if text = "\"exec\": /bin/sh".toList then .ok ⟨AList.singleton "exec".toList "/bin/sh".toList⟩
  else .error "unsupported".toList

/-- YAML spells a key in ways the rules do not read. A double-quoted or single-quoted key puts
its closing quote between the word and the colon, where the `exec` rule wants white space only,
and `\u0065` is an escape the rule does not list. The infrastructure agent's deny list passes all
three spellings of an `exec` key, and its parser accepts a message with the first and applies
values that hold the `exec` field. -/
theorem quoted_exec_key_passes_deny_list :
    RegexValidator.default.validateRegexRules agentTypeNameInfraAgent
        "\"exec\": /bin/sh".toList = .ok () ∧
      RegexValidator.default.validateRegexRules agentTypeNameInfraAgent
        "\x27exec\x27: /bin/sh".toList = .ok () ∧
      RegexValidator.default.validateRegexRules agentTypeNameInfraAgent
        "\"\\u0065xec\": /bin/sh".toList = .ok () ∧
      (denyListParser.parse
          (fun validator name c => validator.validate (fun _ _ _ _ => .ok ()) name c)
          quotedExecYaml agentTypeNameInfraAgent quotedExecMessage).map
        (fun r => r.map fun rc => rc.config.map.lookup "exec".toList) =
        .ok (some (some "/bin/sh".toList)) := by
  decide

end AgentControl
