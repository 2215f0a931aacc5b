import AgentControl.Lib.Path
import AgentControl.Lib.Text

/-!
# Packages and the package manager

The data a package manager works on (`package/manager.rs`, with the rendered package types of
`agent_type/runtime_config/on_host/package/rendered.rs`): which package to install for which
agent, and where an installed package lives. A repository and a version are accepted by their
`FromStr` validators, which follow the OCI distribution spec's rules (`Repository.fromStr`,
`Version.fromStr`).
-/

namespace AgentControl

/-- `AGENT_CONTROL_ID`. -/
def agentControlId : List Char := "agent-control".toList

/-- Models `AgentID`. -/
inductive AgentID where
  | agentControl
  | subAgent (id : List Char)
  deriving DecidableEq, Repr

/-- Models `AgentID::as_str`. -/
def AgentID.asStr : AgentID → List Char
  | .agentControl => agentControlId
  | .subAgent id => id

/-- Models `Repository`, by its text. -/
structure Repository where
  text : List Char
  deriving DecidableEq, Repr

/-- Models `Version`, by its text, which is also what it displays. -/
structure Version where
  text : List Char
  deriving DecidableEq, Repr

/-- `REPOSITORY_TOTAL_LENGTH_MAX`. -/
def repositoryTotalLengthMax : Nat := 255

/-- `TAG_TOTAL_LENGTH_MAX`. -/
def tagTotalLengthMax : Nat := 128

/-- Models `InvalidRepository`, by its message. -/
structure InvalidRepository where
  message : List Char
  deriving DecidableEq, Repr

/-- Models `validate_repository_char`. -/
def validateRepositoryChar (c : Char) : Except InvalidRepository Unit :=
  if c.isUpper then .error ⟨"repository name contains uppercase character".toList⟩
  else if !c.isAlphanum ∧ c ≠ '.' ∧ c ≠ '_' ∧ c ≠ '-' then
    .error ⟨"repository name contains invalid character".toList⟩
  else .ok ()

/-- Models `Repository::from_str`. -/
def Repository.fromStr (s : List Char) : Except InvalidRepository Repository := do
  if s.isEmpty then throw ⟨"repository name cannot be empty".toList⟩
  if Text.utf8Len s > repositoryTotalLengthMax then throw ⟨"repository name too long".toList⟩
  -- every path component holds only `[a-z0-9._-]`
  (s.splitOn '/').forM fun component => do
    if component.isEmpty then throw ⟨"repository name contains empty component".toList⟩
    component.forM validateRepositoryChar
  return ⟨s⟩

/-- Models `InvalidVersion`, by its message. -/
structure InvalidVersion where
  message : List Char
  deriving DecidableEq, Repr

/-- Models `validate_version_tag_char`. -/
def validateVersionTagChar (c : Char) : Except InvalidVersion Unit :=
  if !c.isAlphanum ∧ c ≠ '.' ∧ c ≠ '_' ∧ c ≠ '-' then
    .error ⟨"version tag contains invalid character".toList⟩
  else .ok ()

/-- Models `validate_digest`: `<algorithm>:<hex>`, the hex of the algorithm's length. -/
def validateDigest (digest : List Char) : Except InvalidVersion Unit :=
  match Text.splitOnce ':' digest with
  | some (algorithm, hex) =>
    let length :=
      if algorithm = "sha256".toList then some 64
      else if algorithm = "sha384".toList then some 96
      else if algorithm = "sha512".toList then some 128
      else none
    match length with
    | some length =>
      if Text.utf8Len hex = length then .ok () else .error ⟨"digest has invalid length".toList⟩
    | none => .error ⟨"digest algorithm unsupported".toList⟩
  | none => .error ⟨"digest has invalid format".toList⟩

/-- Models `Version::from_str`: a tag, a digest, or `tag@digest`. The source asks `contains('@')`
and then splits at the first `@`; the split alone answers both. -/
def Version.fromStr (s : List Char) : Except InvalidVersion Version := do
  if s.isEmpty then throw ⟨"version cannot be empty".toList⟩
  if s.getLast? = some '@' then throw ⟨"version cannot end with '@'".toList⟩
  match Text.splitOnce '@' s with
  | some (tag, digest) =>
    if !tag.isEmpty then
      if Text.utf8Len tag > tagTotalLengthMax then throw ⟨"version tag too long".toList⟩
      tag.forM validateVersionTagChar
    validateDigest digest
  | none =>
    if Text.utf8Len s > tagTotalLengthMax then throw ⟨"version tag too long".toList⟩
    s.forM validateVersionTagChar
  return ⟨s⟩

example : Repository.fromStr "newrelic/infra-agent_2.x".toList =
    .ok ⟨"newrelic/infra-agent_2.x".toList⟩ := by decide

example : Repository.fromStr "newrelic//agent".toList =
    .error ⟨"repository name contains empty component".toList⟩ := by decide

/-- Models `Oci`; the public key's URL by its text. -/
structure Oci where
  repository : Repository
  version : Version
  publicKeyUrl : Option (List Char)
  deriving DecidableEq, Repr

/-- Models `PostDownloadHook`. -/
structure PostDownloadHook where
  path : List Char
  args : List (List Char)
  env : List (List Char × List Char)
  deriving DecidableEq, Repr

/-- Models `PackageData`. -/
structure PackageData where
  id : List Char
  oci : Oci
  postDownloadHook : Option PostDownloadHook
  deriving DecidableEq, Repr

/-- Models `InstalledPackageData`. -/
structure InstalledPackageData where
  id : List Char
  installationPath : PathBuf
  deriving DecidableEq

end AgentControl
