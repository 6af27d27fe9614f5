/-
API capabilities and the roles that bound them (`identity/apiCredentials.ts`).

* `apiCapabilities`: every capability, `API_CAPABILITIES`.
* `serviceAccountRoleAllowsCapabilities role capabilities`: a service account with that role may hold
  credentials with these capabilities.
-/

import Mathlib.Data.List.Basic

namespace FuseControlPlane.Identity

/-- What a credential may be used for. -/
inductive ApiCapability
  | inferenceInvoke | mandatesRead | mandatesWrite | receiptsRead | credentialsIssue
  | credentialsRevoke | agentsWrite | policiesRead | policiesWrite | mandatesAdmin
  | providersRead | providersWrite | sandboxRun
  deriving DecidableEq

/-- All capabilities, in the order of the source. -/
def apiCapabilities : List ApiCapability :=
  [.inferenceInvoke, .mandatesRead, .mandatesWrite, .receiptsRead, .credentialsIssue,
    .credentialsRevoke, .agentsWrite, .policiesRead, .policiesWrite, .mandatesAdmin,
    .providersRead, .providersWrite, .sandboxRun]

/-- The role of a service account. -/
inductive ServiceAccountRole
  | admin | operator | viewer
  deriving DecidableEq

/-- The capabilities a role may carry, `SERVICE_ACCOUNT_ROLE_CAPABILITIES`. -/
def serviceAccountRoleCapabilities : ServiceAccountRole → List ApiCapability
  | .admin => apiCapabilities
  | .operator =>
    [.inferenceInvoke, .mandatesRead, .mandatesWrite, .receiptsRead, .policiesRead,
      .providersRead, .sandboxRun]
  | .viewer => [.mandatesRead, .receiptsRead, .policiesRead, .providersRead]

/-- Every capability is one the role may carry. -/
def serviceAccountRoleAllowsCapabilities (role : ServiceAccountRole)
    (capabilities : List ApiCapability) : Bool :=
  capabilities.all fun capability => (serviceAccountRoleCapabilities role).contains capability

end FuseControlPlane.Identity
