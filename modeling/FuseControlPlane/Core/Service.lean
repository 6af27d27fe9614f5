/-
What is sent to a provider and what comes back (`core/service.ts`).
-/

import Mathlib.Data.Int.Notation

namespace FuseControlPlane.Core

/-- One message of a conversation. -/
structure Message where
  role : String
  content : String
  deriving DecidableEq

/-- The tokens a provider counted. -/
structure TokenUsage where
  inputTokens : ℤ
  outputTokens : ℤ
  deriving DecidableEq

/-- A provider's answer. -/
structure ProviderResult where
  id : String
  content : String
  usage : TokenUsage
  providerCostUsd : Option String
  providerModel : Option String
  deriving DecidableEq

end FuseControlPlane.Core
