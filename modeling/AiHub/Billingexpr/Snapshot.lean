import Mathlib.Data.Rat.Defs
import Mathlib.Tactic.DeriveFintype

/-!
# What a tiered expression is evaluated with

The counts that an expression sees, and the snapshot of what it was estimated to cost when a
request was pre-consumed.  The expression stays as it was; what depends on the group is refreshed
when another group is selected.  The hash of the expression is left out: it is a function of the
expression.
-/

namespace AiHub.Billingexpr

/-- The version tag and the body of an expression; version 1 is the default. -/
def parseExprVersion (exprStr : String) : Nat × String :=
  if exprStr.startsWith "v1:" then (1, (exprStr.drop 3).toString) else (1, exprStr)

/-- The token counts of an evaluation.  They are doubles, which are exact for counts. -/
structure TokenParams where
  p : Int
  c : Int
  len : Int
  cr : Int
  cc : Int
  cc1h : Int
  img : Int
  imgO : Int
  ai : Int
  ao : Int
  deriving DecidableEq, Repr

structure BillingSnapshot where
  billingMode : String
  modelName : String
  exprString : String
  groupRatio : ℚ
  estimatedPromptTokens : Int
  estimatedCompletionTokens : Int
  estimatedQuotaBeforeGroup : ℚ
  estimatedQuotaAfterGroup : Int
  estimatedTier : String
  quotaPerUnit : ℚ
  exprVersion : Nat
  taskUsageBilling : Bool
  /-- The facts that a task was priced by, as JSON. -/
  usageFacts : Option String
  deriving DecidableEq

structure RequestRuleTrace where
  cond : String
  multiplier : ℚ
  matched : Bool := false
  deriving DecidableEq

structure TraceResult where
  matchedTier : String := ""
  requestRules : List RequestRuleTrace
  cost : ℚ := 0

end AiHub.Billingexpr
