import AiHub.Library.GoString
import AiHub.Library.Overlay
import Mathlib.Data.Rat.Defs

/-!
# Token usage

The usage of a request in the three dialects of the providers, and the sidecar that carries the
usage of the original provider along with a converted one.  A payload of a sidecar has no sidecar
of its own: every function that stores one there takes it off.
-/

namespace AiHub.Relaykit

open AiHub.Library

structure InputTokenDetails where
  cachedTokens : Int := 0
  cachedCreationTokens : Int := 0
  cacheWriteTokens : Int := 0
  textTokens : Int := 0
  audioTokens : Int := 0
  imageTokens : Int := 0
  deriving DecidableEq, Repr

structure OutputTokenDetails where
  textTokens : Int := 0
  audioTokens : Int := 0
  imageTokens : Int := 0
  reasoningTokens : Int := 0
  deriving DecidableEq, Repr

/-- The cost that a provider reports: none, a number, or something else, which may be the zero
value of its type. -/
inductive Cost where
  | absent
  | number (value : ℚ)
  | other (text : String) (isZero : Bool)
  deriving DecidableEq, Repr

/-- `dto.Usage` without its sidecar -/
structure Usage where
  promptTokens : Int := 0
  completionTokens : Int := 0
  totalTokens : Int := 0
  promptCacheHitTokens : Int := 0
  usageSemantic : String := ""
  usageSource : String := ""
  promptTokensDetails : InputTokenDetails := {}
  completionTokenDetails : OutputTokenDetails := {}
  inputTokens : Int := 0
  outputTokens : Int := 0
  inputTokensDetails : Option InputTokenDetails := none
  claudeCacheCreation5mTokens : Int := 0
  claudeCacheCreation1hTokens : Int := 0
  cost : Cost := .absent
  deriving DecidableEq, Repr

structure ClaudeCacheCreationUsage where
  ephemeral5mInputTokens : Int := 0
  ephemeral1hInputTokens : Int := 0
  deriving DecidableEq, Repr

structure ClaudeServerToolUse where
  webSearchRequests : Int := 0
  webFetchRequests : Int := 0
  codeExecutionRequests : Int := 0
  toolSearchRequests : Int := 0
  deriving DecidableEq, Repr

/-- `dto.ClaudeUsage` without its sidecar -/
structure ClaudeUsage where
  inputTokens : Int := 0
  cacheCreationInputTokens : Int := 0
  cacheReadInputTokens : Int := 0
  outputTokens : Int := 0
  cacheCreation : Option ClaudeCacheCreationUsage := none
  claudeCacheCreation5mTokens : Int := 0
  claudeCacheCreation1hTokens : Int := 0
  serverToolUse : Option ClaudeServerToolUse := none
  deriving DecidableEq, Repr

structure GeminiPromptTokensDetails where
  modality : String
  tokenCount : Int
  deriving DecidableEq, Repr

/-- `dto.GeminiUsageMetadata` without its sidecar -/
structure GeminiUsageMetadata where
  promptTokenCount : Int := 0
  toolUsePromptTokenCount : Int := 0
  candidatesTokenCount : Int := 0
  totalTokenCount : Int := 0
  thoughtsTokenCount : Int := 0
  cachedContentTokenCount : Int := 0
  promptTokensDetails : List GeminiPromptTokensDetails := []
  toolUsePromptTokensDetails : List GeminiPromptTokensDetails := []
  candidatesTokensDetails : List GeminiPromptTokensDetails := []
  deriving DecidableEq, Repr

/-- The usage of the original provider. -/
structure BillingUsage where
  source : String := ""
  semantic : String := ""
  estimated : Bool := false
  openAIUsage : Option Usage := none
  claudeUsage : Option ClaudeUsage := none
  geminiUsageMetadata : Option GeminiUsageMetadata := none
  deriving DecidableEq, Repr

/-- A usage of some dialect with its sidecar. -/
structure WithSidecar (υ : Type) where
  usage : υ
  billingUsage : Option BillingUsage := none
  deriving DecidableEq, Repr

def billingUsageSourceClaudeMessages : String := "claude_messages"
def billingUsageSourceOAIChat : String := "oai_chat"
def billingUsageSemanticAnthropic : String := "anthropic"
def billingUsageSemanticOpenAI : String := "openai"

/-! ## Cache creation -/

/-- The tokens written to a cache, in whichever field they are reported. -/
def InputTokenDetails.cacheCreationTokensTotal (details : InputTokenDetails) : Int :=
  let total := details.cachedCreationTokens
  let total := if details.cacheWriteTokens > total then details.cacheWriteTokens else total
  if total < 0 then 0 else total

theorem InputTokenDetails.cacheCreationTokensTotal_nonneg (details : InputTokenDetails) :
    0 ≤ details.cacheCreationTokensTotal := by
  simp only [cacheCreationTokensTotal]
  split <;> omega

def ClaudeUsage.getCacheCreation5mTokens (usage : ClaudeUsage) : Int :=
  (usage.cacheCreation.map ClaudeCacheCreationUsage.ephemeral5mInputTokens).getD 0

def ClaudeUsage.getCacheCreation1hTokens (usage : ClaudeUsage) : Int :=
  (usage.cacheCreation.map ClaudeCacheCreationUsage.ephemeral1hInputTokens).getD 0

/-! ## Usage that counts something -/

def InputTokenDetails.hasTokens (details : InputTokenDetails) : Bool :=
  details.cachedTokens ≠ 0 ∨ details.cachedCreationTokens ≠ 0 ∨ details.cacheWriteTokens ≠ 0 ∨
    details.textTokens ≠ 0 ∨ details.imageTokens ≠ 0 ∨ details.audioTokens ≠ 0

def hasOpenAIUsageTokens (usage : Usage) : Bool :=
  decide (usage.promptTokens ≠ 0 ∨ usage.completionTokens ≠ 0 ∨ usage.totalTokens ≠ 0 ∨
      usage.inputTokens ≠ 0 ∨ usage.outputTokens ≠ 0 ∨ usage.promptCacheHitTokens ≠ 0 ∨
      usage.claudeCacheCreation5mTokens ≠ 0 ∨ usage.claudeCacheCreation1hTokens ≠ 0) ||
    usage.promptTokensDetails.hasTokens ||
    decide (usage.completionTokenDetails.reasoningTokens ≠ 0 ∨
      usage.completionTokenDetails.textTokens ≠ 0 ∨
      usage.completionTokenDetails.imageTokens ≠ 0 ∨
      usage.completionTokenDetails.audioTokens ≠ 0) ||
    usage.inputTokensDetails.any InputTokenDetails.hasTokens

def hasClaudeUsageTokens (usage : ClaudeUsage) : Bool :=
  decide (usage.inputTokens ≠ 0 ∨ usage.outputTokens ≠ 0 ∨ usage.cacheCreationInputTokens ≠ 0 ∨
      usage.cacheReadInputTokens ≠ 0 ∨ usage.claudeCacheCreation5mTokens ≠ 0 ∨
      usage.claudeCacheCreation1hTokens ≠ 0) ||
    usage.cacheCreation.any fun split =>
      split.ephemeral5mInputTokens ≠ 0 ∨ split.ephemeral1hInputTokens ≠ 0

def newClaudeMessagesBillingUsage (usage : ClaudeUsage) : Option BillingUsage :=
  if hasClaudeUsageTokens usage then
    some
      { source := billingUsageSourceClaudeMessages
        semantic := billingUsageSemanticAnthropic
        claudeUsage := some usage }
  else none

def newOpenAIChatBillingUsage (usage : Usage) : Option BillingUsage :=
  if hasOpenAIUsageTokens usage then
    some
      { source := billingUsageSourceOAIChat
        semantic := billingUsageSemanticOpenAI
        openAIUsage := some usage }
  else none

/-! ## From Claude to OpenAI and back -/

/-- Tokens of the total that the split does not account for are of the shorter kind. -/
def normalizeCacheCreationSplit (totalTokens tokens5m tokens1h : Int) : Int × Int :=
  let remainder := totalTokens - tokens5m - tokens1h
  let remainder := if remainder < 0 then 0 else remainder
  (tokens5m + remainder, tokens1h)

def cacheCreationTokensForOpenAIUsage (usage : Usage) : Int :=
  let split := usage.claudeCacheCreation5mTokens + usage.claudeCacheCreation1hTokens
  if split = 0 then usage.promptTokensDetails.cachedCreationTokens
  else if usage.promptTokensDetails.cachedCreationTokens > split then
    usage.promptTokensDetails.cachedCreationTokens
  else split

/-- A usage with Claude's meaning of its counts gets OpenAI's: the prompt includes what was read
from and written to the cache. -/
def buildOpenAIStyleUsageFromClaudeUsage (usage : Usage) : Usage :=
  let split := normalizeCacheCreationSplit usage.promptTokensDetails.cachedCreationTokens
    usage.claudeCacheCreation5mTokens usage.claudeCacheCreation1hTokens
  let cacheCreationTokens := cacheCreationTokensForOpenAIUsage usage
  let totalInputTokens :=
    usage.promptTokens + usage.promptTokensDetails.cachedTokens + cacheCreationTokens
  { usage with
    claudeCacheCreation5mTokens := split.1
    claudeCacheCreation1hTokens := split.2
    promptTokensDetails :=
      { usage.promptTokensDetails with cacheWriteTokens := cacheCreationTokens }
    promptTokens := totalInputTokens
    inputTokens := totalInputTokens
    totalTokens := totalInputTokens + usage.completionTokens
    usageSemantic := "openai"
    usageSource := "anthropic" }

def usageFromClaudeAPIUsage (claude : WithSidecar ClaudeUsage) : WithSidecar Usage :=
  let usage := claude.usage
  { usage := buildOpenAIStyleUsageFromClaudeUsage
      { promptTokens := usage.inputTokens
        completionTokens := usage.outputTokens
        usageSemantic := "anthropic"
        usageSource := "anthropic"
        promptTokensDetails :=
          { cachedTokens := usage.cacheReadInputTokens
            cachedCreationTokens := usage.cacheCreationInputTokens }
        claudeCacheCreation5mTokens := usage.getCacheCreation5mTokens
        claudeCacheCreation1hTokens := usage.getCacheCreation1hTokens }
    billingUsage := claude.billingUsage.or (newClaudeMessagesBillingUsage usage) }

def nativeClaudeUsage (billingUsage : Option BillingUsage) : Option ClaudeUsage :=
  match billingUsage with
  | none => none
  | some sidecar =>
    if sidecar.source = billingUsageSourceClaudeMessages ∨
        sidecar.semantic = billingUsageSemanticAnthropic then sidecar.claudeUsage
    else none

/-- The input tokens in Claude's meaning: without what was read from or written to the cache. -/
def claudeInputTokens (usage : Usage) : Int :=
  if usage.usageSemantic ≠ billingUsageSemanticAnthropic then
    let inputTokens := usage.promptTokens - usage.promptTokensDetails.cachedTokens -
      usage.promptTokensDetails.cacheCreationTokensTotal
    if inputTokens < 0 then 0 else inputTokens
  else usage.promptTokens

def usageFromOpenAI (openAI : WithSidecar Usage) : WithSidecar ClaudeUsage :=
  match nativeClaudeUsage openAI.billingUsage with
  | some native => { usage := native, billingUsage := openAI.billingUsage }
  | none =>
    let usage := openAI.usage
    let split := normalizeCacheCreationSplit usage.promptTokensDetails.cachedCreationTokens
      usage.claudeCacheCreation5mTokens usage.claudeCacheCreation1hTokens
    { usage :=
        { inputTokens := claudeInputTokens usage
          outputTokens := usage.completionTokens
          cacheCreationInputTokens := usage.promptTokensDetails.cacheCreationTokensTotal
          cacheReadInputTokens := usage.promptTokensDetails.cachedTokens
          cacheCreation :=
            if 0 < split.1 ∨ 0 < split.2 then some ⟨split.1, split.2⟩ else none }
      billingUsage := openAI.billingUsage.or (newOpenAIChatBillingUsage usage) }

/-! ## The way there and back -/

/-- A split is consistent with the total if it is a part of it. -/
structure ClaudeUsage.Consistent (usage : ClaudeUsage) : Prop where
  input : 0 ≤ usage.inputTokens
  output : 0 ≤ usage.outputTokens
  cacheRead : 0 ≤ usage.cacheReadInputTokens
  creation : 0 ≤ usage.cacheCreationInputTokens
  split5m : 0 ≤ usage.getCacheCreation5mTokens
  split1h : 0 ≤ usage.getCacheCreation1hTokens
  split : usage.getCacheCreation5mTokens + usage.getCacheCreation1hTokens ≤
    usage.cacheCreationInputTokens

theorem cacheCreationTokensTotal_of_eq {details : InputTokenDetails} {total : Int}
    (created : details.cachedCreationTokens = total) (written : details.cacheWriteTokens = total)
    (nonneg : 0 ≤ total) : details.cacheCreationTokensTotal = total := by
  simp only [InputTokenDetails.cacheCreationTokensTotal, created, written, gt_iff_lt, lt_irrefl,
    if_false]
  rw [if_neg (by omega)]

/-- The split of the OpenAI usage adds up to the total. -/
theorem normalizeCacheCreationSplit_of_le {total tokens5m tokens1h : Int}
    (part : tokens5m + tokens1h ≤ total) :
    normalizeCacheCreationSplit total tokens5m tokens1h = (total - tokens1h, tokens1h) := by
  simp only [normalizeCacheCreationSplit]
  ext
  · omega
  · rfl

/-- A split that is left out is zero. -/
theorem reportedSplit_sum {usage : ClaudeUsage} {tokens5m tokens1h : Int}
    (nonneg5m : 0 ≤ tokens5m) (nonneg1h : 0 ≤ tokens1h)
    (reported : usage.cacheCreation =
      if 0 < tokens5m ∨ 0 < tokens1h then some ⟨tokens5m, tokens1h⟩ else none) :
    usage.getCacheCreation5mTokens + usage.getCacheCreation1hTokens = tokens5m + tokens1h := by
  unfold ClaudeUsage.getCacheCreation5mTokens ClaudeUsage.getCacheCreation1hTokens
  rw [reported]
  split
  · rfl
  · change (0 : Int) + 0 = _
    omega

theorem usageFromClaudeAPIUsage_of_consistent {claude : WithSidecar ClaudeUsage}
    (consistent : claude.usage.Consistent) :
    (usageFromClaudeAPIUsage claude).usage =
      { promptTokens := claude.usage.inputTokens + claude.usage.cacheReadInputTokens +
          claude.usage.cacheCreationInputTokens
        completionTokens := claude.usage.outputTokens
        totalTokens := claude.usage.inputTokens + claude.usage.cacheReadInputTokens +
          claude.usage.cacheCreationInputTokens + claude.usage.outputTokens
        usageSemantic := "openai"
        usageSource := "anthropic"
        promptTokensDetails :=
          { cachedTokens := claude.usage.cacheReadInputTokens
            cachedCreationTokens := claude.usage.cacheCreationInputTokens
            cacheWriteTokens := claude.usage.cacheCreationInputTokens }
        inputTokens := claude.usage.inputTokens + claude.usage.cacheReadInputTokens +
          claude.usage.cacheCreationInputTokens
        claudeCacheCreation5mTokens :=
          claude.usage.cacheCreationInputTokens - claude.usage.getCacheCreation1hTokens
        claudeCacheCreation1hTokens := claude.usage.getCacheCreation1hTokens } := by
  have split := consistent.split
  simp only [usageFromClaudeAPIUsage, buildOpenAIStyleUsageFromClaudeUsage,
    normalizeCacheCreationSplit_of_le split]
  have created : cacheCreationTokensForOpenAIUsage
      { promptTokens := claude.usage.inputTokens
        completionTokens := claude.usage.outputTokens
        usageSemantic := "anthropic"
        usageSource := "anthropic"
        promptTokensDetails :=
          { cachedTokens := claude.usage.cacheReadInputTokens
            cachedCreationTokens := claude.usage.cacheCreationInputTokens }
        claudeCacheCreation5mTokens := claude.usage.getCacheCreation5mTokens
        claudeCacheCreation1hTokens := claude.usage.getCacheCreation1hTokens } =
      claude.usage.cacheCreationInputTokens := by
    simp only [cacheCreationTokensForOpenAIUsage]
    split
    · rfl
    · split
      · rfl
      · omega
  rw [created]

/-- A Claude usage that becomes an OpenAI usage and a Claude usage again, without the sidecar
that carries the original, keeps its counts, and its split adds up to the total. -/
theorem claudeUsage_roundTrip (claude : WithSidecar ClaudeUsage)
    (consistent : claude.usage.Consistent) :
    let back := (usageFromOpenAI
      { usageFromClaudeAPIUsage claude with billingUsage := none }).usage
    back.inputTokens = claude.usage.inputTokens ∧
      back.outputTokens = claude.usage.outputTokens ∧
      back.cacheReadInputTokens = claude.usage.cacheReadInputTokens ∧
      back.cacheCreationInputTokens = claude.usage.cacheCreationInputTokens ∧
      back.getCacheCreation5mTokens + back.getCacheCreation1hTokens =
        claude.usage.cacheCreationInputTokens := by
  have split := consistent.split
  have nonneg1h := consistent.split1h
  have nonneg5m := consistent.split5m
  have creation := consistent.creation
  have total : ∀ details : InputTokenDetails,
      details.cachedCreationTokens = claude.usage.cacheCreationInputTokens →
      details.cacheWriteTokens = claude.usage.cacheCreationInputTokens →
      details.cacheCreationTokensTotal = claude.usage.cacheCreationInputTokens :=
    fun _ created written => cacheCreationTokensTotal_of_eq created written creation
  simp only [usageFromOpenAI, nativeClaudeUsage, usageFromClaudeAPIUsage_of_consistent consistent,
    claudeInputTokens, total]
  have kept : normalizeCacheCreationSplit claude.usage.cacheCreationInputTokens
      (claude.usage.cacheCreationInputTokens - claude.usage.getCacheCreation1hTokens)
      claude.usage.getCacheCreation1hTokens =
        (claude.usage.cacheCreationInputTokens - claude.usage.getCacheCreation1hTokens,
          claude.usage.getCacheCreation1hTokens) :=
    normalizeCacheCreationSplit_of_le (by omega)
  refine ⟨?_, trivial, trivial, trivial, ?_⟩
  · rw [if_pos (by decide), if_neg (by have := consistent.input; omega)]
    omega
  · rw [kept, reportedSplit_sum (by omega) nonneg1h rfl]
    omega

/-- A usage whose cache creation is split in part. -/
def partlySplit : WithSidecar ClaudeUsage where
  usage :=
    { inputTokens := 7
      cacheCreationInputTokens := 5
      cacheReadInputTokens := 3
      outputTokens := 2
      cacheCreation := some ⟨1, 3⟩ }

theorem partlySplit_roundTrip :
    partlySplit.usage.Consistent ∧
      (usageFromOpenAI
          { usageFromClaudeAPIUsage partlySplit with billingUsage := none }).usage.inputTokens =
        7 :=
  have consistent : partlySplit.usage.Consistent := by constructor <;> decide
  ⟨consistent, (claudeUsage_roundTrip partlySplit consistent).1⟩

end AiHub.Relaykit
