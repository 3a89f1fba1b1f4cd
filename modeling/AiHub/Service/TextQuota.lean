import AiHub.Relaykit.Usage
import AiHub.Types.PriceData

/-!
# The quota of a text request

Ratio billing charges the tokens of a usage: the input is divided into what was read from the
cache, written to it, images, audio with a price of its own, and the rest, and each part has its
ratio.  Tool calls are charged on top.  Prices and ratios are exact decimals.
-/

namespace AiHub.Service

open AiHub.Library AiHub.Common AiHub.Types AiHub.Relaykit

/-! ## Prices of tools and of audio -/

/-- Prices of tool calls: by tool for models that start so, the longest start first, and by tool
for all others. -/
structure ToolPriceIndex where
  byModel : GoMap String (List (String × ℚ))
  defaults : GoMap String ℚ

def ToolPriceIndex.getToolPriceForModel (index : ToolPriceIndex) (toolName modelName : String) :
    ℚ :=
  let entries := if modelName = "" then [] else (index.byModel.lookup toolName).getD []
  match entries.find? fun entry => entry.1.toList.isPrefixOf modelName.toList with
  | some entry => entry.2
  | none => (index.defaults.lookup toolName).getD 0

def getGeminiInputAudioPricePerMillionTokens (modelName : String) : ℚ :=
  let starts (text : String) := text.toList.isPrefixOf modelName.toList
  if starts "gemini-2.5-flash-preview-native-audio" then 3
  else if starts "gemini-2.5-flash-preview-lite" then 1 / 2
  else if starts "gemini-2.5-flash-preview" then 1
  else if starts "gemini-2.5-flash" then 1
  else if starts "gemini-2.0-flash" then 7 / 10
  else if starts "gemini-robotics-er-1.5" then 1
  else 0

/-! ## A request -/

/-- What the quota of a request depends on besides its usage. -/
structure TextRelayInfo where
  billingModelName : String
  priceData : Types.PriceData
  /-- The request that was sent has the format of Claude. -/
  finalFormatClaude : Bool := false
  /-- The channel is known and is OpenRouter. -/
  openRouter : Bool := false
  estimatePromptTokens : Int := 0
  /-- Calls of the built-in tools of the Responses API. -/
  builtInTools : GoMap String Int := ∅
  responsesMode : Bool := false
  claudeWebSearchRequests : Int := 0
  geminiGoogleSearchCall : Bool := false

structure TextQuotaSettings where
  quotaPerUnit : ℚ
  toolPrices : ToolPriceIndex
  defaultModelRatio : GoMap String ℚ

structure ToolSurchargeItem where
  name : String
  count : Int
  price : ℚ
  deriving DecidableEq

structure TextQuotaSummary where
  promptTokens : Int
  uncachedPromptTokens : Int
  completionTokens : Int
  totalTokens : Int
  cacheTokens : Int
  cacheCreationTokens : Int
  cacheCreationTokens5m : Int
  cacheCreationTokens1h : Int
  imageTokens : Int
  audioTokens : Int
  usageSemantic : String
  isClaudeUsageSemantic : Bool
  audioInputPrice : ℚ
  toolSurchargeItems : List ToolSurchargeItem
  toolCallSurchargeQuota : ℚ
  quota : Int
  quotaClamp : Option QuotaClamp

/-! ## Tool calls -/

def collectToolSurchargeItem (index : ToolPriceIndex) (modelName : String)
    (items : List ToolSurchargeItem) (name : String) (count : Int) : List ToolSurchargeItem :=
  let price := index.getToolPriceForModel name modelName
  if count ≤ 0 ∨ price ≤ 0 then items else items ++ [⟨name, count, price⟩]

def maxCallCount : Int := 2 ^ 63 - 1

def addCallCount (merged count : Int) : Int :=
  if count > maxCallCount - merged then maxCallCount else merged + count

/-- Add an item to the merged ones, of which the last comes first. -/
def mergeToolSurchargeItem (merged : List ToolSurchargeItem) (item : ToolSurchargeItem) :
    List ToolSurchargeItem :=
  match merged with
  | [] => [item]
  | last :: rest =>
    if last.name = item.name ∧ last.price = item.price then
      { last with count := addCallCount last.count item.count } :: rest
    else item :: last :: rest

/-- The order in which the items are sorted. -/
def ToolSurchargeItem.NotAfter (first second : ToolSurchargeItem) : Prop :=
  if first.name = second.name then first.price ≤ second.price else first.name < second.name

instance (first second : ToolSurchargeItem) : Decidable (first.NotAfter second) :=
  inferInstanceAs (Decidable (ite _ _ _))

def mergeToolSurchargeItems (items : List ToolSurchargeItem) : List ToolSurchargeItem :=
  ((items.insertionSort ToolSurchargeItem.NotAfter).foldl mergeToolSurchargeItem []).reverse

def textToolCalls (index : ToolPriceIndex) (info : TextRelayInfo) : List ToolSurchargeItem :=
  let modelName := info.billingModelName
  let collect := collectToolSurchargeItem index modelName
  let items := info.builtInTools.entries.foldl (fun items entry =>
    collect items entry.1 entry.2) []
  let items :=
    if ¬info.responsesMode ∧ "search-preview".toList.isSuffixOf modelName.toList then
      collect items "web_search_preview" 1
    else items
  let items := collect items "web_search" info.claudeWebSearchRequests
  if info.geminiGoogleSearchCall then collect items "google_search" 1 else items

def toolSurcharge (settings : TextQuotaSettings) (groupRatio : ℚ) (item : ToolSurchargeItem) : ℚ :=
  decimalDiv (item.price * item.count) 1000 * groupRatio * settings.quotaPerUnit

def calculateTextToolCallSurcharge (settings : TextQuotaSettings) (groupRatio : ℚ)
    (items : List ToolSurchargeItem) : ℚ :=
  (items.map (toolSurcharge settings groupRatio)).sum

/-! ## Token counts -/

def usageSemanticFromUsage (info : TextRelayInfo) (usage : Option Usage) : String :=
  let semantic := (usage.map Usage.usageSemantic).getD ""
  if semantic ≠ "" then semantic else if info.finalFormatClaude then "anthropic" else "openai"

/-- Usage of a Claude model that an older converter labelled neither way. -/
def isLegacyClaudeDerivedOpenAIUsage (info : TextRelayInfo) (usage : Usage) : Bool :=
  !info.finalFormatClaude && decide (usage.usageSource = "" ∧ usage.usageSemantic = "") &&
    decide (usage.claudeCacheCreation5mTokens > 0 ∨ usage.claudeCacheCreation1hTokens > 0)

def hasCustomModelRatio (settings : TextQuotaSettings) (modelName : String) (ratio : ℚ) : Bool :=
  match settings.defaultModelRatio.lookup modelName with
  | none => true
  | some defaultRatio => decide (ratio ≠ defaultRatio)

/-- The tokens that were written to the cache, from the cost that OpenRouter reports.  Dividing by
zero gives no finite number, and the conversion reports this. -/
def calcOpenRouterCacheCreateTokens (settings : TextQuotaSettings) (usage : Usage)
    (price : Types.PriceData) : Int :=
  if price.cacheCreationRatio = 1 then 0
  else
    let quotaPrice := price.modelRatio / settings.quotaPerUnit
    let promptCacheCreatePrice := quotaPrice * price.cacheCreationRatio
    let promptCacheReadPrice := quotaPrice * price.cacheRatio
    let completionPrice := quotaPrice * price.completionRatio
    let cost := match usage.cost with | .number value => value | _ => 0
    let dividend := cost - usage.promptTokens * quotaPrice +
      usage.promptTokensDetails.cachedTokens * (quotaPrice - promptCacheReadPrice) -
      usage.completionTokens * completionPrice
    let divisor := promptCacheCreatePrice - quotaPrice
    if divisor = 0 then -1
    else
      match quotaRoundChecked (dividend / divisor) with
      | (_, some _) => -1
      | (quota, none) => quota

/-- Whether the cache writes of an OpenRouter request are inferred from its cost.  The cost is
compared with an integer, which no number of a response is. -/
def infersCacheCreation (settings : TextQuotaSettings) (info : TextRelayInfo)
    (cacheCreationTokens : Int) : Bool :=
  decide (cacheCreationTokens = 0 ∧ info.priceData.cacheCreationRatio ≠ 1) &&
    !(info.priceData.usePrice ||
      hasCustomModelRatio settings info.billingModelName info.priceData.modelRatio)

def openRouterCacheCreation (settings : TextQuotaSettings) (info : TextRelayInfo) (usage : Usage)
    (promptTokens cacheCreationTokens : Int) : Int :=
  if infersCacheCreation settings info cacheCreationTokens then
    let maybeCacheCreationTokens := calcOpenRouterCacheCreateTokens settings usage info.priceData
    if 0 ≤ maybeCacheCreationTokens ∧ maybeCacheCreationTokens ≤ promptTokens then
      maybeCacheCreationTokens
    else cacheCreationTokens
  else cacheCreationTokens

/-- The prompt tokens and the cache writes that are billed. -/
def billedPrompt (settings : TextQuotaSettings) (info : TextRelayInfo) (isClaude : Bool)
    (usage : Usage) : Int × Int :=
  let cacheCreationTokens := usage.promptTokensDetails.cacheCreationTokensTotal
  if info.openRouter ∧ isClaude then
    let promptTokens := usage.promptTokens - usage.promptTokensDetails.cachedTokens
    let cacheCreationTokens :=
      openRouterCacheCreation settings info usage promptTokens cacheCreationTokens
    (promptTokens - cacheCreationTokens, cacheCreationTokens)
  else (usage.promptTokens, cacheCreationTokens)

def cacheWriteTokensTotal (cacheCreation cacheCreation5m cacheCreation1h : Int) : Int :=
  if cacheCreation5m > 0 ∨ cacheCreation1h > 0 then
    let split := cacheCreation5m + cacheCreation1h
    if cacheCreation > split then cacheCreation else split
  else cacheCreation

/-- The tokens of the input that ratio billing charges, by what they are charged at. -/
structure ChargedInput where
  base : Int
  cached : Int
  creation : Int
  creation5m : Int
  creation1h : Int
  image : Int
  audio : Int

/-- The counts of a summary, before anything is priced. -/
structure TextCounts where
  usage : Usage
  promptTokens : Int
  cacheCreationTokens : Int
  isClaude : Bool
  legacyClaudeDerived : Bool

namespace TextCounts

def cacheTokens (counts : TextCounts) : Int := counts.usage.promptTokensDetails.cachedTokens
def cacheCreationTokens5m (counts : TextCounts) : Int := counts.usage.claudeCacheCreation5mTokens
def cacheCreationTokens1h (counts : TextCounts) : Int := counts.usage.claudeCacheCreation1hTokens
def imageTokens (counts : TextCounts) : Int := counts.usage.promptTokensDetails.imageTokens
def audioTokens (counts : TextCounts) : Int := counts.usage.promptTokensDetails.audioTokens

/-- The prompt includes what was read from and written to the cache. -/
def promptIncludesCache (counts : TextCounts) : Bool :=
  !counts.isClaude && !counts.legacyClaudeDerived

/-- The prompt without the cache; only for the log. -/
def uncachedPromptTokens (counts : TextCounts) : Int :=
  let uncached :=
    if counts.promptIncludesCache then
      counts.promptTokens - (counts.cacheTokens + cacheWriteTokensTotal counts.cacheCreationTokens
        counts.cacheCreationTokens5m counts.cacheCreationTokens1h)
    else counts.promptTokens
  if uncached < 0 then 0 else uncached

/-- The cache writes: plain, and of either lifetime. -/
def chargedCreation (counts : TextCounts) : Int × Int × Int :=
  if counts.cacheCreationTokens = 0 ∧
      ¬(counts.cacheCreationTokens5m > 0 ∨ counts.cacheCreationTokens1h > 0) then (0, 0, 0)
  else if counts.promptIncludesCache then (counts.cacheCreationTokens, 0, 0)
  else
    let remaining := counts.cacheCreationTokens - counts.cacheCreationTokens5m -
      counts.cacheCreationTokens1h
    (if remaining < 0 then 0 else remaining, counts.cacheCreationTokens5m,
      counts.cacheCreationTokens1h)

/-- Audio is charged apart where it has a price. -/
def chargedAudio (counts : TextCounts) (audioInputPrice : ℚ) : Int :=
  if audioInputPrice > 0 then counts.audioTokens else 0

/-- The rest of the prompt, as it is left after all that is charged apart. -/
def baseTokens (counts : TextCounts) (audioInputPrice : ℚ) : Int :=
  let base := counts.promptTokens
  let base :=
    if counts.promptIncludesCache then base - counts.cacheTokens - counts.cacheCreationTokens
    else base
  let base := base - counts.imageTokens
  let base := base - counts.chargedAudio audioInputPrice
  if base < 0 then 0 else base

def chargedInput (counts : TextCounts) (audioInputPrice : ℚ) : ChargedInput where
  base := counts.baseTokens audioInputPrice
  cached := counts.cacheTokens
  creation := counts.chargedCreation.1
  creation5m := counts.chargedCreation.2.1
  creation1h := counts.chargedCreation.2.2
  image := counts.imageTokens
  audio := counts.chargedAudio audioInputPrice

end TextCounts

/-- The price of the input in prompt tokens, without the audio. -/
def ChargedInput.promptQuota (input : ChargedInput) (price : Types.PriceData) : ℚ :=
  input.base + input.cached * price.cacheRatio + input.image * price.imageRatio +
    (input.creation * price.cacheCreationRatio + input.creation5m * price.cacheCreation5mRatio +
      input.creation1h * price.cacheCreation1hRatio)

def textCounts (settings : TextQuotaSettings) (info : TextRelayInfo) (usage : Option Usage) :
    TextCounts :=
  let isClaude := decide (usageSemanticFromUsage info usage = "anthropic")
  let usage := usage.getD
    { promptTokens := info.estimatePromptTokens, totalTokens := info.estimatePromptTokens }
  let prompt := billedPrompt settings info isClaude usage
  { usage := usage
    promptTokens := prompt.1
    cacheCreationTokens := prompt.2
    isClaude := isClaude
    legacyClaudeDerived := isLegacyClaudeDerivedOpenAIUsage info usage }

/-! ## The quota -/

/-- The model's ratio in the group. -/
def TextRelayInfo.ratio (info : TextRelayInfo) : ℚ :=
  info.priceData.modelRatio * info.priceData.groupRatioInfo.groupRatio

/-- The price of audio, where the model has one. -/
def audioInputPriceOf (info : TextRelayInfo) (audioTokens : Int) : ℚ :=
  if info.priceData.usePrice ∨ audioTokens = 0 then 0
  else getGeminiInputAudioPricePerMillionTokens info.billingModelName

def audioInputQuota (settings : TextQuotaSettings) (info : TextRelayInfo) (audioInputPrice : ℚ)
    (audioTokens : Int) : ℚ :=
  if audioInputPrice > 0 then
    decimalDiv audioInputPrice 1000000 * audioTokens *
      info.priceData.groupRatioInfo.groupRatio * settings.quotaPerUnit
  else 0

/-- The exact price of a request by ratios. -/
def ratioAmount (settings : TextQuotaSettings) (info : TextRelayInfo) (counts : TextCounts)
    (surcharge : ℚ) : ℚ :=
  let price := info.priceData
  let audioInputPrice := audioInputPriceOf info counts.audioTokens
  let promptQuota := (counts.chargedInput audioInputPrice).promptQuota price
  let completionQuota := counts.usage.completionTokens * price.completionRatio
  let quota := (promptQuota + completionQuota) * info.ratio +
    audioInputQuota settings info audioInputPrice counts.audioTokens
  price.applyOtherRatiosToDecimal quota + surcharge

/-- Where there is a ratio, the price is raised from zero to one unit. -/
def ratioPrice (ratio amount : ℚ) : ℚ := if ratio ≠ 0 ∧ amount ≤ 0 then 1 else amount

def fixedPrice (settings : TextQuotaSettings) (info : TextRelayInfo) (surcharge : ℚ) : ℚ :=
  let price := info.priceData
  let quota := price.modelPrice * settings.quotaPerUnit * price.groupRatioInfo.groupRatio
  price.applyOtherRatiosToDecimal quota + surcharge

def hasBillableUsage (totalTokens : Int) (surcharge : ℚ) : Bool :=
  decide (totalTokens > 0 ∨ surcharge ≠ 0)

/-- At least one unit is charged where anything is. -/
def finalQuota (billable : Bool) (ratio : ℚ) (quota : Int) : Int :=
  if ¬billable then 0 else if ratio ≠ 0 ∧ quota = 0 then 1 else quota

def calculateTextQuotaSummary (settings : TextQuotaSettings) (info : TextRelayInfo)
    (usage : Option Usage) : TextQuotaSummary :=
  let counts := textCounts settings info usage
  let totalTokens := counts.usage.promptTokens + counts.usage.completionTokens
  let items := mergeToolSurchargeItems (textToolCalls settings.toolPrices info)
  let surcharge :=
    calculateTextToolCallSurcharge settings info.priceData.groupRatioInfo.groupRatio items
  let price :=
    if info.priceData.usePrice then fixedPrice settings info surcharge
    else ratioPrice info.ratio (ratioAmount settings info counts surcharge)
  let quota := quotaFromDecimalChecked price
  { promptTokens := counts.promptTokens
    uncachedPromptTokens := counts.uncachedPromptTokens
    completionTokens := counts.usage.completionTokens
    totalTokens := totalTokens
    cacheTokens := counts.cacheTokens
    cacheCreationTokens := counts.cacheCreationTokens
    cacheCreationTokens5m := counts.cacheCreationTokens5m
    cacheCreationTokens1h := counts.cacheCreationTokens1h
    imageTokens := counts.imageTokens
    audioTokens := counts.audioTokens
    usageSemantic := usageSemanticFromUsage info usage
    isClaudeUsageSemantic := counts.isClaude
    audioInputPrice := audioInputPriceOf info counts.audioTokens
    toolSurchargeItems := items
    toolCallSurchargeQuota := surcharge
    quota := finalQuota (hasBillableUsage totalTokens surcharge) info.ratio quota.1
    quotaClamp := quota.2 }

end AiHub.Service
