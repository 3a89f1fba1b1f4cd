import AiHub.Service.TextQuota

/-!
# Bounds of the quota of a text request

No part of the input is charged a negative number of tokens, however the counts of a usage
overlap.  The quota is that of one request, at least one unit where anything is charged, and does
not fall when the answer gets longer.  The last holds as long as the cache writes are those that
the usage reports: inferred from a cost, they depend on the length of the answer themselves.
-/

namespace AiHub.Service

open AiHub.Library AiHub.Common AiHub.Types AiHub.Relaykit List

/-- No price or ratio that is used is negative. -/
structure NonNegPrices (settings : TextQuotaSettings) (info : TextRelayInfo) : Prop where
  quotaPerUnit : 0 ≤ settings.quotaPerUnit
  modelPrice : info.priceData.usePrice = true → 0 ≤ info.priceData.modelPrice
  modelRatio : 0 ≤ info.priceData.modelRatio
  groupRatio : 0 ≤ info.priceData.groupRatioInfo.groupRatio
  completionRatio : 0 ≤ info.priceData.completionRatio
  cacheRatio : 0 ≤ info.priceData.cacheRatio
  imageRatio : 0 ≤ info.priceData.imageRatio
  cacheCreationRatio : 0 ≤ info.priceData.cacheCreationRatio
  cacheCreation5mRatio : 0 ≤ info.priceData.cacheCreation5mRatio
  cacheCreation1hRatio : 0 ≤ info.priceData.cacheCreation1hRatio

/-- No count that is billed is negative.  The total of the cache writes never is. -/
structure NonNegCounts (usage : Usage) : Prop where
  prompt : 0 ≤ usage.promptTokens
  completion : 0 ≤ usage.completionTokens
  cached : 0 ≤ usage.promptTokensDetails.cachedTokens
  creation5m : 0 ≤ usage.claudeCacheCreation5mTokens
  creation1h : 0 ≤ usage.claudeCacheCreation1hTokens
  image : 0 ≤ usage.promptTokensDetails.imageTokens
  audio : 0 ≤ usage.promptTokensDetails.audioTokens

/-- No part of the input is charged a negative number of tokens. -/
structure ChargedInput.NonNeg (input : ChargedInput) : Prop where
  base : 0 ≤ input.base
  cached : 0 ≤ input.cached
  creation : 0 ≤ input.creation
  creation5m : 0 ≤ input.creation5m
  creation1h : 0 ≤ input.creation1h
  image : 0 ≤ input.image
  audio : 0 ≤ input.audio

variable {settings : TextQuotaSettings} {info : TextRelayInfo} {usage : Usage}

/-! ## Parts of the price -/

theorem openRouterCacheCreation_nonneg {promptTokens cacheCreationTokens : Int}
    (nonneg : 0 ≤ cacheCreationTokens) :
    0 ≤ openRouterCacheCreation settings info usage promptTokens cacheCreationTokens := by
  simp only [openRouterCacheCreation]
  split
  · split
    · rename_i inferred
      exact inferred.1
    · exact nonneg
  · exact nonneg

theorem billedCreation_nonneg (isClaude : Bool) :
    0 ≤ (billedPrompt settings info isClaude usage).2 := by
  have reported := usage.promptTokensDetails.cacheCreationTokensTotal_nonneg
  unfold billedPrompt
  split
  · exact openRouterCacheCreation_nonneg reported
  · exact reported

variable {counts : TextCounts} {items : List ToolSurchargeItem} {surcharge ratio amount : ℚ}
  {longer quota : Int} {billable longerBillable : Bool}

theorem chargedInput_nonneg (nonneg : NonNegCounts counts.usage)
    (creation : 0 ≤ counts.cacheCreationTokens) (audioInputPrice : ℚ) :
    (counts.chargedInput audioInputPrice).NonNeg := by
  have parts : 0 ≤ counts.chargedCreation.1 ∧ 0 ≤ counts.chargedCreation.2.1 ∧
      0 ≤ counts.chargedCreation.2.2 := by
    unfold TextCounts.chargedCreation
    split
    · exact ⟨le_rfl, le_rfl, le_rfl⟩
    · split
      · exact ⟨creation, le_rfl, le_rfl⟩
      · refine ⟨?_, nonneg.creation5m, nonneg.creation1h⟩
        dsimp only
        split <;> omega
  exact
    { base := by
        simp only [TextCounts.chargedInput, TextCounts.baseTokens]
        split <;> omega
      cached := nonneg.cached
      creation := parts.1
      creation5m := parts.2.1
      creation1h := parts.2.2
      image := nonneg.image
      audio := by
        change 0 ≤ counts.chargedAudio audioInputPrice
        unfold TextCounts.chargedAudio
        split
        · exact nonneg.audio
        · exact le_rfl }

theorem promptQuota_nonneg (prices : NonNegPrices settings info) {input : ChargedInput}
    (nonneg : input.NonNeg) : 0 ≤ input.promptQuota info.priceData := by
  have product : ∀ {tokens : Int} {ratio : ℚ}, 0 ≤ tokens → 0 ≤ ratio →
      (0 : ℚ) ≤ tokens * ratio := by
    intro tokens ratio tokensNonneg ratioNonneg
    have cast : (0 : ℚ) ≤ tokens := by exact_mod_cast tokensNonneg
    exact mul_nonneg cast ratioNonneg
  have base : (0 : ℚ) ≤ input.base := by exact_mod_cast nonneg.base
  have cached := product nonneg.cached prices.cacheRatio
  have image := product nonneg.image prices.imageRatio
  have creation := product nonneg.creation prices.cacheCreationRatio
  have creation5m := product nonneg.creation5m prices.cacheCreation5mRatio
  have creation1h := product nonneg.creation1h prices.cacheCreation1hRatio
  unfold ChargedInput.promptQuota
  linarith

theorem ratio_nonneg (prices : NonNegPrices settings info) : 0 ≤ info.ratio :=
  mul_nonneg prices.modelRatio prices.groupRatio

theorem audioInputQuota_nonneg (prices : NonNegPrices settings info) {audioTokens : Int}
    (nonneg : 0 ≤ audioTokens) (audioInputPrice : ℚ) :
    0 ≤ audioInputQuota settings info audioInputPrice audioTokens := by
  unfold audioInputQuota
  split
  · rename_i priced
    have tokens : (0 : ℚ) ≤ audioTokens := by exact_mod_cast nonneg
    have price := decimalDiv_nonneg priced.le (by norm_num : (0 : ℚ) ≤ 1000000)
    exact mul_nonneg (mul_nonneg (mul_nonneg price tokens) prices.groupRatio) prices.quotaPerUnit
  · exact le_rfl

/-! ## Tool calls -/

def ToolSurchargeItem.Charged (item : ToolSurchargeItem) : Prop := 0 ≤ item.count ∧ 0 ≤ item.price

theorem charged_collect {index : ToolPriceIndex} {modelName : String}
    (charged : ∀ item ∈ items, item.Charged) (name : String) (count : Int) :
    ∀ item ∈ collectToolSurchargeItem index modelName items name count, item.Charged := by
  simp only [collectToolSurchargeItem]
  split
  · exact charged
  · rename_i called
    refine forall_mem_append.mpr ⟨charged, forall_mem_singleton.mpr ?_⟩
    obtain ⟨some, priced⟩ := not_or.mp called
    exact ⟨(not_le.mp some).le, (not_le.mp priced).le⟩

theorem charged_textToolCalls (index : ToolPriceIndex) :
    ∀ item ∈ textToolCalls index info, item.Charged := by
  have builtIn : ∀ (entries : List (Sigma fun _ : String => Int)) (items : List ToolSurchargeItem),
      (∀ item ∈ items, item.Charged) →
      ∀ item ∈ entries.foldl (fun items entry =>
        collectToolSurchargeItem index info.billingModelName items entry.1 entry.2) items,
        item.Charged := by
    intro entries
    induction entries with
    | nil => exact fun items charged => charged
    | cons entry rest ih => exact fun items charged => ih _ (charged_collect charged _ _)
  have first := builtIn info.builtInTools.entries [] fun _ absent => absurd absent not_mem_nil
  simp only [textToolCalls]
  split
  · refine charged_collect (charged_collect ?_ _ _) _ _
    split
    · exact charged_collect first _ _
    · exact first
  · refine charged_collect ?_ _ _
    split
    · exact charged_collect first _ _
    · exact first

theorem charged_mergeToolSurchargeItem {merged : List ToolSurchargeItem}
    {item : ToolSurchargeItem} (charged : ∀ item ∈ merged, item.Charged)
    (itemCharged : item.Charged) :
    ∀ other ∈ mergeToolSurchargeItem merged item, other.Charged := by
  unfold mergeToolSurchargeItem
  split
  · exact forall_mem_singleton.mpr itemCharged
  · rename_i last rest
    obtain ⟨lastCharged, restCharged⟩ := forall_mem_cons.mp charged
    split
    · refine forall_mem_cons.mpr ⟨⟨?_, lastCharged.2⟩, restCharged⟩
      change 0 ≤ addCallCount last.count item.count
      unfold addCallCount
      split
      · decide
      · exact add_nonneg lastCharged.1 itemCharged.1
    · exact forall_mem_cons.mpr ⟨itemCharged, charged⟩

theorem charged_mergeToolSurchargeItems (charged : ∀ item ∈ items, item.Charged) :
    ∀ item ∈ mergeToolSurchargeItems items, item.Charged := by
  have loop : ∀ (items merged : List ToolSurchargeItem), (∀ item ∈ items, item.Charged) →
      (∀ item ∈ merged, item.Charged) →
      ∀ item ∈ items.foldl mergeToolSurchargeItem merged, item.Charged := by
    intro items
    induction items with
    | nil => exact fun merged _ mergedCharged => mergedCharged
    | cons item rest ih =>
      intro merged itemsCharged mergedCharged
      obtain ⟨first, later⟩ := forall_mem_cons.mp itemsCharged
      exact ih _ later (charged_mergeToolSurchargeItem mergedCharged first)
  intro item member
  refine loop _ [] ?_ (fun _ absent => absurd absent not_mem_nil) item (mem_reverse.mp member)
  exact fun item inSorted => charged item ((mem_insertionSort _).mp inSorted)

theorem surcharge_nonneg (prices : NonNegPrices settings info)
    (charged : ∀ item ∈ items, item.Charged) :
    0 ≤ calculateTextToolCallSurcharge settings info.priceData.groupRatioInfo.groupRatio
      items := by
  apply sum_nonneg
  intro amount member
  obtain ⟨item, inItems, rfl⟩ := mem_map.mp member
  obtain ⟨count, price⟩ := charged item inItems
  have calls : (0 : ℚ) ≤ item.count := by exact_mod_cast count
  have perThousand := decimalDiv_nonneg (mul_nonneg price calls) (by norm_num : (0 : ℚ) ≤ 1000)
  exact mul_nonneg (mul_nonneg perThousand prices.groupRatio) prices.quotaPerUnit

/-! ## The quota -/

theorem amount_nonneg (prices : NonNegPrices settings info) (nonneg : NonNegCounts counts.usage)
    (creation : 0 ≤ counts.cacheCreationTokens) (surchargeNonneg : 0 ≤ surcharge) :
    0 ≤ ratioAmount settings info counts surcharge := by
  have input := promptQuota_nonneg prices
    (chargedInput_nonneg nonneg creation (audioInputPriceOf info counts.audioTokens))
  have tokens : (0 : ℚ) ≤ counts.usage.completionTokens := by exact_mod_cast nonneg.completion
  have completion := mul_nonneg tokens prices.completionRatio
  have ratio := ratio_nonneg prices
  have audio := audioInputQuota_nonneg prices nonneg.audio
    (audioInputPriceOf info counts.audioTokens)
  have others := info.priceData.otherRatios.product_pos
  simp only [ratioAmount, Types.PriceData.applyOtherRatiosToDecimal_eq]
  refine add_nonneg (mul_nonneg (add_nonneg (mul_nonneg ?_ ratio) audio) others.le) surchargeNonneg
  exact add_nonneg input completion

/-- A longer answer has a higher price. -/
theorem amount_mono (prices : NonNegPrices settings info) (counts : TextCounts)
    (le : counts.usage.completionTokens ≤ longer) (surcharge : ℚ) :
    ratioAmount settings info counts surcharge ≤
      ratioAmount settings info
        { counts with usage := { counts.usage with completionTokens := longer } } surcharge := by
  have tokens : (counts.usage.completionTokens : ℚ) ≤ longer := by exact_mod_cast le
  have completion := mul_le_mul_of_nonneg_right tokens prices.completionRatio
  have others := info.priceData.otherRatios.product_pos
  simp only [ratioAmount, Types.PriceData.applyOtherRatiosToDecimal_eq]
  refine add_le_add_left (mul_le_mul_of_nonneg_right (add_le_add_left ?_ _) others.le) _
  exact mul_le_mul_of_nonneg_right (add_le_add_right completion _) (ratio_nonneg prices)

/-- Where there is a ratio, a billable request is charged its price, but at least one unit. -/
theorem finalQuota_ratioPrice (nonneg : 0 ≤ amount) :
    finalQuota true ratio (quotaFromDecimalChecked (ratioPrice ratio amount)).1 =
      if ratio ≠ 0 then max 1 (quotaFromDecimalChecked amount).1
      else (quotaFromDecimalChecked amount).1 := by
  have quotaNonneg := quotaFromDecimalChecked_nonneg nonneg
  have unit : (quotaFromDecimalChecked 1).1 = 1 := by decide +kernel
  have nothing : (quotaFromDecimalChecked 0).1 = 0 := by decide +kernel
  unfold finalQuota ratioPrice
  by_cases free : ratio = 0
  · simp [free]
  · by_cases zero : amount ≤ 0
    · have amountZero : amount = 0 := le_antisymm zero nonneg
      simp [free, amountZero, unit, nothing]
    · simp only [not_true, if_false, ne_eq, free, not_false_eq_true, true_and, zero, if_true]
      split <;> omega

theorem zero_le_finalQuota (nonneg : 0 ≤ quota) : 0 ≤ finalQuota billable ratio quota := by
  unfold finalQuota
  split
  · exact le_rfl
  · split
    · exact zero_le_one
    · exact nonneg

theorem ratioPrice_nonneg (nonneg : 0 ≤ amount) : 0 ≤ ratioPrice ratio amount := by
  unfold ratioPrice
  split
  · exact zero_le_one
  · exact nonneg

theorem finalQuota_still (still : billable = true → longerBillable = true) (nonneg : 0 ≤ quota) :
    finalQuota billable ratio quota ≤ finalQuota longerBillable ratio quota := by
  cases billable with
  | false => exact zero_le_finalQuota nonneg
  | true => rw [still rfl]

theorem finalQuota_mono {larger : ℚ} (still : billable = true → longerBillable = true)
    (nonneg : 0 ≤ amount) (le : amount ≤ larger) :
    finalQuota billable ratio (quotaFromDecimalChecked (ratioPrice ratio amount)).1 ≤
      finalQuota longerBillable ratio (quotaFromDecimalChecked (ratioPrice ratio larger)).1 := by
  cases billable with
  | false =>
    exact zero_le_finalQuota (quotaFromDecimalChecked_nonneg (ratioPrice_nonneg (nonneg.trans le)))
  | true =>
    have mono := quotaFromDecimalChecked_mono nonneg le
    rw [still rfl, finalQuota_ratioPrice nonneg, finalQuota_ratioPrice (nonneg.trans le)]
    split
    · exact max_le_max le_rfl mono
    · exact mono

/-- The cache writes of a request are inferred from its cost. -/
def InferredFromCost (settings : TextQuotaSettings) (info : TextRelayInfo) (usage : Usage) :
    Prop :=
  info.openRouter = true ∧ usageSemanticFromUsage info (some usage) = "anthropic" ∧
    infersCacheCreation settings info usage.promptTokensDetails.cacheCreationTokensTotal = true

/-- Where the cache writes are reported, only the answer itself gets longer. -/
theorem textCounts_longer (reported : ¬InferredFromCost settings info usage) (longer : Int) :
    textCounts settings info (some { usage with completionTokens := longer }) =
      { textCounts settings info (some usage) with
        usage := { usage with completionTokens := longer } } := by
  have creation : ∀ promptTokens,
      info.openRouter = true ∧ decide (usageSemanticFromUsage info (some usage) = "anthropic") →
      openRouterCacheCreation settings info { usage with completionTokens := longer } promptTokens
          usage.promptTokensDetails.cacheCreationTokensTotal =
        openRouterCacheCreation settings info usage promptTokens
          usage.promptTokensDetails.cacheCreationTokensTotal := by
    intro promptTokens ⟨openRouter, claude⟩
    have notInferred : infersCacheCreation settings info
        usage.promptTokensDetails.cacheCreationTokensTotal = false := by
      rw [← Bool.not_eq_true]
      exact fun inferred => reported ⟨openRouter, of_decide_eq_true claude, inferred⟩
    simp [openRouterCacheCreation, notInferred]
  have semantic : usageSemanticFromUsage info
      (some { usage with completionTokens := longer }) =
        usageSemanticFromUsage info (some usage) := rfl
  simp only [textCounts, semantic, Option.getD_some, billedPrompt]
  split
  · rename_i both
    simp only [creation _ both]
    rfl
  · rfl

theorem finalQuota_le (le : quota ≤ maxQuota) : finalQuota billable ratio quota ≤ maxQuota := by
  unfold finalQuota
  split
  · decide
  · split
    · decide
    · exact le

theorem one_le_finalQuota (nonneg : 0 ≤ quota) (priced : ratio ≠ 0) :
    1 ≤ finalQuota true ratio quota := by
  simp only [finalQuota, not_true, if_false, ne_eq, priced, not_false_eq_true, true_and]
  split <;> omega

def requestSurcharge (settings : TextQuotaSettings) (info : TextRelayInfo) : ℚ :=
  calculateTextToolCallSurcharge settings info.priceData.groupRatioInfo.groupRatio
    (mergeToolSurchargeItems (textToolCalls settings.toolPrices info))

theorem requestSurcharge_nonneg (prices : NonNegPrices settings info) :
    0 ≤ requestSurcharge settings info :=
  surcharge_nonneg prices
    (charged_mergeToolSurchargeItems (charged_textToolCalls settings.toolPrices))

theorem fixedPrice_nonneg (prices : NonNegPrices settings info)
    (fixed : info.priceData.usePrice = true) :
    0 ≤ fixedPrice settings info (requestSurcharge settings info) := by
  have others := info.priceData.otherRatios.product_pos
  simp only [fixedPrice, Types.PriceData.applyOtherRatiosToDecimal_eq]
  have price := mul_nonneg (prices.modelPrice fixed) prices.quotaPerUnit
  exact add_nonneg (mul_nonneg (mul_nonneg price prices.groupRatio) others.le)
    (requestSurcharge_nonneg prices)

/-- The exact price of a request. -/
def requestPrice (settings : TextQuotaSettings) (info : TextRelayInfo) (usage : Usage) : ℚ :=
  if info.priceData.usePrice then fixedPrice settings info (requestSurcharge settings info)
  else ratioPrice info.ratio (ratioAmount settings info (textCounts settings info (some usage))
    (requestSurcharge settings info))

theorem quota_eq (usage : Usage) :
    (calculateTextQuotaSummary settings info (some usage)).quota =
      finalQuota (hasBillableUsage (usage.promptTokens + usage.completionTokens)
          (requestSurcharge settings info)) info.ratio
        (quotaFromDecimalChecked (requestPrice settings info usage)).1 := rfl

theorem creation_nonneg : 0 ≤ (textCounts settings info (some usage)).cacheCreationTokens :=
  billedCreation_nonneg _

theorem requestPrice_nonneg (prices : NonNegPrices settings info) (nonneg : NonNegCounts usage) :
    0 ≤ requestPrice settings info usage := by
  unfold requestPrice
  split
  case isTrue fixed => exact fixedPrice_nonneg prices fixed
  case isFalse =>
    exact ratioPrice_nonneg (amount_nonneg prices nonneg creation_nonneg
      (requestSurcharge_nonneg prices))

theorem billable_longer {prompt completion : Int} (le : completion ≤ longer)
    (billable : hasBillableUsage (prompt + completion) surcharge = true) :
    hasBillableUsage (prompt + longer) surcharge = true := by
  simp only [hasBillableUsage, decide_eq_true_eq] at billable ⊢
  exact billable.imp (fun some => by omega) id

theorem quota_longer (prices : NonNegPrices settings info) (nonneg : NonNegCounts usage)
    (reported : ¬InferredFromCost settings info usage) (le : usage.completionTokens ≤ longer) :
    (calculateTextQuotaSummary settings info (some usage)).quota ≤
      (calculateTextQuotaSummary settings info
        (some { usage with completionTokens := longer })).quota := by
  rw [quota_eq, quota_eq]
  have still := @billable_longer (requestSurcharge settings info) longer usage.promptTokens
    usage.completionTokens le
  have price := requestPrice_nonneg prices nonneg
  cases fixed : info.priceData.usePrice with
  | true =>
    have same : requestPrice settings info { usage with completionTokens := longer } =
        requestPrice settings info usage := by
      simp [requestPrice, fixed]
    rw [same]
    exact finalQuota_still still (quotaFromDecimalChecked_nonneg price)
  | false =>
    simp only [requestPrice, fixed, Bool.false_eq_true, if_false]
    rw [textCounts_longer reported longer]
    exact finalQuota_mono still
      (amount_nonneg prices nonneg creation_nonneg (requestSurcharge_nonneg prices))
      (amount_mono prices (textCounts settings info (some usage)) le _)

/-- The quota is that of one request, at least one unit where anything is charged, and no part of
the input is charged a negative number of tokens.  It does not fall when the answer gets longer,
if the cache writes are not inferred from the cost. -/
theorem textQuota_bounds (prices : NonNegPrices settings info) (nonneg : NonNegCounts usage) :
    let summary := calculateTextQuotaSummary settings info (some usage)
    (0 ≤ summary.quota ∧ summary.quota ≤ maxQuota) ∧
      (hasBillableUsage summary.totalTokens summary.toolCallSurchargeQuota = true →
        info.ratio ≠ 0 → 1 ≤ summary.quota) ∧
      (¬InferredFromCost settings info usage → ∀ longer, usage.completionTokens ≤ longer →
        summary.quota ≤ (calculateTextQuotaSummary settings info
          (some { usage with completionTokens := longer })).quota) ∧
      ((textCounts settings info (some usage)).chargedInput summary.audioInputPrice).NonNeg := by
  have price := quotaFromDecimalChecked_nonneg (requestPrice_nonneg prices nonneg)
  refine ⟨⟨zero_le_finalQuota price, finalQuota_le (quotaFromDecimalChecked_le _)⟩, ?_, ?_, ?_⟩
  · intro billable priced
    have one := one_le_finalQuota price priced
    rw [← billable] at one
    exact one
  · exact fun reported longer le => quota_longer prices nonneg reported le
  · exact chargedInput_nonneg nonneg creation_nonneg _

/-- A model on OpenRouter, at its default ratio. -/
def openRouterInfo : TextRelayInfo where
  billingModelName := "grok-2"
  priceData :=
    { modelPrice := -1
      modelRatio := 1
      completionRatio := 1
      cacheRatio := 1
      cacheCreationRatio := 11
      groupRatioInfo := ⟨1, 0, false, 0, false⟩ }
  openRouter := true

def openRouterSettings : TextQuotaSettings where
  quotaPerUnit := 500000
  toolPrices := ⟨∅, ∅⟩
  defaultModelRatio := (∅ : GoMap String ℚ).insert "grok-2" 1

/-- A usage whose cost is that of its prompt and of half a cache write. -/
def costedUsage (completionTokens : Int) : Usage where
  promptTokens := 100
  completionTokens := completionTokens
  usageSemantic := "anthropic"
  cost := .number (105 / 500000)

theorem reportedUsage_bounds :
    NonNegPrices openRouterSettings { openRouterInfo with openRouter := false } ∧
      NonNegCounts (costedUsage 0) ∧
      ¬InferredFromCost openRouterSettings { openRouterInfo with openRouter := false }
        (costedUsage 0) ∧
      (calculateTextQuotaSummary openRouterSettings { openRouterInfo with openRouter := false }
        (some (costedUsage 0))).quota ≤
      (calculateTextQuotaSummary openRouterSettings { openRouterInfo with openRouter := false }
        (some (costedUsage 1))).quota := by
  have prices : NonNegPrices openRouterSettings { openRouterInfo with openRouter := false } := by
    constructor <;> decide +kernel
  have nonneg : NonNegCounts (costedUsage 0) := by constructor <;> decide
  have reported : ¬InferredFromCost openRouterSettings
      { openRouterInfo with openRouter := false } (costedUsage 0) := by
    rintro ⟨openRouter, -, -⟩
    cases openRouter
  exact ⟨prices, nonneg, reported, (textQuota_bounds prices nonneg).2.2.1 reported 1 (by decide)⟩

/-- With one more token of the answer, the inferred cache write is rounded away, which was charged
as eleven tokens. -/
theorem longer_answer_cheaper :
    NonNegPrices openRouterSettings openRouterInfo ∧ NonNegCounts (costedUsage 0) ∧
      (calculateTextQuotaSummary openRouterSettings openRouterInfo
        (some (costedUsage 0))).quota = 110 ∧
      (calculateTextQuotaSummary openRouterSettings openRouterInfo
        (some (costedUsage 1))).quota = 101 := by
  refine ⟨?_, ?_, ?_, ?_⟩
  · constructor <;> decide +kernel
  · constructor <;> decide
  · decide +kernel
  · decide +kernel

end AiHub.Service
