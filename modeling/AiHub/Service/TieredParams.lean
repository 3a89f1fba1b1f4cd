import AiHub.Billingexpr.Snapshot
import AiHub.Service.TextQuotaBounds

/-!
# The token parameters of tiered billing

A billing expression prices tokens by variables.  The prompt that it sees is without the parts
that it prices by variables of their own.  Ratio billing divides the same input by its own rules.
The two count the same tokens except where the usage is Claude's: there the expression does not
see cache writes that no lifetime is reported for, and counts images and audio twice.
-/

namespace AiHub.Service

open AiHub.Library AiHub.Common AiHub.Types AiHub.Relaykit AiHub.Billingexpr TextCounts

/-- A part that the expression prices by a variable of its own. -/
def usedPart (usedVars : String → Bool) (name : String) (count : Int) : Int :=
  if usedVars name then count else 0

def buildTieredTokenParams (usage : Usage) (isClaudeUsageSemantic : Bool)
    (usedVars : String → Bool) : TokenParams :=
  let p := usage.promptTokens
  let c := usage.completionTokens
  let cr := usage.promptTokensDetails.cachedTokens
  let anthropic := decide (usage.usageSemantic = "anthropic")
  let cc5m :=
    if anthropic then usage.claudeCacheCreation5mTokens
    else usage.promptTokensDetails.cacheCreationTokensTotal
  let cc1h := if anthropic then usage.claudeCacheCreation1hTokens else 0
  let img := usage.promptTokensDetails.imageTokens
  let ai := usage.promptTokensDetails.audioTokens
  let imgO := usage.completionTokenDetails.imageTokens
  let ao := usage.completionTokenDetails.audioTokens
  let inputLen := if isClaudeUsageSemantic then p + cr + cc5m + cc1h else p
  let part := usedPart usedVars
  let p :=
    if isClaudeUsageSemantic then p
    else p - part "cr" cr - part "cc" cc5m - part "cc1h" cc1h - part "img" img - part "ai" ai
  let c := if isClaudeUsageSemantic then c else c - part "img_o" imgO - part "ao" ao
  { p := if p < 0 then 0 else p
    c := if c < 0 then 0 else c
    len := inputLen
    cr := cr
    cc := cc5m
    cc1h := cc1h
    img := img
    imgO := imgO
    ai := ai
    ao := ao }

/-! ## The input as it is counted -/

/-- The input variables that are meant to be disjoint: the prompt, the cache where the prompt does
not include it, and the parts that the expression prices by themselves. -/
def countedInput (params : TokenParams) (isClaudeUsageSemantic : Bool)
    (usedVars : String → Bool) : Int :=
  let cache name count := if isClaudeUsageSemantic then count else usedPart usedVars name count
  params.p + cache "cr" params.cr + cache "cc" params.cc + cache "cc1h" params.cc1h +
    usedPart usedVars "img" params.img + usedPart usedVars "ai" params.ai

def ChargedInput.total (input : ChargedInput) : Int :=
  input.base + input.cached + input.creation + input.creation5m + input.creation1h +
    input.image + input.audio

/-- The split of the cache writes is a part of their total. -/
structure BoundedCounts (usage : Usage) : Prop extends NonNegCounts usage where
  split : usage.claudeCacheCreation5mTokens + usage.claudeCacheCreation1hTokens ≤
    usage.promptTokensDetails.cacheCreationTokensTotal

variable {settings : TextQuotaSettings} {info : TextRelayInfo} {usage : Usage}
  {usedVars : String → Bool}

theorem usedPart_nonneg {name : String} {count : Int} (nonneg : 0 ≤ count) :
    0 ≤ usedPart usedVars name count := by
  unfold usedPart
  split
  · exact nonneg
  · exact le_rfl

/-- The images and the audio that the expression prices by themselves. -/
def usedMedia (usage : Usage) (usedVars : String → Bool) : Int :=
  usedPart usedVars "img" usage.promptTokensDetails.imageTokens +
    usedPart usedVars "ai" usage.promptTokensDetails.audioTokens

/-- All parts of an OpenAI prompt that the expression prices by themselves. -/
def usedParts (usage : Usage) (usedVars : String → Bool) : Int :=
  usedPart usedVars "cr" usage.promptTokensDetails.cachedTokens +
    usedPart usedVars "cc" usage.promptTokensDetails.cacheCreationTokensTotal +
    usedMedia usage usedVars

theorem countedInput_openAI (labelled : usage.usageSemantic ≠ "anthropic") :
    countedInput (buildTieredTokenParams usage false usedVars) false usedVars =
      max usage.promptTokens (usedParts usage usedVars) := by
  have none : usedPart usedVars "cc1h" 0 = 0 := by
    unfold usedPart
    split <;> rfl
  simp only [countedInput, buildTieredTokenParams, labelled, decide_false,
    Bool.false_eq_true, if_false, none, usedParts, usedMedia]
  split <;> omega

theorem countedInput_claude (nonneg : 0 ≤ usage.promptTokens) :
    let params := buildTieredTokenParams usage true usedVars
    countedInput params true usedVars =
      usage.promptTokens + usage.promptTokensDetails.cachedTokens + (params.cc + params.cc1h) +
        usedMedia usage usedVars := by
  simp only [countedInput, buildTieredTokenParams, if_true, usedMedia, if_neg (not_lt.mpr nonneg)]
  omega

theorem total_includesCache {counts : TextCounts} (includes : counts.promptIncludesCache = true)
    (audioInputPrice : ℚ) :
    (counts.chargedInput audioInputPrice).total =
      max counts.promptTokens (counts.cacheTokens + counts.cacheCreationTokens +
        counts.imageTokens + counts.chargedAudio audioInputPrice) := by
  have creation : counts.chargedCreation = (counts.cacheCreationTokens, 0, 0) := by
    unfold chargedCreation
    split
    · rename_i none
      rw [none.1]
    · rfl
  simp only [ChargedInput.total, chargedInput, creation, baseTokens, includes,
    if_true]
  split <;> omega

theorem total_withoutCache {counts : TextCounts} (without : counts.promptIncludesCache = false)
    (split : counts.cacheCreationTokens5m + counts.cacheCreationTokens1h ≤
      counts.cacheCreationTokens) (audioInputPrice : ℚ) :
    (counts.chargedInput audioInputPrice).total =
      max counts.promptTokens (counts.imageTokens + counts.chargedAudio audioInputPrice) +
        counts.cacheTokens + counts.cacheCreationTokens := by
  have creation : counts.chargedCreation.1 + counts.chargedCreation.2.1 +
      counts.chargedCreation.2.2 = counts.cacheCreationTokens := by
    unfold chargedCreation
    split
    · rename_i none
      exact none.1.symm
    · simp only [without, Bool.false_eq_true, if_false]
      omega
  have base : counts.baseTokens audioInputPrice +
      (counts.imageTokens + counts.chargedAudio audioInputPrice) =
        max counts.promptTokens (counts.imageTokens + counts.chargedAudio audioInputPrice) := by
    simp only [baseTokens, without, Bool.false_eq_true, if_false]
    split <;> omega
  simp only [ChargedInput.total, chargedInput]
  omega

/-! ## Where both count the same -/

/-- The audio that ratio billing charges at a price of its own. -/
def pricedAudio (info : TextRelayInfo) (usage : Usage) : Int :=
  if audioInputPriceOf info usage.promptTokensDetails.audioTokens > 0 then
    usage.promptTokensDetails.audioTokens
  else 0

/-- The cache writes that ratio billing adds to the reported ones, inferred from the cost. -/
def inferredCreation (settings : TextQuotaSettings) (info : TextRelayInfo) (usage : Usage) : Int :=
  if info.openRouter then
    openRouterCacheCreation settings info usage
        (usage.promptTokens - usage.promptTokensDetails.cachedTokens)
        usage.promptTokensDetails.cacheCreationTokensTotal -
      usage.promptTokensDetails.cacheCreationTokensTotal
  else 0

/-- Claude's usage: every cache write has a lifetime if lifetimes are read, the expression prices
no images or audio by themselves, and OpenRouter, whose prompt includes the cache, has nothing in
it.  Otherwise images and audio have to make up for what is counted twice. -/
def CountedAlikeClaude (settings : TextQuotaSettings) (info : TextRelayInfo) (usage : Usage)
    (usedVars : String → Bool) : Prop :=
  let details := usage.promptTokensDetails
  let apart := details.imageTokens + pricedAudio info usage + inferredCreation settings info usage
  (usage.usageSemantic = "anthropic" →
      usage.claudeCacheCreation5mTokens + usage.claudeCacheCreation1hTokens =
        details.cacheCreationTokensTotal) ∧
    (usedMedia usage usedVars = 0 ∧ apart ≤ usage.promptTokens ∧
        (info.openRouter = true → details.cachedTokens + details.cacheCreationTokensTotal = 0) ∨
      apart = usage.promptTokens + usedMedia usage usedVars)

/-- OpenAI's usage: the parts that are priced apart fit into the prompt, or are the same. -/
def CountedAlikeOpenAI (info : TextRelayInfo) (usage : Usage) (usedVars : String → Bool) : Prop :=
  let details := usage.promptTokensDetails
  let apart := details.cachedTokens + details.cacheCreationTokensTotal + details.imageTokens +
    pricedAudio info usage
  usedParts usage usedVars ≤ usage.promptTokens ∧ apart ≤ usage.promptTokens ∨
    usedParts usage usedVars = apart

/-- Usage of Claude that ratio billing knows from its split of cache writes, and the expression
takes for OpenAI's. -/
def CountedAlikeLegacy (info : TextRelayInfo) (usage : Usage) (usedVars : String → Bool) : Prop :=
  let details := usage.promptTokensDetails
  usedParts usage usedVars =
    max usage.promptTokens (details.imageTokens + pricedAudio info usage) +
      details.cachedTokens + details.cacheCreationTokensTotal

def CountedAlike (settings : TextQuotaSettings) (info : TextRelayInfo) (usage : Usage)
    (usedVars : String → Bool) : Prop :=
  if usageSemanticFromUsage info (some usage) = "anthropic" then
    CountedAlikeClaude settings info usage usedVars
  else if isLegacyClaudeDerivedOpenAIUsage info usage then CountedAlikeLegacy info usage usedVars
  else CountedAlikeOpenAI info usage usedVars

theorem semantic_of_labelled (labelled : usage.usageSemantic = "anthropic") :
    usageSemanticFromUsage info (some usage) = "anthropic" := by
  simp [usageSemanticFromUsage, labelled]

theorem inferredCreation_nonneg : 0 ≤ inferredCreation settings info usage := by
  unfold inferredCreation openRouterCacheCreation
  split
  · split
    · rename_i inferring
      have none : usage.promptTokensDetails.cacheCreationTokensTotal = 0 := by
        simp only [infersCacheCreation, Bool.and_eq_true, decide_eq_true_eq] at inferring
        exact inferring.1.1
      dsimp only
      split <;> omega
    · omega
  · exact le_rfl

theorem isClaude_textCounts {claude : Bool}
    (semantic : decide (usageSemanticFromUsage info (some usage) = "anthropic") = claude) :
    (textCounts settings info (some usage)).isClaude = claude := semantic

theorem billed_textCounts {claude : Bool}
    (semantic : decide (usageSemanticFromUsage info (some usage) = "anthropic") = claude) :
    ((textCounts settings info (some usage)).promptTokens,
        (textCounts settings info (some usage)).cacheCreationTokens) =
      billedPrompt settings info claude usage := by
  rw [← semantic]
  rfl

/-- The counts of a prompt that is billed as reported. -/
theorem billed_other {claude : Bool}
    (semantic : decide (usageSemanticFromUsage info (some usage) = "anthropic") = claude)
    (other : ¬(info.openRouter = true ∧ claude = true)) :
    let counts := textCounts settings info (some usage)
    counts.promptTokens = usage.promptTokens ∧
      counts.cacheCreationTokens = usage.promptTokensDetails.cacheCreationTokensTotal :=
  Prod.mk.inj ((billed_textCounts semantic).trans (if_neg other))

/-- The input of Claude's usage that ratio billing charges. -/
theorem chargedTotal_claude (claude : usageSemanticFromUsage info (some usage) = "anthropic")
    (bounded : BoundedCounts usage) :
    let counts := textCounts settings info (some usage)
    (counts.chargedInput (audioInputPriceOf info counts.audioTokens)).total =
      max (usage.promptTokens - (if info.openRouter then
            usage.promptTokensDetails.cachedTokens +
              usage.promptTokensDetails.cacheCreationTokensTotal +
              inferredCreation settings info usage
          else 0))
          (usage.promptTokensDetails.imageTokens + pricedAudio info usage) +
        usage.promptTokensDetails.cachedTokens +
        usage.promptTokensDetails.cacheCreationTokensTotal +
        inferredCreation settings info usage := by
  intro counts
  have isClaude : counts.isClaude = true := isClaude_textCounts (decide_eq_true claude)
  have without : counts.promptIncludesCache = false := by
    simp [promptIncludesCache, isClaude]
  have inferred := @inferredCreation_nonneg settings info usage
  have split := bounded.split
  cases openRouter : info.openRouter with
  | true =>
    have billed := @billed_textCounts settings info usage true (decide_eq_true claude)
    simp only [billedPrompt, openRouter, and_self, if_true] at billed
    obtain ⟨prompt, creation⟩ := Prod.mk.inj billed
    have inferredAll : inferredCreation settings info usage = _ := if_pos openRouter
    have writes : counts.cacheCreationTokens5m + counts.cacheCreationTokens1h ≤
        counts.cacheCreationTokens := by
      rw [creation]
      exact split.trans (by omega)
    rw [total_withoutCache without writes, prompt, creation, if_pos rfl]
    change max _ (usage.promptTokensDetails.imageTokens + pricedAudio info usage) +
      usage.promptTokensDetails.cachedTokens + _ = _
    omega
  | false =>
    obtain ⟨prompt, creation⟩ := @billed_other settings info usage true (decide_eq_true claude)
      (by simp [openRouter])
    have none : inferredCreation settings info usage = 0 := by
      simp [inferredCreation, openRouter]
    rw [total_withoutCache without (creation ▸ split), prompt, creation, none]
    simp only [Bool.false_eq_true, if_false, sub_zero, add_zero]
    rfl

/-- The input of OpenAI's usage that ratio billing charges. -/
theorem chargedTotal_openAI (openAI : usageSemanticFromUsage info (some usage) ≠ "anthropic")
    (notLegacy : isLegacyClaudeDerivedOpenAIUsage info usage = false) :
    let counts := textCounts settings info (some usage)
    (counts.chargedInput (audioInputPriceOf info counts.audioTokens)).total =
      max usage.promptTokens (usage.promptTokensDetails.cachedTokens +
        usage.promptTokensDetails.cacheCreationTokensTotal +
        usage.promptTokensDetails.imageTokens + pricedAudio info usage) := by
  intro counts
  have isClaude : counts.isClaude = false := isClaude_textCounts (decide_eq_false openAI)
  have legacy : counts.legacyClaudeDerived = false := notLegacy
  have includes : counts.promptIncludesCache = true := by
    simp [promptIncludesCache, isClaude, legacy]
  obtain ⟨prompt, creation⟩ := @billed_other settings info usage false (decide_eq_false openAI)
    (by simp)
  rw [total_includesCache includes, prompt, creation]
  rfl

/-- The input of Claude's usage without a label that ratio billing charges. -/
theorem chargedTotal_legacy (openAI : usageSemanticFromUsage info (some usage) ≠ "anthropic")
    (isLegacy : isLegacyClaudeDerivedOpenAIUsage info usage = true)
    (bounded : BoundedCounts usage) :
    let counts := textCounts settings info (some usage)
    (counts.chargedInput (audioInputPriceOf info counts.audioTokens)).total =
      max usage.promptTokens (usage.promptTokensDetails.imageTokens + pricedAudio info usage) +
        usage.promptTokensDetails.cachedTokens +
        usage.promptTokensDetails.cacheCreationTokensTotal := by
  intro counts
  have legacy : counts.legacyClaudeDerived = true := isLegacy
  have without : counts.promptIncludesCache = false := by
    simp [promptIncludesCache, legacy]
  obtain ⟨prompt, creation⟩ := @billed_other settings info usage false (decide_eq_false openAI)
    (by simp)
  rw [total_withoutCache without (creation ▸ bounded.split), prompt, creation]
  rfl

/-- The expression sees all cache writes if lifetimes are read only where they are complete. -/
theorem paramsCreation_iff {isClaude : Bool} :
    let params := buildTieredTokenParams usage isClaude usedVars
    params.cc + params.cc1h = usage.promptTokensDetails.cacheCreationTokensTotal ↔
      (usage.usageSemantic = "anthropic" →
        usage.claudeCacheCreation5mTokens + usage.claudeCacheCreation1hTokens =
          usage.promptTokensDetails.cacheCreationTokensTotal) := by
  by_cases labelled : usage.usageSemantic = "anthropic"
  · simp [buildTieredTokenParams, labelled]
  · simp [buildTieredTokenParams, labelled]

/-- Tiered billing counts every token of the input once, as ratio billing charges it, exactly
where the two count alike. -/
theorem tieredInput_iff (settings : TextQuotaSettings) (info : TextRelayInfo) (usage : Usage)
    (usedVars : String → Bool) (bounded : BoundedCounts usage) :
    let counts := textCounts settings info (some usage)
    let params := buildTieredTokenParams usage counts.isClaude usedVars
    params.cc + params.cc1h = usage.promptTokensDetails.cacheCreationTokensTotal ∧
        params.cr = usage.promptTokensDetails.cachedTokens ∧
        countedInput params counts.isClaude usedVars =
          (counts.chargedInput (audioInputPriceOf info counts.audioTokens)).total ↔
      CountedAlike settings info usage usedVars := by
  have prompt := bounded.prompt
  have media : 0 ≤ usedMedia usage usedVars :=
    add_nonneg (usedPart_nonneg bounded.image) (usedPart_nonneg bounded.audio)
  have created := usage.promptTokensDetails.cacheCreationTokensTotal_nonneg
  have cached := bounded.cached
  simp only [paramsCreation_iff]
  by_cases claude : usageSemanticFromUsage info (some usage) = "anthropic"
  · rw [CountedAlike, if_pos claude, CountedAlikeClaude,
      @isClaude_textCounts settings info usage true (decide_eq_true claude),
      chargedTotal_claude claude bounded, countedInput_claude prompt]
    refine and_congr_right fun complete => ?_
    have creation := (@paramsCreation_iff usage usedVars true).mpr complete
    rw [creation]
    refine (and_iff_right rfl).trans ?_
    cases openRouter : info.openRouter with
    | true =>
      simp only [if_true, true_imp_iff]
      omega
    | false =>
      have none : inferredCreation settings info usage = 0 := by
        simp [inferredCreation, openRouter]
      simp only [Bool.false_eq_true, if_false, false_imp_iff, and_true, none]
      omega
  · have labelled : usage.usageSemantic ≠ "anthropic" := fun labelled =>
      claude (semantic_of_labelled labelled)
    rw [CountedAlike, if_neg claude,
      @isClaude_textCounts settings info usage false (decide_eq_false claude),
      countedInput_openAI labelled]
    refine (and_iff_right fun known => absurd known labelled).trans ((and_iff_right rfl).trans ?_)
    cases legacy : isLegacyClaudeDerivedOpenAIUsage info usage with
    | true =>
      -- The split of such a usage is not empty, so ratio billing charges more than the prompt.
      have written : usage.claudeCacheCreation5mTokens > 0 ∨
          usage.claudeCacheCreation1hTokens > 0 := by
        simp only [isLegacyClaudeDerivedOpenAIUsage, Bool.and_eq_true, decide_eq_true_eq] at legacy
        exact legacy.2
      have split := bounded.split
      have written5m := bounded.creation5m
      have written1h := bounded.creation1h
      rw [chargedTotal_legacy claude legacy bounded, if_pos rfl, CountedAlikeLegacy]
      omega
    | false =>
      rw [chargedTotal_openAI claude legacy, if_neg Bool.false_ne_true, CountedAlikeOpenAI]
      omega

/-- Claude's usage with cache writes, of which the lifetimes are reported or not. -/
def cachedUsage (tokens5m tokens1h : Int) : Usage where
  promptTokens := 10
  usageSemantic := "anthropic"
  promptTokensDetails := { cachedTokens := 3, cachedCreationTokens := 100 }
  claudeCacheCreation5mTokens := tokens5m
  claudeCacheCreation1hTokens := tokens1h

def unitSettings : TextQuotaSettings where
  quotaPerUnit := 500000
  toolPrices := ⟨∅, ∅⟩
  defaultModelRatio := ∅

def unpricedInfo : TextRelayInfo where
  billingModelName := "claude-sonnet-4"
  priceData := {}

theorem splitUsage_counted :
    BoundedCounts (cachedUsage 60 40) ∧
      CountedAlike unitSettings unpricedInfo (cachedUsage 60 40) (fun _ => true) ∧
      countedInput (buildTieredTokenParams (cachedUsage 60 40) true fun _ => true) true
        (fun _ => true) = 113 := by
  have bounded : BoundedCounts (cachedUsage 60 40) := by
    refine ⟨?_, by decide⟩
    constructor <;> decide
  have alike : CountedAlike unitSettings unpricedInfo (cachedUsage 60 40) fun _ => true := by
    rw [CountedAlike, if_pos (by decide), CountedAlikeClaude]
    decide +kernel
  have counted := (tieredInput_iff unitSettings unpricedInfo _ _ bounded).mpr alike
  exact ⟨bounded, alike, counted.2.2.trans (by decide +kernel)⟩

/-- Without lifetimes, the expression sees none of the hundred cache writes that ratio billing
charges. -/
theorem unsplit_creation_unseen :
    BoundedCounts (cachedUsage 0 0) ∧
      let counts := textCounts unitSettings unpricedInfo (some (cachedUsage 0 0))
      let params := buildTieredTokenParams (cachedUsage 0 0) counts.isClaude fun _ => true
      (cachedUsage 0 0).promptTokensDetails.cacheCreationTokensTotal = 100 ∧
        params.cc + params.cc1h = 0 ∧
        countedInput params counts.isClaude (fun _ => true) = 13 ∧
        (counts.chargedInput (audioInputPriceOf unpricedInfo counts.audioTokens)).total = 113 := by
  refine ⟨⟨?_, by decide⟩, ?_⟩
  · constructor <;> decide
  · decide +kernel

end AiHub.Service
