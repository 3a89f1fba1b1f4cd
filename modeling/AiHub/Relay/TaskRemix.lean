import AiHub.Library.Stages
import AiHub.Relay.TaskSubmit

/-!
# What a remix costs

A remix is meant to be charged with the ratios of its origin, such as the length of the video.
The resolution of the origin puts these ratios into the price data; the attempt then replaces
the price data by the base price and adds the plugin's own ratios only.  So the ratios of the
origin are charged only where the plugin happens to return the same product under their names.
-/

namespace AiHub.Relay

open AiHub.Library AiHub.Common AiHub.Types AiHub.Billingexpr

variable {settings : TaskPriceSettings} {user : RelayUser} {attempt : TaskAttempt}
  {adaptor : TaskAdaptor} {info between priced : TaskRelayInfo} {modelName : String}

/-! ## The price of an attempt -/

theorem perCallPrice_otherRatios {group : GroupRatioInfo} {price : PriceData}
    (found : modelPriceHelperPerCall settings user modelName group = .ok price) :
    price.otherRatios = .empty := by
  unfold modelPriceHelperPerCall at found
  split at found
  · split at found
    · cases found
    · cases found
      rfl
  · dsimp only at found
    split at found
    · cases found
    split at found
    · cases found
    · cases found
      rfl

/-- An attempt without a snapshot is priced by the price or the ratio of the model, and the
price data is a new one. -/
theorem basePrice_ratios {price : PriceData}
    (done : basePrice settings user attempt adaptor modelName info = .ok price priced)
    (untiered : priced.tieredBillingSnapshot = none) :
    priced = { info with usingGroup := usedGroup attempt info } ∧
      modelPriceHelperPerCall settings user info.names.originModelName
        (settings.resolveGroupRatio user.userGroup priced.usingGroup
          info.names.originModelName) = .ok price := by
  unfold basePrice at done
  split at done
  · unfold priceByExpr at done
    split at done
    · cases done
    · cases done
      cases untiered
  · cases done
  · obtain ⟨group, chosen, grouped, done⟩ := bind_eq_ok_iff.mp done
    cases grouped
    split at done
    · cases done
    · rename_i found
      cases done
      exact ⟨rfl, found⟩

/-- The names of the attempt end with the model that is billed. -/
theorem resolveNames_originModelName
    (done : resolveNames attempt adaptor info = .ok modelName between) :
    between.names.originModelName = modelName := by
  obtain ⟨_, _, _, done⟩ := bind_eq_ok_iff.mp done
  obtain ⟨_, _, _, done⟩ := bind_eq_ok_iff.mp done
  obtain ⟨_, _, _, done⟩ := bind_eq_ok_iff.mp done
  obtain ⟨_, _, _, done⟩ := bind_eq_ok_iff.mp done
  obtain ⟨_, _, named, done⟩ := bind_eq_ok_iff.mp done
  obtain ⟨rfl, rfl⟩ := pure_eq_ok_iff.mp done
  cases named
  rfl

theorem estimateRatios_snapshot (done : estimateRatios adaptor info = .ok () between) :
    between.tieredBillingSnapshot = info.tieredBillingSnapshot := by
  unfold estimateRatios at done
  split at done
  · split at done
    · cases done
    · cases done
      rfl
  · cases done
    rfl

theorem estimateRatios_ratios (done : estimateRatios adaptor info = .ok () between)
    (untiered : info.tieredBillingSnapshot = none) :
    ∃ estimated, adaptor.estimateBilling info.names = .ok estimated ∧
      between =
        { info with
          priceData :=
            { info.priceData with
              otherRatios := info.priceData.otherRatios.addAll estimated } } := by
  unfold estimateRatios at done
  rw [if_pos untiered] at done
  split at done
  · cases done
  · rename_i estimated found
    cases done
    exact ⟨estimated, found, rfl⟩

theorem applyRatios_snapshot (done : applyRatios settings modelName info = .ok () between) :
    between.tieredBillingSnapshot = info.tieredBillingSnapshot := by
  unfold applyRatios at done
  split at done
  · cases done
    rfl
  · cases done
    rfl

/-- An attempt without a snapshot charges the base price with the ratios of the plugin. -/
theorem priceSubmission_ratios
    (done : priceSubmission settings user attempt adaptor info = .ok modelName priced)
    (untiered : priced.tieredBillingSnapshot = none)
    (applied : modelName ∉ settings.taskPricePatches) :
    ∃ base estimated,
      modelPriceHelperPerCall settings user modelName
        (settings.resolveGroupRatio user.userGroup priced.usingGroup modelName) = .ok base ∧
      adaptor.estimateBilling priced.names = .ok estimated ∧
      priced.priceData.otherRatios = OtherRatios.empty.addAll estimated ∧
      priced.priceData.quota =
        quotaFromFloat (priced.priceData.applyOtherRatiosToFloat base.quota) := by
  obtain ⟨model, named, names, done⟩ := bind_eq_ok_iff.mp done
  obtain ⟨base, based, priceIs, done⟩ := bind_eq_ok_iff.mp done
  obtain ⟨_, started, start, done⟩ := bind_eq_ok_iff.mp done
  obtain ⟨_, estimatedInfo, estimate, done⟩ := bind_eq_ok_iff.mp done
  obtain ⟨_, _, apply, done⟩ := bind_eq_ok_iff.mp done
  obtain ⟨rfl, rfl⟩ := pure_eq_ok_iff.mp done
  cases start
  have untieredEstimate := (applyRatios_snapshot apply).symm.trans untiered
  have untieredBase : based.tieredBillingSnapshot = none :=
    (estimateRatios_snapshot estimate).symm.trans untieredEstimate
  obtain ⟨rfl, found⟩ := basePrice_ratios priceIs untieredBase
  obtain ⟨estimated, estimatedIs, rfl⟩ := estimateRatios_ratios estimate untieredBase
  rw [applyRatios, if_pos ⟨untieredEstimate, applied⟩] at apply
  cases apply
  rw [resolveNames_originModelName names] at found
  exact ⟨base, estimated, found, estimatedIs,
    congrArg (OtherRatios.addAll · estimated) (perCallPrice_otherRatios found), rfl⟩

/-! ## The ratios of the origin -/

/-- The ratios of the video that a remix names. -/
def originRatios (tables : OriginTables) (videoID : String) : OtherRatios :=
  match tables.task videoID with
  | .ok (some origin) => (originPriceData origin {}).otherRatios
  | _ => .empty

/-- What a sequence of attempts leaves in the relay information. -/
def afterAttempts (settings : TaskPriceSettings) (user : RelayUser)
    (attempts : List TaskAttempt) (info : TaskRelayInfo) : TaskRelayInfo :=
  attempts.foldl (fun info attempt => stateAfter (relayTaskSubmit settings user attempt info)) info

/-- A remix up to the price of an attempt: its origin is resolved once, before all attempts. -/
def remixSubmission (settings : TaskPriceSettings) (user : RelayUser) (tables : OriginTables)
    (videoID : String) (earlier : List TaskAttempt) (attempt : TaskAttempt) :
    SubmitM (TaskAdaptor × String) := do
  resolveOriginTask tables true videoID
  fun info => priceAttempt settings user attempt (afterAttempts settings user earlier info)

/-- The amount that a remix is meant to cost: the base price with the ratios of the origin, and
with those of the plugin that have other names. -/
def remixAmount (base : PriceData) (origin added : OtherRatios) : ℚ :=
  base.quota * origin.product * ∏ name ∈ added.names \ origin.names, added.ratio name

theorem charged_eq_remixAmount_iff (base : PriceData) (origin added : OtherRatios) :
    base.quota * added.product = remixAmount base origin added ↔
      base.quota = 0 ∨ origin.product = ∏ name ∈ added.names ∩ origin.names, added.ratio name := by
  have others : 0 < ∏ name ∈ added.names \ origin.names, added.ratio name :=
    Finset.prod_pos fun name _ => added.ratio_pos name
  have split : added.product =
      (∏ name ∈ added.names ∩ origin.names, added.ratio name) *
        ∏ name ∈ added.names \ origin.names, added.ratio name :=
    (Finset.prod_inter_mul_prod_sdiff added.names origin.names added.ratio).symm
  rw [remixAmount, split, mul_assoc, mul_eq_mul_left_iff, mul_left_inj' others.ne',
    Int.cast_eq_zero, or_comm, @eq_comm _ origin.product]

/-- A remix that is priced by ratios costs the base price with the plugin's ratios, and this is
the price with the origin's ratios exactly if the model is free or the plugin returns the
product of the origin's ratios under their names. -/
theorem remix_charged_iff {tables : OriginTables} {videoID : String} {earlier : List TaskAttempt}
    (submitted : remixSubmission settings user tables videoID earlier attempt info =
      .ok (adaptor, modelName) priced)
    (untiered : priced.tieredBillingSnapshot = none)
    (applied : modelName ∉ settings.taskPricePatches) :
    ∃ base estimated,
      modelPriceHelperPerCall settings user modelName
        (settings.resolveGroupRatio user.userGroup priced.usingGroup modelName) = .ok base ∧
      adaptor.estimateBilling priced.names = .ok estimated ∧
      priced.priceData.quota =
        quotaFromFloat (priced.priceData.applyOtherRatiosToFloat base.quota) ∧
      (priced.priceData.applyOtherRatiosToFloat base.quota =
          remixAmount base (originRatios tables videoID) (OtherRatios.empty.addAll estimated) ↔
        base.quota = 0 ∨
          (originRatios tables videoID).product =
            ∏ name ∈ (OtherRatios.empty.addAll estimated).names ∩
              (originRatios tables videoID).names,
              (OtherRatios.empty.addAll estimated).ratio name) := by
  obtain ⟨_, resolved, _, done⟩ := bind_eq_ok_iff.mp submitted
  obtain ⟨_, _, _, done⟩ := bind_eq_ok_iff.mp done
  obtain ⟨_, _, _, done⟩ := bind_eq_ok_iff.mp done
  obtain ⟨_, _, _, done⟩ := bind_eq_ok_iff.mp done
  obtain ⟨_, _, price, done⟩ := bind_eq_ok_iff.mp done
  obtain ⟨same, rfl⟩ := pure_eq_ok_iff.mp done
  cases same
  obtain ⟨base, estimated, found, estimatedIs, ratios, quota⟩ :=
    priceSubmission_ratios price untiered applied
  refine ⟨base, estimated, found, estimatedIs, quota, ?_⟩
  rw [PriceData.applyOtherRatiosToFloat_eq, ratios]
  exact charged_eq_remixAmount_iff base _ _

/-! ## A remix of three seconds -/

/-- A model that costs ten for each second. -/
def tenPerSecond : TaskPriceSettings where
  quotaPerUnit := 1
  formatMatchingModelName := id
  modelPriceMap := fun _ => some 10
  defaultModelPriceMap := fun _ => none
  modelRatioMap := fun _ => none
  selfUseModeEnabled := false
  enableFreeModelPreConsume := false
  taskPricePatches := []
  resolveGroupRatio := fun _ _ _ => ⟨1, -1, false, 0, false⟩
  isTieredExpr := fun _ => false
  billingExpr := fun _ => none
  runExpr := fun _ _ => .error ""

/-- A plugin that reads some ratios from the request. -/
def estimating (estimated : GoMap String ℚ) : TaskAdaptor where
  decodeRequest := none
  resolvedTaskModel := none
  validateBasicTaskRequest := .ok "r"
  validateResolvedUsageRequest := fun _ => .ok ()
  buildSubmitRequest := fun _ => .ok ⟨"", "", ""⟩
  extractUsageFacts := fun _ => .ok none
  estimateBilling := fun _ => .ok estimated
  exchange := fun _ => .ok ⟨"t", "", none, ""⟩
  adjustBillingOnSubmit := fun _ _ => ∅

def attemptOn (adaptor : TaskAdaptor) : TaskAttempt where
  originalModel := "m"
  platform := "p"
  adaptor := .ok adaptor
  newTaskID := "n"
  modelMapping := fun _ => .ok none
  autoGroup := none
  openSession := fun _ => .ok ()

def plainUser : RelayUser := ⟨"g", false, false⟩

/-- The origin is a video of three seconds. -/
def threeSeconds : OriginTables where
  task := fun _ => .ok (some
    { originModelName := "m"
      upstreamModelName := "m"
      channelId := 1
      billingContext := some ⟨some (OtherRatios.empty.add "s" 3)⟩
      data := fun _ => none })
  channel := fun _ => .ok ⟨true, .ok "k"⟩

def freshInfo : TaskRelayInfo where
  names := ⟨"", "", "", "m", "", none⟩
  isModelMapped := false
  usingGroup := "g"
  channelId := 1
  lockedChannel := none
  priceData := {}
  tieredBillingSnapshot := none
  quotaClamp := none
  billing := false

/-- The plugin finds no length in the request of a remix, and one second is charged. -/
theorem remix_charged_without_seconds :
    (stateAfter (remixSubmission tenPerSecond plainUser threeSeconds "v" []
        (attemptOn (estimating ∅)) freshInfo)).priceData.quota = 10 ∧
      quotaFromFloat (10 * (originRatios threeSeconds "v").product) = 30 := by
  decide +kernel

/-- A plugin that finds the three seconds of the origin in the request. -/
def threeSecondsEstimate : GoMap String ℚ := (∅ : GoMap String ℚ).insert "s" 3

def pricedRemix : TaskRelayInfo :=
  stateAfter (remixSubmission tenPerSecond plainUser threeSeconds "v" []
    (attemptOn (estimating threeSecondsEstimate)) freshInfo)

theorem pricedRemix_charged :
    pricedRemix.priceData.quota = 30 ∧
    ∃ base estimated,
      modelPriceHelperPerCall tenPerSecond plainUser "m"
        (tenPerSecond.resolveGroupRatio plainUser.userGroup pricedRemix.usingGroup "m") = .ok base ∧
      (estimating threeSecondsEstimate).estimateBilling pricedRemix.names = .ok estimated ∧
      pricedRemix.priceData.quota =
        quotaFromFloat (pricedRemix.priceData.applyOtherRatiosToFloat base.quota) ∧
      (pricedRemix.priceData.applyOtherRatiosToFloat base.quota =
          remixAmount base (originRatios threeSeconds "v") (OtherRatios.empty.addAll estimated) ↔
        base.quota = 0 ∨
          (originRatios threeSeconds "v").product =
            ∏ name ∈ (OtherRatios.empty.addAll estimated).names ∩
              (originRatios threeSeconds "v").names,
              (OtherRatios.empty.addAll estimated).ratio name) :=
  ⟨by decide +kernel,
    remix_charged_iff
      (show remixSubmission tenPerSecond plainUser threeSeconds "v" []
          (attemptOn (estimating threeSecondsEstimate)) freshInfo =
        .ok (estimating threeSecondsEstimate, "m") pricedRemix by with_unfolding_all rfl)
      (by decide +kernel) (by decide)⟩

end AiHub.Relay
