import AiHub.Relaykit.Usage
import Mathlib

/-!
# Merging the usage of a Gemini stream

A Gemini stream repeats its usage in later chunks, and each time the counts are those of the whole
answer so far.  Merging lays the counters of a later snapshot over the earlier ones, but adds up
the details by modality.  So a detail that two snapshots report is counted twice, and merging the
last snapshot once more counts its details again.
-/

namespace AiHub.Relaykit

open AiHub.Library List

/-! ## Details by modality -/

section Details

variable (upperRune : Char → Char)

/-- A modality is compared in upper case; outside ASCII this is a table of Unicode. -/
def normalizeGeminiModality (modality : String) : String :=
  String.ofList ((trimSpace modality).toList.map fun char =>
    if char.toNat < 128 then char.toUpper else upperRune char)

/-- Add to the last entry with a modality, if there is one. -/
def addToLast (key : String) (count : Int) :
    List GeminiPromptTokensDetails → Option (List GeminiPromptTokensDetails)
  | [] => none
  | detail :: rest =>
    match addToLast key count rest with
    | some added => some (detail :: added)
    | none =>
      if normalizeGeminiModality upperRune detail.modality = key then
        some ({ detail with tokenCount := detail.tokenCount + count } :: rest)
      else none

/-- One detail of a later snapshot. -/
def addGeminiTokenDetail (merged : List GeminiPromptTokensDetails)
    (detail : GeminiPromptTokensDetails) : List GeminiPromptTokensDetails :=
  if detail.tokenCount ≤ 0 then merged
  else
    (addToLast upperRune (normalizeGeminiModality upperRune detail.modality) detail.tokenCount
      merged).getD (merged ++ [detail])

def mergeGeminiTokenDetails (current incoming : List GeminiPromptTokensDetails) :
    List GeminiPromptTokensDetails :=
  incoming.foldl (addGeminiTokenDetail upperRune) current

/-- The tokens of a modality, over all entries that name it. -/
def modalityCount (key : String) (details : List GeminiPromptTokensDetails) : Int :=
  (details.map fun detail =>
    if normalizeGeminiModality upperRune detail.modality = key then detail.tokenCount else 0).sum

variable {upperRune} {key : String}

@[simp] theorem modalityCount_cons (detail : GeminiPromptTokensDetails)
    (rest : List GeminiPromptTokensDetails) :
    modalityCount upperRune key (detail :: rest) =
      (if normalizeGeminiModality upperRune detail.modality = key then detail.tokenCount else 0) +
        modalityCount upperRune key rest := rfl

theorem modalityCount_append (first second : List GeminiPromptTokensDetails) :
    modalityCount upperRune key (first ++ second) =
      modalityCount upperRune key first + modalityCount upperRune key second := by
  simp [modalityCount]

variable {details : List GeminiPromptTokensDetails}

/-- Adding to an entry adds to the tokens of its modality. -/
theorem modalityCount_addToLast {name : String} {count : Int}
    {added : List GeminiPromptTokensDetails}
    (found : addToLast upperRune name count details = some added) :
    modalityCount upperRune key added =
      modalityCount upperRune key details + if name = key then count else 0 := by
  induction details generalizing added with
  | nil => cases found
  | cons detail rest ih =>
    rw [addToLast] at found
    split at found
    · rename_i inRest deeper
      cases found
      rw [modalityCount_cons, modalityCount_cons, ih deeper, add_assoc]
    · split at found
      · rename_i named
        cases found
        simp only [modalityCount_cons, named]
        split <;> omega
      · cases found

theorem modalityCount_addGeminiTokenDetail (merged : List GeminiPromptTokensDetails)
    {detail : GeminiPromptTokensDetails} (nonneg : 0 ≤ detail.tokenCount) :
    modalityCount upperRune key (addGeminiTokenDetail upperRune merged detail) =
      modalityCount upperRune key merged + modalityCount upperRune key [detail] := by
  unfold addGeminiTokenDetail
  split
  · have zero : detail.tokenCount = 0 := by omega
    simp [modalityCount, zero]
  · cases found : addToLast upperRune (normalizeGeminiModality upperRune detail.modality)
      detail.tokenCount merged with
    | none => rw [Option.getD_none, modalityCount_append]
    | some added =>
      rw [Option.getD_some, modalityCount_addToLast found]
      simp [modalityCount]

/-- Merged details have the tokens of both. -/
theorem modalityCount_merge (current : List GeminiPromptTokensDetails)
    {incoming : List GeminiPromptTokensDetails}
    (nonneg : ∀ detail ∈ incoming, 0 ≤ detail.tokenCount) :
    modalityCount upperRune key (mergeGeminiTokenDetails upperRune current incoming) =
      modalityCount upperRune key current + modalityCount upperRune key incoming := by
  induction incoming generalizing current with
  | nil => simp [mergeGeminiTokenDetails, modalityCount]
  | cons detail rest ih =>
    obtain ⟨first, later⟩ := forall_mem_cons.mp nonneg
    change modalityCount upperRune key
      (mergeGeminiTokenDetails upperRune (addGeminiTokenDetail upperRune current detail) rest) = _
    rw [ih _ later, modalityCount_addGeminiTokenDetail current first, add_assoc,
      ← modalityCount_append, singleton_append]

theorem mergeGeminiTokenDetails_of_none (current : List GeminiPromptTokensDetails)
    {incoming : List GeminiPromptTokensDetails}
    (none : ∀ detail ∈ incoming, detail.tokenCount ≤ 0) :
    mergeGeminiTokenDetails upperRune current incoming = current := by
  induction incoming generalizing current with
  | nil => rfl
  | cons detail rest ih =>
    obtain ⟨first, later⟩ := forall_mem_cons.mp none
    change mergeGeminiTokenDetails upperRune
      (addGeminiTokenDetail upperRune current detail) rest = current
    rw [addGeminiTokenDetail, if_pos first, ih current later]

theorem modalityCount_nonneg (nonneg : ∀ detail ∈ details, 0 ≤ detail.tokenCount) :
    0 ≤ modalityCount upperRune key details := by
  apply sum_nonneg
  intro count member
  obtain ⟨detail, inDetails, rfl⟩ := mem_map.mp member
  split
  · exact nonneg detail inDetails
  · exact le_rfl

/-- Details whose modalities have no tokens have none themselves. -/
theorem tokenCount_eq_zero (nonneg : ∀ detail ∈ details, 0 ≤ detail.tokenCount)
    (none : ∀ key, modalityCount upperRune key details = 0) :
    ∀ detail ∈ details, detail.tokenCount = 0 := by
  induction details with
  | nil => exact fun _ member => absurd member not_mem_nil
  | cons detail rest ih =>
    obtain ⟨first, later⟩ := forall_mem_cons.mp nonneg
    have sum := fun key => (modalityCount_cons detail rest).symm.trans (none key)
    have zero : detail.tokenCount = 0 := by
      have own := sum (normalizeGeminiModality upperRune detail.modality)
      rw [if_pos rfl] at own
      have others := @modalityCount_nonneg upperRune
        (normalizeGeminiModality upperRune detail.modality) rest later
      omega
    refine forall_mem_cons.mpr ⟨zero, ih later fun key => ?_⟩
    simpa [zero] using sum key

end Details

/-! ## Snapshots -/

section Snapshots

variable (upperRune : Char → Char)

/-- The tokens that the total of a snapshot is made of. -/
def GeminiUsageMetadata.sum (metadata : GeminiUsageMetadata) : Int :=
  metadata.promptTokenCount + metadata.toolUsePromptTokenCount + metadata.candidatesTokenCount +
    metadata.thoughtsTokenCount

/-- The candidates and the thoughts are replaced as a pair. -/
def mergeThoughts (current incoming : GeminiUsageMetadata) : Int :=
  if 0 < incoming.candidatesTokenCount then incoming.thoughtsTokenCount
  else overlay positive current.thoughtsTokenCount incoming.thoughtsTokenCount

/-- A later snapshot laid over the earlier ones, before its total is checked. -/
def overlayGeminiUsageMetadata (current incoming : GeminiUsageMetadata) :
    GeminiUsageMetadata where
  promptTokenCount := overlay positive current.promptTokenCount incoming.promptTokenCount
  toolUsePromptTokenCount :=
    overlay positive current.toolUsePromptTokenCount incoming.toolUsePromptTokenCount
  candidatesTokenCount :=
    overlay positive current.candidatesTokenCount incoming.candidatesTokenCount
  totalTokenCount := overlay positive current.totalTokenCount incoming.totalTokenCount
  thoughtsTokenCount := mergeThoughts current incoming
  cachedContentTokenCount :=
    overlay positive current.cachedContentTokenCount incoming.cachedContentTokenCount
  promptTokensDetails :=
    mergeGeminiTokenDetails upperRune current.promptTokensDetails incoming.promptTokensDetails
  toolUsePromptTokensDetails :=
    mergeGeminiTokenDetails upperRune current.toolUsePromptTokensDetails
      incoming.toolUsePromptTokensDetails
  candidatesTokensDetails :=
    mergeGeminiTokenDetails upperRune current.candidatesTokensDetails
      incoming.candidatesTokensDetails

/-- The total is at least what it is made of. -/
def GeminiUsageMetadata.raiseTotal (metadata : GeminiUsageMetadata) : GeminiUsageMetadata :=
  if metadata.sum > metadata.totalTokenCount then { metadata with totalTokenCount := metadata.sum }
  else metadata

def mergeGeminiUsageMetadataNonZero (current : Option GeminiUsageMetadata)
    (incoming : GeminiUsageMetadata) : GeminiUsageMetadata :=
  match current with
  | none => incoming
  | some current => (overlayGeminiUsageMetadata upperRune current incoming).raiseTotal

/-- What a stream leaves after its snapshots. -/
def foldGeminiUsage (snapshots : List GeminiUsageMetadata) : Option GeminiUsageMetadata :=
  snapshots.foldl (fun merged snapshot =>
    some (mergeGeminiUsageMetadataNonZero upperRune merged snapshot)) none

/-- No count of a snapshot is negative. -/
structure GeminiUsageMetadata.NonNeg (metadata : GeminiUsageMetadata) : Prop where
  prompt : 0 ≤ metadata.promptTokenCount
  toolUse : 0 ≤ metadata.toolUsePromptTokenCount
  candidates : 0 ≤ metadata.candidatesTokenCount
  total : 0 ≤ metadata.totalTokenCount
  thoughts : 0 ≤ metadata.thoughtsTokenCount
  cached : 0 ≤ metadata.cachedContentTokenCount
  promptDetails : ∀ detail ∈ metadata.promptTokensDetails, 0 ≤ detail.tokenCount
  toolUseDetails : ∀ detail ∈ metadata.toolUsePromptTokensDetails, 0 ≤ detail.tokenCount
  candidatesDetails : ∀ detail ∈ metadata.candidatesTokensDetails, 0 ≤ detail.tokenCount

/-- No counter of a later snapshot is less than it was. -/
structure GrowsTo (earlier later : GeminiUsageMetadata) : Prop where
  prompt : earlier.promptTokenCount ≤ later.promptTokenCount
  toolUse : earlier.toolUsePromptTokenCount ≤ later.toolUsePromptTokenCount
  candidates : earlier.candidatesTokenCount ≤ later.candidatesTokenCount
  total : earlier.totalTokenCount ≤ later.totalTokenCount
  thoughts : earlier.thoughtsTokenCount ≤ later.thoughtsTokenCount
  cached : earlier.cachedContentTokenCount ≤ later.cachedContentTokenCount

/-- Snapshots of one stream: counts of the whole answer so far. -/
structure Cumulative (snapshots : List GeminiUsageMetadata) : Prop where
  nonneg : ∀ snapshot ∈ snapshots, snapshot.NonNeg
  grows : snapshots.Pairwise GrowsTo

/-- A snapshot has no tokens in its details. -/
def GeminiUsageMetadata.WithoutDetails (metadata : GeminiUsageMetadata) : Prop :=
  ∀ details ∈ [metadata.promptTokensDetails, metadata.toolUsePromptTokensDetails,
    metadata.candidatesTokensDetails], ∀ detail ∈ details, detail.tokenCount = 0

/-- The counters of a snapshot, and its details by modality. -/
structure SameSnapshot (merged snapshot : GeminiUsageMetadata) : Prop where
  prompt : merged.promptTokenCount = snapshot.promptTokenCount
  toolUse : merged.toolUsePromptTokenCount = snapshot.toolUsePromptTokenCount
  candidates : merged.candidatesTokenCount = snapshot.candidatesTokenCount
  total : merged.totalTokenCount = snapshot.totalTokenCount
  thoughts : merged.thoughtsTokenCount = snapshot.thoughtsTokenCount
  cached : merged.cachedContentTokenCount = snapshot.cachedContentTokenCount
  promptDetails : ∀ key, modalityCount upperRune key merged.promptTokensDetails =
    modalityCount upperRune key snapshot.promptTokensDetails
  toolUseDetails : ∀ key, modalityCount upperRune key merged.toolUsePromptTokensDetails =
    modalityCount upperRune key snapshot.toolUsePromptTokensDetails
  candidatesDetails : ∀ key, modalityCount upperRune key merged.candidatesTokensDetails =
    modalityCount upperRune key snapshot.candidatesTokensDetails

end Snapshots

/-! ## What merging leaves -/

variable {upperRune : Char → Char}

/-- What has been merged so far, against the last snapshot and the details of all. -/
structure MergedSo (upperRune : Char → Char) (snapshots : List GeminiUsageMetadata)
    (last merged : GeminiUsageMetadata) : Prop where
  prompt : merged.promptTokenCount = last.promptTokenCount
  toolUse : merged.toolUsePromptTokenCount = last.toolUsePromptTokenCount
  candidates : merged.candidatesTokenCount = last.candidatesTokenCount
  thoughts : merged.thoughtsTokenCount = last.thoughtsTokenCount
  cached : merged.cachedContentTokenCount = last.cachedContentTokenCount
  totalLow : last.totalTokenCount ≤ merged.totalTokenCount
  totalHigh : merged.totalTokenCount ≤ max last.totalTokenCount last.sum
  promptDetails : ∀ key, modalityCount upperRune key merged.promptTokensDetails =
    (snapshots.map fun snapshot => modalityCount upperRune key snapshot.promptTokensDetails).sum
  toolUseDetails : ∀ key, modalityCount upperRune key merged.toolUsePromptTokensDetails =
    (snapshots.map fun snapshot =>
      modalityCount upperRune key snapshot.toolUsePromptTokensDetails).sum
  candidatesDetails : ∀ key, modalityCount upperRune key merged.candidatesTokensDetails =
    (snapshots.map fun snapshot =>
      modalityCount upperRune key snapshot.candidatesTokensDetails).sum

/-- A counter that grew is the later one. -/
theorem overlay_of_le {current incoming : Int} (nonneg : 0 ≤ current)
    (grows : current ≤ incoming) : overlay positive current incoming = incoming := by
  unfold overlay positive
  split
  · rfl
  · rename_i absent
    have zero : ¬0 < incoming := by simpa using absent
    omega

theorem raiseTotal_eq (metadata : GeminiUsageMetadata) :
    metadata.raiseTotal =
      { metadata with totalTokenCount := max metadata.totalTokenCount metadata.sum } := by
  unfold GeminiUsageMetadata.raiseTotal
  split
  · rw [max_eq_right (by omega)]
  · rw [max_eq_left (by omega)]

theorem mergedSo_first {snapshot : GeminiUsageMetadata} :
    MergedSo upperRune [snapshot] snapshot snapshot where
  prompt := rfl
  toolUse := rfl
  candidates := rfl
  thoughts := rfl
  cached := rfl
  totalLow := le_rfl
  totalHigh := le_max_left _ _
  promptDetails _ := by simp
  toolUseDetails _ := by simp
  candidatesDetails _ := by simp

variable {last merged : GeminiUsageMetadata} {snapshots : List GeminiUsageMetadata}

theorem mergeThoughts_of_grows {next : GeminiUsageMetadata}
    (thoughts : merged.thoughtsTokenCount = last.thoughtsTokenCount) (nonneg : last.NonNeg)
    (grows : GrowsTo last next) : mergeThoughts merged next = next.thoughtsTokenCount := by
  unfold mergeThoughts
  split
  · rfl
  · exact overlay_of_le (thoughts ▸ nonneg.thoughts) (thoughts ▸ grows.thoughts)

/-- One more snapshot: its counters are laid over the earlier ones, its details are added. -/
theorem MergedSo.step {next : GeminiUsageMetadata} (so : MergedSo upperRune snapshots last merged)
    (nonneg : last.NonNeg) (nextNonneg : next.NonNeg) (grows : GrowsTo last next) :
    MergedSo upperRune (snapshots ++ [next]) next
      (mergeGeminiUsageMetadataNonZero upperRune (some merged) next) := by
  have prompt := overlay_of_le (so.prompt ▸ nonneg.prompt) (so.prompt ▸ grows.prompt)
  have toolUse := overlay_of_le (so.toolUse ▸ nonneg.toolUse) (so.toolUse ▸ grows.toolUse)
  have candidates :=
    overlay_of_le (so.candidates ▸ nonneg.candidates) (so.candidates ▸ grows.candidates)
  have thoughts := mergeThoughts_of_grows so.thoughts nonneg grows
  have sum : (overlayGeminiUsageMetadata upperRune merged next).sum = next.sum := by
    simp only [GeminiUsageMetadata.sum, overlayGeminiUsageMetadata, prompt, toolUse, candidates,
      thoughts]
  have total : (mergeGeminiUsageMetadataNonZero upperRune (some merged) next).totalTokenCount =
      max (overlay positive merged.totalTokenCount next.totalTokenCount) next.sum := by
    simp only [mergeGeminiUsageMetadataNonZero, raiseTotal_eq, sum]
    rfl
  have details : ∀ (key : String) (field : GeminiUsageMetadata → List GeminiPromptTokensDetails),
      (∀ detail ∈ field next, 0 ≤ detail.tokenCount) →
      modalityCount upperRune key (field merged) =
        (snapshots.map fun snapshot => modalityCount upperRune key (field snapshot)).sum →
      modalityCount upperRune key (mergeGeminiTokenDetails upperRune (field merged) (field next)) =
        ((snapshots ++ [next]).map fun snapshot =>
          modalityCount upperRune key (field snapshot)).sum := by
    intro key field fieldNonneg soFar
    rw [modalityCount_merge _ fieldNonneg, soFar]
    simp
  have totals := so.totalHigh
  have lastSum : last.sum ≤ next.sum := by
    have := grows.prompt
    have := grows.toolUse
    have := grows.candidates
    have := grows.thoughts
    simp only [GeminiUsageMetadata.sum]
    omega
  have overlaid : next.totalTokenCount ≤
        overlay positive merged.totalTokenCount next.totalTokenCount ∧
      overlay positive merged.totalTokenCount next.totalTokenCount ≤
        max next.totalTokenCount next.sum := by
    have low := so.totalLow
    have kept := nonneg.total
    have grown := grows.total
    unfold overlay positive
    split
    · omega
    · rename_i absent
      have zero : ¬0 < next.totalTokenCount := by simpa using absent
      omega
  rw [mergeGeminiUsageMetadataNonZero, raiseTotal_eq] at *
  exact
    { prompt := prompt
      toolUse := toolUse
      candidates := candidates
      thoughts := thoughts
      cached := overlay_of_le (so.cached ▸ nonneg.cached) (so.cached ▸ grows.cached)
      totalLow := by rw [total]; exact overlaid.1.trans (le_max_left _ _)
      totalHigh := by rw [total]; exact max_le overlaid.2 (le_max_right _ _)
      promptDetails := fun key =>
        details key GeminiUsageMetadata.promptTokensDetails nextNonneg.promptDetails
          (so.promptDetails key)
      toolUseDetails := fun key =>
        details key GeminiUsageMetadata.toolUsePromptTokensDetails nextNonneg.toolUseDetails
          (so.toolUseDetails key)
      candidatesDetails := fun key =>
        details key GeminiUsageMetadata.candidatesTokensDetails nextNonneg.candidatesDetails
          (so.candidatesDetails key) }

theorem foldGeminiUsage_concat (snapshots : List GeminiUsageMetadata) (next : GeminiUsageMetadata) :
    foldGeminiUsage upperRune (snapshots ++ [next]) =
      some (mergeGeminiUsageMetadataNonZero upperRune (foldGeminiUsage upperRune snapshots)
        next) := by
  rw [foldGeminiUsage, foldl_append]
  rfl

/-- A stream with snapshots leaves something. -/
theorem foldGeminiUsage_mergedSo {earlier : List GeminiUsageMetadata}
    (cumulative : Cumulative (earlier ++ [last])) :
    ∃ merged, foldGeminiUsage upperRune (earlier ++ [last]) = some merged ∧
      MergedSo upperRune (earlier ++ [last]) last merged := by
  induction earlier using List.reverseRecOn generalizing last with
  | nil => exact ⟨last, rfl, mergedSo_first⟩
  | append_singleton earlier before ih =>
    have grows : GrowsTo before last :=
      (pairwise_append.mp cumulative.grows).2.2 before (by simp) last (by simp)
    obtain ⟨merged, folded, so⟩ := @ih before
      { nonneg := fun snapshot member =>
          cumulative.nonneg snapshot (mem_append_left _ member)
        grows := (pairwise_append.mp cumulative.grows).1 }
    rw [foldGeminiUsage_concat, folded]
    exact ⟨_, rfl, so.step (cumulative.nonneg before (by simp))
      (cumulative.nonneg last (by simp)) grows⟩

/-- Snapshots whose details add up to nothing have none. -/
theorem tokenCount_eq_zero_of_sum {field : GeminiUsageMetadata → List GeminiPromptTokensDetails}
    (nonneg : ∀ snapshot ∈ snapshots, ∀ detail ∈ field snapshot, 0 ≤ detail.tokenCount)
    (none : ∀ key,
      (snapshots.map fun snapshot => modalityCount upperRune key (field snapshot)).sum = 0) :
    ∀ snapshot ∈ snapshots, ∀ detail ∈ field snapshot, detail.tokenCount = 0 := by
  intro snapshot member
  refine @tokenCount_eq_zero upperRune _ (nonneg snapshot member) fun key => ?_
  have counts : ∀ count ∈ snapshots.map fun snapshot =>
      modalityCount upperRune key (field snapshot), 0 ≤ count := by
    intro count inCounts
    obtain ⟨other, otherMember, rfl⟩ := mem_map.mp inCounts
    exact modalityCount_nonneg (nonneg other otherMember)
  have low := @modalityCount_nonneg upperRune key _ (nonneg snapshot member)
  have high := single_le_sum counts _ (mem_map_of_mem member)
  rw [none key] at high
  exact le_antisymm high low

theorem withoutDetails_iff {metadata : GeminiUsageMetadata} :
    metadata.WithoutDetails ↔
      (∀ detail ∈ metadata.promptTokensDetails, detail.tokenCount = 0) ∧
        (∀ detail ∈ metadata.toolUsePromptTokensDetails, detail.tokenCount = 0) ∧
          ∀ detail ∈ metadata.candidatesTokensDetails, detail.tokenCount = 0 := by
  simp [GeminiUsageMetadata.WithoutDetails]

/-- Merging the last snapshot once more: the counters stay, the details are added again. -/
theorem MergedSo.again (so : MergedSo upperRune snapshots last merged) :
    mergeGeminiUsageMetadataNonZero upperRune (some merged) last =
      { merged with
        totalTokenCount := max (overlay positive merged.totalTokenCount last.totalTokenCount)
          last.sum
        promptTokensDetails := mergeGeminiTokenDetails upperRune merged.promptTokensDetails
          last.promptTokensDetails
        toolUsePromptTokensDetails := mergeGeminiTokenDetails upperRune
          merged.toolUsePromptTokensDetails last.toolUsePromptTokensDetails
        candidatesTokensDetails := mergeGeminiTokenDetails upperRune
          merged.candidatesTokensDetails last.candidatesTokensDetails } := by
  have thoughts : mergeThoughts merged last = merged.thoughtsTokenCount := by
    unfold mergeThoughts
    rw [so.thoughts, overlay_self]
    split <;> rfl
  simp only [mergeGeminiUsageMetadataNonZero, raiseTotal_eq, overlayGeminiUsageMetadata,
    GeminiUsageMetadata.sum, thoughts, ← so.prompt, ← so.toolUse, ← so.candidates, ← so.cached,
    ← so.thoughts, overlay_self]

/-- The snapshots of a stream merge to the last one, and merging this once more changes nothing,
exactly if no snapshot has details by modality and the last total covers its parts. -/
theorem foldGeminiUsage_last_iff (upperRune : Char → Char) {earlier : List GeminiUsageMetadata}
    {last : GeminiUsageMetadata} (cumulative : Cumulative (earlier ++ [last])) :
    ∃ merged, foldGeminiUsage upperRune (earlier ++ [last]) = some merged ∧
      (SameSnapshot upperRune merged last ∧
          mergeGeminiUsageMetadataNonZero upperRune (some merged) last = merged ↔
        (∀ snapshot ∈ earlier ++ [last], snapshot.WithoutDetails) ∧
          last.sum ≤ last.totalTokenCount) := by
  obtain ⟨merged, folded, so⟩ := @foldGeminiUsage_mergedSo upperRune _ _ cumulative
  refine ⟨merged, folded, ?_, ?_⟩
  · rintro ⟨same, again⟩
    rw [so.again] at again
    have none : ∀ field : GeminiUsageMetadata → List GeminiPromptTokensDetails,
        (∀ snapshot ∈ earlier ++ [last], ∀ detail ∈ field snapshot, 0 ≤ detail.tokenCount) →
        mergeGeminiTokenDetails upperRune (field merged) (field last) = field merged →
        (∀ key, modalityCount upperRune key (field merged) =
          modalityCount upperRune key (field last)) →
        (∀ key, modalityCount upperRune key (field merged) = ((earlier ++ [last]).map
          fun snapshot => modalityCount upperRune key (field snapshot)).sum) →
        ∀ snapshot ∈ earlier ++ [last], ∀ detail ∈ field snapshot, detail.tokenCount = 0 := by
      intro field nonneg unchanged equal sum
      refine @tokenCount_eq_zero_of_sum upperRune _ field nonneg fun key => ?_
      -- details that merging leaves as they are have no tokens
      have again := @modalityCount_merge upperRune key (field merged) _ (nonneg last (by simp))
      rw [unchanged] at again
      rw [← sum key, equal key]
      omega
    have prompt := none GeminiUsageMetadata.promptTokensDetails
      (fun snapshot member => (cumulative.nonneg snapshot member).promptDetails)
      (congrArg GeminiUsageMetadata.promptTokensDetails again) same.promptDetails
      so.promptDetails
    have toolUse := none GeminiUsageMetadata.toolUsePromptTokensDetails
      (fun snapshot member => (cumulative.nonneg snapshot member).toolUseDetails)
      (congrArg GeminiUsageMetadata.toolUsePromptTokensDetails again) same.toolUseDetails
      so.toolUseDetails
    have candidates := none GeminiUsageMetadata.candidatesTokensDetails
      (fun snapshot member => (cumulative.nonneg snapshot member).candidatesDetails)
      (congrArg GeminiUsageMetadata.candidatesTokensDetails again) same.candidatesDetails
      so.candidatesDetails
    constructor
    · intro snapshot member
      exact withoutDetails_iff.mpr
        ⟨prompt snapshot member, toolUse snapshot member, candidates snapshot member⟩
    · have total := congrArg GeminiUsageMetadata.totalTokenCount again
      rw [same.total] at total
      exact (le_max_right _ _).trans_eq total
  · rintro ⟨without, covered⟩
    have details : ∀ field : GeminiUsageMetadata → List GeminiPromptTokensDetails,
        (∀ snapshot ∈ earlier ++ [last], ∀ detail ∈ field snapshot, detail.tokenCount = 0) →
        ∀ key, ((earlier ++ [last]).map
            fun snapshot => modalityCount upperRune key (field snapshot)).sum =
          modalityCount upperRune key (field last) := by
      intro field zero key
      have counts : ∀ snapshot ∈ earlier ++ [last],
          modalityCount upperRune key (field snapshot) = 0 := by
        intro snapshot member
        refine sum_eq_zero fun count inCounts => ?_
        obtain ⟨detail, inDetails, rfl⟩ := mem_map.mp inCounts
        simp [zero snapshot member detail inDetails]
      rw [counts last (by simp)]
      exact sum_eq_zero fun count inCounts => by
        obtain ⟨snapshot, member, rfl⟩ := mem_map.mp inCounts
        exact counts snapshot member
    have lists := fun snapshot member => withoutDetails_iff.mp (without snapshot member)
    have total : merged.totalTokenCount = last.totalTokenCount := by
      have low := so.totalLow
      have high := so.totalHigh
      omega
    obtain ⟨noPrompt, noToolUse, noCandidates⟩ := lists last (by simp)
    constructor
    · exact
        { prompt := so.prompt
          toolUse := so.toolUse
          candidates := so.candidates
          total := total
          thoughts := so.thoughts
          cached := so.cached
          promptDetails := fun key => (so.promptDetails key).trans
            (details _ (fun snapshot member => (lists snapshot member).1) key)
          toolUseDetails := fun key => (so.toolUseDetails key).trans
            (details _ (fun snapshot member => (lists snapshot member).2.1) key)
          candidatesDetails := fun key => (so.candidatesDetails key).trans
            (details _ (fun snapshot member => (lists snapshot member).2.2) key) }
    · rw [so.again, total, overlay_self, max_eq_left covered, ← total,
        mergeGeminiTokenDetails_of_none _ fun detail member => (noPrompt detail member).le,
        mergeGeminiTokenDetails_of_none _ fun detail member => (noToolUse detail member).le,
        mergeGeminiTokenDetails_of_none _ fun detail member => (noCandidates detail member).le]

/-- A snapshot of a stream that answers a prompt of 100 tokens, without its modalities. -/
def textSnapshot (answered : Nat) : GeminiUsageMetadata where
  promptTokenCount := 100
  candidatesTokenCount := answered
  totalTokenCount := 100 + answered

/-- The same snapshot as Gemini reports it, with the modality of the prompt. -/
def detailedSnapshot (answered : Nat) : GeminiUsageMetadata :=
  { textSnapshot answered with
    promptTokensDetails := [{ modality := "TEXT", tokenCount := 100 }] }

theorem textSnapshots_last :
    Cumulative [textSnapshot 5, textSnapshot 8] ∧
      ∃ merged, foldGeminiUsage id [textSnapshot 5, textSnapshot 8] = some merged ∧
        (SameSnapshot id merged (textSnapshot 8) ∧
            mergeGeminiUsageMetadataNonZero id (some merged) (textSnapshot 8) = merged ↔
          (∀ snapshot ∈ [textSnapshot 5, textSnapshot 8], snapshot.WithoutDetails) ∧
            (textSnapshot 8).sum ≤ (textSnapshot 8).totalTokenCount) := by
  have nonneg : ∀ answered, (textSnapshot answered).NonNeg := by
    intro answered
    constructor <;> simp [textSnapshot]
    omega
  have cumulative : Cumulative ([textSnapshot 5] ++ [textSnapshot 8]) :=
    { nonneg := by simp [nonneg]
      grows := by
        refine pairwise_pair.mpr ?_
        constructor <;> decide }
  exact ⟨cumulative, foldGeminiUsage_last_iff id cumulative⟩

/-- Two snapshots that report the same prompt of 100 tokens leave a prompt of 200 tokens of
text, and merging the last of them once more makes it 300. -/
theorem details_added_twice :
    Cumulative [detailedSnapshot 5, detailedSnapshot 8] ∧
      ∃ merged, foldGeminiUsage id [detailedSnapshot 5, detailedSnapshot 8] = some merged ∧
        merged.promptTokenCount = 100 ∧
        modalityCount id "TEXT" (detailedSnapshot 8).promptTokensDetails = 100 ∧
        modalityCount id "TEXT" merged.promptTokensDetails = 200 ∧
        modalityCount id "TEXT" (mergeGeminiUsageMetadataNonZero id (some merged)
          (detailedSnapshot 8)).promptTokensDetails = 300 := by
  have nonneg : ∀ answered, (detailedSnapshot answered).NonNeg := by
    intro answered
    constructor <;> simp [detailedSnapshot, textSnapshot]
    omega
  refine ⟨{ nonneg := by simp [nonneg], grows := ?_ }, _, rfl, ?_⟩
  · refine pairwise_pair.mpr ?_
    constructor <;> decide
  · decide +kernel

end AiHub.Relaykit
