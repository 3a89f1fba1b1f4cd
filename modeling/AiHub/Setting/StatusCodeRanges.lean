import AiHub.Library.GoStrconv
import AiHub.Library.GoString
import AiHub.Library.Occurrence
import AiHub.Library.Ranges

/-!
# Ranges of status codes

An operator writes the status codes for retries and for disabling a channel as a list of codes and
ranges.  The parser sorts and merges them, and a code is looked up in the result from the front.
-/

namespace AiHub.Setting

open AiHub.Library List

/-- A range of codes; the parser makes no range that ends before it starts. -/
abbrev StatusCodeRange := Span

/-! ## Printing and matching -/

def printRange (range : StatusCodeRange) : List Char :=
  if range.start = range.stop then itoa range.start
  else joined '-' [itoa range.start, itoa range.stop]

def statusCodeRangesToString (ranges : List StatusCodeRange) : String :=
  String.ofList (joined ',' (ranges.map printRange))

/-- The loop over the ranges, which ends at the first one that begins after the code. -/
def matchesRange (code : Int) : List StatusCodeRange → Bool
  | [] => false
  | range :: rest =>
    if code < range.start then false
    else if code ≤ range.stop then true
    else matchesRange code rest

def shouldMatchStatusCodeRanges (ranges : List StatusCodeRange) (code : Int) : Bool :=
  if code < 100 ∨ code > 599 then false else matchesRange code ranges

/-! ## Parsing -/

/-- The range of a token with a hyphen. -/
def parseRangeToken (token : String) : Except String StatusCodeRange :=
  match split '-' token.toList with
  | [first, second] =>
    if first = [] ∨ second = [] then .error ("invalid range token: " ++ token)
    else
      match atoi (String.ofList first) with
      | .error _ => .error ("invalid range start: " ++ token)
      | .ok start =>
        match atoi (String.ofList second) with
        | .error _ => .error ("invalid range end: " ++ token)
        | .ok stop =>
          if backwards : start > stop then .error ("range start > end: " ++ token)
          else if start < 100 ∨ stop > 599 then .error ("range out of bounds: " ++ token)
          else .ok ⟨start, stop, not_lt.mp backwards⟩
  | _ => .error ("invalid range token: " ++ token)

def parseHTTPStatusCodeToken (token : String) : Except String StatusCodeRange :=
  let token := String.ofList ((trimSpace token).toList.filter fun char => char ≠ ' ')
  if token = "" then .error "empty token"
  else if '-' ∈ token.toList then parseRangeToken token
  else
    match atoi token with
    | .error _ => .error ("invalid status code: " ++ token)
    | .ok code =>
      if code < 100 ∨ code > 599 then .error ("status code out of bounds: " ++ token)
      else .ok ⟨code, code, le_refl code⟩

/-- The tokens of an input that are not blank. -/
def statusCodeTokens (input : String) : List String :=
  let commas := input.toList.map fun char => if char = '，' then ',' else char
  ((split ',' commas).map fun segment => trimSpace (String.ofList segment)).filter fun segment =>
    segment ≠ ""

def parseHTTPStatusCodeRanges (input : String) : Except String (List StatusCodeRange) :=
  let input := trimSpace input
  if input = "" then .ok []
  else
    let segments := statusCodeTokens input
    let ranges := segments.filterMap fun segment => (parseHTTPStatusCodeToken segment).toOption
    let invalid := segments.filter fun segment => (parseHTTPStatusCodeToken segment).toOption.isNone
    if invalid ≠ [] then
      .error ("invalid http status code rules: " ++ ", ".intercalate invalid)
    else .ok (normalizeSpans ranges)

/-! ## Matching a parsed list -/

/-- Only ranges from 100 to 599 are parsed. -/
def Bounded (range : StatusCodeRange) : Prop := 100 ≤ range.start ∧ range.stop ≤ 599

section Lists

variable {ranges : List StatusCodeRange}

theorem bounded_extend (one two : StatusCodeRange) (first : Bounded one) (second : Bounded two) :
    Bounded (one.extend two) :=
  ⟨first.1, max_le first.2 second.2⟩

theorem matchesRange_iff (apart : ranges.Pairwise Span.Apart) (code : Int) :
    matchesRange code ranges = true ↔ ∃ range ∈ ranges, range.Covers code := by
  induction ranges with
  | nil => simp [matchesRange]
  | cons range rest ih =>
    obtain ⟨first, others⟩ := pairwise_cons.mp apart
    rw [matchesRange, exists_mem_cons_iff]
    split
    · next below =>
      refine iff_of_false (by simp) ?_
      rintro (covers | ⟨other, member, covers⟩)
      · exact absurd covers.1 (not_le.mpr below)
      · have := first other member
        have := range.proper
        simp only [Span.Apart, Span.Covers] at *
        omega
    split
    · next above within => exact iff_of_true rfl (.inl ⟨not_lt.mp above, within⟩)
    · next above beyond =>
      rw [ih others]
      exact ⟨.inr, fun covered => covered.resolve_left fun covers => beyond covers.2⟩

theorem shouldMatch_iff (apart : ranges.Pairwise Span.Apart)
    (bounded : ∀ range ∈ ranges, Bounded range) (code : Int) :
    shouldMatchStatusCodeRanges ranges code = true ↔ ∃ range ∈ ranges, range.Covers code := by
  unfold shouldMatchStatusCodeRanges
  split
  · refine iff_of_false (by simp) ?_
    rintro ⟨range, member, covers⟩
    have := bounded range member
    simp only [Bounded, Span.Covers] at *
    omega
  · exact matchesRange_iff apart code

end Lists

theorem bounded_of_parseHTTPStatusCodeToken {token : String} {range : StatusCodeRange}
    (parsed : parseHTTPStatusCodeToken token = .ok range) : Bounded range := by
  simp only [parseHTTPStatusCodeToken] at parsed
  split at parsed
  · cases parsed
  split at parsed
  · unfold parseRangeToken at parsed
    split at parsed
    · split at parsed
      · cases parsed
      split at parsed
      · cases parsed
      split at parsed
      · cases parsed
      split at parsed
      · cases parsed
      split at parsed
      · cases parsed
      · cases parsed
        simp only [Bounded]
        omega
    · cases parsed
  · split at parsed
    · cases parsed
    split at parsed
    · cases parsed
    · cases parsed
      simp only [Bounded]
      omega

/-! ## Printing a list and parsing it again -/

/-- The characters of a printed list. -/
def isPrinted (char : Char) : Bool := char.isDigit || char = '-' || char = ','

theorem not_space_of_isPrinted {char : Char} (printed : isPrinted char = true) :
    isSpace char = false := by
  simp only [isPrinted, Char.isDigit, Bool.or_eq_true, Bool.and_eq_true, decide_eq_true_eq]
    at printed
  rcases printed with (⟨low, high⟩ | rfl) | rfl
  · have low : 48 ≤ char.toNat := low
    have high : char.toNat ≤ 57 := high
    simp only [isSpace, Bool.or_eq_false_iff, Bool.and_eq_false_iff, decide_eq_false_iff_not,
      beq_eq_false_iff_ne]
    omega
  · decide
  · decide

theorem hyphen_notMem_itoa {number : Int} (natural : 0 ≤ number) : '-' ∉ itoa number :=
  fun member => absurd (isDigit_of_mem_itoa natural member) (by decide)

theorem printRange_ne_empty (range : StatusCodeRange) : String.ofList (printRange range) ≠ "" := by
  intro empty
  have lists := congrArg String.toList empty
  rw [String.toList_ofList, printRange] at lists
  split at lists
  · exact itoa_ne_nil _ lists
  · exact append_ne_nil_of_left_ne_nil (itoa_ne_nil _) _ lists

section Range

variable {range : StatusCodeRange} (bounded : Bounded range)

include bounded

theorem start_natural : 0 ≤ range.start := by
  have := bounded.1
  omega

theorem stop_natural : 0 ≤ range.stop :=
  (start_natural bounded).trans range.proper

theorem mem_printRange {char : Char} (member : char ∈ printRange range) :
    char.isDigit = true ∨ char = '-' := by
  have digit : ∀ {number : Int}, 0 ≤ number → char ∈ itoa number →
      char.isDigit = true ∨ char = '-' :=
    fun natural member => .inl (isDigit_of_mem_itoa natural member)
  unfold printRange at member
  split at member
  · exact digit (start_natural bounded) member
  · simp only [joined, flatMap_cons, flatMap_nil, append_nil, mem_append, mem_cons] at member
    rcases member with member | rfl | member
    · exact digit (start_natural bounded) member
    · exact .inr rfl
    · exact digit (stop_natural bounded) member

theorem atoi_start : atoi (String.ofList (itoa range.start)) = .ok range.start := by
  have := range.proper
  have := bounded.2
  exact atoi_itoa (start_natural bounded) (by omega)

theorem atoi_stop : atoi (String.ofList (itoa range.stop)) = .ok range.stop := by
  have := bounded.2
  exact atoi_itoa (stop_natural bounded) (by omega)

theorem isPrinted_of_mem {char : Char} (member : char ∈ printRange range) :
    isPrinted char = true := by
  rcases mem_printRange bounded member with digit | rfl
  · simp [isPrinted, digit]
  · decide

theorem solid_printRange : ∀ char ∈ printRange range, isSpace char = false :=
  fun _ member => not_space_of_isPrinted (isPrinted_of_mem bounded member)

/-- A printed range is read back. -/
theorem parseHTTPStatusCodeToken_printRange :
    parseHTTPStatusCodeToken (String.ofList (printRange range)) = .ok range := by
  have solid := solid_printRange bounded
  have kept : (printRange range).filter (fun char => char ≠ ' ') = printRange range := by
    refine filter_eq_self.mpr fun char member => ?_
    have := solid char member
    rw [decide_eq_true_iff]
    rintro rfl
    cases this
  have trimmed : trimSpace (String.ofList (printRange range)) = String.ofList (printRange range) :=
    trimSpace_of_solid (by rwa [String.toList_ofList])
  have within : ¬ (range.start < 100 ∨ range.stop > 599) := by
    have := bounded.1
    have := bounded.2
    omega
  simp only [parseHTTPStatusCodeToken, trimmed, String.toList_ofList, kept,
    if_neg (printRange_ne_empty range)]
  by_cases single : range.start = range.stop
  · have isCode : printRange range = itoa range.start := if_pos single
    have within : ¬ (range.start < 100 ∨ range.start > 599) := by omega
    simp only [isCode, if_neg (hyphen_notMem_itoa (start_natural bounded)), atoi_start bounded,
      if_neg within]
    exact congrArg Except.ok (by cases range; simp_all)
  · have isRange : printRange range = joined '-' [itoa range.start, itoa range.stop] :=
      if_neg single
    have hyphen : '-' ∈ printRange range := by simp [isRange, joined]
    have parts : split '-' (printRange range) = [itoa range.start, itoa range.stop] := by
      rw [isRange]
      refine split_joined (cons_ne_nil _ _) fun segment member => ?_
      rcases mem_pair.mp member with rfl | rfl
      · exact hyphen_notMem_itoa (start_natural bounded)
      · exact hyphen_notMem_itoa (stop_natural bounded)
    have filled : ¬ (itoa range.start = [] ∨ itoa range.stop = []) := by
      simp [itoa_ne_nil]
    rw [if_pos hyphen]
    simp only [parseRangeToken, String.toList_ofList, parts, if_neg filled, atoi_start bounded,
      atoi_stop bounded, dif_neg (not_lt.mpr range.proper), if_neg within]

end Range

section RoundTrip

variable {ranges : List StatusCodeRange} (bounded : ∀ range ∈ ranges, Bounded range)

include bounded

theorem solid_statusCodeRangesToString :
    ∀ char ∈ (statusCodeRangesToString ranges).toList, isPrinted char = true := by
  have printed : ∀ segment ∈ ranges.map printRange, ∀ char ∈ segment, isPrinted char = true := by
    intro segment isSegment char member
    obtain ⟨range, inList, rfl⟩ := mem_map.mp isSegment
    exact isPrinted_of_mem (bounded range inList) member
  rw [statusCodeRangesToString, String.toList_ofList]
  cases segments : ranges.map printRange with
  | nil => exact fun _ member => absurd member not_mem_nil
  | cons first others =>
    rw [segments] at printed
    intro char member
    rcases mem_append.mp member with member | member
    · exact printed first mem_cons_self char member
    · obtain ⟨segment, isSegment, member⟩ := mem_flatMap.mp member
      rcases mem_cons.mp member with rfl | member
      · decide
      · exact printed segment (mem_cons_of_mem _ isSegment) char member

/-- The tokens of a printed list are its printed ranges. -/
theorem statusCodeTokens_toString (some : ranges ≠ []) :
    statusCodeTokens (statusCodeRangesToString ranges) =
      ranges.map fun range => String.ofList (printRange range) := by
  have commas : ((statusCodeRangesToString ranges).toList.map fun char =>
      if char = '，' then ',' else char) = joined ',' (ranges.map printRange) := by
    rw [statusCodeRangesToString, String.toList_ofList]
    refine (map_congr_left fun char member => if_neg ?_).trans (map_id _)
    rintro rfl
    have := solid_statusCodeRangesToString bounded '，' (by
      rwa [statusCodeRangesToString, String.toList_ofList])
    exact absurd this (by decide)
  have parts : split ',' (joined ',' (ranges.map printRange)) = ranges.map printRange := by
    refine split_joined (by simpa using some) fun segment member comma => ?_
    obtain ⟨range, inList, rfl⟩ := mem_map.mp member
    rcases mem_printRange (bounded range inList) comma with digit | hyphen
    · exact absurd digit (by decide)
    · exact absurd hyphen (by decide)
  have trimmed : ((ranges.map printRange).map fun segment => trimSpace (String.ofList segment)) =
      ranges.map fun range => String.ofList (printRange range) := by
    rw [map_map]
    refine map_congr_left fun range inList => trimSpace_of_solid ?_
    rw [String.toList_ofList]
    exact solid_printRange (bounded range inList)
  simp only [statusCodeTokens, commas, parts, trimmed]
  refine filter_eq_self.mpr fun token member => decide_eq_true ?_
  obtain ⟨range, -, rfl⟩ := mem_map.mp member
  exact printRange_ne_empty range

theorem parse_statusCodeRangesToString (apart : ranges.Pairwise Span.Apart) :
    parseHTTPStatusCodeRanges (statusCodeRangesToString ranges) = .ok ranges := by
  by_cases empty : ranges = []
  · rw [empty]
    decide +kernel
  have trimmed : trimSpace (statusCodeRangesToString ranges) = statusCodeRangesToString ranges :=
    trimSpace_of_solid fun char member =>
      not_space_of_isPrinted (solid_statusCodeRangesToString bounded char member)
  have tokens := statusCodeTokens_toString bounded empty
  have filled : statusCodeRangesToString ranges ≠ "" := by
    intro blank
    rw [blank] at tokens
    exact empty (map_eq_nil_iff.mp tokens.symm)
  have read : ∀ range ∈ ranges,
      (parseHTTPStatusCodeToken (String.ofList (printRange range))).toOption = some range :=
    fun range inList => by
      rw [parseHTTPStatusCodeToken_printRange (bounded range inList)]
      rfl
  have parsed : (ranges.map fun range => String.ofList (printRange range)).filterMap
      (fun segment => (parseHTTPStatusCodeToken segment).toOption) = ranges := by
    simp only [filterMap_map, Function.comp_def]
    rw [filterMap_congr (g := some) read, filterMap_some]
  have valid : (ranges.map fun range => String.ofList (printRange range)).filter
      (fun segment => (parseHTTPStatusCodeToken segment).toOption.isNone) = [] := by
    refine filter_eq_nil_iff.mpr fun token member => ?_
    obtain ⟨range, inList, rfl⟩ := mem_map.mp member
    simp [read range inList]
  simp only [parseHTTPStatusCodeRanges, trimmed, if_neg filled, tokens, parsed, valid, ne_eq,
    not_true_eq_false, if_false, normalizeSpans_of_apart apart]

end RoundTrip

/-- What an accepted input stands for. -/
theorem accepted_ranges {input : String} {ranges : List StatusCodeRange}
    (accepted : parseHTTPStatusCodeRanges input = .ok ranges) :
    ∃ parsed, ranges = normalizeSpans parsed ∧ ∀ range, range ∈ parsed ↔
      ∃ token ∈ statusCodeTokens (trimSpace input), parseHTTPStatusCodeToken token = .ok range := by
  simp only [parseHTTPStatusCodeRanges] at accepted
  split at accepted
  · next blank =>
    cases accepted
    have none : statusCodeTokens "" = [] := by decide +kernel
    exact ⟨[], rfl, by simp [blank, none]⟩
  split at accepted
  · cases accepted
  · obtain rfl := Except.ok.inj accepted
    refine ⟨_, rfl, fun range => ?_⟩
    rw [mem_filterMap]
    refine exists_congr fun token => and_congr_right fun _ => ?_
    cases parseHTTPStatusCodeToken token <;> simp [Except.toOption]

/-- The ranges of an accepted input are sorted, disjoint and not adjacent, match what a token of
the input covers, and are read back when they are printed. -/
theorem status_code_ranges_exact {input : String} {ranges : List StatusCodeRange}
    (accepted : parseHTTPStatusCodeRanges input = .ok ranges) :
    ranges.Pairwise (fun earlier later => earlier.start < later.start) ∧
      ranges.Pairwise (fun earlier later => earlier.stop + 1 < later.start) ∧
      (∀ code, shouldMatchStatusCodeRanges ranges code = true ↔
        ∃ token ∈ statusCodeTokens (trimSpace input), ∃ range,
          parseHTTPStatusCodeToken token = .ok range ∧ range.start ≤ code ∧ code ≤ range.stop) ∧
      parseHTTPStatusCodeRanges (statusCodeRangesToString ranges) = .ok ranges := by
  obtain ⟨parsed, rfl, isParsed⟩ := accepted_ranges accepted
  have apart := normalizeSpans_apart parsed
  have bounded : ∀ range ∈ normalizeSpans parsed, Bounded range := by
    refine forall_normalizeSpans bounded_extend fun range member => ?_
    obtain ⟨token, -, isRange⟩ := (isParsed range).mp member
    exact bounded_of_parseHTTPStatusCodeToken isRange
  refine ⟨apart.imp fun {one two} gap => ?_, apart, fun code => ?_,
    parse_statusCodeRangesToString bounded apart⟩
  · have := one.proper
    unfold Span.Apart at gap
    omega
  · rw [shouldMatch_iff apart bounded, normalizeSpans_covers]
    simp only [isParsed, Span.Covers]
    constructor
    · rintro ⟨range, ⟨token, member, isRange⟩, covers⟩
      exact ⟨token, member, range, isRange, covers⟩
    · rintro ⟨token, member, range, isRange, covers⟩
      exact ⟨range, ⟨token, member, isRange⟩, covers⟩

theorem nested_and_adjacent_ranges_merged :
    parseHTTPStatusCodeRanges " 500 - 503，404,400-410,411" =
        .ok [⟨400, 411, by decide⟩, ⟨500, 503, by decide⟩] ∧
      parseHTTPStatusCodeRanges
          (statusCodeRangesToString [⟨400, 411, by decide⟩, ⟨500, 503, by decide⟩]) =
        .ok [⟨400, 411, by decide⟩, ⟨500, 503, by decide⟩] := by
  have accepted : parseHTTPStatusCodeRanges " 500 - 503，404,400-410,411" =
      .ok [⟨400, 411, by decide⟩, ⟨500, 503, by decide⟩] := by decide +kernel
  exact ⟨accepted, (status_code_ranges_exact accepted).2.2.2⟩

/-! ## The setting for retries -/

/-- The default; two of its ranges are adjacent. -/
def automaticRetryStatusCodeRanges : List StatusCodeRange :=
  [⟨100, 199, by decide⟩, ⟨300, 399, by decide⟩, ⟨401, 407, by decide⟩, ⟨409, 499, by decide⟩,
    ⟨500, 503, by decide⟩, ⟨505, 523, by decide⟩, ⟨525, 599, by decide⟩]

/-- What is set after a text; a text that is not accepted changes nothing. -/
def automaticRetryStatusCodesFromString (ranges : List StatusCodeRange) (text : String) :
    List StatusCodeRange :=
  match parseHTTPStatusCodeRanges text with
  | .error _ => ranges
  | .ok parsed => parsed

def isAlwaysSkipRetryStatusCode (code : Int) : Bool := code = 504 ∨ code = 524

def shouldRetryByStatusCode (ranges : List StatusCodeRange) (code : Int) : Bool :=
  if isAlwaysSkipRetryStatusCode code then false else shouldMatchStatusCodeRanges ranges code

/-- What is set after some texts. -/
def retryRangesAfter (texts : List String) : List StatusCodeRange :=
  texts.foldl automaticRetryStatusCodesFromString automaticRetryStatusCodeRanges

/-- The ranges that are set are the default, or such as the parser gives. -/
theorem retryRangesAfter_normal (texts : List String) :
    retryRangesAfter texts = automaticRetryStatusCodeRanges ∨
      (∀ range ∈ retryRangesAfter texts, Bounded range) ∧
        (retryRangesAfter texts).Pairwise Span.Apart := by
  refine List.foldlRecOn (motive := fun ranges => ranges = automaticRetryStatusCodeRanges ∨
    (∀ range ∈ ranges, Bounded range) ∧ ranges.Pairwise Span.Apart) texts _ (.inl rfl) ?_
  intro old set text _
  unfold automaticRetryStatusCodesFromString
  split
  · exact set
  · next parsed accepted =>
    obtain ⟨tokens, rfl, isToken⟩ := accepted_ranges accepted
    refine .inr ⟨?_, normalizeSpans_apart tokens⟩
    apply forall_normalizeSpans bounded_extend
    intro range member
    obtain ⟨token, -, isRange⟩ := (isToken range).mp member
    exact bounded_of_parseHTTPStatusCodeToken isRange

/-- Whatever texts were set before, the text that is shown can be set again: it is accepted, and
the same codes are retried. -/
theorem shown_retry_codes_kept (texts : List String) :
    ∃ parsed, parseHTTPStatusCodeRanges (statusCodeRangesToString (retryRangesAfter texts)) =
        .ok parsed ∧
      ∀ code, shouldRetryByStatusCode parsed code =
        shouldRetryByStatusCode (retryRangesAfter texts) code := by
  rcases retryRangesAfter_normal texts with isDefault | ⟨bounded, apart⟩
  · rw [isDefault]
    have merged : parseHTTPStatusCodeRanges
        (statusCodeRangesToString automaticRetryStatusCodeRanges) =
          .ok [⟨100, 199, by decide⟩, ⟨300, 399, by decide⟩, ⟨401, 407, by decide⟩,
            ⟨409, 503, by decide⟩, ⟨505, 523, by decide⟩, ⟨525, 599, by decide⟩] := by
      decide +kernel
    refine ⟨_, merged, fun code => ?_⟩
    unfold shouldRetryByStatusCode shouldMatchStatusCodeRanges
    refine if_congr Iff.rfl rfl (if_congr Iff.rfl rfl ?_)
    simp only [matchesRange, automaticRetryStatusCodeRanges]
    grind
  · exact ⟨_, parse_statusCodeRangesToString bounded apart, fun _ => rfl⟩

end AiHub.Setting
