import AiHub.Library.Cut

/-!
# Inline images in the text of a chat message

A text may contain markdown images with data URLs.  For Gemini it is split into texts and inline
images.  The source looks for the first `![`, then for `](data:` and then for `)`; what stands
after the last image is dropped, and so is what stands between another image and the next one
with a data URL.
-/

namespace AiHub.Relaykit

open AiHub.Library List

/-- The parts that a text is split into. -/
inductive InlinePart where
  | text (text : String)
  | inlineData (mimeType data : String)
  deriving DecidableEq, Repr

/-- What the loop finds next: the text before the image, what stands between the brackets, the
URL, and what follows. -/
structure MarkdownImage where
  before : List Char
  alt : List Char
  url : List Char
  rest : List Char

def dataScheme : List Char := "data:".toList

/-- The first `![`, then the first `](data:`, then the first `)`. -/
def nextImage (text : List Char) : Option MarkdownImage :=
  match cut "![".toList text with
  | none => none
  | some (before, opened) =>
    match cut ("](".toList ++ dataScheme) opened with
    | none => none
    | some (alt, data) =>
      match cut [')'] data with
      | none => none
      | some (data, rest) => some ⟨before, alt, dataScheme ++ data, rest⟩

section Split

variable (decodeBase64FileData : String → Except String (String × String))

def textBefore (before : List Char) : List InlinePart :=
  if before = [] then [] else [.text (String.ofList before)]

/-- The loop over the images; every round takes at least one character. -/
def imageParts : Nat → List Char → Except String (List InlinePart)
  | 0, _ => .ok []
  | fuel + 1, text =>
    match nextImage text with
    | none => .ok []
    | some image =>
      match decodeBase64FileData (String.ofList image.url) with
      | .error err => .error ("decode markdown base64 image data failed: " ++ err)
      | .ok (format, data) =>
        (imageParts fuel image.rest).map fun parts =>
          textBefore image.before ++ .inlineData format data :: parts

def textParts (text : String) : Except String (List InlinePart) :=
  if text = "" then .ok []
  else
    match nextImage text.toList with
    | none => .ok [.text text]
    | some _ => imageParts decodeBase64FileData text.length text.toList

end Split

/-! ## Splitting without loss -/

/-- A piece of a markdown text: plain text, or an image with a data URL. -/
inductive MarkdownPiece where
  | plain (text : List Char)
  | image (alt url : List Char)

namespace MarkdownPiece

/-- The characters of a piece. -/
def source : MarkdownPiece → List Char
  | .plain text => text
  | .image alt url => "![".toList ++ alt ++ "](".toList ++ url ++ [')']

/-- An image has no other image between its brackets, which close only once, and a data URL. -/
def Valid : MarkdownPiece → Prop
  | .plain _ => True
  | .image alt url => cut "![".toList alt = none ∧ cut "](".toList alt = none ∧
      ∃ data, url = dataScheme ++ data ∧ ')' ∉ data

/-- The part is made from the piece. -/
def Gives (decode : String → Except String (String × String)) :
    MarkdownPiece → InlinePart → Prop
  | .plain text, part => part = .text (String.ofList text)
  | .image _ url, part => ∃ format data, decode (String.ofList url) = .ok (format, data) ∧
      part = .inlineData format data

end MarkdownPiece

/-- The parts are made from the pieces of the text, all of them and in order. -/
def Lossless (decode : String → Except String (String × String)) (text : List Char)
    (parts : List InlinePart) : Prop :=
  ∃ pieces : List MarkdownPiece, (∀ piece ∈ pieces, piece.Valid) ∧
    pieces.flatMap MarkdownPiece.source = text ∧
    List.Forall₂ (MarkdownPiece.Gives decode) pieces parts

/-- The text ends with an image with a data URL, and no image that the source finds has another
image or a closing bracket between its brackets. -/
inductive ImagesToTheEnd : List Char → Prop
  | done : ImagesToTheEnd []
  | image {text : List Char} {image : MarkdownImage} (found : nextImage text = some image)
      (single : cut "![".toList image.alt = none) (closed : cut "](".toList image.alt = none)
      (rest : ImagesToTheEnd image.rest) : ImagesToTheEnd text

variable {decode : String → Except String (String × String)} {text : List Char}

theorem nextImage_eq_some {image : MarkdownImage} (found : nextImage text = some image) :
    text = image.before ++ (MarkdownPiece.image image.alt image.url).source ++ image.rest ∧
      ∃ data, image.url = dataScheme ++ data ∧ ')' ∉ data := by
  unfold nextImage at found
  split at found
  · cases found
  rename_i before opened start
  split at found
  · cases found
  rename_i alt afterBracket bracket
  split at found
  · cases found
  rename_i data rest close
  cases found
  refine ⟨?_, data, rfl, notMem_of_cut close⟩
  rw [cut_eq_some start, cut_eq_some bracket, cut_eq_some close]
  simp [MarkdownPiece.source]

/-- The image that the loop finds is the only one that can stand there. -/
theorem nextImage_unique {image : MarkdownImage} {alt url rest : List Char}
    (found : nextImage text = some image) (valid : (MarkdownPiece.image alt url).Valid)
    (same : text = image.before ++ (MarkdownPiece.image alt url).source ++ rest) :
    image.alt = alt ∧ image.url = url ∧ image.rest = rest := by
  obtain ⟨-, closed, data, rfl, unclosed⟩ := valid
  unfold nextImage at found
  split at found
  · cases found
  rename_i before opened start
  have isOpened : before = image.before →
      opened = alt ++ ("](".toList ++ dataScheme) ++ (data ++ ')' :: rest) := by
    rintro rfl
    have text := (cut_eq_some start).symm.trans same
    simpa [MarkdownPiece.source] using text
  split at found
  · cases found
  rename_i alt' afterBracket bracket
  split at found
  · cases found
  rename_i data' rest' close
  cases found
  rw [isOpened rfl] at bracket
  cases (cut_pair (by decide) closed _).symm.trans bracket
  cases (cut_letter unclosed rest).symm.trans close
  exact ⟨rfl, rfl, rfl⟩

def plainBefore (before : List Char) : List MarkdownPiece :=
  if before = [] then [] else [.plain before]

theorem plainBefore_source (before : List Char) :
    (plainBefore before).flatMap MarkdownPiece.source = before := by
  unfold plainBefore
  split
  · rename_i empty
    rw [empty, flatMap_nil]
  · exact append_nil before

/-- The pieces that the parts of one round are made from. -/
theorem pieces_of_round {before : List Char} {format data : String} {parts : List InlinePart}
    {pieces : List MarkdownPiece} :
    List.Forall₂ (MarkdownPiece.Gives decode) pieces
        (textBefore before ++ .inlineData format data :: parts) ↔
      ∃ alt url rest, pieces = plainBefore before ++ .image alt url :: rest ∧
        decode (String.ofList url) = .ok (format, data) ∧
        List.Forall₂ (MarkdownPiece.Gives decode) rest parts := by
  have images : ∀ {pieces : List MarkdownPiece},
      List.Forall₂ (MarkdownPiece.Gives decode) pieces (.inlineData format data :: parts) ↔
        ∃ alt url rest, pieces = .image alt url :: rest ∧
          decode (String.ofList url) = .ok (format, data) ∧
          List.Forall₂ (MarkdownPiece.Gives decode) rest parts := by
    intro pieces
    constructor
    · rintro (_ | @⟨piece, _, rest, _, gives, others⟩)
      cases piece with
      | plain text => cases gives
      | image alt url =>
        obtain ⟨_, _, decoded, same⟩ := gives
        cases same
        exact ⟨alt, url, rest, rfl, decoded, others⟩
    · rintro ⟨alt, url, rest, rfl, decoded, others⟩
      exact .cons ⟨_, _, decoded, rfl⟩ others
  unfold textBefore plainBefore
  split
  · exact images
  · constructor
    · rintro (_ | @⟨piece, _, rest, _, gives, others⟩)
      obtain ⟨alt, url, rest, rfl, decoded, others⟩ := images.mp others
      cases piece with
      | plain text =>
        rw [MarkdownPiece.Gives, InlinePart.text.injEq, String.ofList_inj] at gives
        exact ⟨alt, url, rest, by rw [gives]; rfl, decoded, others⟩
      | image alt url =>
        obtain ⟨_, _, _, same⟩ := gives
        cases same
    · rintro ⟨alt, url, rest, rfl, decoded, others⟩
      exact .cons rfl (images.mpr ⟨alt, url, rest, rfl, decoded, others⟩)

theorem imageParts_lossless_iff {fuel : Nat} {parts : List InlinePart}
    (enough : text.length ≤ fuel) (done : imageParts decode fuel text = .ok parts) :
    Lossless decode text parts ↔ ImagesToTheEnd text := by
  -- the loop leaves a rest that is shorter, so the fuel is never used up
  induction fuel generalizing text parts with
  | zero =>
    obtain rfl := length_eq_zero_iff.mp (Nat.le_zero.mp enough)
    cases done
    exact iff_of_true ⟨[], by simp, rfl, .nil⟩ .done
  | succ fuel ih =>
    rw [imageParts] at done
    cases found : nextImage text with
    | none =>
      rw [found] at done
      cases done
      constructor
      · rintro ⟨_, -, rfl, (_ | _)⟩
        exact .done
      · rintro (_ | ⟨isFound, -, -, -⟩)
        · exact ⟨[], by simp, rfl, .nil⟩
        · cases found.symm.trans isFound
    | some image =>
      rw [found] at done
      dsimp only at done
      split at done
      · cases done
      rename_i format data decoded
      obtain ⟨source, validURL⟩ := nextImage_eq_some found
      cases more : imageParts decode fuel image.rest with
      | error err => rw [more] at done; cases done
      | ok others =>
        rw [more] at done
        cases done
        have shorter : image.rest.length ≤ fuel := by
          have lengths := congrArg List.length source
          simp only [MarkdownPiece.source, length_append, length_singleton]
            at lengths
          omega
        have rest := ih shorter more
        constructor
        · rintro ⟨pieces, valid, whole, gives⟩
          obtain ⟨alt, url, others, rfl, -, othersGive⟩ := pieces_of_round.mp gives
          have isValid := valid (.image alt url) (by simp)
          rw [flatMap_append, plainBefore_source, flatMap_cons,
            ← append_assoc] at whole
          obtain ⟨rfl, rfl, sameRest⟩ := nextImage_unique found isValid whole.symm
          refine .image found isValid.1 isValid.2.1
            (rest.mp ⟨others, ?_, sameRest.symm, othersGive⟩)
          exact fun piece member => valid piece (by simp [member])
        · rintro (_ | ⟨isFound, single, closed, toTheEnd⟩)
          · cases found
          · cases found.symm.trans isFound
            obtain ⟨pieces, valid, whole, gives⟩ := rest.mpr toTheEnd
            refine ⟨plainBefore image.before ++ .image image.alt image.url :: pieces, ?_, ?_,
              pieces_of_round.mpr ⟨_, _, _, rfl, decoded, gives⟩⟩
            · intro piece member
              rcases mem_append.mp member with plain | (_ | ⟨_, member⟩)
              · unfold plainBefore at plain
                split at plain
                · cases plain
                · cases mem_singleton.mp plain
                  trivial
              · exact ⟨single, closed, validURL⟩
              · exact valid piece member
            · rw [flatMap_append, plainBefore_source, flatMap_cons, whole,
                ← append_assoc, ← source]

/-- Splitting a text loses nothing exactly if it has no image with a data URL, or ends with one
and no image that the source finds has another one, or a closing bracket, between its brackets. -/
theorem textParts_lossless_iff (decode : String → Except String (String × String))
    (text : String) (parts : List InlinePart) (done : textParts decode text = .ok parts) :
    Lossless decode text.toList parts ↔
      nextImage text.toList = none ∨ ImagesToTheEnd text.toList := by
  unfold textParts at done
  split at done
  · rename_i empty
    cases done
    rw [empty]
    exact iff_of_true ⟨[], by simp, rfl, .nil⟩ (.inl rfl)
  · split at done
    · rename_i none
      cases done
      refine iff_of_true ⟨[.plain text.toList], by simp [MarkdownPiece.Valid], by
        simp [MarkdownPiece.source], .cons ?_ .nil⟩ (.inl none)
      rw [MarkdownPiece.Gives, String.ofList_toList]
    · rename_i image found
      rw [imageParts_lossless_iff (le_of_eq String.length_toList) done, found]
      exact ⟨.inr, fun either => either.resolve_left (by simp)⟩

/-- The type and the data of a data URL; where the URL does not name a type, the data have to be
read as an image, which gives a format and the data. -/
def decodeBase64FileData (decodeBase64ImageData : List Char → Except String (String × String))
    (url : String) : Except String (String × String) :=
  let ofImage := fun data =>
    (decodeBase64ImageData data).map fun read => ("image/" ++ read.1, read.2)
  match cut [','] url.toList with
  | none => ofImage url.toList
  | some (head, data) =>
    match cut [';'] head with
    | none => ofImage data
    | some (scheme, _) =>
      match cut [':'] scheme with
      | none => ofImage data
      | some (_, mimeType) => .ok (String.ofList mimeType, String.ofList data)

/-- Reads only URLs that name their type. -/
def decodeTyped : String → Except String (String × String) :=
  decodeBase64FileData fun _ => .error "image: unknown format"

theorem shown_image_lossless :
    textParts decodeTyped "see ![a](data:image/png;base64,AA==)" =
        .ok [.text "see ", .inlineData "image/png" "AA=="] ∧
      (Lossless decodeTyped "see ![a](data:image/png;base64,AA==)".toList
          [.text "see ", .inlineData "image/png" "AA=="] ↔
        nextImage "see ![a](data:image/png;base64,AA==)".toList = none ∨
          ImagesToTheEnd "see ![a](data:image/png;base64,AA==)".toList) ∧
      ImagesToTheEnd "see ![a](data:image/png;base64,AA==)".toList := by
  have done : textParts decodeTyped "see ![a](data:image/png;base64,AA==)" =
      .ok [.text "see ", .inlineData "image/png" "AA=="] := by decide +kernel
  refine ⟨done, textParts_lossless_iff _ _ _ done, ?_⟩
  exact @ImagesToTheEnd.image _ ⟨"see ".toList, ['a'], "data:image/png;base64,AA==".toList, []⟩
    (by with_unfolding_all rfl) (by decide +kernel) (by decide +kernel) .done

/-- The text after the image is lost. -/
theorem text_after_image_lost :
    textParts decodeTyped "![a](data:image/png;base64,AA==) see" =
        .ok [.inlineData "image/png" "AA=="] ∧
      ¬ Lossless decodeTyped "![a](data:image/png;base64,AA==) see".toList
        [.inlineData "image/png" "AA=="] := by
  refine ⟨by decide +kernel, ?_⟩
  rintro ⟨_, -, whole, (_ | @⟨piece, _, _, _, gives, (_ | _)⟩)⟩
  cases piece with
  | plain text => cases gives
  | image alt url =>
    have last := congrArg List.getLast? whole
    rw [flatMap_singleton, MarkdownPiece.source, getLast?_concat] at last
    exact absurd last (by decide +kernel)

end AiHub.Relaykit
