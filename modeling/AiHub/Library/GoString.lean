import Mathlib.Data.List.DropRight

/-!
# Trimming and lower case of strings

`trimSpace` removes the leading and trailing white space of a string, where
white space is what Unicode classifies as such.  Outside ASCII, `toLower` uses a
table of Unicode, which is a parameter.
-/

namespace AiHub.Library

open List

/-- The characters of Unicode's `White_Space` property. -/
def isSpace (char : Char) : Bool :=
  let code := char.toNat
  (0x09 ≤ code && code ≤ 0x0D) || code == 0x20 || code == 0x85 || code == 0xA0 ||
    code == 0x1680 || (0x2000 ≤ code && code ≤ 0x200A) || code == 0x2028 ||
    code == 0x2029 || code == 0x202F || code == 0x205F || code == 0x3000

/-- A string without its leading and trailing white space. -/
def trimSpace (text : String) : String :=
  String.ofList ((text.toList.dropWhile isSpace).rdropWhile isSpace)

/-- A string in lower case. -/
def toLower (lowerRune : Char → Char) (text : String) : String :=
  String.ofList (text.toList.map fun char =>
    if char.toNat < 128 then char.toLower else lowerRune char)

theorem dropWhile_rdropWhile_dropWhile {α : Type*} (accept : α → Bool) (items : List α) :
    ((items.dropWhile accept).rdropWhile accept).dropWhile accept =
      (items.dropWhile accept).rdropWhile accept := by
  cases trimmed : (items.dropWhile accept).rdropWhile accept with
  | nil => rfl
  | cons head tail =>
    obtain ⟨suffix, whole⟩ := rdropWhile_prefix accept (l := items.dropWhile accept)
    rw [trimmed] at whole
    have headKept : ¬ accept head = true := by
      have kept := dropWhile_get_zero_not accept items (by rw [← whole]; simp)
      simpa [← whole] using kept
    exact dropWhile_cons_of_neg headKept

/-- Nothing is left exactly of white space. -/
theorem trimSpace_eq_empty_iff {text : String} :
    trimSpace text = "" ↔ ∀ char ∈ text.toList, isSpace char = true := by
  rw [trimSpace, ← String.toList_inj, String.toList_ofList, String.toList_empty,
    rdropWhile_eq_nil_iff]
  constructor
  · intro rest
    refine dropWhile_eq_nil_iff.mp (eq_nil_iff_forall_not_mem.mpr fun char member => ?_)
    have nonempty := length_pos_of_mem member
    exact dropWhile_get_zero_not _ _ nonempty (rest _ (get_mem _ _))
  · intro all char member
    exact all char ((dropWhile_suffix _).subset member)

/-- A string without white space is trimmed. -/
theorem trimSpace_of_solid {text : String}
    (solid : ∀ char ∈ text.toList, isSpace char = false) : trimSpace text = text := by
  have front : text.toList.dropWhile isSpace = text.toList := by
    cases isText : text.toList with
    | nil => rfl
    | cons first rest =>
      have := solid first (isText ▸ mem_cons_self)
      exact dropWhile_cons_of_neg (by simp [this])
  have back : text.toList.rdropWhile isSpace = text.toList := by
    rw [rdropWhile_eq_self_iff]
    intro some isLast
    simp [solid _ (getLast_mem some)] at isLast
  rw [trimSpace, front, back, String.ofList_toList]

/-- Trimming twice is trimming once. -/
@[simp] theorem trimSpace_trimSpace (text : String) :
    trimSpace (trimSpace text) = trimSpace text := by
  simp only [trimSpace, String.toList_ofList]
  rw [dropWhile_rdropWhile_dropWhile, rdropWhile_idempotent]

end AiHub.Library
