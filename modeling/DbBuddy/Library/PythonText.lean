import Mathlib.Data.List.Basic
import Mathlib.Data.List.DropRight

/-!
# Texts as Python sees them

White space is given in full.  What depends on the tables of Unicode (case, and
which characters make words and identifiers) is a parameter, with the few laws
that proofs rest on.
-/

namespace DbBuddy.Library

/-- Python's Unicode tables: `str.lower`, `str.upper`, `str.isidentifier`, and the
class of `\w` in a pattern.  No other character turns into a percent sign. -/
structure Unicode where
  lower : String → String
  upper : String → String
  isIdentifier : String → Bool
  isWord : Char → Bool
  lower_eq_empty : ∀ text, lower text = "" ↔ text = ""
  upper_percent : ∀ text, '%' ∈ (upper text).toList → '%' ∈ text.toList

theorem toUpper_eq_percent {char : Char} (same : char.toUpper = '%') :
    char = '%' := by
  unfold Char.toUpper at same
  split at same
  · rename_i isLower
    have value := Char.ext_iff.mp same
    dsimp only at value
    have isAt : char.val = '%'.val - ('A'.val - 'a'.val) := by
      rw [← value, UInt32.add_sub_cancel]
    rw [isAt] at isLower
    exact absurd isLower (by decide)
  · exact same

/-- The tables as far as ASCII goes. -/
def ascii : Unicode where
  lower text := String.ofList (text.toList.map Char.toLower)
  upper text := String.ofList (text.toList.map Char.toUpper)
  isIdentifier text := !text.isEmpty &&
    text.toList.all (fun char => char.isAlphanum || char == '_') &&
    !(text.toList.headD '0').isDigit
  isWord char := char.isAlphanum || char == '_'
  lower_eq_empty text := by
    simp [← String.toList_eq_nil_iff]
  upper_percent text isIn := by
    rw [String.toList_ofList] at isIn
    obtain ⟨char, isChar, isPercent⟩ := List.mem_map.mp isIn
    exact toUpper_eq_percent isPercent ▸ isChar

instance lawfulBEq_text : LawfulBEq (List Char) :=
  inferInstance

instance lawfulBEq_names : LawfulBEq (String × String) :=
  inferInstance

/-- The code points that `str.isspace` accepts. -/
def isSpace (char : Char) : Bool :=
  let code := char.toNat
  (decide (9 ≤ code) && decide (code ≤ 13)) ||
    (decide (28 ≤ code) && decide (code ≤ 32)) ||
    (decide (8192 ≤ code) && decide (code ≤ 8202)) ||
    [133, 160, 5760, 8232, 8233, 8239, 8287, 12288].contains code

/-- `text.strip()` -/
def strip (text : List Char) : List Char :=
  ((text.dropWhile isSpace).reverse.dropWhile isSpace).reverse

/-- What is left of a text is part of it. -/
theorem strip_subset (text : List Char) : strip text ⊆ text := by
  intro char isIn
  have inFront := (List.dropWhile_sublist isSpace).subset
    (List.mem_reverse.mp isIn)
  exact (List.dropWhile_sublist isSpace).subset (List.mem_reverse.mp inFront)

theorem strip_strip (text : List Char) : strip (strip text) = strip text := by
  have front : (strip text).dropWhile isSpace = strip text := by
    have isPrefix : strip text <+: text.dropWhile isSpace :=
      List.rdropWhile_prefix isSpace _
    cases stripped : strip text with
    | nil => rfl
    | cons char rest =>
        rw [stripped] at isPrefix
        have isFirst := List.head?_dropWhile_not isSpace text
        obtain ⟨behind, isBody⟩ := isPrefix
        rw [← isBody] at isFirst
        exact List.dropWhile_cons_of_neg (by simpa using isFirst)
  calc strip (strip text)
      = ((strip text).dropWhile isSpace).rdropWhile isSpace := rfl
    _ = (strip text).rdropWhile isSpace := by rw [front]
    _ = strip text := List.rdropWhile_idempotent isSpace _

/-- A text without blanks has none to strip. -/
theorem strip_eq_self {text : List Char} (solid : ∀ char ∈ text, isSpace char = false) :
    strip text = text := by
  have noSpace : ∀ chars : List Char, (∀ char ∈ chars, isSpace char = false) →
      chars.dropWhile isSpace = chars := by
    intro chars solidChars
    cases chars with
    | nil =>
        rfl
    | cons char rest =>
        apply List.dropWhile_cons_of_neg
        rw [solidChars char List.mem_cons_self]
        exact Bool.false_ne_true
  rw [strip, noSpace text solid, noSpace, List.reverse_reverse]
  intro char isIn
  exact solid char (List.mem_reverse.mp isIn)

/-- `text.rstrip(char)` -/
def stripEnd (char : Char) (text : List Char) : List Char :=
  (text.reverse.dropWhile (· == char)).reverse

/-- `text.split()` -/
def words (text : List Char) : List (List Char) :=
  (text.splitOnP isSpace).filter fun word => !word.isEmpty

/-- The parts of `text.split(separator)` that are more than white space, each
stripped. -/
def statements (separator : Char) (text : List Char) : List (List Char) :=
  ((text.splitOn separator).map strip).filter fun part => !part.isEmpty

/-- `part in text` -/
def containsText (part text : List Char) : Bool :=
  text.tails.any fun tail => part.isPrefixOf tail

/-- A list of names without quotes in them, as it is formatted. -/
def listed (names : List String) : String :=
  "[" ++ ", ".intercalate (names.map fun name => "'" ++ name ++ "'") ++ "]"

/-! ## Lower case, character by character -/

/-- `str.lower`; the two lower-case forms of sigma are not told apart.  Only the
Kelvin sign becomes a letter of ASCII. -/
structure Lowercase where
  char : Char → List Char
  char_ascii : ∀ code : Char, code.toNat < 128 → char code = [code.toLower]
  char_other : ∀ code : Char, 128 ≤ code.toNat →
    char code = ['k'] ∨ ∃ other ∈ char code, 128 ≤ other.toNat
  char_space : ∀ code : Char, isSpace code = true → char code = [code]
  char_solid : ∀ code : Char, isSpace code = false →
    ∀ other ∈ char code, isSpace other = false

/-- An upper-case letter of ASCII becomes the lower-case one, and no other
character changes. -/
theorem toLower_cases (char : Char) : char.toLower = char ∨
    (65 ≤ char.toNat ∧ char.toNat ≤ 90 ∧
      char.toLower.toNat = char.toNat + 32) := by
  unfold Char.toLower
  split
  · rename_i isUpper
    have low : 65 ≤ char.toNat := isUpper.1
    have high : char.toNat ≤ 90 := isUpper.2
    have value : (char.val + ('a'.val - 'A'.val)).toNat =
        char.val.toNat + 32 := by
      have gap : ('a'.val - 'A'.val).toNat = 32 := rfl
      have isNat : char.val.toNat = char.toNat := rfl
      rw [UInt32.toNat_add, gap]
      omega
    exact Or.inr ⟨low, high, value⟩
  · exact Or.inl rfl

/-- Letters and digits by their code points. -/
theorem isAlphanum_iff {char : Char} : char.isAlphanum = true ↔
    (65 ≤ char.toNat ∧ char.toNat ≤ 90) ∨ (97 ≤ char.toNat ∧ char.toNat ≤ 122) ∨
      (48 ≤ char.toNat ∧ char.toNat ≤ 57) := by
  have isSplit : char.isAlphanum = (char.isUpper || char.isLower || char.isDigit) := rfl
  have isUpper : char.isUpper = true ↔ 65 ≤ char.toNat ∧ char.toNat ≤ 90 :=
    decide_eq_true_iff
  have isLower : char.isLower = true ↔ 97 ≤ char.toNat ∧ char.toNat ≤ 122 :=
    Bool.and_eq_true_iff.trans (and_congr decide_eq_true_iff decide_eq_true_iff)
  have isDigit : char.isDigit = true ↔ 48 ≤ char.toNat ∧ char.toNat ≤ 57 :=
    Bool.and_eq_true_iff.trans (and_congr decide_eq_true_iff decide_eq_true_iff)
  rw [isSplit, Bool.or_eq_true, Bool.or_eq_true, isUpper, isLower, isDigit, or_assoc]

/-- White space has no letters of ASCII in it. -/
theorem isSpace_bounds {char : Char} (isSpaced : isSpace char = true) :
    char.toNat ≤ 32 ∨ 128 ≤ char.toNat := by
  simp only [isSpace, Bool.or_eq_true, Bool.and_eq_true, decide_eq_true_eq,
    List.contains_eq_mem, List.mem_cons, List.not_mem_nil, or_false] at isSpaced
  omega

/-- As far as ASCII goes. -/
def asciiLowercase : Lowercase where
  char code := [code.toLower]
  char_ascii _ _ := rfl
  char_other code isOther := by
    have same : code.toLower = code := by
      rcases toLower_cases code with same | isUpper
      · exact same
      · omega
    exact Or.inr ⟨code.toLower, List.mem_singleton_self _, by rwa [same]⟩
  char_space code isSpaced := by
    have bounds := isSpace_bounds isSpaced
    rcases toLower_cases code with same | isUpper
    · rw [same]
    · omega
  char_solid code isSolid other isIn := by
    rw [List.mem_singleton.mp isIn]
    rcases toLower_cases code with same | isUpper
    · rw [same]
      exact isSolid
    · by_contra isSpaced
      have bounds := isSpace_bounds (eq_true_of_ne_false isSpaced)
      omega

/-- `text.lower()` -/
def Lowercase.text (lowercase : Lowercase) (text : List Char) : List Char :=
  text.flatMap lowercase.char

theorem text_ascii {lowercase : Lowercase} {text : List Char}
    (isAscii : ∀ char ∈ text, char.toNat < 128) :
    lowercase.text text = text.map Char.toLower := by
  rw [Lowercase.text, List.map_eq_flatMap]
  exact List.flatMap_congr fun char isIn => lowercase.char_ascii char (isAscii char isIn)

theorem text_append {lowercase : Lowercase} (front back : List Char) :
    lowercase.text (front ++ back) = lowercase.text front ++ lowercase.text back :=
  List.flatMap_append

end DbBuddy.Library
