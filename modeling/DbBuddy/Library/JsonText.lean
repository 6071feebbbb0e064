import Mathlib.Data.List.Basic
import Mathlib.Data.List.TakeWhile
import Mathlib.Data.Nat.Digits.Defs

/-!
# JSON documents and their text

The text that `json.dumps` writes, character by character.  A text is that of one document
only, whatever follows it, as long as what follows a number is no part of one.
-/

namespace DbBuddy.Library

/-- A document; the numbers that are not whole are what their texts tell apart. -/
inductive Document (Real : Type) where
  | null
  | bool (value : Bool)
  | integer (value : ℤ)
  | real (value : Real)
  | string (value : String)
  | array (items : List (Document Real))
  | object (entries : List (String × Document Real))

/-! ## Strings -/

/-- The marks of the short escapes. -/
def shortEscapes : List (Char × Char) :=
  [('"', '"'), ('\\', '\\'), ('\n', 'n'), ('\r', 'r'), ('\t', 't'), ('\x0c', 'f'),
    ('\x08', 'b')]

/-- `{0:04x}` -/
def hex4 (code : ℕ) : List Char :=
  [Nat.digitChar (code / 4096), Nat.digitChar (code / 256 % 16),
    Nat.digitChar (code / 16 % 16), Nat.digitChar (code % 16)]

/-- `py_encode_basestring_ascii`, of one character. -/
def escapeChar (char : Char) : List Char :=
  match shortEscapes.find? fun escape => escape.1 == char with
  | some escape => ['\\', escape.2]
  | none =>
      if ' ' ≤ char ∧ char ≤ '~' then [char]
      else if char.toNat < 0x10000 then '\\' :: 'u' :: hex4 char.toNat
      else
        -- the surrogate pair
        let code := char.toNat - 0x10000
        '\\' :: 'u' :: (hex4 (0xd800 + code / 1024) ++
          '\\' :: 'u' :: hex4 (0xdc00 + code % 1024))

def writeString (value : String) : List Char :=
  '"' :: (value.toList.flatMap escapeChar ++ ['"'])

/-- The value of a hexadecimal digit. -/
def hexValue (digit : Char) : ℕ :=
  "0123456789abcdef".toList.idxOf digit

/-- `_decode_uXXXX` -/
def readHex4 : List Char → Option (ℕ × List Char)
  | first :: second :: third :: fourth :: rest =>
      some (((hexValue first * 16 + hexValue second) * 16 + hexValue third) * 16 +
        hexValue fourth, rest)
  | _ => none

/-- What follows a backslash and a `u`. -/
def readUnicode (text : List Char) : Option (Char × List Char) :=
  match readHex4 text with
  | none => none
  | some (code, rest) =>
      if 0xd800 ≤ code ∧ code < 0xdc00 then
        (readHex4 (rest.drop 2)).map fun low =>
          (Char.ofNat (0x10000 + (code - 0xd800) * 1024 + (low.1 - 0xdc00)), low.2)
      else some (Char.ofNat code, rest)

/-- The character at the front of a string's text. -/
def readChar : List Char → Option (Char × List Char)
  | [] => none
  | char :: rest =>
      if char ≠ '\\' then some (char, rest)
      else
        match rest with
        | [] => none
        | mark :: behind =>
            if mark = 'u' then readUnicode behind
            else (shortEscapes.find? fun escape => escape.2 == mark).map fun escape =>
              (escape.1, behind)

theorem hexValue_digitChar : ∀ digit < 16, hexValue (Nat.digitChar digit) = digit := by
  decide

theorem readHex4_hex4 {code : ℕ} (small : code < 0x10000) (rest : List Char) :
    readHex4 (hex4 code ++ rest) = some (code, rest) := by
  have digits : readHex4 (hex4 code ++ rest) =
      some (((code / 4096 * 16 + code / 256 % 16) * 16 + code / 16 % 16) * 16 + code % 16,
        rest) := by
    unfold hex4
    simp only [List.cons_append, List.nil_append, readHex4]
    rw [hexValue_digitChar _ (by omega), hexValue_digitChar _ (by omega),
      hexValue_digitChar _ (by omega), hexValue_digitChar _ (by omega)]
  have whole : ((code / 4096 * 16 + code / 256 % 16) * 16 + code / 16 % 16) * 16 +
      code % 16 = code := by
    omega
  rw [digits, whole]

theorem readChar_short : ∀ escape ∈ shortEscapes, ∀ rest : List Char,
    readChar ('\\' :: escape.2 :: rest) = some (escape.1, rest) := by
  intro escape isEscape rest
  simp only [shortEscapes, List.mem_cons, List.not_mem_nil, or_false] at isEscape
  rcases isEscape with rfl | rfl | rfl | rfl | rfl | rfl | rfl
  all_goals rfl

/-- The code of a character is no surrogate. -/
theorem toNat_bounds (char : Char) :
    char.toNat < 0xd800 ∨ 0xdfff < char.toNat ∧ char.toNat < 0x110000 :=
  char.valid

/-- What is written for a character is read as it. -/
theorem readChar_escapeChar (char : Char) (rest : List Char) :
    readChar (escapeChar char ++ rest) = some (char, rest) := by
  have valid := toNat_bounds char
  unfold escapeChar
  split
  · next escape isEscape =>
      have isChar : escape.1 = char := by
        simpa using List.find?_some isEscape
      rw [← isChar]
      exact readChar_short escape (List.mem_of_find?_eq_some isEscape) rest
  · next noEscape =>
      split
      · have notEscape : char ≠ '\\' := by
          rintro rfl
          exact absurd noEscape (by decide)
        rw [List.singleton_append]
        simp only [readChar, ne_eq, notEscape, not_false_eq_true, if_true]
      · split
        · next isShort =>
            have noPair : ¬ (0xd800 ≤ char.toNat ∧ char.toNat < 0xdc00) := by
              omega
            simp only [List.cons_append, readChar, ne_eq, not_true, if_false, if_true]
            rw [readUnicode, readHex4_hex4 isShort]
            dsimp only
            rw [if_neg noPair, Char.ofNat_toNat]
        · next isLong =>
            have isHigh : 0xd800 ≤ 0xd800 + (char.toNat - 0x10000) / 1024 ∧
                0xd800 + (char.toNat - 0x10000) / 1024 < 0xdc00 := by
              omega
            have whole : 0x10000 +
                (0xd800 + (char.toNat - 0x10000) / 1024 - 0xd800) * 1024 +
                  (0xdc00 + (char.toNat - 0x10000) % 1024 - 0xdc00) = char.toNat := by
              omega
            simp only [List.cons_append, readChar, ne_eq, not_true, if_false, if_true]
            rw [readUnicode, List.append_assoc, readHex4_hex4 (by omega)]
            dsimp only
            rw [if_pos isHigh]
            simp only [List.cons_append, List.drop_succ_cons, List.drop_zero]
            rw [readHex4_hex4 (by omega), Option.map_some]
            dsimp only
            rw [whole, Char.ofNat_toNat]

theorem escapeChar_injective {char other : Char} {rest behind : List Char}
    (same : escapeChar char ++ rest = escapeChar other ++ behind) :
    char = other ∧ rest = behind := by
  have read : readChar (escapeChar other ++ behind) = some (char, rest) := by
    rw [← same, readChar_escapeChar]
  rw [readChar_escapeChar, Option.some.injEq, Prod.mk.injEq] at read
  exact ⟨read.1.symm, read.2.symm⟩

/-- No text of a character begins with the closing quote. -/
theorem escapeChar_ne_quote (char : Char) (rest behind : List Char) :
    escapeChar char ++ rest ≠ '"' :: behind := by
  intro same
  have read : readChar ('"' :: behind) = some (char, rest) := by
    rw [← same, readChar_escapeChar]
  have isQuote : char = '"' := by
    have isRead : some ('"', behind) = some (char, rest) := read
    exact (Prod.mk.inj (Option.some.inj isRead)).1.symm
  rw [isQuote] at same
  exact absurd (List.cons.inj same).1 (by decide)

theorem escapes_injective {text other rest behind : List Char}
    (same : text.flatMap escapeChar ++ '"' :: rest =
      other.flatMap escapeChar ++ '"' :: behind) : text = other ∧ rest = behind := by
  induction text generalizing other with
  | nil =>
      cases other with
      | nil => exact ⟨rfl, (List.cons.inj same).2⟩
      | cons first others =>
          rw [List.flatMap_cons, List.append_assoc] at same
          exact absurd same.symm (escapeChar_ne_quote first _ _)
  | cons char text induction =>
      cases other with
      | nil =>
          rw [List.flatMap_cons, List.append_assoc] at same
          exact absurd same (escapeChar_ne_quote char _ _)
      | cons first others =>
          rw [List.flatMap_cons, List.flatMap_cons, List.append_assoc,
            List.append_assoc] at same
          obtain ⟨sameChar, sameRest⟩ := escapeChar_injective same
          obtain ⟨sameText, sameBehind⟩ := induction sameRest
          exact ⟨by rw [sameChar, sameText], sameBehind⟩

theorem writeString_injective {value other : String} {rest behind : List Char}
    (same : writeString value ++ rest = writeString other ++ behind) :
    value = other ∧ rest = behind := by
  simp only [writeString, List.cons_append, List.append_assoc, List.nil_append,
    List.cons.injEq, true_and] at same
  obtain ⟨sameText, sameRest⟩ := escapes_injective same
  exact ⟨String.toList_injective sameText, sameRest⟩

/-! ## Documents -/

/-- The characters of words and numbers. -/
def isAtomChar (char : Char) : Bool :=
  char.isAlphanum || char == '+' || char == '-' || char == '.'

def showInteger (value : ℤ) : List Char :=
  if value < 0 then '-' :: Nat.toDigits 10 value.natAbs else Nat.toDigits 10 value.natAbs

/-- The texts of the words. -/
def jsonWords : List (List Char) :=
  ["null".toList, "true".toList, "false".toList]

/-- `float.__repr__` on the values that it tells apart: no text of them is that of a whole
number or of a word. -/
structure RealText (Real : Type) where
  text : Real → List Char
  isZero : Real → Bool
  injective : Function.Injective text
  nonempty : ∀ value, text value ≠ []
  isAtom : ∀ value, ∀ char ∈ text value, isAtomChar char = true
  notInteger : ∀ value (whole : ℤ), text value ≠ showInteger whole
  notWord : ∀ value, text value ∉ jsonWords

section Writing

variable {Real : Type} (reals : RealText Real)

/-- The first character of what is no word or number. -/
def Document.opening : Document Real → Option Char
  | .string _ => some '"'
  | .array _ => some '['
  | .object _ => some '\x7b'
  | _ => none

/-- A separator, in front of all items but the first. -/
def separator (first : Bool) : List Char :=
  if first = true then [] else [',', ' ']

mutual

/-- `json.dumps` -/
def Document.write : Document Real → List Char
  | .null => "null".toList
  | .bool true => "true".toList
  | .bool false => "false".toList
  | .integer value => showInteger value
  | .real value => reals.text value
  | .string value => writeString value
  | .array items => '[' :: writeItems true items
  | .object entries => '\x7b' :: writeEntries true entries

def writeItems (first : Bool) : List (Document Real) → List Char
  | [] => [']']
  | item :: rest => separator first ++ (item.write ++ writeItems false rest)

def writeEntries (first : Bool) : List (String × Document Real) → List Char
  | [] => ['\x7d']
  | (key, item) :: rest =>
      separator first ++ (writeString key ++
        (':' :: ' ' :: (item.write ++ writeEntries false rest)))

end

variable {reals}

theorem toDigits_injective {number other : ℕ}
    (same : Nat.toDigits 10 number = Nat.toDigits 10 other) : number = other := by
  have read : Nat.ofDigitChars 10 (Nat.toDigits 10 number) 0 = number :=
    Nat.ofDigitChars_toDigits (by decide) (by decide)
  have otherRead : Nat.ofDigitChars 10 (Nat.toDigits 10 other) 0 = other :=
    Nat.ofDigitChars_toDigits (by decide) (by decide)
  rw [← read, ← otherRead, same]

theorem isDigit_of_mem_toDigits {number : ℕ} {char : Char}
    (isIn : char ∈ Nat.toDigits 10 number) : char.isDigit = true :=
  Nat.isDigit_of_mem_toDigits (by decide) (by decide) isIn

theorem showInteger_injective {value other : ℤ}
    (same : showInteger value = showInteger other) : value = other := by
  have minus : ∀ number other : ℕ, '-' :: Nat.toDigits 10 number ≠ Nat.toDigits 10 other := by
    intro number other same
    have isIn : '-' ∈ Nat.toDigits 10 other := by
      rw [← same]
      exact List.mem_cons_self
    have isDigit := isDigit_of_mem_toDigits isIn
    exact absurd isDigit (by decide)
  unfold showInteger at same
  split at same
  · split at same
    · have sameSize := toDigits_injective (List.cons.inj same).2
      omega
    · exact absurd same (minus _ _)
  · split at same
    · exact absurd same.symm (minus _ _)
    · have sameSize := toDigits_injective same
      omega

theorem isAtom_showInteger (value : ℤ) :
    showInteger value ≠ [] ∧ ∀ char ∈ showInteger value, isAtomChar char = true := by
  have digits : ∀ number, ∀ char ∈ Nat.toDigits 10 number, isAtomChar char = true := by
    intro number char isIn
    have isDigit := isDigit_of_mem_toDigits isIn
    simp only [isAtomChar, Char.isAlphanum, isDigit, Bool.or_true, Bool.true_or]
  unfold showInteger
  split
  · refine ⟨List.cons_ne_nil _ _, ?_⟩
    intro char isIn
    rcases List.mem_cons.mp isIn with rfl | isDigit
    · decide
    · exact digits _ char isDigit
  · exact ⟨Nat.toDigits_ne_nil, digits _⟩

/-- A word or a number. -/
def Document.IsAtom (document : Document Real) : Prop :=
  document.opening = none

/-- What follows is no part of a word or number. -/
def Ends (rest : List Char) : Prop :=
  ∀ char, rest.head? = some char → isAtomChar char = false

theorem write_of_isAtom (reals : RealText Real) {document : Document Real}
    (isAtom : document.IsAtom) : document.write reals ≠ [] ∧
      ∀ char ∈ document.write reals, isAtomChar char = true := by
  have words : ∀ text ∈ jsonWords, text ≠ [] ∧ text.all isAtomChar = true := by
    decide
  have word : ∀ text ∈ jsonWords, text ≠ [] ∧ ∀ char ∈ text, isAtomChar char = true :=
    fun text isIn => ⟨(words text isIn).1, List.all_eq_true.mp (words text isIn).2⟩
  cases document with
  | null => exact word "null".toList (by decide)
  | bool value =>
      cases value with
      | true => exact word "true".toList (by decide)
      | false => exact word "false".toList (by decide)
  | integer value => exact isAtom_showInteger value
  | real value => exact ⟨reals.nonempty value, reals.isAtom value⟩
  | string value => cases isAtom
  | array items => cases isAtom
  | object entries => cases isAtom

theorem write_of_opening (reals : RealText Real) {document : Document Real} {char : Char}
    (isOpening : document.opening = some char) :
    (document.write reals).head? = some char ∧ isAtomChar char = false := by
  cases document with
  | null => cases isOpening
  | bool value => cases isOpening
  | integer value => cases isOpening
  | real value => cases isOpening
  | string value =>
      cases isOpening
      exact ⟨rfl, by decide⟩
  | array items =>
      cases isOpening
      exact ⟨rfl, by decide⟩
  | object entries =>
      cases isOpening
      exact ⟨rfl, by decide⟩

/-- The first characters tell the kinds of documents apart. -/
theorem opening_eq {document other : Document Real} {rest behind : List Char}
    (same : document.write reals ++ rest = other.write reals ++ behind) :
    document.opening = other.opening := by
  have headOf : ∀ (document : Document Real) (rest : List Char) (char : Char),
      document.opening = some char → (document.write reals ++ rest).head? = some char := by
    intro document rest char isOpening
    rw [List.head?_append, (write_of_opening reals isOpening).1]
    rfl
  have atomOf : ∀ (document : Document Real) (rest : List Char) (char : Char),
      document.opening = none → (document.write reals ++ rest).head? = some char →
        isAtomChar char = true := by
    intro document rest char isAtom isHead
    obtain ⟨nonempty, allAtoms⟩ := write_of_isAtom reals isAtom
    rw [List.head?_append_of_ne_nil _ nonempty] at isHead
    exact allAtoms char (List.mem_of_head? isHead)
  cases isOpening : document.opening with
  | none =>
      cases isOther : other.opening with
      | none => rfl
      | some char =>
          have isHead := headOf other behind char isOther
          rw [← same] at isHead
          have isAtom := atomOf document rest char isOpening isHead
          rw [(write_of_opening reals isOther).2] at isAtom
          cases isAtom
  | some char =>
      have isHead := headOf document rest char isOpening
      rw [same] at isHead
      cases isOther : other.opening with
      | none =>
          have isAtom := atomOf other behind char isOther isHead
          rw [(write_of_opening reals isOpening).2] at isAtom
          cases isAtom
      | some found =>
          rw [headOf other behind found isOther] at isHead
          exact isHead.symm

/-- A word or number ends where no part of one follows. -/
theorem atoms_eq {text other rest behind : List Char}
    (isAtom : ∀ char ∈ text, isAtomChar char = true)
    (otherAtom : ∀ char ∈ other, isAtomChar char = true) (ends : Ends rest)
    (otherEnds : Ends behind) (same : text ++ rest = other ++ behind) :
    text = other ∧ rest = behind := by
  have front : ∀ text rest : List Char, (∀ char ∈ text, isAtomChar char = true) →
      Ends rest → (text ++ rest).takeWhile isAtomChar = text := by
    intro text rest isAtom ends
    rw [List.takeWhile_append_of_pos isAtom]
    cases rest with
    | nil => rw [List.takeWhile_nil, List.append_nil]
    | cons char rest =>
        rw [List.takeWhile_cons_of_neg (by simp [ends char rfl]), List.append_nil]
  have sameText : text = other := by
    rw [← front text rest isAtom ends, same, front other behind otherAtom otherEnds]
  rw [sameText] at same
  exact ⟨sameText, List.append_cancel_left same⟩

/-- The words, by their texts. -/
def wordOf (text : List Char) : Option (Document Real) :=
  if text = "null".toList then some .null
  else if text = "true".toList then some (.bool true)
  else if text = "false".toList then some (.bool false)
  else none

theorem wordOf_showInteger (value : ℤ) :
    (wordOf (showInteger value) : Option (Document Real)) = none := by
  have noWord : ∀ word ∈ jsonWords, showInteger value ≠ word := by
    intro word isWord same
    have isNumber : ∀ char ∈ word, char = '-' ∨ char.isDigit = true := by
      rw [← same]
      intro char isIn
      unfold showInteger at isIn
      split at isIn
      · exact (List.mem_cons.mp isIn).imp id isDigit_of_mem_toDigits
      · exact Or.inr (isDigit_of_mem_toDigits isIn)
    have notNumber : ∀ word ∈ jsonWords,
        (word.all fun char => char == '-' || char.isDigit) = false := by
      decide
    have allNumber : (word.all fun char => char == '-' || char.isDigit) = true := by
      apply List.all_eq_true.mpr
      intro char isIn
      simpa using isNumber char isIn
    rw [notNumber word isWord] at allNumber
    cases allNumber
  unfold wordOf
  rw [if_neg (noWord _ (by decide)), if_neg (noWord _ (by decide)),
    if_neg (noWord _ (by decide))]

theorem wordOf_real (value : Real) :
    (wordOf (reals.text value) : Option (Document Real)) = none := by
  have notWord := reals.notWord value
  simp only [jsonWords, List.mem_cons, List.not_mem_nil, or_false, not_or] at notWord
  unfold wordOf
  rw [if_neg notWord.1, if_neg notWord.2.1, if_neg notWord.2.2]

/-- A word is known by its text, and no number is taken for one. -/
theorem wordOf_write (reals : RealText Real) {document : Document Real}
    (isAtom : document.IsAtom) : wordOf (document.write reals) = some document ∨
      (wordOf (document.write reals) : Option (Document Real)) = none ∧
        ((∃ value, document = .integer value) ∨ ∃ value, document = .real value) := by
  cases document with
  | null => exact Or.inl rfl
  | bool value =>
      cases value with
      | true => exact Or.inl rfl
      | false => exact Or.inl rfl
  | integer value => exact Or.inr ⟨wordOf_showInteger value, Or.inl ⟨value, rfl⟩⟩
  | real value => exact Or.inr ⟨wordOf_real value, Or.inr ⟨value, rfl⟩⟩
  | string value => cases isAtom
  | array items => cases isAtom
  | object entries => cases isAtom

theorem atom_injective {document other : Document Real} (isAtom : document.IsAtom)
    (otherAtom : other.IsAtom) (same : document.write reals = other.write reals) :
    document = other := by
  rcases wordOf_write reals isAtom with isWord | ⟨noWord, isNumber⟩
  · rcases wordOf_write reals otherAtom with otherWord | ⟨otherNone, _⟩
    · rw [same, otherWord] at isWord
      exact (Option.some.inj isWord).symm
    · rw [same, otherNone] at isWord
      cases isWord
  · rcases wordOf_write reals otherAtom with otherWord | ⟨_, otherNumber⟩
    · rw [same, otherWord] at noWord
      cases noWord
    · rcases isNumber with ⟨value, rfl⟩ | ⟨value, rfl⟩
      · rcases otherNumber with ⟨found, rfl⟩ | ⟨found, rfl⟩
        · rw [showInteger_injective same]
        · exact absurd same.symm (reals.notInteger found value)
      · rcases otherNumber with ⟨found, rfl⟩ | ⟨found, rfl⟩
        · exact absurd same (reals.notInteger value found)
        · rw [reals.injective same]

theorem ends_writeItems (items : List (Document Real)) (rest : List Char) :
    Ends (writeItems reals false items ++ rest) := by
  intro char isHead
  cases items with
  | nil =>
      cases isHead
      rfl
  | cons item items =>
      cases isHead
      rfl

theorem ends_writeEntries (entries : List (String × Document Real)) (rest : List Char) :
    Ends (writeEntries reals false entries ++ rest) := by
  intro char isHead
  cases entries with
  | nil =>
      cases isHead
      rfl
  | cons entry entries =>
      cases isHead
      rfl

/-- A word or number is that of no other document, if none of its kind follows. -/
theorem write_injective_of_isAtom {document other : Document Real}
    {rest behind : List Char} (isAtom : document.IsAtom) (ends : Ends rest)
    (otherEnds : Ends behind)
    (same : document.write reals ++ rest = other.write reals ++ behind) :
    document = other ∧ rest = behind := by
  have otherAtom : other.IsAtom := (opening_eq same).symm.trans isAtom
  obtain ⟨sameText, sameRest⟩ := atoms_eq (write_of_isAtom reals isAtom).2
    (write_of_isAtom reals otherAtom).2 ends otherEnds same
  exact ⟨atom_injective isAtom otherAtom sameText, sameRest⟩

/-- No document begins with a closing bracket. -/
theorem write_ne_bracket (document : Document Real) (rest behind : List Char) :
    document.write reals ++ rest ≠ ']' :: behind := by
  intro same
  have isHead : (document.write reals ++ rest).head? = some ']' := by
    rw [same]
    rfl
  cases isOpening : document.opening with
  | none =>
      obtain ⟨nonempty, allAtoms⟩ := write_of_isAtom reals isOpening
      rw [List.head?_append_of_ne_nil _ nonempty] at isHead
      exact absurd (allAtoms ']' (List.mem_of_head? isHead)) (by decide)
  | some char =>
      rw [List.head?_append, (write_of_opening reals isOpening).1] at isHead
      have isBracket : char = ']' := Option.some.inj isHead
      rw [isBracket] at isOpening
      cases document with
      | string value => exact absurd (Option.some.inj isOpening) (by decide)
      | array items => exact absurd (Option.some.inj isOpening) (by decide)
      | object entries => exact absurd (Option.some.inj isOpening) (by decide)
      | _ => cases isOpening

theorem writeItems_cons_ne (first : Bool) (item : Document Real)
    (items : List (Document Real)) (rest behind : List Char) :
    writeItems reals first (item :: items) ++ rest ≠ ']' :: behind := by
  cases first with
  | true =>
      simp only [writeItems, List.append_assoc]
      exact write_ne_bracket item _ behind
  | false =>
      intro same
      exact absurd (List.cons.inj same).1 (by decide)

theorem writeEntries_cons_ne (first : Bool) (entry : String × Document Real)
    (entries : List (String × Document Real)) (rest behind : List Char) :
    writeEntries reals first (entry :: entries) ++ rest ≠ '\x7d' :: behind := by
  intro same
  cases first with
  | true => exact absurd (List.cons.inj same).1 (by decide)
  | false => exact absurd (List.cons.inj same).1 (by decide)

mutual

/-- The text of a document is that of no other one, whatever follows. -/
theorem write_injective : ∀ (document other : Document Real) {rest behind : List Char},
    Ends rest → Ends behind →
      document.write reals ++ rest = other.write reals ++ behind →
        document = other ∧ rest = behind
  | .string value, other, rest, behind, _, _, same => by
      have isOther : some '"' = other.opening := opening_eq same
      cases other with
      | string found =>
          obtain ⟨sameValue, sameRest⟩ := writeString_injective same
          exact ⟨by rw [sameValue], sameRest⟩
      | _ => cases isOther
  | .array items, other, rest, behind, _, _, same => by
      have isOther : some '[' = other.opening := opening_eq same
      cases other with
      | array others =>
          obtain ⟨sameItems, sameRest⟩ :=
            writeItems_injective true items others (List.cons.inj same).2
          exact ⟨by rw [sameItems], sameRest⟩
      | _ => cases isOther
  | .object entries, other, rest, behind, _, _, same => by
      have isOther : some '\x7b' = other.opening := opening_eq same
      cases other with
      | object others =>
          obtain ⟨sameEntries, sameRest⟩ :=
            writeEntries_injective true entries others (List.cons.inj same).2
          exact ⟨by rw [sameEntries], sameRest⟩
      | _ => cases isOther
  | .null, _, _, _, ends, otherEnds, same =>
      write_injective_of_isAtom rfl ends otherEnds same
  | .bool _, _, _, _, ends, otherEnds, same =>
      write_injective_of_isAtom rfl ends otherEnds same
  | .integer _, _, _, _, ends, otherEnds, same =>
      write_injective_of_isAtom rfl ends otherEnds same
  | .real _, _, _, _, ends, otherEnds, same =>
      write_injective_of_isAtom rfl ends otherEnds same

theorem writeItems_injective : ∀ (first : Bool) (items others : List (Document Real))
    {rest behind : List Char},
    writeItems reals first items ++ rest = writeItems reals first others ++ behind →
      items = others ∧ rest = behind
  | first, [], [], rest, behind, same => ⟨rfl, (List.cons.inj same).2⟩
  | first, [], other :: others, rest, behind, same =>
      absurd same.symm (writeItems_cons_ne first other others behind rest)
  | first, item :: items, [], rest, behind, same =>
      absurd same (writeItems_cons_ne first item items rest behind)
  | first, item :: items, other :: others, rest, behind, same => by
      simp only [writeItems, List.append_assoc] at same
      obtain ⟨sameItem, sameItems⟩ := write_injective item other
        (ends_writeItems items rest) (ends_writeItems others behind)
        (List.append_cancel_left same)
      obtain ⟨sameRest, sameBehind⟩ := writeItems_injective false items others sameItems
      exact ⟨by rw [sameItem, sameRest], sameBehind⟩

theorem writeEntries_injective : ∀ (first : Bool)
    (entries others : List (String × Document Real)) {rest behind : List Char},
    writeEntries reals first entries ++ rest = writeEntries reals first others ++ behind →
      entries = others ∧ rest = behind
  | first, [], [], rest, behind, same => ⟨rfl, (List.cons.inj same).2⟩
  | first, [], other :: others, rest, behind, same =>
      absurd same.symm (writeEntries_cons_ne first other others behind rest)
  | first, entry :: entries, [], rest, behind, same =>
      absurd same (writeEntries_cons_ne first entry entries rest behind)
  | first, (key, item) :: entries, (name, other) :: others, rest, behind, same => by
      simp only [writeEntries, List.append_assoc, List.cons_append] at same
      obtain ⟨sameKey, sameItem⟩ := writeString_injective (List.append_cancel_left same)
      obtain ⟨sameItem, sameEntries⟩ := write_injective item other
        (ends_writeEntries entries rest) (ends_writeEntries others behind)
        (List.cons.inj (List.cons.inj sameItem).2).2
      obtain ⟨sameRest, sameBehind⟩ := writeEntries_injective false entries others sameEntries
      exact ⟨by rw [sameKey, sameItem, sameRest], sameBehind⟩

end

theorem write_eq_iff {document other : Document Real} :
    document.write reals = other.write reals ↔ document = other := by
  constructor
  · intro same
    have ends : Ends [] := by
      intro char isHead
      cases isHead
    exact (write_injective document other ends ends (by rw [same])).1
  · rintro rfl
    rfl

end Writing

/-! ## Sorted keys -/

section Sorting

variable {Real : Type}

mutual

/-- The document as `sort_keys` orders it. -/
def Document.sortKeys : Document Real → Document Real
  | .array items => .array (sortKeysAll items)
  | .object entries =>
      .object ((sortKeysIn entries).mergeSort fun entry other => decide (entry.1 ≤ other.1))
  | document => document

def sortKeysAll : List (Document Real) → List (Document Real)
  | [] => []
  | item :: rest => item.sortKeys :: sortKeysAll rest

def sortKeysIn : List (String × Document Real) → List (String × Document Real)
  | [] => []
  | (key, item) :: rest => (key, item.sortKeys) :: sortKeysIn rest

end

/-- The documents are equal up to the order of their keys. -/
def SameContent (document other : Document Real) : Prop :=
  document.sortKeys = other.sortKeys

/-- Objects of the same content have the same entries. -/
theorem perm_of_sameContent {entries others : List (String × Document Real)}
    (same : SameContent (.object entries) (.object others)) :
    (sortKeysIn entries).Perm (sortKeysIn others) := by
  have sorted := Document.object.inj same
  have isPerm := List.mergeSort_perm (sortKeysIn entries)
    fun entry other => decide (entry.1 ≤ other.1)
  rw [sorted] at isPerm
  exact isPerm.symm.trans (List.mergeSort_perm _ _)

/-- Entries of the same keys in the same order are known by their set, if no key occurs
twice. -/
theorem eq_of_perm_of_keys {Value : Type} {entries others : List (String × Value)}
    (sameKeys : entries.map Prod.fst = others.map Prod.fst)
    (distinct : (entries.map Prod.fst).Nodup) (isPerm : entries.Perm others) :
    entries = others := by
  induction entries generalizing others with
  | nil => exact (List.nil_perm.mp isPerm).symm
  | cons entry entries induction =>
      cases others with
      | nil => cases sameKeys
      | cons other others =>
          obtain ⟨sameKey, sameRest⟩ := List.cons.inj sameKeys
          obtain ⟨isNew, restDistinct⟩ := List.nodup_cons.mp distinct
          have same : entry = other := by
            rcases List.mem_cons.mp (isPerm.subset List.mem_cons_self) with same | isLater
            · exact same
            · rw [sameRest] at isNew
              exact absurd (List.mem_map_of_mem isLater) isNew
          rw [same] at isPerm ⊢
          rw [induction sameRest restDistinct isPerm.cons_inv]

/-- `bool(value)` -/
def Document.isTruthy (reals : RealText Real) : Document Real → Bool
  | .null => false
  | .bool value => value
  | .integer value => decide (value ≠ 0)
  | .real value => !reals.isZero value
  | .string value => decide (value ≠ "")
  | .array items => !items.isEmpty
  | .object entries => !entries.isEmpty

/-- Whether a document is truthy does not depend on the order of its keys. -/
theorem isTruthy_sortKeys (reals : RealText Real) (document : Document Real) :
    document.sortKeys.isTruthy reals = document.isTruthy reals := by
  cases document with
  | array items =>
      cases items with
      | nil => rfl
      | cons item items => rfl
  | object entries =>
      have sameLength : ((sortKeysIn entries).mergeSort
          fun entry other => decide (entry.1 ≤ other.1)).isEmpty = entries.isEmpty := by
        rw [(List.mergeSort_perm _ _).isEmpty_eq]
        cases entries with
        | nil => rfl
        | cons entry entries => rfl
      simp only [Document.sortKeys, Document.isTruthy, sameLength]
  | _ => rfl

end Sorting

end DbBuddy.Library
