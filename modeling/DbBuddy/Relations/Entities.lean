import Mathlib.Data.Bool.AllAny
import DbBuddy.Library.PythonText

/-!
# Names of entities

`_normalize_entity` makes a key of the name of a table or of a reference: it takes off what
stands before the last dot and the ending of a plural.  A noun and its regular plural get one
key unless the noun ends in a way that the rules misread.
-/

namespace DbBuddy.Relations

open DbBuddy.Library

/-! ## The key of a name -/

/-- `text.endswith(endings)` -/
def endsWith (endings : List String) (text : List Char) : Bool :=
  endings.any fun ending => ending.toList.isSuffixOf text

/-- `token.rsplit(".", 1)[-1]`, where there is a dot -/
def afterLastDot (token : List Char) : List Char :=
  if '.' ∈ token then (token.reverse.takeWhile fun char => char != '.').reverse else token

/-- The ending of a plural is taken off. -/
def singularize (token : List Char) : List Char :=
  if token.length ≤ 3 ∨ endsWith ["s"] token = false then token
  else if endsWith ["ies"] token = true then token.take (token.length - 3) ++ ['y']
  else if endsWith ["ses", "xes", "zes", "ches", "shes"] token = true then
    token.take (token.length - 2)
  else if endsWith ["ss", "us", "is", "os"] token = true then token
  else token.take (token.length - 1)

/-- `_normalize_entity` -/
def normalizeEntity (lowercase : Lowercase) (name : Option (List Char)) : List Char :=
  singularize (afterLastDot (lowercase.text (strip (name.getD []))))

/-! ## Nouns and their plurals -/

/-- A word of small letters: nothing to strip, to lower or to take for a prefix. -/
def PlainWord (lowercase : Lowercase) (word : List Char) : Prop :=
  ∀ char ∈ word, lowercase.char char = [char] ∧ isSpace char = false ∧ char ≠ '.'

/-- How a plural is formed. -/
inductive Formation where
  | addS
  | addEs
  | yToIes
  deriving DecidableEq

/-- What the noun has to end in. -/
def Formation.Applies : Formation → List Char → Prop
  | addS, _ => True
  | addEs, word => endsWith ["s", "x", "z", "ch", "sh"] word = true
  | yToIes, word => endsWith ["y"] word = true

def Formation.plural : Formation → List Char → List Char
  | addS, word => word ++ ['s']
  | addEs, word => word ++ ['e', 's']
  | yToIes, word => word.dropLast ++ ['i', 'e', 's']

/-- The endings that the rules read as they are meant. -/
def Formation.tame : Formation → List Char → Bool
  | addS, word => !endsWith ["s", "u", "i", "o", "ie", "se", "xe", "ze", "che", "she"] word
  | addEs, word => decide (word.length ≤ 3) || !endsWith ["s"] word ||
      endsWith ["ss", "us", "is", "os"] word
  | yToIes, _ => true

/-- The law: one key for both words, with any prefix and without, and the key is its own. -/
structure OneKey (lowercase : Lowercase) (word plural : List Char) : Prop where
  same : normalizeEntity lowercase (some plural) = normalizeEntity lowercase (some word)
  prefixed : ∀ owner : List Char,
    normalizeEntity lowercase (some (owner ++ '.' :: word)) =
        normalizeEntity lowercase (some word) ∧
      normalizeEntity lowercase (some (owner ++ '.' :: plural)) =
        normalizeEntity lowercase (some word)
  idempotent : normalizeEntity lowercase (some (normalizeEntity lowercase (some word))) =
    normalizeEntity lowercase (some word)

/-! ## Endings -/

section Endings

/-- The endings of a text that is written backwards. -/
theorem endsWith_reverse (endings : List String) (back : List Char) :
    endsWith endings back.reverse =
      endings.any fun ending => ending.toList.reverse.isPrefixOf back := by
  simp [endsWith, List.isSuffixOf]

theorem take_reverse (back : List Char) (count : ℕ) :
    back.reverse.take (back.length - count) = (back.drop count).reverse := by
  rw [List.reverse_drop]

theorem singularize_of_not_endsWith {token : List Char}
    (notPlural : endsWith ["s"] token = false) : singularize token = token := by
  unfold singularize
  rw [if_pos (Or.inr notPlural)]

theorem length_singularize_le (token : List Char) :
    (singularize token).length ≤ token.length := by
  unfold singularize
  split
  · exact Nat.le_refl _
  · next isLong =>
      have long : 3 < token.length := by
        by_contra notLong
        exact isLong (Or.inl (by omega))
      split
      · rw [List.length_append, List.length_take, List.length_singleton]
        omega
      · split
        · exact List.length_take_le' _ _
        · split
          · exact Nat.le_refl _
          · exact List.length_take_le' _ _

/-- The letters before the last one that are read as the ending of a noun on its own. -/
def Hushed (first second : Char) : Prop :=
  first = 's' ∨ first = 'x' ∨ first = 'z' ∨ (first = 'h' ∧ (second = 'c' ∨ second = 's'))

instance (first second : Char) : Decidable (Hushed first second) := by
  unfold Hushed
  infer_instance

/-- What is made of a word of more than three letters that ends in `s`. -/
theorem singularize_plural (first second third : Char) (rest : List Char) :
    singularize ('s' :: first :: second :: third :: rest).reverse =
      if first = 'e' ∧ second = 'i' then ('y' :: third :: rest).reverse
      else if first = 'e' ∧ Hushed second third then (second :: third :: rest).reverse
      else if first = 's' ∨ first = 'u' ∨ first = 'i' ∨ first = 'o' then
        ('s' :: first :: second :: third :: rest).reverse
      else (first :: second :: third :: rest).reverse := by
  have taken : ∀ count, ('s' :: first :: second :: third :: rest).reverse.take
      (('s' :: first :: second :: third :: rest).reverse.length - count) =
        (('s' :: first :: second :: third :: rest).drop count).reverse := by
    intro count
    rw [List.length_reverse]
    exact take_reverse _ _
  have long : ¬ (('s' :: first :: second :: third :: rest).reverse.length ≤ 3 ∨
      endsWith ["s"] ('s' :: first :: second :: third :: rest).reverse = false) := by
    rw [endsWith_reverse]
    simp
  have ies : endsWith ["ies"] ('s' :: first :: second :: third :: rest).reverse = true ↔
      first = 'e' ∧ second = 'i' := by
    rw [endsWith_reverse]
    simp
    grind
  have hushed : endsWith ["ses", "xes", "zes", "ches", "shes"]
      ('s' :: first :: second :: third :: rest).reverse = true ↔
        first = 'e' ∧ Hushed second third := by
    rw [endsWith_reverse]
    simp [Hushed]
    grind
  have kept : endsWith ["ss", "us", "is", "os"]
      ('s' :: first :: second :: third :: rest).reverse = true ↔
        first = 's' ∨ first = 'u' ∨ first = 'i' ∨ first = 'o' := by
    rw [endsWith_reverse]
    simp
    grind
  unfold singularize
  rw [if_neg long]
  simp only [ies, hushed, kept, taken]
  simp

theorem exists_back {word : List Char} (long : 2 < word.length) :
    ∃ first second third rest, word = (first :: second :: third :: rest).reverse := by
  rcases isBack : word.reverse with _ | ⟨first, _ | ⟨second, _ | ⟨third, rest⟩⟩⟩
  all_goals have length := congrArg List.length isBack
  all_goals simp only [List.length_reverse, List.length_cons, List.length_nil] at length
  · omega
  · omega
  · omega
  · exact ⟨first, second, third, rest, by rw [← isBack, List.reverse_reverse]⟩

theorem endsWith_s_reverse (first : Char) (rest : List Char) :
    endsWith ["s"] (first :: rest).reverse = decide (first = 's') := by
  rw [endsWith_reverse]
  by_cases isS : first = 's'
  · simp [isS]
  · simp [List.isPrefixOf, isS, Ne.symm isS]

end Endings

/-! ## Words on their own and behind a prefix -/

section Words

variable {lowercase : Lowercase} {word : List Char}

theorem PlainWord.text_eq (plain : PlainWord lowercase word) : lowercase.text word = word := by
  unfold Lowercase.text
  rw [List.flatMap_congr fun char isIn => (plain char isIn).1]
  exact List.flatMap_singleton' word

theorem PlainWord.notMem (plain : PlainWord lowercase word) : '.' ∉ word := by
  intro isIn
  exact (plain '.' isIn).2.2 rfl

theorem PlainWord.append {back : List Char} (plain : PlainWord lowercase word)
    (plainBack : PlainWord lowercase back) : PlainWord lowercase (word ++ back) := by
  intro char isIn
  rcases List.mem_append.mp isIn with isFront | isBack
  · exact plain char isFront
  · exact plainBack char isBack

theorem plainWord_letter {letter : Char} (isAscii : letter.toNat < 128)
    (isLower : letter.toLower = letter) (isSolid : isSpace letter = false)
    (notDot : letter ≠ '.') : PlainWord lowercase [letter] := by
  intro char isIn
  cases List.mem_singleton.mp isIn
  exact ⟨by rw [lowercase.char_ascii letter isAscii, isLower], isSolid, notDot⟩

theorem dropWhile_solid {text : List Char} (solid : ∀ char ∈ text, isSpace char = false)
    (nonempty : text ≠ []) (rest : List Char) :
    (text ++ rest).dropWhile isSpace = text ++ rest := by
  cases text with
  | nil => exact absurd rfl nonempty
  | cons char others =>
      have isSolid := solid char List.mem_cons_self
      exact List.dropWhile_cons_of_neg (by simp [isSolid])

/-- A text that ends in solid characters loses its leading white space only. -/
theorem strip_append_solid {text : List Char} (solid : ∀ char ∈ text, isSpace char = false)
    (nonempty : text ≠ []) (front : List Char) :
    strip (front ++ text) = front.dropWhile isSpace ++ text := by
  have isFront : (front ++ text).dropWhile isSpace = front.dropWhile isSpace ++ text := by
    rw [List.dropWhile_append]
    split
    · next isEmpty =>
        have same := dropWhile_solid solid nonempty []
        rw [List.append_nil] at same
        rw [List.isEmpty_iff.mp isEmpty, same, List.nil_append]
    · rfl
  have solidBack : ∀ char ∈ text.reverse, isSpace char = false := by
    intro char isIn
    exact solid char (List.mem_reverse.mp isIn)
  have nonemptyBack : text.reverse ≠ [] := by
    intro isNil
    exact nonempty (List.reverse_eq_nil_iff.mp isNil)
  unfold strip
  rw [isFront, List.reverse_append, dropWhile_solid solidBack nonemptyBack,
    List.reverse_append, List.reverse_reverse, List.reverse_reverse]

theorem normalizeEntity_plain (plain : PlainWord lowercase word) (nonempty : word ≠ []) :
    normalizeEntity lowercase (some word) = singularize word := by
  have stripped := strip_append_solid (fun char isIn => (plain char isIn).2.1) nonempty []
  rw [List.nil_append, List.dropWhile_nil, List.nil_append] at stripped
  unfold normalizeEntity afterLastDot
  rw [Option.getD_some, stripped, plain.text_eq, if_neg plain.notMem]

theorem afterLastDot_append (front : List Char) (noDot : '.' ∉ word) :
    afterLastDot (front ++ '.' :: word) = word := by
  unfold afterLastDot
  rw [if_pos (List.mem_append_right front List.mem_cons_self), List.reverse_append,
    List.reverse_cons, List.append_assoc]
  have free : ∀ char ∈ word.reverse, (char != '.') = true := by
    intro char isIn
    exact bne_iff_ne.mpr fun isDot => noDot (isDot ▸ List.mem_reverse.mp isIn)
  rw [List.takeWhile_append_of_pos free]
  simp

theorem normalizeEntity_owned (plain : PlainWord lowercase word) (owner : List Char) :
    normalizeEntity lowercase (some (owner ++ '.' :: word)) = singularize word := by
  have solid : ∀ char ∈ '.' :: word, isSpace char = false := by
    intro char isIn
    rcases List.mem_cons.mp isIn with isDot | inWord
    · rw [isDot]
      decide
    · exact (plain char inWord).2.1
  have dot : lowercase.char '.' = ['.'] := lowercase.char_ascii '.' (by decide)
  have dotted : lowercase.text ('.' :: word) = '.' :: word := by
    unfold Lowercase.text
    rw [List.flatMap_cons, dot]
    exact congrArg ('.' :: ·) plain.text_eq
  unfold normalizeEntity
  rw [Option.getD_some, strip_append_solid solid (List.cons_ne_nil _ _), text_append, dotted,
    afterLastDot_append _ plain.notMem]

end Words

/-! ## The law -/

section Law

variable {lowercase : Lowercase} {word : List Char}

/-- The two keys on the letters alone. -/
def SameKey (formation : Formation) (word : List Char) : Prop :=
  singularize (formation.plural word) = singularize word

/-- An `s` more: the rules may leave it, or take off more than it, or change the noun. -/
theorem sameKey_addS (long : 2 < word.length) :
    SameKey .addS word ↔ Formation.addS.tame word = true := by
  obtain ⟨first, second, third, rest, rfl⟩ := exists_back long
  have isPlural : Formation.addS.plural (first :: second :: third :: rest).reverse =
      ('s' :: first :: second :: third :: rest).reverse := by
    simp [Formation.plural]
  have isTame : Formation.addS.tame (first :: second :: third :: rest).reverse = true ↔
      ¬(first = 's' ∨ first = 'u' ∨ first = 'i' ∨ first = 'o' ∨
        (first = 'e' ∧ second = 'i') ∨ (first = 'e' ∧ Hushed second third)) := by
    change (!endsWith _ _) = true ↔ _
    rw [endsWith_reverse]
    simp [Hushed]
    grind
  have differs : ∀ text : List Char,
      text.length ≠ (first :: second :: third :: rest).length → ¬first = 's' →
        text.reverse ≠ singularize (first :: second :: third :: rest).reverse := by
    intro text length notS same
    rw [singularize_of_not_endsWith (by rw [endsWith_s_reverse, decide_eq_false notS])] at same
    exact length (congrArg List.length (List.reverse_injective same))
  unfold SameKey
  rw [isPlural, isTame, singularize_plural]
  split
  · next isIes =>
      have isDifferent := differs ('y' :: third :: rest) (by simp) (by simp [isIes.1])
      exact iff_of_false isDifferent (by grind)
  · split
    · next notIes isHushed =>
        have isDifferent := differs (second :: third :: rest) (by simp) (by simp [isHushed.1])
        exact iff_of_false isDifferent (by grind)
    · split
      · next notIes notHushed isKept =>
          have shorter := length_singularize_le (first :: second :: third :: rest).reverse
          have isDifferent : ('s' :: first :: second :: third :: rest).reverse ≠
              singularize (first :: second :: third :: rest).reverse := by
            intro same
            rw [← same] at shorter
            simp at shorter
          exact iff_of_false isDifferent (by grind)
      · next notIes notHushed notKept =>
          have notS : ¬first = 's' := fun isS => notKept (Or.inl isS)
          rw [singularize_of_not_endsWith (by rw [endsWith_s_reverse, decide_eq_false notS])]
          exact iff_of_true rfl (by grind)

/-- The words that are their own keys. -/
theorem singularize_eq_self_iff (long : 2 < word.length) :
    word = singularize word ↔ Formation.addEs.tame word = true := by
  obtain ⟨first, second, third, rest, rfl⟩ := exists_back long
  change _ ↔ (decide (_ ≤ 3) || !endsWith ["s"] _ || endsWith ["ss", "us", "is", "os"] _) = true
  rw [endsWith_s_reverse, Bool.or_eq_true, Bool.or_eq_true, decide_eq_true_iff]
  by_cases isS : first = 's'
  · cases rest with
    | nil =>
        have short : singularize ([first, second, third] : List Char).reverse =
            ([first, second, third] : List Char).reverse := by
          unfold singularize
          rw [if_pos (Or.inl (by simp))]
        rw [short]
        exact iff_of_true rfl (Or.inl (Or.inl (by simp)))
    | cons fourth others =>
        cases isS
        have kept : endsWith ["ss", "us", "is", "os"]
            ('s' :: second :: third :: fourth :: others).reverse = true ↔
              second = 's' ∨ second = 'u' ∨ second = 'i' ∨ second = 'o' := by
          rw [endsWith_reverse]
          simp
          grind
        have differs : ∀ text : List Char,
            text.length ≠ ('s' :: second :: third :: fourth :: others).length →
              ('s' :: second :: third :: fourth :: others).reverse ≠ text.reverse := by
          intro text length same
          exact length (congrArg List.length (List.reverse_injective same)).symm
        rw [kept, singularize_plural]
        split
        · next isIes => exact iff_of_false (differs _ (by simp)) (by simp [isIes])
        · split
          · next notIes hushed => exact iff_of_false (differs _ (by simp)) (by simp [hushed])
          · split
            · next notIes notHushed isKept => exact iff_of_true rfl (Or.inr isKept)
            · next notIes notHushed notKept =>
                exact iff_of_false (differs _ (by simp)) (by simp [notKept])
  · rw [singularize_of_not_endsWith (by rw [endsWith_s_reverse, decide_eq_false isS])]
    simp [isS]

/-- `es` more: it is always taken off, so the noun has to be its own key. -/
theorem sameKey_addEs (long : 2 < word.length) (applies : Formation.addEs.Applies word) :
    SameKey .addEs word ↔ Formation.addEs.tame word = true := by
  rw [← singularize_eq_self_iff long]
  obtain ⟨first, second, third, rest, rfl⟩ := exists_back long
  have isPlural : Formation.addEs.plural (first :: second :: third :: rest).reverse =
      ('s' :: 'e' :: first :: second :: third :: rest).reverse := by
    simp [Formation.plural]
  have isHushed : Hushed first second := by
    change endsWith _ _ = true at applies
    rw [endsWith_reverse] at applies
    simp [Hushed] at applies ⊢
    grind
  have notI : ¬first = 'i' := by
    rintro rfl
    simp [Hushed] at isHushed
  unfold SameKey
  rw [isPlural, singularize_plural, if_neg (by simp [notI]), if_pos ⟨rfl, isHushed⟩]

/-- `ies` for `y`: it always goes back to `y`. -/
theorem sameKey_yToIes (long : 2 < word.length) (applies : Formation.yToIes.Applies word) :
    SameKey .yToIes word := by
  obtain ⟨first, second, third, rest, rfl⟩ := exists_back long
  have isY : first = 'y' := by
    change endsWith _ _ = true at applies
    rw [endsWith_reverse] at applies
    simp at applies
    exact applies.symm
  cases isY
  have isPlural : Formation.yToIes.plural ('y' :: second :: third :: rest).reverse =
      ('s' :: 'e' :: 'i' :: second :: third :: rest).reverse := by
    simp [Formation.plural]
  unfold SameKey
  rw [isPlural, singularize_plural, if_pos ⟨rfl, rfl⟩,
    singularize_of_not_endsWith (by rw [endsWith_s_reverse]; decide)]

theorem sameKey_iff (long : 2 < word.length) {formation : Formation}
    (applies : formation.Applies word) :
    SameKey formation word ↔ formation.tame word = true := by
  cases formation with
  | addS => exact sameKey_addS long
  | addEs => exact sameKey_addEs long applies
  | yToIes => exact iff_of_true (sameKey_yToIes long applies) rfl

/-- A noun that its plural is matched with is its own key. -/
theorem singularize_of_tame (long : 2 < word.length) {formation : Formation}
    (applies : formation.Applies word) (tame : formation.tame word = true) :
    singularize word = word := by
  have ofNotS : endsWith ["s"] word = false → singularize word = word :=
    singularize_of_not_endsWith
  obtain ⟨first, second, third, rest, isWord⟩ := exists_back long
  cases formation with
  | addS =>
      apply ofNotS
      have free : endsWith _ word = false := Bool.not_eq_true' _ ▸ tame
      rw [isWord, endsWith_reverse] at free
      rw [isWord, endsWith_s_reverse, decide_eq_false]
      rintro rfl
      simp at free
  | addEs => exact ((singularize_eq_self_iff long).mpr tame).symm
  | yToIes =>
      apply ofNotS
      have isY : endsWith _ word = true := applies
      rw [isWord, endsWith_reverse] at isY
      rw [isWord, endsWith_s_reverse, decide_eq_false]
      rintro rfl
      simp at isY

theorem plainWord_plural (plain : PlainWord lowercase word) (formation : Formation) :
    PlainWord lowercase (formation.plural word) := by
  have letter : ∀ char ∈ (['s', 'e', 'i'] : List Char), PlainWord lowercase [char] := by
    intro char isIn
    simp only [List.mem_cons, List.not_mem_nil, or_false] at isIn
    rcases isIn with rfl | rfl | rfl
    · exact plainWord_letter (by decide) (by decide) (by decide) (by decide)
    · exact plainWord_letter (by decide) (by decide) (by decide) (by decide)
    · exact plainWord_letter (by decide) (by decide) (by decide) (by decide)
  have letterS := letter 's' (by simp)
  have letterE := letter 'e' (by simp)
  have letterI := letter 'i' (by simp)
  cases formation with
  | addS => exact plain.append letterS
  | addEs => exact plain.append (letterE.append letterS)
  | yToIes =>
      have front : PlainWord lowercase word.dropLast := by
        intro char isIn
        exact plain char (List.dropLast_subset word isIn)
      exact front.append (letterI.append (letterE.append letterS))

theorem plural_ne_nil (formation : Formation) (word : List Char) : formation.plural word ≠ [] := by
  cases formation with
  | addS => exact List.append_ne_nil_of_right_ne_nil _ (List.cons_ne_nil _ _)
  | addEs => exact List.append_ne_nil_of_right_ne_nil _ (List.cons_ne_nil _ _)
  | yToIes => exact List.append_ne_nil_of_right_ne_nil _ (List.cons_ne_nil _ _)

/-- A noun and its regular plural get one key exactly where the noun ends as the rules
expect. -/
theorem oneKey_iff (plain : PlainWord lowercase word) (long : 2 < word.length)
    {formation : Formation} (applies : formation.Applies word) :
    OneKey lowercase word (formation.plural word) ↔ formation.tame word = true := by
  have nonempty : word ≠ [] := by
    intro isNil
    rw [isNil] at long
    exact absurd long (by decide)
  have plainPlural := plainWord_plural plain formation
  have keyWord := normalizeEntity_plain plain nonempty
  have keyPlural := normalizeEntity_plain plainPlural (plural_ne_nil formation word)
  constructor
  · intro oneKey
    have same := oneKey.same
    rw [keyWord, keyPlural] at same
    exact (sameKey_iff long applies).mp same
  · intro tame
    have same : singularize (formation.plural word) = singularize word :=
      (sameKey_iff long applies).mpr tame
    have own := singularize_of_tame long applies tame
    refine ⟨?_, fun owner => ⟨?_, ?_⟩, ?_⟩
    · rw [keyWord, keyPlural, same]
    · rw [keyWord, normalizeEntity_owned plain]
    · rw [keyWord, normalizeEntity_owned plainPlural, same]
    · rw [keyWord, own, keyWord, own]

/-! ### Categories and houses -/

theorem oneKey_category :
    OneKey asciiLowercase "category".toList "categories".toList := by
  have plain : PlainWord asciiLowercase "category".toList :=
    List.all_iff_forall_prop.mp (by decide)
  have applies : Formation.yToIes.Applies "category".toList := by
    unfold Formation.Applies
    decide
  exact (oneKey_iff plain (by decide) applies).mpr rfl

/-- `houses` is cut down to `hous`. -/
theorem not_oneKey_house :
    PlainWord asciiLowercase "house".toList ∧
      Formation.addS.plural "house".toList = "houses".toList ∧
        ¬OneKey asciiLowercase "house".toList "houses".toList := by
  refine ⟨List.all_iff_forall_prop.mp (by decide), by decide, ?_⟩
  intro oneKey
  exact absurd oneKey.same (by decide)

end Law

end DbBuddy.Relations
