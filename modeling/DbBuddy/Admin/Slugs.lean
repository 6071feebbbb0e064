import DbBuddy.Admin.Accounts
import DbBuddy.Library.TableUpdates
import DbBuddy.Library.JsonText

/-!
# Handles of organisations

A slug is words of lower-case letters and digits with single hyphens between them,
`slugify` changes exactly the names that are no such words, and `unique_slug` finds
a slug that no organisation has.
-/

namespace DbBuddy.Admin

open DbBuddy.Library

/-- What `slugify` makes of names. -/
abbrev IsSlug (text : Text) : Prop :=
  Handle isSlugChar '-' text

theorem isSlugChar_iff {char : Char} : isSlugChar char = true ↔
    (97 ≤ char.toNat ∧ char.toNat ≤ 122) ∨ (48 ≤ char.toNat ∧ char.toNat ≤ 57) := by
  simp only [isSlugChar, Bool.or_eq_true, Bool.and_eq_true, decide_eq_true_eq]

theorem hyphen_no_slugChar : isSlugChar '-' = false := by
  decide

theorem mem_of_isSlug {text : Text} (isSlug : IsSlug text) :
    ∀ char ∈ text, isSlugChar char = true ∨ char = '-' := by
  induction isSlug with
  | single kept =>
      intro other isIn
      rw [List.mem_singleton.mp isIn]
      exact Or.inl kept
  | letter kept _ inductionHypothesis =>
      intro other isIn
      rcases List.mem_cons.mp isIn with isFirst | isBehind
      · rw [isFirst]
        exact Or.inl kept
      · exact inductionHypothesis other isBehind
  | gap kept _ inductionHypothesis =>
      intro other isIn
      rcases List.mem_cons.mp isIn with isFirst | isBehind
      · rw [isFirst]
        exact Or.inl kept
      · rcases List.mem_cons.mp isBehind with isMark | isLater
        · exact Or.inr isMark
        · exact inductionHypothesis other isLater

/-- The characters of a slug: below 128, no upper-case letters and no white space. -/
theorem slug_bounds {text : Text} (isSlug : IsSlug text) {char : Char}
    (isIn : char ∈ text) : char.toNat < 128 ∧ char.toLower = char ∧
      isSpace char = false := by
  have bounds : (97 ≤ char.toNat ∧ char.toNat ≤ 122) ∨
      (48 ≤ char.toNat ∧ char.toNat ≤ 57) ∨ char.toNat = 45 := by
    rcases mem_of_isSlug isSlug char isIn with kept | isMark
    · exact (isSlugChar_iff.mp kept).imp_right Or.inl
    · rw [isMark]
      exact Or.inr (Or.inr rfl)
  refine ⟨by omega, ?_, ?_⟩
  · rcases toLower_cases char with same | isUpper
    · exact same
    · omega
  · apply eq_false_of_ne_true
    intro isSpaced
    have := isSpace_bounds isSpaced
    omega

variable {lowercase : Lowercase}

theorem text_slug {text : Text} (isSlug : IsSlug text) :
    lowercase.text text = text := by
  rw [text_ascii fun char isIn => (slug_bounds isSlug isIn).1]
  calc text.map Char.toLower
      = text.map id := List.map_congr_left fun char isIn => (slug_bounds isSlug isIn).2.1
    _ = text := List.map_id text

/-- A slug is left as it is. -/
theorem slugify_slug {text : Text} (isSlug : IsSlug text) :
    slugify lowercase text = text := by
  rw [slugify, strip_eq_self fun char isIn => (slug_bounds isSlug isIn).2.2,
    text_slug isSlug, isSlug.collapse_eq hyphen_no_slugChar,
    isSlug.stripBoth_eq hyphen_no_slugChar]
  exact if_neg isSlug.ne_nil

/-- A slug is made of any name, also of one without letters and digits. -/
theorem slugify_isSlug (name : Text) : IsSlug (slugify lowercase name) := by
  unfold slugify
  dsimp only
  split
  · apply Handle.word
    · exact List.cons_ne_nil _ _
    · exact List.all_eq_true.mp rfl
  next nonempty =>
    exact handle_of_collapse hyphen_no_slugChar nonempty

/-! ## Unique slugs -/

theorem slugCandidate_isSlug {base : Text} (isSlug : IsSlug base) (tried : ℕ) :
    IsSlug (slugCandidate base tried) := by
  cases tried with
  | zero =>
      exact isSlug
  | succ tried =>
      apply isSlug.append
      apply Handle.word Nat.toDigits_ne_nil
      intro char isIn
      have isDigit := isDigit_of_mem_toDigits isIn
      have bounds : 48 ≤ char.toNat ∧ char.toNat ≤ 57 :=
        (Bool.and_eq_true_iff.trans (and_congr decide_eq_true_iff decide_eq_true_iff)).mp
          isDigit
      exact isSlugChar_iff.mpr (Or.inr bounds)

theorem slugCandidate_injective (base : Text) :
    Function.Injective (slugCandidate base) := by
  have longer : ∀ tried, slugCandidate base (tried + 1) ≠ base := by
    intro tried same
    have sizes := congrArg List.length same
    simp [slugCandidate] at sizes
  intro tried other same
  cases tried with
  | zero =>
      cases other with
      | zero =>
          rfl
      | succ other =>
          exact absurd same.symm (longer other)
  | succ tried =>
      cases other with
      | zero =>
          exact absurd same (longer tried)
      | succ other =>
          have digits := (List.cons.inj (List.append_cancel_left same)).2
          have numbers := toDigits_injective digits
          omega

/-- The slugs in use. -/
def slugsOf (state : State) : List Text :=
  state.organizations.entries.map fun entry => entry.snd.slug

theorem mem_slugsOf {state : State} {slug : Text} (isTaken : slugTaken state slug = true) :
    slug ∈ slugsOf state := by
  obtain ⟨⟨id, org⟩, isFirst⟩ := Option.isSome_iff_exists.mp isTaken
  obtain ⟨present, isSlug⟩ := OrderedDict.lookup_first isFirst
  exact List.mem_map.mpr ⟨⟨id, org⟩, AList.mem_lookup_iff.mp present,
    of_decide_eq_true isSlug⟩

theorem uniqueSlug_isSlug (state : State) (name : Text) :
    IsSlug (uniqueSlug lowercase state name) := by
  obtain ⟨tried, _, isTried⟩ := firstFree_eq (slugTaken state)
    (slugCandidate (slugify lowercase name)) state.organizations.size 0
  rw [uniqueSlug, isTried]
  exact slugCandidate_isSlug (slugify_isSlug name) tried

/-- The loop ends on a slug that no organisation has. -/
theorem uniqueSlug_free (state : State) (name : Text) :
    slugTaken state (uniqueSlug lowercase state name) = false := by
  have size : (slugsOf state).length = state.organizations.size := List.length_map _
  apply firstFree_free (slugCandidate_injective _) ?_ (Nat.le_of_eq size)
  intro slug isTaken
  exact mem_slugsOf isTaken

/-- The hardest a name can make it: whatever the name and whatever is in use, the
loop ends on a free slug, which is the plain one where that is free; and `slugify`
has the slugs as its fixed points, so a slug stays one. -/
theorem uniqueSlug_spec (state : State) (name : Text) :
    IsSlug (uniqueSlug lowercase state name) ∧
      (∀ id org, state.organizations.lookup id = some org →
        org.slug ≠ uniqueSlug lowercase state name) ∧
      (slugTaken state (slugify lowercase name) = false →
        uniqueSlug lowercase state name = slugify lowercase name) ∧
      ∀ text, slugify lowercase text = text ↔ IsSlug text := by
  refine ⟨uniqueSlug_isSlug state name, ?_, ?_, ?_⟩
  · intro id org isOrg
    exact OrderedDict.ne_of_first_isNone (uniqueSlug_free state name) isOrg
  · intro isFree
    rw [uniqueSlug]
    cases state.organizations.size with
    | zero =>
        rfl
    | succ fuel =>
        exact if_neg (ne_true_of_eq_false isFree)
  · intro text
    constructor
    · intro same
      rw [← same]
      exact slugify_isSlug text
    · exact slugify_slug

end DbBuddy.Admin
