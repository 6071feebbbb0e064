import DbBuddy.Library.PythonText
import DbBuddy.Library.TableUpdates
import DbBuddy.Library.TransitionSystem
import DbBuddy.Publishing.Platform
import Mathlib.Algebra.GroupWithZero.Nat

/-!
# Stored secrets and the rotation of their key

Fernet is a parameter, with what it promises: a key reads what it encrypted and
refuses what another one did.  Over it the deployment's list of keys, the columns
that hold secrets, the rotation script and the procedure it is the second step of.
-/

namespace DbBuddy.Secrets

open DbBuddy.Library
open DbBuddy.Publishing (Table)

abbrev Text := List Char

/-- Fernet, on keys derived from the seeds of the configuration.  The noise is the
time stamp and the initialisation vector of a token. -/
structure Fernet (Key Noise : Type) where
  keyFrom : Text → Key
  encrypt : Key → Noise → Text → Text
  decrypt : Key → Text → Option Text
  encrypt_ne_nil : ∀ key noise text, encrypt key noise text ≠ []
  decrypt_encrypt : ∀ key noise text, decrypt key (encrypt key noise text) = some text
  decrypt_foreign : ∀ key other noise text, key ≠ other →
    decrypt key (encrypt other noise text) = none

/-! ## Keys -/

/-- The variables the keys come from, `APP_SECRET_KEYS_PREVIOUS` as it is written. -/
structure Settings where
  appSecretKey : Text
  jwtSecret : Text
  previousKeys : Text
  deriving DecidableEq, Repr

/-- `parse_previous_keys` -/
def parsePreviousKeys (raw : Text) : List Text :=
  statements ',' raw

/-- `settings.APP_SECRET_KEY or settings.JWT_SECRET` -/
def Settings.primary (settings : Settings) : Text :=
  if settings.appSecretKey = [] then settings.jwtSecret else settings.appSecretKey

/-- The seeds of `_fernet`, newest first. -/
def Settings.seeds (settings : Settings) : List Text :=
  (settings.primary :: parsePreviousKeys settings.previousKeys).filter
    fun seed => decide (seed ≠ [])

section MultiFernet

variable {Key Noise : Type} (fernet : Fernet Key Noise) (settings : Settings)

/-- Without any key there is no `MultiFernet`. -/
def encryptSecret (noise : Noise) (plaintext : Text) : Option Text :=
  settings.seeds.head?.map fun seed =>
    fernet.encrypt (fernet.keyFrom seed) noise plaintext

/-- Whichever key fits. -/
def decryptSecret (ciphertext : Text) : Option Text :=
  settings.seeds.findSome? fun seed => fernet.decrypt (fernet.keyFrom seed) ciphertext

def rotateSecret (noise : Noise) (ciphertext : Text) : Option Text :=
  (decryptSecret fernet settings ciphertext).bind (encryptSecret fernet settings noise)

end MultiFernet

/-! ## The script -/

/-- The entries of `TARGETS`. -/
inductive Target where
  | connectionPassword
  | providerKey
  | mfaSecret
  deriving DecidableEq, Repr

def TARGETS : List Target :=
  [.connectionPassword, .providerKey, .mfaSecret]

/-- The columns that hold secrets; a row may have none. -/
abbrev Database := Target → Table (Option Text)

/-- The value of a row that the script does not skip. -/
def stored (current : Option Text) : Option Text :=
  current.filter fun ciphertext => decide (ciphertext ≠ [])

section Script

variable {Key Noise : Type} (fernet : Fernet Key Noise) (settings : Settings)
variable (noise : Target → String → Noise)

/-- What one row holds afterwards: a row that is skipped or that fails stays. -/
def rotatedRow (target : Target) (id : String) (current : Option Text) : Option Text :=
  ((stored current).bind (rotateSecret fernet settings (noise target id))).or current

def rotates (target : Target) (id : String) (current : Option Text) : Bool :=
  ((stored current).bind (rotateSecret fernet settings (noise target id))).isSome

def fails (target : Target) (id : String) (current : Option Text) : Bool :=
  (stored current).isSome && !rotates fernet settings noise target id current

/-- How many rows of all columns pass a test. -/
def countRows (database : Database) (test : Target → String → Option Text → Bool) : ℕ :=
  (TARGETS.map fun target =>
    (database target).entries.countP fun row => test target row.fst row.snd).sum

/-- `rotate_all`: the tables it commits, and how many secrets were rotated and how
many failed. -/
def rotateAll (dryRun : Bool) (database : Database) : Database × ℕ × ℕ :=
  (if dryRun then database
    else fun target =>
      (database target).mapValues (rotatedRow fernet settings noise target),
    countRows database (rotates fernet settings noise),
    countRows database (fails fernet settings noise))

end Script

/-! ## The procedure -/

/-- A deployment.  Beside it stand the plaintexts that were last written, and whether
the script has rotated everything since the last change of the key. -/
structure State where
  settings : Settings
  database : Database
  written : Target → String → Option Text
  rotated : Bool

inductive Label (Noise : Type) where
  | store (target : Target) (id : String) (noise : Noise) (plaintext : Text)
  | clear (target : Target) (id : String)
  | delete (target : Target) (id : String)
  | promote (key : Text)
  | rotateAll (dryRun : Bool) (noise : Target → String → Noise)
  | retire (previousKeys : Text)

def writeRow (state : State) (target : Target) (table : Table (Option Text))
    (id : String) (plaintext : Option Text) : State :=
  { state with
    database := Function.update state.database target table
    written := Function.update state.written target
      (Function.update (state.written target) id plaintext) }

variable {Key Noise : Type}

def step (fernet : Fernet Key Noise) (state : State) : Label Noise → Option State
  | .store target id noise plaintext =>
      (encryptSecret fernet state.settings noise plaintext).map fun ciphertext =>
        writeRow state target ((state.database target).insert id (some ciphertext)) id
          (some plaintext)
  | .clear target id =>
      some (writeRow state target ((state.database target).insert id none) id none)
  | .delete target id =>
      some (writeRow state target ((state.database target).erase id) id none)
  -- The old value moves to the front of the list of retired keys.
  | .promote key =>
      some { state with
        settings := { state.settings with
          appSecretKey := key
          previousKeys := state.settings.primary ++ ',' :: state.settings.previousKeys }
        rotated := false }
  | .rotateAll dryRun noise =>
      let result := rotateAll fernet state.settings noise dryRun state.database
      some { state with
        database := result.1
        rotated := state.rotated || (!dryRun && decide (result.2.2 = 0)) }
  | .retire previousKeys =>
      some { state with settings := { state.settings with previousKeys := previousKeys } }

/-- A key that can be written into a list with commas and read back. -/
def Listable (key : Text) : Prop :=
  key ≠ [] ∧ ',' ∉ key ∧ strip key = key

/-- The procedure: the key that steps back can be listed, and keys are only dropped
from the list once the script has rotated everything. -/
def Procedure (state : State) : Label Noise → Prop
  | .promote key => key ≠ [] ∧ Listable state.settings.primary
  | .retire _ => state.rotated = true
  | _ => True

/-- The ciphertext is some configured key's, under which the plaintext was written. -/
def SealedUnder (fernet : Fernet Key Noise) (seeds : List Text) (state : State) : Prop :=
  ∀ target id text, state.written target id = some text → ∃ seed ∈ seeds, ∃ noise,
    (state.database target).lookup id =
      some (some (fernet.encrypt (fernet.keyFrom seed) noise text))

/-- A deployment with some key whose recorded secrets it can read. -/
def Initial (fernet : Fernet Key Noise) (state : State) : Prop :=
  state.settings.primary ≠ [] ∧ state.rotated = false ∧
    SealedUnder fernet state.settings.seeds state

def system (fernet : Fernet Key Noise) : TransitionSystem State (Label Noise) where
  initial := Initial fernet
  step := step fernet

/-! ## One secret -/

section Secret

variable {fernet : Fernet Key Noise} {settings : Settings} {seeds : List Text}

theorem seeds_eq (given : settings.primary ≠ []) :
    settings.seeds = settings.primary :: parsePreviousKeys settings.previousKeys := by
  have nonempty : ∀ seed ∈ parsePreviousKeys settings.previousKeys, seed ≠ [] := by
    intro seed isIn
    obtain ⟨_, isText⟩ := List.mem_filter.mp isIn
    intro isEmpty
    rw [isEmpty] at isText
    cases isText
  apply List.filter_eq_self.mpr
  intro seed isIn
  rcases List.mem_cons.mp isIn with isFirst | isBehind
  · rw [isFirst]
    exact decide_eq_true given
  · exact decide_eq_true (nonempty seed isBehind)

theorem encryptSecret_eq (given : settings.primary ≠ []) (noise : Noise) (text : Text) :
    encryptSecret fernet settings noise text =
      some (fernet.encrypt (fernet.keyFrom settings.primary) noise text) := by
  rw [encryptSecret, seeds_eq given]
  rfl

/-- Of several keys the one that fits reads a secret, wherever it stands. -/
theorem decryptSecret_encrypt {seed : Text} (isIn : seed ∈ settings.seeds) (noise : Noise)
    (text : Text) :
    decryptSecret fernet settings (fernet.encrypt (fernet.keyFrom seed) noise text) =
      some text := by
  unfold decryptSecret
  generalize settings.seeds = seeds at isIn
  induction seeds with
  | nil =>
      exact absurd isIn List.not_mem_nil
  | cons first rest inductionHypothesis =>
      rw [List.findSome?_cons]
      by_cases same : fernet.keyFrom first = fernet.keyFrom seed
      · rw [same, fernet.decrypt_encrypt]
      · rw [fernet.decrypt_foreign _ _ _ _ same]
        rcases List.mem_cons.mp isIn with isFirst | isBehind
        · rw [isFirst] at same
          exact absurd rfl same
        · exact inductionHypothesis isBehind

theorem rotateSecret_eq (given : settings.primary ≠ []) (noise : Noise)
    (ciphertext : Text) :
    rotateSecret fernet settings noise ciphertext =
      (decryptSecret fernet settings ciphertext).map
        (fernet.encrypt (fernet.keyFrom settings.primary) noise) := by
  unfold rotateSecret
  cases decryptSecret fernet settings ciphertext with
  | none =>
      rfl
  | some text =>
      exact encryptSecret_eq given noise text

theorem primary_mem_seeds (given : settings.primary ≠ []) :
    settings.primary ∈ settings.seeds := by
  rw [seeds_eq given]
  exact List.mem_cons_self

end Secret

/-! ## What the script reports -/

section Report

variable {fernet : Fernet Key Noise} {settings : Settings}
variable {noise : Target → String → Noise} {database : Database}

theorem mem_TARGETS (target : Target) : target ∈ TARGETS := by
  cases target <;> decide

theorem countRows_eq_zero {test : Target → String → Option Text → Bool} :
    countRows database test = 0 ↔ ∀ target id current,
      (database target).lookup id = some current → test target id current = false := by
  unfold countRows
  rw [List.sum_eq_zero_iff_forall_eq_nat]
  constructor
  · intro allZero target id current isRow
    have noRow := allZero _ (List.mem_map.mpr ⟨target, mem_TARGETS target, rfl⟩)
    have isEntry := AList.mem_lookup_iff.mp isRow
    exact eq_false_of_ne_true (List.countP_eq_zero.mp noRow ⟨id, current⟩ isEntry)
  · intro noRow count isCount
    obtain ⟨target, _, isTarget⟩ := List.mem_map.mp isCount
    rw [← isTarget]
    apply List.countP_eq_zero.mpr
    intro row isRow passes
    rw [noRow target row.fst row.snd (AList.mem_lookup_iff.mpr isRow)] at passes
    cases passes

/-- Rows of two kinds are counted together. -/
theorem countRows_add {first second both : Target → String → Option Text → Bool}
    (split : ∀ target id current, both target id current =
      (first target id current || second target id current))
    (apart : ∀ target id current, ¬ (first target id current = true ∧
      second target id current = true)) :
    countRows database both = countRows database first + countRows database second := by
  have table : ∀ target (rows : List (Sigma fun _ : String => Option Text)),
      rows.countP (fun row => both target row.fst row.snd) =
        rows.countP (fun row => first target row.fst row.snd) +
          rows.countP (fun row => second target row.fst row.snd) := by
    intro target rows
    induction rows with
    | nil =>
        rfl
    | cons row rest inductionHypothesis =>
        rw [List.countP_cons, List.countP_cons, List.countP_cons, inductionHypothesis,
          split]
        cases isFirst : first target row.fst row.snd with
        | false =>
            rw [Bool.false_or, if_neg Bool.false_ne_true]
            omega
        | true =>
            have isSecond : ¬ second target row.fst row.snd = true :=
              fun passes => apart target row.fst row.snd ⟨isFirst, passes⟩
            rw [Bool.true_or, if_neg isSecond]
            omega
  simp only [countRows, TARGETS, table, List.map_cons, List.map_nil, List.sum_cons,
    List.sum_nil]
  omega

/-- A row that is rotated holds the plaintext it held, under the first key. -/
theorem rotatedRow_eq {target : Target} {id : String} {ciphertext text : Text}
    (given : settings.primary ≠ []) (nonempty : ciphertext ≠ [])
    (isRead : decryptSecret fernet settings ciphertext = some text) :
    rotatedRow fernet settings noise target id (some ciphertext) =
      some (fernet.encrypt (fernet.keyFrom settings.primary) (noise target id) text) := by
  have isStored : stored (some ciphertext) = some ciphertext :=
    Option.filter_some_pos (decide_eq_true nonempty)
  rw [rotatedRow, isStored, Option.bind_some, rotateSecret_eq given, isRead,
    Option.map_some, Option.some_or]

theorem fails_eq {target : Target} {id : String} {ciphertext : Text}
    (given : settings.primary ≠ []) (nonempty : ciphertext ≠ []) :
    fails fernet settings noise target id (some ciphertext) =
      (decryptSecret fernet settings ciphertext).isNone := by
  have isStored : stored (some ciphertext) = some ciphertext :=
    Option.filter_some_pos (decide_eq_true nonempty)
  rw [fails, rotates, isStored, Option.bind_some, rotateSecret_eq given,
    Option.isSome_map, Option.isSome_some, Bool.true_and, Option.not_isSome]

/-- Every key but the first one dropped. -/
def Settings.alone (settings : Settings) : Settings :=
  { settings with previousKeys := [] }

theorem decryptSecret_alone {ciphertext : Text} (given : settings.primary ≠ []) :
    decryptSecret fernet settings.alone ciphertext =
      fernet.decrypt (fernet.keyFrom settings.primary) ciphertext := by
  have only : settings.alone.seeds = [settings.primary] :=
    @seeds_eq settings.alone given
  rw [decryptSecret, only, List.findSome?_singleton]

/-- A row that no key reads stays as it is. -/
theorem rotatedRow_unread {target : Target} {id : String} {ciphertext : Text}
    (given : settings.primary ≠ []) (nonempty : ciphertext ≠ [])
    (unread : decryptSecret fernet settings ciphertext = none) :
    rotatedRow fernet settings noise target id (some ciphertext) = some ciphertext := by
  have isStored : stored (some ciphertext) = some ciphertext :=
    Option.filter_some_pos (decide_eq_true nonempty)
  rw [rotatedRow, isStored, Option.bind_some, rotateSecret_eq given, unread,
    Option.map_none, Option.none_or]

theorem lookup_rotateAll {target : Target} {id : String} {ciphertext : Text}
    (isRow : (database target).lookup id = some (some ciphertext)) :
    ((rotateAll fernet settings noise false database).1 target).lookup id =
      some (rotatedRow fernet settings noise target id (some ciphertext)) := by
  have rows : (rotateAll fernet settings noise false database).1 = fun target =>
      (database target).mapValues (rotatedRow fernet settings noise target) := rfl
  rw [rows]
  dsimp only
  rw [OrderedDict.lookup_mapValues, isRow, Option.map_some]

/-- The script reports no failure exactly when every stored secret can be read; the first key
alone then reads each secret that could be read as what it was, and another one stays; a dry
run counts the same and changes nothing, and each secret is counted once. -/
theorem rotation_report (given : settings.primary ≠ []) :
    rotateAll fernet settings noise true database =
        (database, (rotateAll fernet settings noise false database).2) ∧
      (rotateAll fernet settings noise false database).2.1 +
          (rotateAll fernet settings noise false database).2.2 =
        countRows database (fun _ _ current => (stored current).isSome) ∧
      ((rotateAll fernet settings noise false database).2.2 = 0 ↔
        ∀ target id ciphertext,
          (database target).lookup id = some (some ciphertext) → ciphertext ≠ [] →
          (decryptSecret fernet settings ciphertext).isSome = true) ∧
      ∀ target id ciphertext,
        (database target).lookup id = some (some ciphertext) → ciphertext ≠ [] →
        ∃ fresh, ((rotateAll fernet settings noise false database).1 target).lookup id =
            some (some fresh) ∧
          match decryptSecret fernet settings ciphertext with
          | some text => decryptSecret fernet settings.alone fresh = some text
          | none => fresh = ciphertext := by
  refine ⟨rfl, ?_, ?_, ?_⟩
  · apply (countRows_add ?_ ?_).symm
    · intro target id current
      unfold fails rotates
      cases isStored : stored current with
      | none =>
          rfl
      | some ciphertext =>
          rw [Option.bind_some, Option.isSome_some, Bool.true_and, Bool.or_not_self]
    · intro target id current both
      obtain ⟨isRotated, isFailed⟩ := both
      rw [fails, isRotated, Bool.not_true, Bool.and_false] at isFailed
      cases isFailed
  · refine Iff.trans countRows_eq_zero ?_
    constructor
    · intro noFailure target id ciphertext isRow nonempty
      have isFine := noFailure target id (some ciphertext) isRow
      rw [fails_eq given nonempty] at isFine
      rw [← Option.not_isNone, isFine, Bool.not_false]
    · intro allRead target id current isRow
      cases current with
      | none =>
          rfl
      | some ciphertext =>
          by_cases nonempty : ciphertext = []
          · rw [nonempty]
            rfl
          · have isRead := allRead target id ciphertext isRow nonempty
            rw [← Option.not_isNone, Bool.not_eq_true'] at isRead
            rw [fails_eq given nonempty, isRead]
  · intro target id ciphertext isRow nonempty
    rw [lookup_rotateAll isRow]
    cases isRead : decryptSecret fernet settings ciphertext with
    | none => exact ⟨ciphertext, by rw [rotatedRow_unread given nonempty isRead], rfl⟩
    | some text =>
        refine ⟨fernet.encrypt (fernet.keyFrom settings.primary) (noise target id) text,
          by rw [rotatedRow_eq given nonempty isRead], ?_⟩
        dsimp only
        rw [decryptSecret_alone given]
        exact fernet.decrypt_encrypt _ _ _

end Report

/-- Keys told apart by their first letters, which stand before what they encrypt. -/
def boxes : Fernet Char Unit where
  keyFrom seed := seed.headD ' '
  encrypt key _ text := key :: text
  decrypt key ciphertext :=
    if ciphertext.head? = some key then some ciphertext.tail else none
  encrypt_ne_nil _ _ _ := List.cons_ne_nil _ _
  decrypt_encrypt _ _ _ := if_pos rfl
  decrypt_foreign _ _ _ _ different :=
    if_neg fun same => different (Option.some.inj same).symm

/-- Before a rotation: two keys, the older one still listed. -/
def twoKeys : Settings :=
  ⟨"new".toList, "jwt".toList, " old , ".toList⟩

/-- A password under the older key, and one under a key that is not configured. -/
def twoPasswords : Database :=
  Function.update (fun _ => ∅) .connectionPassword
    (((∅ : Table (Option Text)).insert "c1" (some "oerp-password".toList)).insert "c2"
      (some "lost".toList))

theorem rotation_report_twoPasswords :
    (rotateAll boxes twoKeys (fun _ _ => ()) false twoPasswords).2 = (1, 1) ∧
      ∃ fresh, ((rotateAll boxes twoKeys (fun _ _ => ()) false twoPasswords).1
          .connectionPassword).lookup "c1" = some (some fresh) ∧
        decryptSecret boxes twoKeys.alone fresh = some "erp-password".toList := by
  have report := (@rotation_report _ _ boxes twoKeys (fun _ _ => ()) twoPasswords
    (by decide)).2.2.2 .connectionPassword "c1" "oerp-password".toList rfl (by decide)
  exact ⟨by decide, report⟩

/-! ## Runs of the procedure -/

section Runs

variable {fernet : Fernet Key Noise} {state after : State}

/-- What keeps the secrets readable: there is a key, each secret is under one that is
configured, and once everything is rotated under the first one. -/
structure Readable (fernet : Fernet Key Noise) (state : State) : Prop where
  given : state.settings.primary ≠ []
  underSome : SealedUnder fernet state.settings.seeds state
  underFirst : state.rotated = true →
    SealedUnder fernet [state.settings.primary] state

theorem SealedUnder.weaken {seeds more : List Text} (held : SealedUnder fernet seeds state)
    (included : seeds ⊆ more) : SealedUnder fernet more state := by
  intro target id text isWritten
  obtain ⟨seed, isIn, rest⟩ := held target id text isWritten
  exact ⟨seed, included isIn, rest⟩

/-- Writing a row under one of the keys, or a row that holds no secret. -/
theorem SealedUnder.write {seeds : List Text} {target : Target} {id : String}
    {table : Table (Option Text)} {plaintext : Option Text}
    (held : SealedUnder fernet seeds state)
    (others : ∀ other, other ≠ id →
      table.lookup other = (state.database target).lookup other)
    (own : ∀ text, plaintext = some text → ∃ seed ∈ seeds, ∃ noise,
      table.lookup id = some (some (fernet.encrypt (fernet.keyFrom seed) noise text))) :
    SealedUnder fernet seeds (writeRow state target table id plaintext) := by
  intro column other text isWritten
  by_cases sameColumn : column = target
  · subst sameColumn
    simp only [writeRow, Function.update_self] at isWritten ⊢
    by_cases sameRow : other = id
    · subst sameRow
      rw [Function.update_self] at isWritten
      exact own text isWritten
    · rw [Function.update_of_ne sameRow] at isWritten
      rw [others other sameRow]
      exact held column other text isWritten
  · simp only [writeRow, Function.update_of_ne sameColumn] at isWritten ⊢
    exact held column other text isWritten

theorem Readable.write {target : Target} {id : String} {table : Table (Option Text)}
    {plaintext : Option Text} (readable : Readable fernet state)
    (others : ∀ other, other ≠ id →
      table.lookup other = (state.database target).lookup other)
    (own : ∀ text, plaintext = some text → ∃ noise, table.lookup id =
      some (some (fernet.encrypt (fernet.keyFrom state.settings.primary) noise text))) :
    Readable fernet (writeRow state target table id plaintext) where
  given := readable.given
  underSome := by
    apply readable.underSome.write others
    intro text isText
    exact ⟨_, primary_mem_seeds readable.given, own text isText⟩
  underFirst := by
    intro isRotated
    apply (readable.underFirst isRotated).write others
    intro text isText
    exact ⟨_, List.mem_singleton_self _, own text isText⟩

/-- A key that can be listed is read back from the front of the list. -/
theorem parsePreviousKeys_cons {key : Text} (listable : Listable key) (raw : Text) :
    parsePreviousKeys (key ++ ',' :: raw) = key :: parsePreviousKeys raw := by
  obtain ⟨nonempty, noComma, isStripped⟩ := listable
  rw [parsePreviousKeys, statements, List.splitOn_append_cons_self_of_not_mem noComma,
    List.map_cons, isStripped, List.filter_cons_of_pos]
  · rfl
  · rw [Bool.not_eq_true', List.isEmpty_eq_false_iff]
    exact nonempty

theorem promote_seeds {settings : Settings} {key : Text} (nonempty : key ≠ [])
    (listable : Listable settings.primary) :
    Settings.seeds { settings with
      appSecretKey := key
      previousKeys := settings.primary ++ ',' :: settings.previousKeys } =
      key :: settings.seeds := by
  have isFirst : Settings.primary { settings with
      appSecretKey := key
      previousKeys := settings.primary ++ ',' :: settings.previousKeys } = key :=
    if_neg nonempty
  rw [seeds_eq (isFirst.symm ▸ nonempty), isFirst, parsePreviousKeys_cons listable,
    seeds_eq listable.1]

/-- What was under some key is under the first one after a rotation. -/
theorem rotateAll_sealed (noise : Target → String → Noise)
    (readable : Readable fernet state) : SealedUnder fernet [state.settings.primary]
      { state with
        database := (rotateAll fernet state.settings noise false state.database).1 } := by
  intro target id text isWritten
  obtain ⟨seed, isIn, sealing, isRow⟩ := readable.underSome target id text isWritten
  refine ⟨state.settings.primary, List.mem_singleton_self _, noise target id, ?_⟩
  have isRead : decryptSecret fernet state.settings
      (fernet.encrypt (fernet.keyFrom seed) sealing text) = some text :=
    decryptSecret_encrypt isIn sealing text
  calc ((state.database target).mapValues
        (rotatedRow fernet state.settings noise target)).lookup id
      = some (rotatedRow fernet state.settings noise target id
          (some (fernet.encrypt (fernet.keyFrom seed) sealing text))) := by
        rw [OrderedDict.lookup_mapValues, isRow, Option.map_some]
    _ = some (some (fernet.encrypt (fernet.keyFrom state.settings.primary)
          (noise target id) text)) := by
        rw [rotatedRow_eq readable.given (fernet.encrypt_ne_nil _ _ _) isRead]

theorem step_readable {label : Label Noise} (readable : Readable fernet state)
    (procedure : Procedure state label) (stepped : step fernet state label = some after) :
    Readable fernet after := by
  cases label with
  | store target id noise plaintext =>
      rw [step, encryptSecret_eq readable.given] at stepped
      cases stepped
      apply readable.write
      · intro other different
        exact AList.lookup_insert_ne different
      · intro text isText
        cases isText
        exact ⟨noise, AList.lookup_insert _⟩
  | clear target id =>
      cases stepped
      apply readable.write
      · intro other different
        exact AList.lookup_insert_ne different
      · intro text isText
        cases isText
  | delete target id =>
      cases stepped
      apply readable.write
      · intro other different
        exact AList.lookup_erase_ne different
      · intro text isText
        cases isText
  | promote key =>
      cases stepped
      have seeds := promote_seeds procedure.1 procedure.2
      refine ⟨?_, ?_, fun isRotated => nomatch isRotated⟩
      · have isFirst : Settings.primary { state.settings with
            appSecretKey := key
            previousKeys := state.settings.primary ++ ',' :: state.settings.previousKeys } =
            key := if_neg procedure.1
        exact isFirst.symm ▸ procedure.1
      · dsimp only
        rw [seeds]
        exact readable.underSome.weaken (List.subset_cons_self _ _)
  | rotateAll dryRun noise =>
      cases stepped
      cases dryRun with
      | true =>
          refine ⟨readable.given, readable.underSome, ?_⟩
          intro isRotated
          rw [Bool.not_true, Bool.false_and, Bool.or_false] at isRotated
          exact readable.underFirst isRotated
      | false =>
          have isSealed := rotateAll_sealed noise readable
          refine ⟨readable.given, isSealed.weaken ?_, fun _ => isSealed⟩
          intro seed isFirst
          rw [List.mem_singleton.mp isFirst]
          exact primary_mem_seeds readable.given
  | retire previousKeys =>
      cases stepped
      have isSealed := readable.underFirst procedure
      refine ⟨readable.given, isSealed.weaken ?_, fun _ => isSealed⟩
      intro seed isFirst
      rw [List.mem_singleton.mp isFirst]
      exact @primary_mem_seeds { state.settings with previousKeys := previousKeys }
        readable.given

theorem initial_readable (isInitial : Initial fernet state) : Readable fernet state := by
  obtain ⟨given, unrotated, isSealed⟩ := isInitial
  refine ⟨given, isSealed, ?_⟩
  intro isRotated
  rw [unrotated] at isRotated
  cases isRotated

/-- However often the key is changed: as long as the procedure is followed, each
secret reads as what was last written, with secrets written, cleared and deleted in
between and whatever else the database holds. -/
theorem secrets_survive
    (reachable : (system fernet).ReachableUnder Procedure state)
    {target : Target} {id : String} {text : Text}
    (isWritten : state.written target id = some text) :
    ∃ ciphertext, (state.database target).lookup id = some (some ciphertext) ∧
      decryptSecret fernet state.settings ciphertext = some text := by
  have readable := reachable.invariant (Readable fernet)
    (fun _ isInitial => initial_readable isInitial)
    (fun _ _ _ readable procedure stepped => step_readable readable procedure stepped)
  obtain ⟨seed, isIn, noise, isRow⟩ := readable.underSome target id text isWritten
  exact ⟨_, isRow, decryptSecret_encrypt isIn noise text⟩

end Runs

/-! A password is stored, the key changed, a provider key stored, everything rotated
and the old key dropped. -/

def begun : State :=
  ⟨⟨"alpha".toList, "jwt".toList, []⟩, fun _ => ∅, fun _ _ => none, false⟩

def rotating : List (Label Unit) :=
  [.store .connectionPassword "c1" () "erp".toList, .promote "beta".toList,
    .store .providerKey "p1" () "sk".toList, .rotateAll false fun _ _ => (),
    .retire []]

/-- The state after the first labels. -/
def rotatedBy (count : ℕ) : State :=
  ((system boxes).exec begun (rotating.take count)).getD begun

theorem begun_initial : Initial boxes begun :=
  ⟨by decide, rfl, fun _ _ _ isWritten => nomatch isWritten⟩

theorem rotating_run : (system boxes).Reaches Procedure begun (rotatedBy 5) := by
  have stored : (system boxes).Reaches Procedure begun (rotatedBy 1) :=
    TransitionSystem.Reaches.single (.store .connectionPassword "c1" () "erp".toList)
      trivial rfl
  have promoted : (system boxes).Reaches Procedure begun (rotatedBy 2) :=
    stored.tail (.promote "beta".toList) ⟨by decide, by decide, by decide, by decide⟩ rfl
  have again : (system boxes).Reaches Procedure begun (rotatedBy 3) :=
    promoted.tail (.store .providerKey "p1" () "sk".toList) trivial rfl
  have rotated : (system boxes).Reaches Procedure begun (rotatedBy 4) :=
    again.tail (.rotateAll false fun _ _ => ()) trivial rfl
  exact rotated.tail (.retire []) rfl rfl

theorem secrets_survive_rotating : (rotatedBy 5).settings.seeds = ["beta".toList] ∧
    ∃ ciphertext,
      ((rotatedBy 5).database .connectionPassword).lookup "c1" = some (some ciphertext) ∧
      decryptSecret boxes (rotatedBy 5).settings ciphertext = some "erp".toList :=
  ⟨by decide, secrets_survive ⟨begun, begun_initial, rotating_run⟩ rfl⟩

end DbBuddy.Secrets
