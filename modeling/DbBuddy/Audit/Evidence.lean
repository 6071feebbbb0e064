import DbBuddy.Audit.Integrity

/-!
# The audit log as evidence

Rows are written by requests, read back in the form that the database gives, and changed
only where a deletion clears a name in them.  Every row of a run verifies, as long as no
deletion clears a name that was signed.
-/

namespace DbBuddy.Audit

open DbBuddy.Library

/-! ## Writing and reading rows -/

/-- The arguments of `write_audit`, with the request's id, the new id and the time. -/
structure AuditEvent (Real : Type) where
  userId : Option String
  action : String
  entityType : Option String
  entityId : Option String
  detail : Document Real
  organizationId : Option String
  ipAddress : Option String
  requestId : Option String
  uuid : String
  now : ℕ
  inRange : now < calendarEnd

section Log

variable {Real : Type} (reals : RealText Real) (mac : Mac)

/-- The row before it is signed. -/
def AuditEvent.row (event : AuditEvent Real) : AuditRow Real where
  id := event.uuid
  userId := event.userId
  organizationId := event.organizationId
  entityType := event.entityType
  action := event.action
  entityId := event.entityId
  ipAddress := event.ipAddress
  requestId := event.requestId
  createdAt := some ⟨event.now, some 0, event.inRange⟩
  detail := event.detail
  entryHash := none

/-- `write_audit` -/
def writeAudit (event : AuditEvent Real) : AuditRow Real :=
  { event.row with entryHash := some (sign reals mac event.row) }

/-- The row as it is read from the database: the moment of its time stays, in any zone or
none, and the detail is read from the text of the column. -/
structure ReadBack (row found : AuditRow Real) : Prop where
  fields : signedFields found = signedFields row
  instant : found.createdAt.map Timestamp.instant = row.createdAt.map Timestamp.instant
  detail : found.detail.write reals = row.detail.write reals
  entryHash : found.entryHash = row.entryHash

/-! ## Operations -/

/-- `query(AuditLog).filter(user_id == …).update({user_id: None})` -/
def clearUser (target : String) (row : AuditRow Real) : AuditRow Real :=
  if row.userId = some target then { row with userId := none } else row

/-- `ondelete="SET NULL"` of the organization. -/
def clearOrganization (target : String) (row : AuditRow Real) : AuditRow Real :=
  if row.organizationId = some target then { row with organizationId := none } else row

/-- What the application does to the log.  No one deletes the own account, and an
organization that has a member is not deleted. -/
inductive Operation (Real : Type) where
  | request (events : List (AuditEvent Real))
  | deleteUser (target : String) (deletion : AuditEvent Real)
      (notOwn : deletion.userId ≠ some target)
  | deleteOrganization (target : String) (deletion : AuditEvent Real)
      (notOwn : deletion.organizationId ≠ some target)

/-- One operation; foreign keys may be enforced or not. -/
def operate (enforced : Bool) (log : List (AuditRow Real)) :
    Operation Real → List (AuditRow Real)
  | .request events => log ++ events.map (writeAudit reals mac)
  | .deleteUser target deletion _ =>
      log.map (clearUser target) ++ [writeAudit reals mac deletion]
  | .deleteOrganization target deletion _ =>
      (if enforced = true then log.map (clearOrganization target) else log) ++
        [writeAudit reals mac deletion]

def runFrom (enforced : Bool) (log : List (AuditRow Real))
    (operations : List (Operation Real)) : List (AuditRow Real) :=
  operations.foldl (operate reals mac enforced) log

/-- The operation clears no name that a row of the log was signed with. -/
def Spares (enforced : Bool) (log : List (AuditRow Real)) : Operation Real → Prop
  | .request _ => True
  | .deleteUser target _ _ => ∀ row ∈ log, row.userId ≠ some target
  | .deleteOrganization target _ _ =>
      enforced = true → ∀ row ∈ log, row.organizationId ≠ some target

def AllSpare (enforced : Bool) : List (AuditRow Real) → List (Operation Real) → Prop
  | _, [] => True
  | log, operation :: operations =>
      Spares enforced log operation ∧
        AllSpare enforced (operate reals mac enforced log operation) operations

/-! ## Intact and broken rows -/

/-- The signature is that of the row as it is. -/
def Intact (row : AuditRow Real) : Prop :=
  row.entryHash = some (sign reals mac row)

/-- The signature is that of a row with a name that is cleared here. -/
def Broken (row : AuditRow Real) : Prop :=
  ∃ signed, row.entryHash = some (sign reals mac signed) ∧
    (signed.userId ≠ none ∧ row.userId = none ∨
      signed.organizationId ≠ none ∧ row.organizationId = none)

end Log

section Evidence

variable {Real : Type} {reals : RealText Real} {mac : Mac} {row found : AuditRow Real}
  {enforced : Bool} {log : List (AuditRow Real)}

theorem sign_eq_iff : sign reals mac row = sign reals mac found ↔
    SameHeader row found ∧ SameDetail reals row found := by
  rw [sign, sign, mac.injective.eq_iff, canonical_eq_iff]

theorem verify_eq_true : verify reals mac row = true ↔ Intact reals mac row := by
  unfold verify Intact
  cases row.entryHash with
  | none => simp
  | some stored =>
      rw [decide_eq_true_eq, Option.some.injEq]
      constructor
      · exact fun both => both.2
      · intro same
        refine ⟨?_, same⟩
        rw [same]
        exact mac.nonempty _

/-- Reading a row back changes nothing that is signed. -/
theorem sign_readBack (isRead : ReadBack reals row found) :
    sign reals mac found = sign reals mac row := by
  have sameDetail : found.detail = row.detail := write_eq_iff.mp isRead.detail
  rw [sign_eq_iff]
  refine ⟨⟨isRead.fields, isRead.instant⟩, Or.inl ?_⟩
  rw [sameDetail]
  rfl

theorem verify_readBack (isRead : ReadBack reals row found) :
    verify reals mac found = verify reals mac row := by
  unfold verify
  rw [isRead.entryHash, sign_readBack isRead]

theorem readBack_self (row : AuditRow Real) : ReadBack reals row row :=
  ⟨rfl, rfl, rfl, rfl⟩

theorem intact_writeAudit (event : AuditEvent Real) :
    Intact reals mac (writeAudit reals mac event) :=
  rfl

/-- A row that lost a name does not verify. -/
theorem not_intact_of_broken (isBroken : Broken reals mac row) : ¬ Intact reals mac row := by
  intro isIntact
  obtain ⟨signed, isSigned, isCleared⟩ := isBroken
  have same : sign reals mac signed = sign reals mac row :=
    Option.some.inj (isSigned.symm.trans isIntact)
  have sameFields := (sign_eq_iff.mp same).1.fields
  simp only [signedFields, List.cons.injEq, Prod.mk.injEq, true_and, and_true] at sameFields
  obtain ⟨_, sameUser, sameOrganization, _⟩ := sameFields
  rcases isCleared with ⟨hadUser, noUser⟩ | ⟨hadOrganization, noOrganization⟩
  · exact hadUser (sameUser.trans noUser)
  · exact hadOrganization (sameOrganization.trans noOrganization)

theorem clearUser_of_ne {target : String} (isOther : row.userId ≠ some target) :
    clearUser target row = row :=
  if_neg isOther

theorem clearOrganization_of_ne {target : String}
    (isOther : row.organizationId ≠ some target) : clearOrganization target row = row :=
  if_neg isOther

theorem broken_clearUser (target : String) (isBroken : Broken reals mac row) :
    Broken reals mac (clearUser target row) := by
  obtain ⟨signed, isSigned, isCleared⟩ := isBroken
  unfold clearUser
  split
  · exact ⟨signed, isSigned, isCleared.imp (fun both => ⟨both.1, rfl⟩) id⟩
  · exact ⟨signed, isSigned, isCleared⟩

theorem broken_clearOrganization (target : String) (isBroken : Broken reals mac row) :
    Broken reals mac (clearOrganization target row) := by
  obtain ⟨signed, isSigned, isCleared⟩ := isBroken
  unfold clearOrganization
  split
  · exact ⟨signed, isSigned, isCleared.imp id fun both => ⟨both.1, rfl⟩⟩
  · exact ⟨signed, isSigned, isCleared⟩

/-! ## Steps and runs -/

/-- An operation that spares the names keeps all rows intact. -/
theorem intact_operate (allIntact : ∀ row ∈ log, Intact reals mac row)
    {operation : Operation Real} (spares : Spares enforced log operation) :
    ∀ row ∈ operate reals mac enforced log operation, Intact reals mac row := by
  cases operation with
  | request events =>
      intro row isRow
      rcases List.mem_append.mp isRow with isOld | isNew
      · exact allIntact row isOld
      · obtain ⟨event, _, rfl⟩ := List.mem_map.mp isNew
        exact intact_writeAudit event
  | deleteUser target deletion notOwn =>
      intro row isRow
      rcases List.mem_append.mp isRow with isOld | isNew
      · obtain ⟨old, isIn, rfl⟩ := List.mem_map.mp isOld
        rw [clearUser_of_ne (spares old isIn)]
        exact allIntact old isIn
      · rw [List.mem_singleton.mp isNew]
        exact intact_writeAudit deletion
  | deleteOrganization target deletion notOwn =>
      intro row isRow
      rcases List.mem_append.mp isRow with isOld | isNew
      · split at isOld
        · next isEnforced =>
            obtain ⟨old, isIn, rfl⟩ := List.mem_map.mp isOld
            rw [clearOrganization_of_ne (spares isEnforced old isIn)]
            exact allIntact old isIn
        · exact allIntact row isOld
      · rw [List.mem_singleton.mp isNew]
        exact intact_writeAudit deletion

/-- An operation that does not spare the names breaks a row. -/
theorem broken_of_not_spares (allIntact : ∀ row ∈ log, Intact reals mac row)
    {operation : Operation Real} (notSpares : ¬ Spares enforced log operation) :
    ∃ row ∈ operate reals mac enforced log operation, Broken reals mac row := by
  cases operation with
  | request events => exact absurd trivial notSpares
  | deleteUser target deletion notOwn =>
      simp only [Spares, ne_eq, not_forall, not_not] at notSpares
      obtain ⟨row, isRow, isTarget⟩ := notSpares
      have isCleared : clearUser target row = { row with userId := none } := if_pos isTarget
      refine ⟨clearUser target row,
        List.mem_append_left _ (List.mem_map_of_mem isRow), row, ?_, Or.inl ⟨?_, ?_⟩⟩
      · rw [isCleared]
        exact allIntact row isRow
      · rw [isTarget]
        exact Option.some_ne_none target
      · rw [isCleared]
  | deleteOrganization target deletion notOwn =>
      simp only [Spares, ne_eq, not_forall, not_not] at notSpares
      obtain ⟨isEnforced, row, isRow, isTarget⟩ := notSpares
      have isCleared : clearOrganization target row = { row with organizationId := none } :=
        if_pos isTarget
      refine ⟨clearOrganization target row, List.mem_append_left _ ?_, row, ?_,
        Or.inr ⟨?_, ?_⟩⟩
      · rw [if_pos isEnforced]
        exact List.mem_map_of_mem isRow
      · rw [isCleared]
        exact allIntact row isRow
      · rw [isTarget]
        exact Option.some_ne_none target
      · rw [isCleared]

/-- A broken row stays broken. -/
theorem broken_operate (isBroken : ∃ row ∈ log, Broken reals mac row)
    (operation : Operation Real) :
    ∃ row ∈ operate reals mac enforced log operation, Broken reals mac row := by
  obtain ⟨row, isRow, isBroken⟩ := isBroken
  cases operation with
  | request events => exact ⟨row, List.mem_append_left _ isRow, isBroken⟩
  | deleteUser target deletion notOwn =>
      exact ⟨clearUser target row, List.mem_append_left _ (List.mem_map_of_mem isRow),
        broken_clearUser target isBroken⟩
  | deleteOrganization target deletion notOwn =>
      cases enforced with
      | true =>
          exact ⟨clearOrganization target row,
            List.mem_append_left _ (List.mem_map_of_mem isRow),
            broken_clearOrganization target isBroken⟩
      | false => exact ⟨row, List.mem_append_left _ isRow, isBroken⟩

theorem broken_runFrom (isBroken : ∃ row ∈ log, Broken reals mac row)
    (operations : List (Operation Real)) :
    ∃ row ∈ runFrom reals mac enforced log operations, Broken reals mac row := by
  induction operations generalizing log with
  | nil => exact isBroken
  | cons operation operations induction =>
      exact induction (broken_operate isBroken operation)

/-- In a run from intact rows all rows stay intact, just if every operation spares the
names. -/
theorem intact_runFrom_iff (allIntact : ∀ row ∈ log, Intact reals mac row)
    (operations : List (Operation Real)) :
    (∀ row ∈ runFrom reals mac enforced log operations, Intact reals mac row) ↔
      AllSpare reals mac enforced log operations := by
  induction operations generalizing log with
  | nil => exact iff_of_true allIntact trivial
  | cons operation operations induction =>
      by_cases spares : Spares enforced log operation
      · have isSame := induction (intact_operate allIntact spares)
        exact isSame.trans ⟨fun later => ⟨spares, later⟩, fun both => both.2⟩
      · refine iff_of_false ?_ fun both => spares both.1
        intro stayIntact
        obtain ⟨row, isRow, isBroken⟩ :=
          broken_runFrom (broken_of_not_spares allIntact spares) operations
        exact not_intact_of_broken isBroken (stayIntact row isRow)

end Evidence

/-! ## Tamper evidence and honest rows -/

section Verification

variable {Real : Type} (reals : RealText Real) (mac : Mac)

/-- The rows say the same. -/
def SameRecord (row other : AuditRow Real) : Prop :=
  SameHeader row other ∧ SameContent row.detail other.detail

/-- Rows that say different things have different texts, and the signature of the one
does not verify on the other. -/
def TellsApart (row other : AuditRow Real) : Prop :=
  ¬ SameRecord row other → canonical reals row ≠ canonical reals other ∧
    verify reals mac { other with entryHash := some (sign reals mac row) } = false

/-- The rows differ in their details alone, and there is nothing in both. -/
def OnlyEmptied (row other : AuditRow Real) : Prop :=
  SameHeader row other ∧ ¬ SameContent row.detail other.detail ∧
    row.detail.isTruthy reals = false ∧ other.detail.isTruthy reals = false

/-- Every row of the log verifies, however it is read back. -/
def AllVerify (log : List (AuditRow Real)) : Prop :=
  ∀ row ∈ log, ∀ found, ReadBack reals row found → verify reals mac found = true

theorem tellsApart_iff (row other : AuditRow Real) :
    TellsApart reals mac row other ↔ ¬ OnlyEmptied reals row other := by
  constructor
  · rintro tells ⟨sameHeader, differ, bothEmpty⟩
    have isApart := tells fun same => differ same.2
    exact isApart.1 (canonical_eq_iff.mpr ⟨sameHeader, Or.inr bothEmpty⟩)
  · intro notEmptied differ
    have isApart : canonical reals row ≠ canonical reals other := by
      intro same
      obtain ⟨sameHeader, sameContent | bothEmpty⟩ := canonical_eq_iff.mp same
      · exact differ ⟨sameHeader, sameContent⟩
      · exact notEmptied ⟨sameHeader, fun same => differ ⟨sameHeader, same⟩, bothEmpty⟩
    refine ⟨isApart, ?_⟩
    rw [← Bool.not_eq_true, verify_eq_true]
    intro isIntact
    exact isApart (mac.injective (Option.some.inj isIntact))

theorem allVerify_iff {log : List (AuditRow Real)} :
    AllVerify reals mac log ↔ ∀ row ∈ log, Intact reals mac row := by
  constructor
  · intro allVerify row isRow
    exact verify_eq_true.mp (allVerify row isRow row (readBack_self row))
  · intro allIntact row isRow found isRead
    rw [verify_readBack isRead]
    exact verify_eq_true.mpr (allIntact row isRow)

/-- Two rows are told apart, just if they do not differ in empty details alone; and every
row of a run verifies, just if every operation spares the names that were signed. -/
theorem auditEvidence_iff :
    (∀ row other : AuditRow Real,
      TellsApart reals mac row other ↔ ¬ OnlyEmptied reals row other) ∧
    ∀ (enforced : Bool) (operations : List (Operation Real)),
      AllVerify reals mac (runFrom reals mac enforced [] operations) ↔
        AllSpare reals mac enforced [] operations := by
  constructor
  · exact tellsApart_iff reals mac
  · intro enforced operations
    rw [allVerify_iff]
    exact intact_runFrom_iff (fun row isRow => absurd isRow List.not_mem_nil) operations

end Verification

/-! ## A deleted account -/

theorem dot_notMem_showInteger (whole : ℤ) : '.' ∉ showInteger whole := by
  have noDigit : '.' ∉ Nat.toDigits 10 whole.natAbs := by
    intro isIn
    have isDigit := isDigit_of_mem_toDigits isIn
    cases isDigit
  unfold showInteger
  split
  · simp [noDigit]
  · exact noDigit

/-- The floats that end in `.5`, by the integer in front. -/
def halves : RealText ℤ where
  text whole := showInteger whole ++ ['.', '5']
  isZero := fun _ => false
  injective := fun _ _ same => showInteger_injective (List.append_cancel_right same)
  nonempty := by simp
  isAtom := by
    intro whole char isIn
    rcases List.mem_append.mp isIn with inWhole | inFraction
    · exact (isAtom_showInteger whole).2 char inWhole
    · exact List.all_eq_true.mp (by decide) char inFraction
  notInteger := by
    intro whole other same
    apply dot_notMem_showInteger other
    rw [← same]
    simp
  notWord := by
    intro whole isWord
    have noDots : ∀ word ∈ jsonWords, '.' ∉ word := by decide
    exact noDots _ isWord (by simp)

/-- A hash that keeps its text. -/
def plainMac : Mac where
  hexdigest text := String.ofList ('#' :: text)
  injective := fun _ _ same => (List.cons.inj (String.ofList_inj.mp same)).2
  nonempty := by
    intro text isEmpty
    have noChars := congrArg String.toList isEmpty
    rw [String.toList_ofList] at noChars
    cases noChars

/-- A row that an account writes. -/
def loginOf (userId : String) : AuditEvent ℤ where
  userId := some userId
  action := "login"
  entityType := some "user"
  entityId := some userId
  detail := .null
  organizationId := some "o1"
  ipAddress := none
  requestId := none
  uuid := userId
  now := 0
  inRange := by decide

/-- A query that took one and a half seconds. -/
def queryOf (userId : String) : AuditEvent ℤ :=
  { loginOf userId with
    action := "query"
    detail := .object [("seconds", .real 1), ("rows", .integer 20)]
    uuid := "q" ++ userId }

/-- The deletion of an account that wrote no row leaves all rows to verify. -/
theorem allVerify_unrelated :
    AllVerify halves plainMac (runFrom halves plainMac true []
      [.request [loginOf "u1", queryOf "u1"], .deleteUser "u3" (loginOf "u2") (by decide),
        .request [queryOf "u2"]]) := by
  apply ((auditEvidence_iff halves plainMac).2 true _).mpr
  refine ⟨trivial, ?_, trivial, trivial⟩
  intro row isRow
  rcases List.mem_pair.mp isRow with isLogin | isQuery
  · rw [isLogin]
    decide
  · rw [isQuery]
    decide

/-- A login is signed, its account is deleted, and the row does not verify any more; and
an empty detail is not told from none. -/
theorem not_allVerify_deleted :
    ¬ AllVerify halves plainMac (runFrom halves plainMac false []
      [.request [loginOf "u1"], .deleteUser "u1" (loginOf "u2") (by decide)]) ∧
    ¬ TellsApart halves plainMac (loginOf "u1").row
      { (loginOf "u1").row with detail := .object [] } := by
  constructor
  · rw [allVerify_iff, intact_runFrom_iff fun row isRow => absurd isRow List.not_mem_nil]
    intro allSpare
    exact allSpare.2.1 (writeAudit halves plainMac (loginOf "u1"))
      (List.mem_singleton_self _) rfl
  · rw [tellsApart_iff, not_not]
    refine ⟨⟨rfl, rfl⟩, ?_, rfl, rfl⟩
    intro same
    cases same

end DbBuddy.Audit
