import DbBuddy.Library.Calendar
import DbBuddy.Library.JsonText

/-!
# Signed audit rows

An audit row is signed over a canonical text of what it says, with a keyed hash.  The
rows are written by requests; a deletion of an account or an organization takes its name
out of the rows that stay.
-/

namespace DbBuddy.Audit

open DbBuddy.Library

/-! ## Rows -/

/-- A `datetime`, by its moment in UTC; one without an offset is taken for UTC, and one
that `astimezone` cannot turn into UTC is none. -/
structure Timestamp where
  instant : ℕ
  offset : Option ℤ
  inRange : instant < calendarEnd
  deriving DecidableEq

/-- `AuditLog`; the number that the database assigns is neither signed nor checked. -/
structure AuditRow (Real : Type) where
  id : String
  userId : Option String
  organizationId : Option String
  entityType : Option String
  action : String
  entityId : Option String
  ipAddress : Option String
  requestId : Option String
  createdAt : Option Timestamp
  detail : Document Real
  entryHash : Option String

/-- A keyed hash without collisions. -/
structure Mac where
  hexdigest : List Char → String
  injective : Function.Injective hexdigest
  nonempty : ∀ text, hexdigest text ≠ ""

section Signing

variable {Real : Type} (reals : RealText Real) (mac : Mac)

/-- `_SIGNED_FIELDS` and their values. -/
def signedFields (row : AuditRow Real) : List (String × Option String) :=
  [("id", some row.id), ("user_id", row.userId),
    ("organization_id", row.organizationId), ("entity_type", row.entityType),
    ("action", some row.action), ("entity_id", row.entityId),
    ("ip_address", row.ipAddress), ("request_id", row.requestId)]

/-- A text or `None`. -/
def textOrNull (value : Option String) : Document Real :=
  match value with
  | none => .null
  | some text => .string text

/-- `payload["detail"]` -/
def detailText (detail : Document Real) : Document Real :=
  if detail.isTruthy reals = true then
    .string (String.ofList (detail.sortKeys.write reals))
  else .null

def momentText (createdAt : Option Timestamp) : Option String :=
  createdAt.map fun moment => String.ofList (strftime moment.instant)

def payload (row : AuditRow Real) : List (String × Document Real) :=
  ((signedFields row).map fun field => (field.1, textOrNull field.2)) ++
    [("created_at", textOrNull (momentText row.createdAt)),
      ("detail", detailText reals row.detail)]

/-- `_canonical` -/
def canonical (row : AuditRow Real) : List Char :=
  (Document.object (payload reals row)).sortKeys.write reals

def sign (row : AuditRow Real) : String :=
  mac.hexdigest (canonical reals row)

def verify (row : AuditRow Real) : Bool :=
  match row.entryHash with
  | none => false
  | some stored => decide (stored ≠ "" ∧ stored = sign reals mac row)

/-- The rows agree on what is signed of them besides the detail. -/
structure SameHeader (row other : AuditRow Real) : Prop where
  fields : signedFields row = signedFields other
  instant : row.createdAt.map Timestamp.instant = other.createdAt.map Timestamp.instant

/-- The details are the same, or there is nothing in both. -/
def SameDetail (row other : AuditRow Real) : Prop :=
  SameContent row.detail other.detail ∨
    row.detail.isTruthy reals = false ∧ other.detail.isTruthy reals = false

end Signing

/-! ## What the canonical text tells apart -/

section Canonical

variable {Real : Type} {reals : RealText Real} {row other : AuditRow Real}

theorem textOrNull_injective :
    Function.Injective (textOrNull : Option String → Document Real) := by
  intro value other same
  cases value with
  | none =>
      cases other with
      | none => rfl
      | some text => cases same
  | some text =>
      cases other with
      | none => cases same
      | some text => rw [Document.string.inj same]

theorem sortKeys_textOrNull (value : Option String) :
    (textOrNull value : Document Real).sortKeys = textOrNull value := by
  cases value with
  | none => rfl
  | some text => rfl

theorem sortKeys_detailText (detail : Document Real) :
    (detailText reals detail).sortKeys = detailText reals detail := by
  unfold detailText
  split
  · rfl
  · rfl

/-- There are no keys to sort in the values of the payload. -/
theorem sortKeysIn_payload : sortKeysIn (payload reals row) = payload reals row := by
  simp only [payload, signedFields, List.map_cons, List.map_nil, List.cons_append,
    List.nil_append, sortKeysIn, sortKeys_textOrNull, sortKeys_detailText]

theorem detailText_eq_iff {detail found : Document Real} :
    detailText reals detail = detailText reals found ↔ SameContent detail found ∨
      detail.isTruthy reals = false ∧ found.isTruthy reals = false := by
  have sameTruth : SameContent detail found →
      detail.isTruthy reals = found.isTruthy reals := by
    intro same
    rw [← isTruthy_sortKeys, same, isTruthy_sortKeys]
  unfold detailText
  cases isDetail : detail.isTruthy reals with
  | true =>
      cases isFound : found.isTruthy reals with
      | true =>
          simp only [if_true, Document.string.injEq, Bool.true_eq_false, and_self, or_false]
          rw [String.ofList_inj, write_eq_iff]
          rfl
      | false =>
          rw [isDetail, isFound] at sameTruth
          have differ : ¬ SameContent detail found := fun same => by cases sameTruth same
          simp [differ]
  | false =>
      cases isFound : found.isTruthy reals with
      | true =>
          rw [isDetail, isFound] at sameTruth
          have differ : ¬ SameContent detail found := fun same => by cases sameTruth same
          simp [differ]
      | false => simp

theorem momentText_eq_iff {moment found : Option Timestamp} :
    momentText moment = momentText found ↔
      moment.map Timestamp.instant = found.map Timestamp.instant := by
  cases moment with
  | none =>
      cases found with
      | none => simp
      | some found => simp [momentText]
  | some moment =>
      cases found with
      | none => simp [momentText]
      | some found =>
          simp only [momentText, Option.map_some, Option.some.injEq]
          rw [String.ofList_inj]
          constructor
          · exact strftime_injective moment.inRange found.inRange
          · intro same
            rw [same]

/-- The canonical texts of two rows are the same, just if the rows agree on all that is
signed, the detail up to one that is empty. -/
theorem canonical_eq_iff : canonical reals row = canonical reals other ↔
    SameHeader row other ∧ SameDetail reals row other := by
  unfold canonical
  rw [write_eq_iff]
  constructor
  · intro same
    have isPerm := perm_of_sameContent same
    rw [sortKeysIn_payload, sortKeysIn_payload] at isPerm
    have distinct : ((payload reals row).map Prod.fst).Nodup :=
      (by decide : ["id", "user_id", "organization_id", "entity_type", "action",
        "entity_id", "ip_address", "request_id", "created_at", "detail"].Nodup)
    have samePayload : payload reals row = payload reals other :=
      eq_of_perm_of_keys rfl distinct isPerm
    obtain ⟨sameTexts, sameLast⟩ := List.append_inj samePayload rfl
    have sameFields : signedFields row = signedFields other := by
      apply List.map_injective_iff.mpr _ sameTexts
      rintro ⟨field, value⟩ ⟨name, found⟩ same
      rw [Prod.mk.injEq] at same ⊢
      exact ⟨same.1, textOrNull_injective same.2⟩
    simp only [List.cons.injEq, Prod.mk.injEq, true_and, and_true] at sameLast
    exact ⟨⟨sameFields, momentText_eq_iff.mp (textOrNull_injective sameLast.1)⟩,
      detailText_eq_iff.mp sameLast.2⟩
  · rintro ⟨⟨sameFields, sameInstant⟩, sameDetail⟩
    have samePayload : payload reals row = payload reals other := by
      unfold payload
      rw [sameFields, momentText_eq_iff.mpr sameInstant, detailText_eq_iff.mpr sameDetail]
    rw [samePayload]

end Canonical

end DbBuddy.Audit
