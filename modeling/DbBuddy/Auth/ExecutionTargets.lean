import DbBuddy.Auth.ExecutionTokens
import DbBuddy.Dialects.Engine
import Mathlib.Data.List.Basic

/-!
# The target an execution token is bound to

`/query` and `/execute` each resolve a connection and hash what they take to be
its target.  The hash is taken of five fields joined with bars; the connection is
opened with the database schema as well.
-/

namespace DbBuddy.Auth.ExecutionTokens

open DbBuddy.Library DbBuddy.Dialects

/-- What `connect_db` is given, but for the password. -/
structure Target where
  engine : String
  host : String
  port : Option Int
  database : String
  user : String
  dbSchema : Option String
  deriving DecidableEq, Repr

/-- What `QueryRequest` and `ExecuteRequest` say about the connection. -/
structure ConnectionRequest where
  connectionId : Option String
  host : String
  user : String
  database : String
  port : Option Int
  engine : DatabaseEngine
  dbSchema : Option String
  deriving DecidableEq, Repr

/-- A row of `database_connections`. -/
structure SavedConnection where
  userId : String
  engine : String
  host : String
  port : Option Int
  username : String
  database : String
  dbSchema : Option String
  deriving DecidableEq, Repr

/-- `value or None` -/
def orNone (value : Option String) : Option String :=
  if value = some "" then none else value

/-- `_resolve_connection`; none is the answer 404. -/
def resolveConnection (saved : String → Option SavedConnection) (caller : String)
    (request : ConnectionRequest) : Option Target :=
  match orNone request.connectionId with
  | none =>
      some
        { engine := request.engine.value
          host := request.host
          port := request.port
          database := request.database
          user := request.user
          dbSchema := orNone request.dbSchema }
  | some id =>
      match saved id with
      | none => none
      | some connection =>
          if connection.userId ≠ caller then none
          else some
            { engine := connection.engine
              host := connection.host
              port := connection.port
              database := connection.database
              user := connection.username
              dbSchema := connection.dbSchema }

/-- A port as a format string shows it. -/
def showPort : Option Int → String
  | none => "None"
  | some port => port.repr

/-- What `context_hash` hashes. -/
def material (target : Target) : String :=
  target.engine ++ "|" ++ target.host ++ "|" ++ showPort target.port ++ "|" ++
    target.database ++ "|" ++ target.user

/-- `context_hash` -/
def contextHash (sha256 : String → String) (target : Target) : String :=
  sha256 (material target)

/-- What `_issue_execution_token` hands to `issue`. -/
def issueFor (sha256 : String → String) (reviewed : Target)
    (userId sql safetyCategory : String) : IssueRequest where
  userId := userId
  sql := sql
  safetyCategory := if safetyCategory = "" then "write" else safetyCategory
  contextHash := contextHash sha256 reviewed

/-- What `_resolve_execute_sql` hands to `redeem`. -/
def redeemFor (sha256 : String → String) (connected : Target)
    (token userId : String) : RedeemRequest where
  token := token
  userId := userId
  contextHash := contextHash sha256 connected

/-! ## What the hash tells apart -/

/-- The parts of a text between its bars. -/
def barred (text : String) : List (List Char) :=
  text.toList.splitOn '|'

/-- The hashed fields, each cut at its bars. -/
def pieces (target : Target) : List (List Char) :=
  barred target.engine ++ barred target.host ++
    [(showPort target.port).toList] ++ barred target.database ++
    barred target.user

theorem barred_join (left right : String) :
    barred (left ++ "|" ++ right) = barred left ++ barred right := by
  have bar : "|".toList = ['|'] := by
    rfl
  unfold barred
  rw [String.toList_append, String.toList_append, bar, List.append_assoc,
    List.singleton_append, List.splitOn_append_cons_self]

theorem barred_injective {text other : String} (same : barred text = barred other) :
    text = other := by
  have joined : ['|'].intercalate (barred text) = text.toList :=
    List.intercalate_splitOn '|'
  have otherJoined : ['|'].intercalate (barred other) = other.toList :=
    List.intercalate_splitOn '|'
  apply String.toList_injective
  rw [← joined, ← otherJoined, same]

theorem isDigit_of_mem_repr {count : ℕ} {char : Char}
    (isIn : char ∈ count.repr.toList) : char.isDigit = true := by
  rw [Nat.toList_repr] at isIn
  exact Nat.isDigit_of_mem_toDigits (by decide) (by decide) isIn

theorem natRepr_injective {count other : ℕ} (same : count.repr = other.repr) :
    count = other := by
  have digits : Nat.toDigits 10 count = Nat.toDigits 10 other := by
    rw [← Nat.toList_repr, ← Nat.toList_repr, same]
  have read : Nat.ofDigitChars 10 (Nat.toDigits 10 count) 0 = count :=
    Nat.ofDigitChars_toDigits (by decide) (by decide)
  have otherRead : Nat.ofDigitChars 10 (Nat.toDigits 10 other) 0 = other :=
    Nat.ofDigitChars_toDigits (by decide) (by decide)
  rw [← read, ← otherRead, digits]

/-- A number that is not negative is all digits. -/
theorem natRepr_ne {count : ℕ} {text : String} {char : Char}
    (notDigit : char.isDigit = false) (isIn : char ∈ text.toList) :
    count.repr ≠ text := by
  intro same
  rw [← same] at isIn
  rw [isDigit_of_mem_repr isIn] at notDigit
  cases notDigit

theorem intRepr_injective {port other : Int} (same : port.repr = other.repr) :
    port = other := by
  have minus : ∀ count : ℕ, '-' ∈ ("-" ++ count.repr).toList := by
    intro count
    rw [String.toList_append]
    exact List.mem_append_left _ (by decide)
  cases port with
  | ofNat count =>
      cases other with
      | ofNat count' =>
          exact congrArg Int.ofNat (natRepr_injective same)
      | negSucc count' =>
          exact absurd same (natRepr_ne (by decide) (minus _))
  | negSucc count =>
      cases other with
      | ofNat count' =>
          exact absurd same.symm (natRepr_ne (by decide) (minus _))
      | negSucc count' =>
          have later : (count + 1).repr = (count' + 1).repr :=
            String.append_right_inj "-" |>.mp same
          have succ := natRepr_injective later
          rw [Nat.succ.inj succ]

theorem intRepr_ne_none (port : Int) : port.repr ≠ "None" := by
  cases port with
  | ofNat count =>
      exact natRepr_ne (by decide) (show 'N' ∈ "None".toList by decide)
  | negSucc count =>
      intro same
      have first := congrArg (fun text => text.toList.head?) same
      simp [Int.repr] at first

theorem showPort_injective {port other : Option Int}
    (same : showPort port = showPort other) : port = other := by
  cases port with
  | none =>
      cases other with
      | none => rfl
      | some number => exact absurd same.symm (intRepr_ne_none number)
  | some number =>
      cases other with
      | none => exact absurd same (intRepr_ne_none number)
      | some number' => exact congrArg some (intRepr_injective same)

theorem showPort_plain (port : Option Int) : '|' ∉ (showPort port).toList := by
  cases port with
  | none =>
      decide
  | some number =>
      intro isIn
      cases number with
      | ofNat count =>
          exact absurd (isDigit_of_mem_repr isIn) (by decide)
      | negSucc count =>
          have split : '|' ∈ "-".toList ++ (count + 1).repr.toList := by
            rw [← String.toList_append]
            exact isIn
          rcases List.mem_append.mp split with isMinus | isIn
          · exact absurd isMinus (by decide)
          · exact absurd (isDigit_of_mem_repr isIn) (by decide)

/-- The hashed text is known by its pieces, and knows no more. -/
theorem material_eq_iff (reviewed connected : Target) :
    material reviewed = material connected ↔ pieces reviewed = pieces connected := by
  have cut : ∀ target : Target, barred (material target) = pieces target := by
    intro target
    have port : barred (showPort target.port) = [(showPort target.port).toList] :=
      List.splitOn_eq_singleton (showPort_plain target.port)
    unfold material
    rw [barred_join, barred_join, barred_join, barred_join, port]
    rfl
  constructor
  · intro same
    rw [← cut reviewed, ← cut connected, same]
  · intro same
    apply barred_injective
    rw [cut reviewed, cut connected, same]

/-- The fields that are hashed are the same. -/
def SameHashed (reviewed connected : Target) : Prop :=
  reviewed.engine = connected.engine ∧ reviewed.host = connected.host ∧
    reviewed.port = connected.port ∧ reviewed.database = connected.database ∧
    reviewed.user = connected.user

/-- What keeps two targets apart in the hash: they do not differ in the schema
alone, and no bar of theirs has moved from one field to another. -/
structure KeptApart (reviewed connected : Target) : Prop where
  schema : SameHashed reviewed connected →
    reviewed.dbSchema = connected.dbSchema
  bars : pieces reviewed = pieces connected →
    (barred reviewed.engine).length = (barred connected.engine).length ∧
      (barred reviewed.host).length = (barred connected.host).length ∧
      (barred reviewed.database).length = (barred connected.database).length

theorem sameHashed_of_pieces {reviewed connected : Target}
    (same : pieces reviewed = pieces connected)
    (engine : (barred reviewed.engine).length = (barred connected.engine).length)
    (host : (barred reviewed.host).length = (barred connected.host).length)
    (database :
      (barred reviewed.database).length = (barred connected.database).length) :
    SameHashed reviewed connected := by
  unfold pieces at same
  obtain ⟨front, user⟩ := List.append_inj same (by simp [engine, host, database])
  obtain ⟨front, database⟩ := List.append_inj front (by simp [engine, host])
  obtain ⟨front, port⟩ := List.append_inj front (by simp [engine, host])
  obtain ⟨engine, host⟩ := List.append_inj front engine
  have portText : showPort reviewed.port = showPort connected.port :=
    String.toList_injective (List.singleton_injective port)
  exact ⟨barred_injective engine, barred_injective host,
    showPort_injective portText, barred_injective database, barred_injective user⟩

/-- The condition is the one under which the hash tells two targets apart. -/
theorem keptApart_iff (reviewed connected : Target) :
    KeptApart reviewed connected ↔
      (material reviewed = material connected → reviewed = connected) := by
  rw [material_eq_iff]
  constructor
  · intro kept same
    obtain ⟨engine, host, database⟩ := kept.bars same
    have hashed := sameHashed_of_pieces same engine host database
    have schema := kept.schema hashed
    obtain ⟨engine, host, port, database, user⟩ := hashed
    cases reviewed
    cases connected
    simp_all
  · intro apart
    constructor
    · intro hashed
      have same : pieces reviewed = pieces connected := by
        obtain ⟨engine, host, port, database, user⟩ := hashed
        unfold pieces
        rw [engine, host, port, database, user]
      rw [apart same]
    · intro same
      rw [apart same]
      exact ⟨rfl, rfl, rfl⟩

/-! ## Redemption -/

/-- In every run: a token that `/query` issues for the reviewed target, and that a
call of `/execute` connecting with another one presents and gets redeemed, was
issued for the very target the call connects with. -/
def RedeemsOnlyAt (sha256 : String → String) (reviewed connected : Target) :
    Prop :=
  ∀ (Call : Type) [DecidableEq Call] (request : Call → RedeemRequest)
    (before issued later : State Call) (call : Call) (raw userId caller : String)
    (sql category redeemedSql redeemedCategory : String) (now : Int),
    (system sha256 request).Reachable before →
    step sha256 request before
      (.issue raw (issueFor sha256 reviewed userId sql category)) = some issued →
    (system sha256 request).Reaches (fun _ _ => True) issued later →
    request call = redeemFor sha256 connected raw caller →
    later.phase call = .redeemed now redeemedSql redeemedCategory →
    reviewed = connected

/-- Nothing issued and nobody at work, at time zero. -/
def idle : State Unit where
  now := 0
  rows := fun _ => none
  lockedBy := fun _ => none
  phase := fun _ => .ready

/-- The row of the token `raw`, and nobody at work. -/
def issuedIdle (sha256 : String → String) (raw : String) (asked : IssueRequest) :
    State Unit :=
  { idle with
    rows := Function.update idle.rows (sha256 raw) (some (issuedRow asked 0)) }

/-- A token is redeemed by its owner with the hash it was issued with. -/
theorem redeems_with_hash (sha256 : String → String) (raw : String)
    (asked : IssueRequest) :
    ∃ later,
      (system sha256 fun _ : Unit =>
          ⟨raw, asked.userId, asked.contextHash⟩).Reaches (fun _ _ => True)
        (issuedIdle sha256 raw asked) later ∧
      later.phase () = .redeemed 0 asked.sql asked.safetyCategory := by
  have executed : ∃ later,
      (system sha256 fun _ : Unit => ⟨raw, asked.userId, asked.contextHash⟩).exec
          (issuedIdle sha256 raw asked)
          [.load (), .readClock (), .update (), .commit ()] = some later ∧
        later.phase () = .redeemed 0 asked.sql asked.safetyCategory := by
    simp [TransitionSystem.exec, system, step, checkRow, issuedRow, issuedIdle,
      idle, State.setPhase, ExecutionToken.redeemableAt, tokenTtl]
  obtain ⟨later, executed, redeemed⟩ := executed
  exact ⟨later, TransitionSystem.reaches_of_exec _ executed, redeemed⟩

/-- Where the hashed texts are the same, some run redeems the token. -/
theorem eq_of_redeemsOnlyAt {sha256 : String → String} {reviewed connected : Target}
    (onlyAt : RedeemsOnlyAt sha256 reviewed connected)
    (same : material reviewed = material connected) : reviewed = connected := by
  have sameHash : contextHash sha256 reviewed = contextHash sha256 connected :=
    congrArg sha256 same
  let asked := issueFor sha256 reviewed "u1" "DELETE FROM t" "write"
  obtain ⟨later, run, redeemed⟩ := redeems_with_hash sha256 "raw" asked
  have isInitial : (system sha256 fun _ : Unit =>
      ⟨"raw", asked.userId, asked.contextHash⟩).Reachable idle :=
    ⟨idle, ⟨fun _ => rfl, fun _ => rfl, fun _ => rfl⟩,
      TransitionSystem.Reaches.refl⟩
  apply onlyAt Unit (fun _ => ⟨"raw", asked.userId, asked.contextHash⟩) idle
    (issuedIdle sha256 "raw" asked) later () "raw" "u1" "u1" "DELETE FROM t"
    "write" asked.sql asked.safetyCategory 0 isInitial rfl run ?_ redeemed
  unfold redeemFor
  rw [← sameHash]
  rfl

/-- A token is redeemed for the reviewed target only, exactly if the two targets are
not confused by a schema or by a bar. -/
theorem redeemsOnlyAt_iff (sha256 : String → String)
    (collisionFree : Function.Injective sha256) (reviewed connected : Target) :
    RedeemsOnlyAt sha256 reviewed connected ↔ KeptApart reviewed connected := by
  rw [keptApart_iff]
  constructor
  · exact eq_of_redeemsOnlyAt
  · intro apart Call _ request before issued later call raw userId caller sql
      category redeemedSql redeemedCategory now reachable stepped run asked redeemed
    have presented : (request call).token = raw := by
      rw [asked]
      rfl
    have facts := redeemed_of_issued (inv_reachable reachable) stepped run redeemed
      presented
    have sameHash : (request call).contextHash =
        (issueFor sha256 reviewed userId sql category).contextHash := facts.2.1
    rw [asked] at sameHash
    exact apart (collisionFree sameHash).symm

/-! ### A token taken to another server, and to another schema -/

def shopRequest (host dbSchema : String) : ConnectionRequest where
  connectionId := none
  host := host
  user := "ana"
  database := "shop"
  port := some 5432
  engine := .postgres
  dbSchema := some dbSchema

def shopTarget (host dbSchema : String) : Target where
  engine := "postgresql"
  host := host
  port := some 5432
  database := "shop"
  user := "ana"
  dbSchema := some dbSchema

theorem redeemsOnlyAt_otherHost :
    RedeemsOnlyAt id (shopTarget "one" "sales") (shopTarget "two" "sales") := by
  apply (redeemsOnlyAt_iff id Function.injective_id _ _).mpr
  constructor
  · intro _
    rfl
  · intro same
    exact absurd same (by decide)

/-- Requests that differ in the schema alone share their tokens. -/
theorem redeems_elsewhere :
    ∃ reviewed connected,
      resolveConnection (fun _ => none) "ana" (shopRequest "one" "sales") =
          some reviewed ∧
        resolveConnection (fun _ => none) "ana" (shopRequest "one" "archive") =
          some connected ∧
        ¬ RedeemsOnlyAt id reviewed connected := by
  refine ⟨shopTarget "one" "sales", shopTarget "one" "archive", rfl, rfl, ?_⟩
  intro onlyAt
  have same : shopTarget "one" "sales" = shopTarget "one" "archive" :=
    eq_of_redeemsOnlyAt onlyAt rfl
  exact absurd same (by decide)

end DbBuddy.Auth.ExecutionTokens
