import DbBuddy.Auth.SessionGrounds
import DbBuddy.Library.TableUpdates

/-!
# The life of an API key

A key is found by the prefix of its text, opens sessions of its owner until it is
revoked, and opens none from then on.
-/

namespace DbBuddy.Auth.SignIn

open DbBuddy.Library
open DbBuddy.Library.OrderedDict (Distinct)
open DbBuddy.Publishing (Table check found ok_bind bind_eq_ok check_eq_ok found_eq_ok
  toOption_eq_some)

variable {env : Environment} {state after source target : State} {label : Label}
  {session : Pair} {id : String} {tokenPrefix secret : Text} {key : ApiKey}

/-! ## The text of a key -/

/-- What `token_hex` and `token_urlsafe` draw. -/
structure Drawn (tokenPrefix secret : Text) : Prop where
  nonempty : tokenPrefix ≠ []
  unmarked : '_' ∉ tokenPrefix
  solidPrefix : ∀ char ∈ tokenPrefix, isSpace char = false
  solidSecret : ∀ char ∈ secret, isSpace char = false

theorem strip_plaintext (drawn : Drawn tokenPrefix secret) :
    strip (plaintext tokenPrefix secret) = plaintext tokenPrefix secret := by
  apply strip_eq_self
  intro char isIn
  rcases List.mem_append.mp isIn with isFront | isBehind
  · rcases List.mem_append.mp isFront with isHead | isPrefix
    · simp only [List.mem_cons, List.not_mem_nil, or_false] at isHead
      rcases isHead with same | same | same | same <;> rw [same] <;> decide
    · exact drawn.solidPrefix char isPrefix
  · rcases List.mem_cons.mp isBehind with isMark | isSecret
    · rw [isMark]
      decide
    · exact drawn.solidSecret char isSecret

theorem parse_plaintext (drawn : Drawn tokenPrefix secret) :
    parseApiKeyPrefix (plaintext tokenPrefix secret) = some tokenPrefix := by
  have unmarked : ∀ char ∈ tokenPrefix, decide (char ≠ '_') = true := by
    intro char isIn
    apply decide_eq_true
    intro isMark
    exact drawn.unmarked (isMark ▸ isIn)
  have behind : (tokenPrefix ++ '_' :: secret).dropWhile (fun char => decide (char ≠ '_')) =
      '_' :: secret :=
    List.dropWhile_append_of_pos unmarked
  have front : (tokenPrefix ++ '_' :: secret).takeWhile (fun char => decide (char ≠ '_')) =
      tokenPrefix := by
    rw [List.takeWhile_append_of_pos unmarked]
    exact List.append_nil tokenPrefix
  have isBehind : (plaintext tokenPrefix secret).dropWhile
      (fun char => decide (char ≠ '_')) = '_' :: (tokenPrefix ++ '_' :: secret) := rfl
  have isFront : (plaintext tokenPrefix secret).takeWhile
      (fun char => decide (char ≠ '_')) = ['d', 'b', 'k'] := rfl
  simp only [parseApiKeyPrefix, strip_plaintext drawn, isBehind, behind, isFront, front]
  exact if_pos ⟨trivial, drawn.nonempty⟩

/-! ## The rows -/

theorem KeyChange.distinct {keys : Table ApiKey}
    (change : KeyChange env state label keys)
    (distinct : Distinct state.keys ApiKey.tokenPrefix) :
    Distinct keys ApiKey.tokenPrefix := by
  cases change with
  | same isSame =>
      rw [isSame]
      exact distinct
  | created session id tokenPrefix secret _ account _ _ _ isFree isWritten =>
      rw [isWritten]
      apply distinct.insert
      intro other row _ isRow
      exact OrderedDict.ne_of_first_isNone isFree isRow
  | revoked session id key _ isKey _ isWritten =>
      rw [isWritten]
      exact distinct.rewrite isKey rfl
  | removed user _ isKept =>
      rw [isKept]
      intro left right first second isFirst isSecond same
      exact distinct left right first second (OrderedDict.lookup_keepIf isFirst).1
        (OrderedDict.lookup_keepIf isSecond).1 same

/-- A key stays as it is but for its owner's revoking it, or its owner's end. -/
theorem KeyChange.kept {keys : Table ApiKey} (change : KeyChange env state label keys)
    (isKey : state.keys.lookup id = some key) (stays : label ≠ .deleteAccount key.user) :
    keys.lookup id = some key ∨
      ∃ session, label = .revokeKey session id ∧ session.user = key.user ∧
        keys.lookup id = some { key with isRevoked := true } := by
  cases change with
  | same isSame =>
      rw [isSame]
      exact Or.inl isKey
  | created session other tokenPrefix secret _ account _ _ isUnused _ isWritten =>
      have isOther : id ≠ other := by
        intro same
        subst same
        cases isUnused.symm.trans isKey
      rw [isWritten, AList.lookup_insert_ne isOther]
      exact Or.inl isKey
  | revoked session other old isLabel wasKey isOwner isWritten =>
      rw [isWritten]
      by_cases same : id = other
      · subst same
        cases wasKey.symm.trans isKey
        exact Or.inr ⟨session, isLabel, isOwner.symm, AList.lookup_insert _⟩
      · rw [AList.lookup_insert_ne same]
        exact Or.inl isKey
  | removed user isLabel isKept =>
      rw [isKept]
      apply Or.inl
      apply OrderedDict.lookup_keepIf_eq_some isKey
      apply decide_eq_true
      intro same
      exact stays (same ▸ isLabel)

theorem distinct_of_reachable (reachable : (system env).Reachable state) :
    Distinct state.keys ApiKey.tokenPrefix :=
  reachable.invariant (fun state => Distinct state.keys ApiKey.tokenPrefix)
    (fun start isInitial => by
      rw [isInitial.2.2]
      exact OrderedDict.distinct_empty)
    (fun _ _ _ distinct stepped => (step_effect stepped).keys.distinct distinct)

/-- An account that is there stays unless it is deleted. -/
theorem step_account {user : String} {account : Account}
    (stepped : step env state label = some after)
    (isAccount : state.accounts.lookup user = some account)
    (stays : label ≠ .deleteAccount user) :
    ∃ account, after.accounts.lookup user = some account := by
  cases (step_effect stepped).accounts user with
  | same isSame =>
      exact ⟨account, isSame.trans isAccount⟩
  | deleted isDeletion _ =>
      exact absurd isDeletion stays
  | created isFresh =>
      cases (lookup_of_fresh isFresh).symm.trans isAccount
  | evolved old new _ isNew _ =>
      exact ⟨new, isNew⟩

/-! ## Exchanging -/

theorem first_of_distinct (distinct : Distinct state.keys ApiKey.tokenPrefix)
    (isKey : state.keys.lookup id = some key) :
    state.keys.first (fun row => decide (row.tokenPrefix = key.tokenPrefix)) =
      some (id, key) := by
  cases isFirst : state.keys.first fun row => decide (row.tokenPrefix = key.tokenPrefix) with
  | none =>
      have other := OrderedDict.first_eq_none isFirst isKey
      exact absurd (decide_eq_true rfl) other
  | some entry =>
      obtain ⟨isEntry, same⟩ := OrderedDict.lookup_first isFirst
      have isId := distinct _ _ _ _ isEntry isKey (of_decide_eq_true same)
      rw [isId] at isEntry
      cases isEntry.symm.trans isKey
      rw [← isId]

/-- A live key opens a session of its owner, as long as the owner may sign in. -/
theorem exchangeKey_live {user : String} {account : Account} (drawn : Drawn tokenPrefix secret)
    (distinct : Distinct state.keys ApiKey.tokenPrefix)
    (isKey : state.keys.lookup id = some ⟨user, tokenPrefix,
      hashApiKey env (plaintext tokenPrefix secret), false⟩)
    (isAccount : state.accounts.lookup user = some account) :
    exchangeKey env state (plaintext tokenPrefix secret) =
      if account.isActive then
        .ok (issuePair state user account (some ["apikey"]))
      else .error invalidKey := by
  have isFirst := first_of_distinct distinct isKey
  dsimp only at isFirst
  simp only [exchangeKey, strip_plaintext drawn, parse_plaintext drawn, found, ok_bind,
    isFirst, check, if_true, isAccount]
  cases account.isActive with
  | false => rfl
  | true => rfl

/-- A revoked key opens nothing, whatever text comes with its prefix. -/
theorem exchangeKey_revoked {token : Text}
    (distinct : Distinct state.keys ApiKey.tokenPrefix)
    (isKey : state.keys.lookup id = some key) (isRevoked : key.isRevoked = true)
    (isParsed : parseApiKeyPrefix token = some key.tokenPrefix) :
    exchangeKey env state token = .error invalidKey := by
  have isFirst := first_of_distinct distinct isKey
  have isStripped : parseApiKeyPrefix (strip token) = some key.tokenPrefix := by
    rw [← isParsed, parseApiKeyPrefix, parseApiKeyPrefix, strip_strip]
  simp only [exchangeKey, isStripped, found, ok_bind, isFirst, check, isRevoked]
  rfl

/-! ## From its creation on -/

/-- The key's row, and that its owner is still there. -/
structure Stands (state : State) (id : String) (key : ApiKey) : Prop where
  row : state.keys.lookup id = some key
  owner : ∃ account, state.accounts.lookup key.user = some account
  distinct : Distinct state.keys ApiKey.tokenPrefix

theorem stands_of_created (reachable : (system env).Reachable source)
    (created : step env source (.createKey session id tokenPrefix secret) = some after) :
    Stands after id ⟨session.user, tokenPrefix,
      hashApiKey env (plaintext tokenPrefix secret), false⟩ := by
  obtain ⟨⟨isIssued, isUnused⟩, ran⟩ := Option.ite_none_right_eq_some.mp created
  have distinct := (step_effect created).keys.distinct (distinct_of_reachable reachable)
  obtain ⟨account, passed, rest⟩ := bind_eq_ok (toOption_eq_some ran)
  obtain ⟨_, _, done⟩ := bind_eq_ok rest
  cases done
  exact ⟨AList.lookup_insert _, ⟨account, (getCurrentUser_eq_ok passed).1⟩, distinct⟩

/-- One step: the key stands as it was, or has been revoked by its owner. -/
theorem Stands.step (stands : Stands state id key)
    (stays : label ≠ .deleteAccount key.user)
    (stepped : SignIn.step env state label = some after) :
    Stands after id key ∨ ∃ session, label = .revokeKey session id ∧
      session.user = key.user ∧ Stands after id { key with isRevoked := true } := by
  obtain ⟨account, isAccount⟩ := stands.owner
  have effect := step_effect stepped
  have distinct := effect.keys.distinct stands.distinct
  have owner := step_account stepped isAccount stays
  rcases effect.keys.kept stands.row stays with
    isKept | ⟨session, isLabel, isOwner, isRevoked⟩
  · exact Or.inl ⟨isKept, owner, distinct⟩
  · exact Or.inr ⟨session, isLabel, isOwner, isRevoked, owner, distinct⟩

/-- What does not touch a key: its owner stays, and nobody revokes it. -/
def Spares (user id : String) (label : Label) : Prop :=
  label ≠ .deleteAccount user ∧ ∀ session, label ≠ .revokeKey session id

/-- In every state until it is revoked, a key opens a session of its owner if the owner is
active, and nothing otherwise; only its owner can revoke it, and from then on no text with its
prefix opens one. -/
theorem key_opens_until_revoked (reachable : (system env).Reachable source)
    (drawn : Drawn tokenPrefix secret) {created : State}
    (isCreated : step env source (.createKey session id tokenPrefix secret) =
      some created) :
    (∀ target, (system env).Reaches (fun _ label => Spares session.user id label)
        created target →
      ∃ account, target.accounts.lookup session.user = some account ∧
        exchangeKey env target (plaintext tokenPrefix secret) =
          if account.isActive then
            .ok (issuePair target session.user account (some ["apikey"]))
          else .error invalidKey) ∧
    ∀ target revoker revoked,
      (system env).Reaches (fun _ label => Spares session.user id label) created target →
      step env target (.revokeKey revoker id) = some revoked →
      revoker.user = session.user ∧
        ∀ later, (system env).Reaches (fun _ label => label ≠ .deleteAccount session.user)
          revoked later →
        ∀ token, parseApiKeyPrefix token = some tokenPrefix →
          exchangeKey env later token = .error invalidKey := by
  have live : ∀ target, (system env).Reaches (fun _ label => Spares session.user id label)
      created target →
      Stands target id ⟨session.user, tokenPrefix,
        hashApiKey env (plaintext tokenPrefix secret), false⟩ := by
    intro target run
    exact run.preserves
      (fun state => Stands state id ⟨session.user, tokenPrefix,
        hashApiKey env (plaintext tokenPrefix secret), false⟩)
      (fun _ _ _ stands spares stepped => by
        rcases stands.step spares.1 stepped with remains | ⟨other, isLabel, _⟩
        · exact remains
        · exact absurd isLabel (spares.2 other))
      (stands_of_created reachable isCreated)
  constructor
  · intro target run
    have isLive := live target run
    obtain ⟨account, isAccount⟩ := isLive.owner
    exact ⟨account, isAccount, exchangeKey_live drawn isLive.distinct isLive.row isAccount⟩
  · intro target revoker revoked run isRevoked
    have isLive := live target run
    have isSpent : revoker.user = session.user ∧ Stands revoked id
        ⟨session.user, tokenPrefix, hashApiKey env (plaintext tokenPrefix secret), true⟩ := by
      obtain ⟨_, ran⟩ := Option.ite_none_right_eq_some.mp isRevoked
      obtain ⟨_, _, rest⟩ := bind_eq_ok (toOption_eq_some ran)
      obtain ⟨row, isRow, rest⟩ := bind_eq_ok rest
      obtain ⟨_, isOwner, done⟩ := bind_eq_ok rest
      cases (found_eq_ok isRow).symm.trans isLive.row
      have distinct := (step_effect isRevoked).keys.distinct isLive.distinct
      cases done
      exact ⟨(check_eq_ok isOwner).symm, AList.lookup_insert _, isLive.owner, distinct⟩
    refine ⟨isSpent.1, ?_⟩
    intro later afterwards token isParsed
    have remains := afterwards.preserves
      (fun state => Stands state id
        ⟨session.user, tokenPrefix, hashApiKey env (plaintext tokenPrefix secret), true⟩)
      (fun _ _ _ stands stays stepped => by
        rcases stands.step stays stepped with remains | ⟨_, _, _, remains⟩
        · exact remains
        · exact remains)
      isSpent.2
    exact exchangeKey_revoked remains.distinct remains.row rfl isParsed

def registered : State :=
  ((system (desk false)).exec unused [.register "ann" ['a'] ['#', 'p'] "link" 0 0]).getD
    unused

def annsSession : Pair := ⟨"ann", 0, ["pwd"]⟩

def keyed : State :=
  (step (desk false) registered (.createKey annsSession "key" ['7'] ['z'])).getD
    registered

def withdrawn : State :=
  (step (desk false) keyed (.revokeKey annsSession "key")).getD keyed

/-- The owner is not active for a while. -/
def paused : State :=
  setActive keyed "ann" false

theorem key_opens_until_revoked_withdrawn :
    exchangeKey (desk false) keyed "dbk_7_z".toList =
        .ok (issuePair keyed "ann" (newAccount ['a'] ['#', 'p']) (some ["apikey"])) ∧
      exchangeKey (desk false) paused "dbk_7_z".toList = .error invalidKey ∧
      ∀ token, parseApiKeyPrefix token = some ['7'] →
        exchangeKey (desk false) withdrawn token = .error invalidKey := by
  have drawn : Drawn ['7'] ['z'] :=
    ⟨by decide, by decide, fun _ isIn => List.mem_singleton.mp isIn ▸ rfl,
      fun _ isIn => List.mem_singleton.mp isIn ▸ rfl⟩
  have reachable : (system (desk false)).Reachable registered :=
    TransitionSystem.reachable_of_exec [.register "ann" ['a'] ['#', 'p'] "link" 0 0]
      ⟨rfl, rfl, rfl⟩ (TransitionSystem.exec_eq_getD rfl)
  have isCreated : step (desk false) registered
      (.createKey annsSession "key" ['7'] ['z']) = some keyed := rfl
  have isRevoked : step (desk false) keyed (.revokeKey annsSession "key") =
      some withdrawn := rfl
  obtain ⟨open_until, revoked_by⟩ := key_opens_until_revoked reachable drawn isCreated
  have isPaused : (system (desk false)).Reaches
      (fun _ label => Spares annsSession.user "key" label) keyed paused :=
    TransitionSystem.Reaches.single (.setActive "ann" false) ⟨nofun, nofun⟩ rfl
  obtain ⟨account, isAccount, opens⟩ := open_until keyed .refl
  obtain ⟨absent, isAbsent, refuses⟩ := open_until paused isPaused
  cases isAccount
  cases isAbsent
  exact ⟨opens, refuses,
    (revoked_by keyed annsSession withdrawn .refl isRevoked).2 withdrawn .refl⟩

end DbBuddy.Auth.SignIn
