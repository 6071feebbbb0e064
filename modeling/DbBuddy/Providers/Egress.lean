import DbBuddy.Library.IpAddresses
import Mathlib.Data.List.TakeWhile

/-!
# Outbound requests to the address that was checked

`safe_http.post` resolves the host of a provider's URL once, checks every address of
that answer, and sends the request to the first.  The HTTP session behind it follows
redirects, and resolves their hosts itself.
-/

namespace DbBuddy.Providers.Egress

open DbBuddy.Library

/-- A host name, and whether `ipaddress.ip_address` reads it as an address. -/
inductive Host where
  | address (ip : IpAddress)
  | name (text : String)
  deriving DecidableEq, Repr

/-- The port of a URL; reading a malformed one raises a `ValueError`. -/
inductive Port where
  | absent
  | number (value : ℕ)
  | malformed (message : String)
  deriving DecidableEq, Repr

/-- What `urlparse` finds in a URL. -/
structure Url where
  scheme : String
  host : Option Host
  port : Port
  deriving DecidableEq, Repr

/-- The `ValueError`s. -/
inductive Refusal where
  | scheme (found : String)
  | noHost
  | unresolved (host : String)
  | linkLocal
  | privateNetwork
  | port (message : String)
  deriving DecidableEq, Repr

/-- Their texts, where `repr` shows a text in quotes. -/
def Refusal.message (repr : String → String) : Refusal → String
  | .scheme found =>
      "base_url must use http or https (got " ++
        repr (if found = "" then "no scheme" else found) ++ ")."
  | .noHost => "base_url must include a host."
  | .unresolved host => "base_url host " ++ repr host ++ " could not be resolved."
  | .linkLocal =>
      "base_url resolves to a link-local address (cloud instance metadata " ++
        "range). This is never a valid AI provider endpoint."
  | .privateNetwork =>
      "base_url resolves to a private or loopback address, which this " ++
        "deployment does not permit (AI_PROVIDER_BLOCK_PRIVATE_NETWORKS=1)."
  | .port message => message

/-! ## The check -/

/-- `ALLOWED_SCHEMES`; the session has adapters for the same ones. -/
def allowedSchemes : List String := ["http", "https"]

/-- The Python release, and `block_private_networks()`. -/
structure Deployment where
  release : Release
  blocksPrivate : Bool
  deriving DecidableEq, Repr

/-- `check_address` -/
def checkAddress (deployment : Deployment) (ip : IpAddress) : Except Refusal Unit :=
  if ip.isLinkLocal deployment.release then .error .linkLocal
  else if deployment.blocksPrivate && (ip.isLoopback deployment.release ||
      ip.isPrivate || ip.isReserved deployment.release) then
    .error .privateNetwork
  else .ok ()

/-- Whether `check_address` returns. -/
def accepts (deployment : Deployment) (ip : IpAddress) : Bool :=
  (checkAddress deployment ip).isOk

/-- `for ip in addresses: check_address(ip)` -/
def checkAddresses (deployment : Deployment) : List IpAddress → Except Refusal Unit
  | [] => .ok ()
  | ip :: rest => do
      checkAddress deployment ip
      checkAddresses deployment rest

/-- `_parse`: the host. -/
def parse (url : Url) : Except Refusal Host :=
  if url.scheme ∉ allowedSchemes then .error (.scheme url.scheme)
  else
    match url.host with
    | none => .error .noHost
    | some host => .ok host

/-- `resolve_and_pin`: the address to dial. -/
def resolveAndPin (deployment : Deployment) (resolver : String → List IpAddress)
    (url : Url) : Except Refusal IpAddress := do
  let host ← parse url
  match host with
  | .address literal =>
      checkAddress deployment literal
      return literal
  | .name text =>
      match resolver text with
      | [] => .error (.unresolved text)
      | first :: others =>
          checkAddresses deployment (first :: others)
          return first

/-- The addresses that `check_address` accepts for a request: it stops at the first
that it refuses. -/
def accepted (deployment : Deployment) (resolver : String → List IpAddress)
    (url : Url) : List IpAddress :=
  match parse url with
  | .error _ => []
  | .ok (.address literal) => [literal].takeWhile (accepts deployment)
  | .ok (.name text) => (resolver text).takeWhile (accepts deployment)

/-! ## The session -/

/-- The `Location` of a redirect: a path on the same host, or another URL. -/
inductive Location where
  | path
  | url (target : Url)
  deriving DecidableEq, Repr

/-- What a server sends back: a redirect, or anything else. -/
inductive Reply where
  | redirect (location : Location)
  | final
  deriving DecidableEq, Repr

/-- One request of the session: how many addresses of the host fail to connect before
one does, and what is sent back there. -/
structure Exchange where
  failures : ℕ
  reply : Reply
  deriving DecidableEq, Repr

/-- The addresses are dialled in order. -/
def Exchange.dialled (exchange : Exchange) (addresses : List IpAddress) :
    List IpAddress :=
  addresses.take (exchange.failures + 1)

/-- The world outside: the answer to each lookup, and what each request of the
session meets.  A name may resolve to something else each time. -/
structure World where
  lookup : ℕ → String → List IpAddress
  exchange : ℕ → Exchange

/-- `Session.max_redirects` -/
def maxRedirects : ℕ := 30

/-- `allow_redirects` -/
def redirectLimit (allowRedirects : Bool) : ℕ :=
  if allowRedirects then maxRedirects else 0

variable (world : World)

/-- The addresses of a host as the `turn`-th request finds them. -/
def addressesOf (turn : ℕ) : Host → List IpAddress
  | .address ip => [ip]
  | .name text => world.lookup turn text

/-- The host a redirect leads to, if there is an adapter for its scheme. -/
def redirectTarget (host : Host) : Location → Option Host
  | .path => some host
  | .url target => if target.scheme ∈ allowedSchemes then target.host else none

/-- The host that the `turn`-th request is redirected to. -/
def redirected (turn : ℕ) (host : Host) : Option Host :=
  let exchange := world.exchange turn
  if exchange.failures < (addressesOf world turn host).length then
    match exchange.reply with
    | .redirect location => redirectTarget host location
    | .final => none
  else none

/-- The addresses dialled by the `turn`-th request to the host. -/
def dialledAt (turn : ℕ) (host : Host) : List IpAddress :=
  (world.exchange turn).dialled (addressesOf world turn host)

/-- The connections of a request and of the redirects that are followed from it. -/
def send : (redirects : ℕ) → (turn : ℕ) → Host → List IpAddress
  | 0, turn, host => dialledAt world turn host
  | left + 1, turn, host =>
      dialledAt world turn host ++
        match redirected world turn host with
        | some next => send left (turn + 1) next
        | none => []

/-- `safe_http.post`, to a session that may follow redirects: the addresses it opens
a connection to. -/
def post (deployment : Deployment) (allowRedirects : Bool) (url : Url) :
    Except Refusal (List IpAddress) := do
  let address ← resolveAndPin deployment (world.lookup 0) url
  match url.port with
  | .malformed message => .error (.port message)
  | _ =>
      return send world (redirectLimit allowRedirects) 0 (.address address)

/-! ## Forbidden addresses -/

/-- `fd00:ec2::254` -/
def metadata6 : BitVec 128 := hextets 0xfd00 0xec2 0 0 0 0 0 0x254

/-- What is reached there is link-local or the metadata service of a cloud, whose
IPv4 address is link-local too. -/
def forbidden (ip : IpAddress) : Bool :=
  match ip.reached with
  | .v4 bits => IpAddress.linkLocal4.contains bits
  | .v6 bits _ => IpAddress.linkLocal6.contains bits || decide (bits = metadata6)

/-- The forbidden addresses that are not link-local to a release of Python. -/
def overlooked (release : Release) : IpAddress → Bool
  | .v4 _ => false
  | .v6 bits _ =>
      match IpAddress.ipv4Mapped bits with
      | some mapped => !release.readsMapped && IpAddress.linkLocal4.contains mapped
      | none => decide (bits = metadata6)

section Forbidden

variable {deployment : Deployment} {ip : IpAddress}

theorem accepts_iff : accepts deployment ip = true ↔
    ip.isLinkLocal deployment.release = false ∧
      (deployment.blocksPrivate = true →
        ip.isLoopback deployment.release = false ∧ ip.isPrivate = false ∧
          ip.isReserved deployment.release = false) := by
  unfold accepts checkAddress
  cases ip.isLinkLocal deployment.release with
  | true => simp [Except.isOk, Except.toBool]
  | false =>
      cases deployment.blocksPrivate with
      | true =>
          cases ip.isLoopback deployment.release <;> cases ip.isPrivate <;>
            cases ip.isReserved deployment.release <;>
            simp [Except.isOk, Except.toBool]
      | false => simp [Except.isOk, Except.toBool]

theorem forbidden_of_overlooked {release : Release}
    (isOverlooked : overlooked release ip = true) : forbidden ip = true := by
  cases ip with
  | v4 bits => cases isOverlooked
  | v6 bits scope =>
      simp only [overlooked] at isOverlooked
      simp only [forbidden, IpAddress.reached]
      cases isMapped : IpAddress.ipv4Mapped bits with
      | some mapped =>
          rw [isMapped] at isOverlooked
          simp only [Bool.and_eq_true] at isOverlooked
          exact isOverlooked.2
      | none =>
          rw [isMapped] at isOverlooked
          simp only [Bool.or_eq_true]
          exact Or.inr isOverlooked

/-- What is overlooked is private. -/
theorem isPrivate_of_overlooked {release : Release}
    (isOverlooked : overlooked release ip = true) : ip.isPrivate = true := by
  cases ip with
  | v4 bits => cases isOverlooked
  | v6 bits scope =>
      simp only [overlooked] at isOverlooked
      cases isMapped : IpAddress.ipv4Mapped bits with
      | some mapped =>
          rw [isMapped] at isOverlooked
          simp only [Bool.and_eq_true] at isOverlooked
          simp only [IpAddress.isPrivate, IpAddress.isPrivate6, isMapped]
          exact IpAddress.isPrivate4_of_linkLocal isOverlooked.2
      | none =>
          rw [isMapped] at isOverlooked
          rw [of_decide_eq_true isOverlooked]
          simp only [IpAddress.isPrivate]
          decide

/-- A forbidden address that is not link-local to the release is overlooked. -/
theorem overlooked_iff {release : Release} (isForbidden : forbidden ip = true) :
    overlooked release ip = true ↔ ip.isLinkLocal release = false := by
  cases ip with
  | v4 bits =>
      have isLocal : IpAddress.linkLocal4.contains bits = true := isForbidden
      simp [overlooked, IpAddress.isLinkLocal, IpAddress.judged, isLocal]
  | v6 bits scope =>
      simp only [forbidden, IpAddress.reached] at isForbidden
      simp only [overlooked, IpAddress.isLinkLocal, IpAddress.judged]
      cases isMapped : IpAddress.ipv4Mapped bits with
      | some mapped =>
          rw [isMapped] at isForbidden
          have isLocal : IpAddress.linkLocal4.contains mapped = true := isForbidden
          have notLocal6 := IpAddress.not_linkLocal6_of_mapped isMapped
          cases reads : release.readsMapped with
          | true => simp [isLocal]
          | false => simp [isLocal, notLocal6]
      | none =>
          rw [isMapped] at isForbidden
          have isOne : IpAddress.linkLocal6.contains bits = true ∨ bits = metadata6 := by
            simpa using isForbidden
          have apart : IpAddress.linkLocal6.contains metadata6 = false := by decide
          simp only [ite_self, decide_eq_true_eq]
          constructor
          · intro isMetadata
            rw [isMetadata]
            exact apart
          · intro notLocal
            rcases isOne with isLocal | isMetadata
            · rw [isLocal] at notLocal
              cases notLocal
            · exact isMetadata

/-- The forbidden addresses that pass the check. -/
theorem accepts_forbidden_iff (isForbidden : forbidden ip = true) :
    accepts deployment ip = true ↔
      deployment.blocksPrivate = false ∧
        overlooked deployment.release ip = true := by
  rw [accepts_iff, overlooked_iff isForbidden]
  constructor
  · intro passed
    have isOverlooked := (overlooked_iff isForbidden).mpr passed.1
    refine ⟨?_, passed.1⟩
    rw [Bool.eq_false_iff]
    intro strict
    have isPublic := (passed.2 strict).2.1
    rw [isPrivate_of_overlooked isOverlooked] at isPublic
    cases isPublic
  · intro passed
    refine ⟨passed.2, ?_⟩
    intro strict
    rw [passed.1] at strict
    cases strict

end Forbidden

/-! ## Pinning -/

/-- Every connection is opened to an address that the check has accepted for the
request, and none that it has accepted is forbidden. -/
def Pinned (deployment : Deployment) (allowRedirects : Bool) (url : Url) : Prop :=
  (∀ opened, post world deployment allowRedirects url = .ok opened →
    ∀ ip ∈ opened, ip ∈ accepted deployment (world.lookup 0) url) ∧
  ∀ ip ∈ accepted deployment (world.lookup 0) url, forbidden ip = false

/-- The redirects that are followed lead to allowed addresses only. -/
def StaysWithin (allowed : List IpAddress) : ℕ → ℕ → Host → Prop
  | 0, _, _ => True
  | left + 1, turn, host =>
      match redirected world turn host with
      | none => True
      | some next =>
          (∀ ip ∈ dialledAt world (turn + 1) next, ip ∈ allowed) ∧
            StaysWithin allowed left (turn + 1) next

/-- Whatever request is sent, its redirects stay within the addresses of the answer
that was checked. -/
def RedirectsStay (deployment : Deployment) (allowRedirects : Bool) (url : Url) :
    Prop :=
  ∀ address, resolveAndPin deployment (world.lookup 0) url = .ok address →
    (∀ message, url.port ≠ .malformed message) →
    StaysWithin world (accepted deployment (world.lookup 0) url)
      (redirectLimit allowRedirects) 0 (.address address)

/-- In strict mode, or as none of these addresses turns up before one is refused. -/
def NothingOverlooked (deployment : Deployment) (url : Url) : Prop :=
  deployment.blocksPrivate = true ∨
    ∀ ip ∈ accepted deployment (world.lookup 0) url,
      overlooked deployment.release ip = false

section Pinning

variable {world : World} {deployment : Deployment} {allowRedirects : Bool} {url : Url}

theorem send_within_iff {allowed : List IpAddress} (left turn : ℕ) (host : Host) :
    (∀ ip ∈ send world left turn host, ip ∈ allowed) ↔
      (∀ ip ∈ dialledAt world turn host, ip ∈ allowed) ∧
        StaysWithin world allowed left turn host := by
  induction left generalizing turn host with
  | zero => simp only [send, StaysWithin, and_true]
  | succ left inductionHypothesis =>
      simp only [send, StaysWithin, List.forall_mem_append]
      cases redirected world turn host with
      | none => simp
      | some next =>
          apply and_congr_right
          intro _
          exact inductionHypothesis (turn + 1) next

theorem accepts_of_check {ip : IpAddress} (passed : checkAddress deployment ip = .ok ()) :
    accepts deployment ip = true := by
  unfold accepts
  rw [passed]
  rfl

theorem mem_of_checkAddresses {first : IpAddress} {others : List IpAddress}
    (passed : checkAddresses deployment (first :: others) = .ok ()) :
    first ∈ (first :: others).takeWhile (accepts deployment) := by
  have isFirst : checkAddress deployment first = .ok () := by
    unfold checkAddresses at passed
    cases checked : checkAddress deployment first with
    | error refusal =>
        rw [checked] at passed
        cases passed
    | ok _ => rfl
  rw [List.takeWhile_cons_of_pos (accepts_of_check isFirst)]
  exact List.mem_cons_self

/-- The address that is dialled has been accepted. -/
theorem pinned_accepted {resolver : String → List IpAddress} {address : IpAddress}
    (resolved : resolveAndPin deployment resolver url = .ok address) :
    address ∈ accepted deployment resolver url := by
  unfold resolveAndPin at resolved
  unfold accepted
  cases parsed : parse url with
  | error refusal =>
      rw [parsed] at resolved
      cases resolved
  | ok host =>
      rw [parsed] at resolved
      cases host with
      | address literal =>
          cases checked : checkAddress deployment literal with
          | error refusal => simp [bind, Except.bind, checked] at resolved
          | ok _ =>
              have same : literal = address := by
                simpa [bind, Except.bind, checked, pure, Except.pure] using resolved
              dsimp only
              rw [← same, List.takeWhile_cons_of_pos (accepts_of_check checked)]
              exact List.mem_cons_self
      | name text =>
          dsimp only
          cases answer : resolver text with
          | nil => simp [bind, Except.bind, answer] at resolved
          | cons first others =>
              cases checked : checkAddresses deployment (first :: others) with
              | error refusal => simp [bind, Except.bind, answer, checked] at resolved
              | ok _ =>
                  have same : first = address := by
                    simpa [bind, Except.bind, answer, checked, pure, Except.pure]
                      using resolved
                  rw [← same]
                  exact mem_of_checkAddresses checked

/-- What a request opens, when it is sent at all. -/
theorem post_eq_ok {opened : List IpAddress} :
    post world deployment allowRedirects url = .ok opened ↔
      ∃ address, resolveAndPin deployment (world.lookup 0) url = .ok address ∧
        (∀ message, url.port ≠ .malformed message) ∧
        opened = send world (redirectLimit allowRedirects) 0 (.address address) := by
  unfold post
  cases resolved : resolveAndPin deployment (world.lookup 0) url with
  | error refusal => simp [bind, Except.bind]
  | ok address =>
      cases port : url.port with
      | absent => simp [bind, Except.bind, pure, Except.pure, eq_comm]
      | number value => simp [bind, Except.bind, pure, Except.pure, eq_comm]
      | malformed message => simp [bind, Except.bind]

theorem redirectsStay_iff :
    (∀ opened, post world deployment allowRedirects url = .ok opened →
      ∀ ip ∈ opened, ip ∈ accepted deployment (world.lookup 0) url) ↔
    RedirectsStay world deployment allowRedirects url := by
  have first : ∀ address,
      resolveAndPin deployment (world.lookup 0) url = .ok address →
        ∀ ip ∈ dialledAt world 0 (.address address),
          ip ∈ accepted deployment (world.lookup 0) url := by
    intro address resolved ip isDialled
    have isAddress : ip ∈ [address] := List.mem_of_mem_take isDialled
    rw [List.mem_singleton.mp isAddress]
    exact pinned_accepted resolved
  constructor
  · intro within address resolved wellFormed
    have opens : post world deployment allowRedirects url =
        .ok (send world (redirectLimit allowRedirects) 0 (.address address)) :=
      post_eq_ok.mpr ⟨address, resolved, wellFormed, rfl⟩
    exact ((send_within_iff _ _ _).mp (within _ opens)).2
  · intro stays opened sent
    obtain ⟨address, resolved, wellFormed, isOpened⟩ := post_eq_ok.mp sent
    rw [isOpened]
    exact (send_within_iff _ _ _).mpr
      ⟨first address resolved, stays address resolved wellFormed⟩

theorem nothingOverlooked_iff :
    (∀ ip ∈ accepted deployment (world.lookup 0) url, forbidden ip = false) ↔
      NothingOverlooked world deployment url := by
  have allAccepted : ∀ ip ∈ accepted deployment (world.lookup 0) url,
      accepts deployment ip = true := by
    intro ip isIn
    unfold accepted at isIn
    split at isIn
    · cases isIn
    · exact List.mem_takeWhile_imp isIn
    · exact List.mem_takeWhile_imp isIn
  constructor
  · intro allowed
    refine Or.inr fun ip isIn => ?_
    rw [Bool.eq_false_iff]
    intro isOverlooked
    have isForbidden := forbidden_of_overlooked isOverlooked
    rw [allowed ip isIn] at isForbidden
    cases isForbidden
  · intro nothing ip isIn
    rw [Bool.eq_false_iff]
    intro isForbidden
    have passed := (accepts_forbidden_iff isForbidden).mp (allAccepted ip isIn)
    rcases nothing with strict | none
    · rw [passed.1] at strict
      cases strict
    · rw [none ip isIn] at passed
      cases passed.2

end Pinning

/-- Every connection goes to an address that was checked for the request, and none
that was accepted is forbidden, exactly if no such address is overlooked and the
redirects that are followed stay within the answer that was checked. -/
theorem post_pinned_iff (deployment : Deployment) (allowRedirects : Bool) (url : Url) :
    Pinned world deployment allowRedirects url ↔
      RedirectsStay world deployment allowRedirects url ∧
        NothingOverlooked world deployment url :=
  and_congr redirectsStay_iff nothingOverlooked_iff

/-! ### Metadata by a name of its own, and by a redirect -/

/-- A world where every name leads to one public address, whose server redirects the
first request and answers the others. -/
def redirecting (location : Location) : World where
  lookup _ _ := [.v4 (dotted 93 184 216 34)]
  exchange turn := ⟨0, if turn = 0 then .redirect location else .final⟩

def metadataUrl : Url := ⟨"http", some (.address (.v6 metadata6 none)), .absent⟩

/-- The metadata service at its IPv6 address is dialled outside strict mode, and at
its IPv4 address after a redirect in any mode. -/
theorem post_notPinned :
    ¬ Pinned (redirecting .path) ⟨⟨true⟩, false⟩ true metadataUrl ∧
      ¬ Pinned (redirecting (.url ⟨"http",
          some (.address (.v4 (dotted 169 254 169 254))), .absent⟩)) ⟨⟨true⟩, true⟩
        true ⟨"https", some (.name "api.example.com"), .absent⟩ := by
  constructor
  · intro pinned
    have allowed := pinned.2 (.v6 metadata6 none) (by decide)
    revert allowed
    decide
  · intro pinned
    have dialled := pinned.1 [.v4 (dotted 93 184 216 34),
      .v4 (dotted 169 254 169 254)] (by decide) (.v4 (dotted 169 254 169 254)) (by decide)
    revert dialled
    decide

end DbBuddy.Providers.Egress
