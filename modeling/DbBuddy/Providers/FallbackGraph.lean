import DbBuddy.Library.PythonText
import DbBuddy.Library.Successors
import DbBuddy.Publishing.Endpoints

/-!
# The fallbacks among provider records

A record of an organisation may name another as its fallback.  The endpoints
validate what they store, and the chain of an organisation is read off the records
when a question is asked.  Bodies have passed their schema, and the caller has the
permission `settings:ai`.
-/

namespace DbBuddy.Providers.FallbackGraph

open DbBuddy.Library
open DbBuddy.Publishing

/-! ## Records -/

structure AIProviderConfig where
  organizationId : String
  name : String
  adapter : String
  baseUrl : Option String
  model : String
  apiKeyEncrypted : Option String
  enabled : Bool
  priority : ℕ
  fallbackProviderId : Option String
  deriving DecidableEq, Repr

/-- The reference, unless it is empty. -/
def AIProviderConfig.fallback (row : AIProviderConfig) : Option String :=
  orNone row.fallbackProviderId

abbrev Records := Table AIProviderConfig

structure AIProviderIn where
  name : String
  adapter : String
  baseUrl : Option String
  model : String
  apiKey : Option String
  enabled : Bool
  fallbackProviderId : Option String

/-- The fields that are set; a fallback may be set to nothing. -/
structure AIProviderUpdate where
  name : Option String
  adapter : Option String
  baseUrl : Option String
  model : Option String
  apiKey : Option String
  enabled : Option Bool
  fallbackProviderId : Option (Option String)

/-- Encryption at rest, and how a text is shown in quotes. -/
structure Environment where
  encryptSecret : String → String
  decryptSecret : String → Option String
  repr : String → String

/-! ## Validation -/

def providerNotFound : HttpError := ⟨404, "AI provider not found"⟩
def selfFallback : HttpError := ⟨400, "A provider cannot fall back to itself."⟩
def fallbackNotFound : HttpError :=
  ⟨400, "Fallback provider not found in this organization."⟩
def fallbackCycle : HttpError := ⟨400, "Fallback chain would form a cycle."⟩
def nameConflict : HttpError := ⟨409, "A provider with this name already exists."⟩
def missingBaseUrl : HttpError :=
  ⟨400, "openai_compatible providers require a base_url."⟩
def notEnabled : HttpError := ⟨400, "Enable the provider before making it active."⟩
def serverError : HttpError := ⟨500, "Internal Server Error"⟩

/-- `_get_owned` -/
def getOwned (records : Records) (id orgId : String) :
    Except HttpError AIProviderConfig := do
  let row ← found (records.lookup id) providerNotFound
  check (row.organizationId = orgId) providerNotFound
  return row

/-- The loop of `_validate_fallback`: whether it comes to the record. -/
def closesCycle (records : Records) (recordId : Option String) :
    ℕ → List String → String → AIProviderConfig → Option Bool
  | 0, _, _, _ => none
  | fuel + 1, visited, id, node =>
      if some id = recordId then some true
      else if id ∈ visited then some false
      else match node.fallback with
        | none => some false
        | some next => match records.lookup next with
          | none => some false
          | some later => closesCycle records recordId fuel (id :: visited) next later

/-- `_validate_fallback`; a walk visits a record once, so the fuel lasts. -/
def validateFallback (records : Records) (orgId : String)
    (recordId fallbackId : Option String) : Except HttpError Unit :=
  match orNone fallbackId with
  | none => .ok ()
  | some id => do
      check (some id ≠ recordId) selfFallback
      let target ← found (records.lookup id) fallbackNotFound
      check (target.organizationId = orgId) fallbackNotFound
      check (closesCycle records recordId (records.keys.length + 1) [] id target =
        some false) fallbackCycle

def validAdapters : List String := ["openai_compatible", "ollama"]

/-- `not (row.base_url or "").strip()` -/
def blankUrl (row : AIProviderConfig) : Bool :=
  (strip (row.baseUrl.getD "").toList).isEmpty

/-- `uq_ai_provider_org_name` -/
def nameTaken (records : Records) (id : String) (row : AIProviderConfig) : Bool :=
  records.entries.any fun entry =>
    decide (entry.fst ≠ id ∧ entry.snd.organizationId = row.organizationId ∧
      entry.snd.name = row.name)

/-- `db.flush()` -/
def flush (records : Records) (id : String) (row : AIProviderConfig) :
    Except HttpError Records := do
  check (nameTaken records id row = false) nameConflict
  return records.insert id row

/-! ## Endpoints -/

def createProvider (env : Environment) (records : Records) (orgId id : String)
    (req : AIProviderIn) : Except HttpError Records := do
  validateFallback records orgId none req.fallbackProviderId
  flush records id
    { organizationId := orgId
      name := req.name
      adapter := req.adapter
      baseUrl := orNone req.baseUrl
      model := req.model
      apiKeyEncrypted := (orNone req.apiKey).map env.encryptSecret
      enabled := req.enabled
      priority := 0
      fallbackProviderId := req.fallbackProviderId }

/-- The record with the fields that are set. -/
def AIProviderUpdate.apply (req : AIProviderUpdate) (env : Environment)
    (row : AIProviderConfig) : AIProviderConfig :=
  { row with
    name := req.name.getD row.name
    adapter := req.adapter.getD row.adapter
    baseUrl := match req.baseUrl with
      | some url => orNone (some url)
      | none => row.baseUrl
    model := req.model.getD row.model
    apiKeyEncrypted := match orNone req.apiKey with
      | some key => some (env.encryptSecret key)
      | none => row.apiKeyEncrypted
    enabled := req.enabled.getD row.enabled
    fallbackProviderId := req.fallbackProviderId.getD row.fallbackProviderId }

/-- A fallback that is not among the fields set is not validated. -/
def validateUpdate (records : Records) (orgId id : String)
    (fallbackProviderId : Option (Option String)) : Except HttpError Unit :=
  match fallbackProviderId with
  | some fallbackId => validateFallback records orgId (some id) fallbackId
  | none => .ok ()

def updateProvider (env : Environment) (records : Records) (orgId id : String)
    (req : AIProviderUpdate) : Except HttpError Records := do
  let row ← getOwned records id orgId
  validateUpdate records orgId id req.fallbackProviderId
  let changed := req.apply env row
  check (¬ (changed.adapter = "openai_compatible" ∧ blankUrl changed = true))
    missingBaseUrl
  check (changed.adapter ∈ validAdapters)
    ⟨400, "Unsupported adapter " ++ env.repr changed.adapter ++ "."⟩
  flush records id changed

/-- The records of the organisation that name the deleted one are unlinked. -/
def deleteProvider (records : Records) (orgId id : String) :
    Except HttpError Records := do
  let _ ← getOwned records id orgId
  let unlinked := records.updateAll
    (fun row => decide (row.organizationId = orgId ∧ row.fallbackProviderId = some id))
    fun row => { row with fallbackProviderId := none }
  return unlinked.erase id

/-- The record itself is written last, whether it was active or not. -/
def activateProvider (records : Records) (orgId id : String) :
    Except HttpError Records := do
  let row ← getOwned records id orgId
  check (row.enabled = true) notEnabled
  let demoted := records.updateAll
    (fun row => decide (row.organizationId = orgId ∧ row.priority = 1))
    fun row => { row with priority := 0 }
  return demoted.insert id { row with priority := 1 }

/-- The first of `base`, `base 2`, `base 3` … that is not taken. -/
def freeName (taken : String → Bool) (base : String) : ℕ → ℕ → String → Option String
  | 0, _, _ => none
  | fuel + 1, n, name =>
      if taken name then freeName taken base fuel (n + 1) (base ++ " " ++ n.repr)
      else some name

/-- The names in use in an organisation. -/
def namesIn (records : Records) (orgId : String) : List String :=
  (records.entries.filter fun entry =>
    decide (entry.snd.organizationId = orgId)).map fun entry => entry.snd.name

/-- A name is found before more are tried than are in use. -/
def duplicateProvider (records : Records) (orgId id newId : String) :
    Except HttpError Records := do
  let row ← getOwned records id orgId
  let base := row.name ++ " (copy)"
  let used := namesIn records orgId
  let name ← found (freeName (fun name => decide (name ∈ used)) base (used.length + 1)
    2 base) serverError
  return records.insert newId
    { row with
      organizationId := orgId
      name := name
      priority := 0 }

/-! ## The chain of an organisation -/

structure ProviderRuntimeConfig where
  adapter : String
  model : String
  baseUrl : Option String
  apiKey : Option String
  name : String
  deriving DecidableEq, Repr

/-- `_to_runtime`: a key that no longer decrypts is none. -/
def toRuntime (env : Environment) (row : AIProviderConfig) : ProviderRuntimeConfig where
  adapter := row.adapter
  model := row.model
  baseUrl := row.baseUrl
  apiKey := (orNone row.apiKeyEncrypted).bind env.decryptSecret
  name := row.name

/-- A record of the organisation that is enabled. -/
def usable (records : Records) (orgId id : String) : Option AIProviderConfig :=
  (records.lookup id).filter fun row => decide (row.organizationId = orgId) && row.enabled

def activeRecord (records : Records) (orgId : String) :
    Option (String × AIProviderConfig) :=
  records.first fun row =>
    decide (row.organizationId = orgId ∧ row.priority = 1) && row.enabled

/-- The loop of `resolve_active_provider_chain`; nothing while it runs on. -/
def chainFrom (records : Records) (orgId : String) :
    ℕ → List String → String → AIProviderConfig → Option (List AIProviderConfig)
  | 0, _, _, _ => none
  | fuel + 1, visited, id, node =>
      if id ∈ visited then some []
      else match node.fallback with
        | none => some [node]
        | some next =>
            if next ∈ id :: visited then some [node]
            else match usable records orgId next with
              | none => some [node]
              | some later =>
                  (chainFrom records orgId fuel (id :: visited) next later).map
                    (node :: ·)

/-- `chain or None` -/
def chainOrNone (env : Environment) (chain : List AIProviderConfig) :
    Option (List ProviderRuntimeConfig) :=
  if chain = [] then none else some (chain.map (toRuntime env))

def resolveActiveProviderChain (env : Environment) (records : Records)
    (orgId : Option String) (fuel : ℕ) : Option (Option (List ProviderRuntimeConfig)) :=
  match orNone orgId with
  | none => some none
  | some orgId => match activeRecord records orgId with
    | none => some none
    | some (id, row) =>
        (chainFrom records orgId fuel [] id row).map (chainOrNone env)

/-! ## The first records -/

/-- The models, and the keys that the legacy store still holds. -/
structure LegacySettings where
  localModel : String
  ollamaUrl : String
  nemotron : Option (String × String)
  openai : Option (String × String)

/-- `_ensure`: the record of that name, a new one if there is none. -/
def ensure (records : Records) (id : String) (row : AIProviderConfig) :
    Records × String :=
  match records.first fun other =>
      decide (other.organizationId = row.organizationId ∧ other.name = row.name) with
  | some (present, _) => (records, present)
  | none => (records.insert id row, id)

/-- A new record as `_ensure` makes it. -/
def seeded (orgId name adapter url model : String) (key : Option String) :
    AIProviderConfig where
  organizationId := orgId
  name := name
  adapter := adapter
  baseUrl := some url
  model := model
  apiKeyEncrypted := key
  enabled := true
  priority := 0
  fallbackProviderId := none

def ensureLocal (settings : LegacySettings) (orgId id : String) (records : Records) :
    Records × String :=
  ensure records id
    (seeded orgId "Local Ollama" "ollama" settings.ollamaUrl settings.localModel none)

def ensureNemotron (env : Environment) (settings : LegacySettings) (orgId id : String)
    (records : Records) : Records × Option String :=
  match settings.nemotron with
  | some (model, key) =>
      let (records, nemotron) := ensure records id
        (seeded orgId "Production Nemotron" "openai_compatible"
          "https://integrate.api.nvidia.com/v1" model (some (env.encryptSecret key)))
      (records, some nemotron)
  | none => (records, none)

def ensureOpenai (env : Environment) (settings : LegacySettings) (orgId id : String)
    (records : Records) : Records :=
  match settings.openai with
  | some (model, key) =>
      (ensure records id (seeded orgId "Production OpenAI" "openai_compatible"
        "https://api.openai.com/v1" model (some (env.encryptSecret key)))).1
  | none => records

/-- `if nemotron is not None and not local.fallback_provider_id` -/
def nemotronOr (row : AIProviderConfig) : Option String → Option String
  | some nemotron =>
      if row.fallback = none then some nemotron else row.fallbackProviderId
  | none => row.fallbackProviderId

/-- `bootstrap_ai_providers` activates the local record when none is active. -/
def activateLocal (records : Records) (orgId localId : String)
    (nemotron : Option String) : Records :=
  match records.first fun row =>
      decide (row.organizationId = orgId ∧ row.priority = 1) with
  | some _ => records
  | none => match records.lookup localId with
    | some row => records.insert localId
        { row with priority := 1, fallbackProviderId := nemotronOr row nemotron }
    | none => records

def bootstrapAiProviders (env : Environment) (settings : LegacySettings)
    (orgId localId nemotronId openaiId : String) (records : Records) : Records :=
  let (records, ollama) := ensureLocal settings orgId localId records
  let (records, nemotron) := ensureNemotron env settings orgId nemotronId records
  activateLocal (ensureOpenai env settings orgId openaiId records) orgId ollama nemotron

/-! ## What happens to the records -/

inductive Label where
  | create (orgId id : String) (req : AIProviderIn)
  | update (orgId id : String) (req : AIProviderUpdate)
  | delete (orgId id : String)
  | activate (orgId id : String)
  | duplicate (orgId id newId : String)

/-- A new record gets an identifier that is not in use. -/
def step (env : Environment) (records : Records) : Label → Option Records
  | .create orgId id req =>
      if records.lookup id = none then
        (createProvider env records orgId id req).toOption
      else none
  | .update orgId id req => (updateProvider env records orgId id req).toOption
  | .delete orgId id => (deleteProvider records orgId id).toOption
  | .activate orgId id => (activateProvider records orgId id).toOption
  | .duplicate orgId id newId =>
      if records.lookup newId = none then
        (duplicateProvider records orgId id newId).toOption
      else none

/-! ## The graph -/

/-- The fallback relation. -/
def falls (records : Records) (id : String) : Option String :=
  (records.lookup id).bind AIProviderConfig.fallback

/-- No path of fallbacks closes, every fallback is a record of the same
organisation, and an organisation has at most one active record. -/
structure WellFormed (records : Records) : Prop where
  acyclic : Acyclic (Links (falls records))
  linked : ∀ id row target, records.lookup id = some row →
    row.fallback = some target →
    ∃ other, records.lookup target = some other ∧
      other.organizationId = row.organizationId
  active : ∀ id other row row', records.lookup id = some row →
    records.lookup other = some row' → row.priority = 1 → row'.priority = 1 →
    row.organizationId = row'.organizationId → id = other

section Graph

variable {records : Records} {id target : String} {row : AIProviderConfig}

theorem links_iff {other : String} :
    Links (falls records) id other ↔
      ∃ row, records.lookup id = some row ∧ row.fallback = some other :=
  Option.bind_eq_some_iff

/-- What a record falls back to is a record. -/
theorem WellFormed.isRecord (wellFormed : WellFormed records) {other : String}
    (link : Links (falls records) id other) : other ∈ records.keys := by
  obtain ⟨row, present, isFallback⟩ := links_iff.mp link
  obtain ⟨row', isThere, _⟩ := wellFormed.linked id row other present isFallback
  exact AList.mem_keys.mpr (AList.lookup_isSome.mp (by rw [isThere]; rfl))

/-- Nothing leads to an identifier that is not in use. -/
theorem WellFormed.out_of_reach (wellFormed : WellFormed records)
    (unused : records.lookup id = none) (isUsed : records.lookup target ≠ none) :
    ¬ Relation.ReflTransGen (Links (falls records)) target id := by
  intro reaches
  rcases Relation.ReflTransGen.cases_tail reaches with same | ⟨before, _, link⟩
  · subst same
    exact isUsed unused
  · have isKey := AList.lookup_isSome.mpr (AList.mem_keys.mp (wellFormed.isRecord link))
    rw [unused] at isKey
    cases isKey

/-- A record is written whose fallback does not lead back to it. -/
theorem WellFormed.insert (wellFormed : WellFormed records)
    (forward : ∀ target, row.fallback = some target →
      ¬ Relation.ReflTransGen (Links (falls records)) target id ∧
        ∃ other, records.lookup target = some other ∧
          other.organizationId = row.organizationId)
    (stays : ∀ old, records.lookup id = some old →
      old.organizationId = row.organizationId)
    (alone : row.priority = 1 → ∀ other row', other ≠ id →
      records.lookup other = some row' → row'.priority = 1 →
      row'.organizationId ≠ row.organizationId) :
    WellFormed (records.insert id row) := by
  have new : ∀ first second, Links (falls (records.insert id row)) first second →
      Links (falls records) first second ∨ first = id ∧ row.fallback = some second := by
    intro first second link
    obtain ⟨found, present, isFallback⟩ := links_iff.mp link
    rcases OrderedDict.lookup_insert_cases present with ⟨rfl, rfl⟩ | ⟨_, older⟩
    · exact Or.inr ⟨rfl, isFallback⟩
    · exact Or.inl (links_iff.mpr ⟨found, older, isFallback⟩)
  constructor
  · cases isFallback : row.fallback with
    | none =>
        refine wellFormed.acyclic.mono ?_
        intro first second link
        rcases new first second link with older | ⟨_, absurd⟩
        · exact older
        · rw [isFallback] at absurd
          cases absurd
    | some target =>
        refine wellFormed.acyclic.newLink (forward target isFallback).1 ?_
        intro first second link
        rcases new first second link with older | ⟨isSource, isTarget⟩
        · exact Or.inl older
        · rw [isFallback] at isTarget
          cases isTarget
          exact Or.inr ⟨isSource, rfl⟩
  · -- A link to the written record stays in its organisation.
    intro other found target present isFallback
    have toOld : ∃ old, records.lookup target = some old ∧
        old.organizationId = found.organizationId := by
      rcases OrderedDict.lookup_insert_cases present with ⟨_, rfl⟩ | ⟨_, older⟩
      · exact (forward target isFallback).2
      · exact wellFormed.linked other found target older isFallback
    obtain ⟨old, isOld, sameOrg⟩ := toOld
    by_cases isWritten : target = id
    · subst isWritten
      exact ⟨row, AList.lookup_insert _, (stays old isOld).symm.trans sameOrg⟩
    · exact ⟨old, by rw [AList.lookup_insert_ne isWritten]; exact isOld, sameOrg⟩
  · intro first second found found' isFirst isSecond isActive isActive' sameOrg
    rcases OrderedDict.lookup_insert_cases isFirst with ⟨rfl, rfl⟩ | ⟨different, older⟩
    · rcases OrderedDict.lookup_insert_cases isSecond with ⟨rfl, rfl⟩ | ⟨different, older⟩
      · rfl
      · exact absurd sameOrg.symm
          (alone isActive second found' different older isActive')
    · rcases OrderedDict.lookup_insert_cases isSecond with ⟨rfl, rfl⟩ | ⟨_, older'⟩
      · exact absurd sameOrg (alone isActive' first found different older isActive)
      · exact wellFormed.active first second found found' older older' isActive isActive'
          sameOrg

/-- Records lose their fallback or their priority, and nothing else changes. -/
theorem WellFormed.updateAll (wellFormed : WellFormed records)
    {select : AIProviderConfig → Bool} {change : AIProviderConfig → AIProviderConfig}
    (sameOrg : ∀ row, (change row).organizationId = row.organizationId)
    (fewer : ∀ row target, (change row).fallback = some target →
      row.fallback = some target)
    (demoted : ∀ row, (change row).priority = 1 → row.priority = 1) :
    WellFormed (records.updateAll select change) := by
  have older : ∀ {id : String} {row : AIProviderConfig},
      (records.updateAll select change).lookup id = some row →
      ∃ old, records.lookup id = some old ∧
        row.organizationId = old.organizationId ∧
        (∀ target, row.fallback = some target → old.fallback = some target) ∧
        (row.priority = 1 → old.priority = 1) := by
    intro id row present
    obtain ⟨old, wasThere, rfl⟩ := OrderedDict.lookup_updateAll present
    refine ⟨old, wasThere, ?_⟩
    split
    · exact ⟨sameOrg old, fewer old, demoted old⟩
    · exact ⟨rfl, fun _ same => same, fun same => same⟩
  constructor
  · refine wellFormed.acyclic.mono ?_
    intro first second link
    obtain ⟨row, present, isFallback⟩ := links_iff.mp link
    obtain ⟨old, wasThere, _, wasFallback, _⟩ := older present
    exact links_iff.mpr ⟨old, wasThere, wasFallback second isFallback⟩
  · intro id row target present isFallback
    obtain ⟨old, wasThere, org, wasFallback, _⟩ := older present
    obtain ⟨other, isThere, itsOrg⟩ :=
      wellFormed.linked id old target wasThere (wasFallback target isFallback)
    refine ⟨_, OrderedDict.lookup_updateAll_eq_some isThere, ?_⟩
    rw [org, ← itsOrg]
    split
    · exact sameOrg other
    · rfl
  · intro first second row row' isFirst isSecond isActive isActive' same
    obtain ⟨old, wasThere, org, _, wasActive⟩ := older isFirst
    obtain ⟨old', wasThere', org', _, wasActive'⟩ := older isSecond
    exact wellFormed.active first second old old' wasThere wasThere'
      (wasActive isActive) (wasActive' isActive') (org.symm.trans (same.trans org'))

/-- A record is deleted that no other names. -/
theorem WellFormed.erase (wellFormed : WellFormed records)
    (unnamed : ∀ other row, records.lookup other = some row →
      row.fallback ≠ some id) : WellFormed (records.erase id) := by
  constructor
  · refine wellFormed.acyclic.mono ?_
    intro first second link
    obtain ⟨row, present, isFallback⟩ := links_iff.mp link
    exact links_iff.mpr
      ⟨row, (OrderedDict.lookup_erase_cases present).2, isFallback⟩
  · intro other row target present isFallback
    have wasThere := (OrderedDict.lookup_erase_cases present).2
    obtain ⟨row', isThere, sameOrg⟩ :=
      wellFormed.linked other row target wasThere isFallback
    refine ⟨row', ?_, sameOrg⟩
    rw [AList.lookup_erase_ne]
    · exact isThere
    · intro isErased
      subst isErased
      exact unnamed other row wasThere isFallback
  · intro first second row row' isFirst isSecond isActive isActive' sameOrg
    exact wellFormed.active first second row row'
      (OrderedDict.lookup_erase_cases isFirst).2
      (OrderedDict.lookup_erase_cases isSecond).2 isActive isActive' sameOrg

end Graph

/-! ## Validation keeps the graph acyclic -/

section Validation

variable {records : Records} {orgId id : String}

theorem fallback_of_lookup {row : AIProviderConfig}
    (present : records.lookup id = some row) : falls records id = row.fallback := by
  rw [falls, present]
  rfl

/-- The loop searches the fallbacks. -/
theorem closesCycle_of_meets (wellFormed : WellFormed records) {recordId : String}
    {fuel : ℕ} {visited : List String} {node : AIProviderConfig} {found : Bool}
    (present : records.lookup id = some node)
    (done : meets (falls records) recordId fuel visited id = some found) :
    closesCycle records (some recordId) fuel visited id node = some found := by
  induction fuel generalizing visited id node with
  | zero => cases done
  | succ fuel inductionHypothesis =>
      rw [meets] at done
      rw [closesCycle]
      by_cases isRecord : id = recordId
      · rw [if_pos isRecord] at done
        rw [if_pos (congrArg some isRecord)]
        exact done
      · rw [if_neg isRecord] at done
        rw [if_neg (fun same => isRecord (Option.some.inj same))]
        by_cases seen : id ∈ visited
        · rwa [if_pos seen] at done ⊢
        · rw [if_neg seen] at done ⊢
          rw [fallback_of_lookup present] at done
          cases isNext : node.fallback with
          | none => simpa only [isNext] using done
          | some next =>
              obtain ⟨later, isLater, _⟩ := wellFormed.linked id node next present isNext
              simp only [isNext] at done
              simp only [isLater]
              exact inductionHypothesis isLater done

/-- A fallback that is accepted is a record of the organisation that does not lead
back. -/
theorem validateFallback_eq_ok (wellFormed : WellFormed records) {recordId : String}
    {fallbackId : Option String}
    (passed : validateFallback records orgId (some recordId) fallbackId = .ok ())
    {target : String} (isFallback : orNone fallbackId = some target) :
    ¬ Relation.ReflTransGen (Links (falls records)) target recordId ∧
      ∃ other, records.lookup target = some other ∧ other.organizationId = orgId := by
  simp only [validateFallback, isFallback] at passed
  obtain ⟨_, different, rest⟩ := bind_eq_ok passed
  obtain ⟨other, isThere, rest⟩ := bind_eq_ok rest
  obtain ⟨_, sameOrg, rest⟩ := bind_eq_ok rest
  have isRecord := found_eq_ok isThere
  refine ⟨?_, other, isRecord, check_eq_ok sameOrg⟩
  intro reaches
  have isKey : target ∈ records.keys :=
    AList.mem_keys.mpr (AList.lookup_isSome.mp (by rw [isRecord]; rfl))
  have lasts : (unseen records.keys []).length < records.keys.length + 1 :=
    Nat.lt_succ_of_le (List.length_filter_le _ _)
  have ends : (meets (falls records) recordId (records.keys.length + 1) []
      target).isSome = true :=
    meets_isSome (fun _ _ => wellFormed.isRecord) isKey lasts
  obtain ⟨answer, isAnswer⟩ := Option.isSome_iff_exists.mp ends
  have isFound : answer = true :=
    meets_of_reaches wellFormed.acyclic reaches (by simp) isAnswer
  have closes := closesCycle_of_meets wellFormed isRecord isAnswer
  rw [check_eq_ok rest, isFound] at closes
  cases closes

theorem validateFallback_create {fallbackId : Option String}
    (passed : validateFallback records orgId none fallbackId = .ok ())
    {target : String} (isFallback : orNone fallbackId = some target) :
    ∃ other, records.lookup target = some other ∧ other.organizationId = orgId := by
  simp only [validateFallback, isFallback] at passed
  obtain ⟨_, _, rest⟩ := bind_eq_ok passed
  obtain ⟨other, isThere, rest⟩ := bind_eq_ok rest
  obtain ⟨_, sameOrg, _⟩ := bind_eq_ok rest
  exact ⟨other, found_eq_ok isThere, check_eq_ok sameOrg⟩

end Validation

/-! ## Every operation keeps the records well formed -/

section Operations

variable {env : Environment} {records next : Records} {orgId id : String}

theorem getOwned_eq_ok {row : AIProviderConfig}
    (owned : getOwned records id orgId = .ok row) :
    records.lookup id = some row ∧ row.organizationId = orgId := by
  obtain ⟨row', isThere, rest⟩ := bind_eq_ok owned
  obtain ⟨_, sameOrg, done⟩ := bind_eq_ok rest
  cases done
  exact ⟨found_eq_ok isThere, check_eq_ok sameOrg⟩

theorem flush_eq_ok {row : AIProviderConfig}
    (flushed : flush records id row = .ok next) : next = records.insert id row := by
  obtain ⟨_, _, done⟩ := bind_eq_ok flushed
  cases done
  rfl

/-- A new record whose fallback is a record of its organisation. -/
theorem WellFormed.insertNew (wellFormed : WellFormed records) {row : AIProviderConfig}
    (fresh : records.lookup id = none)
    (forward : ∀ target, row.fallback = some target →
      ∃ other, records.lookup target = some other ∧
        other.organizationId = row.organizationId)
    (inactive : row.priority = 0) : WellFormed (records.insert id row) := by
  refine wellFormed.insert ?_ ?_ ?_
  · intro target isFallback
    obtain ⟨other, isThere, sameOrg⟩ := forward target isFallback
    refine ⟨wellFormed.out_of_reach fresh ?_, other, isThere, sameOrg⟩
    rw [isThere]
    simp
  · intro old isOld
    rw [fresh] at isOld
    cases isOld
  · intro isActive
    rw [inactive] at isActive
    cases isActive

theorem wellFormed_create {req : AIProviderIn} (wellFormed : WellFormed records)
    (fresh : records.lookup id = none)
    (ran : createProvider env records orgId id req = .ok next) : WellFormed next := by
  obtain ⟨_, passed, rest⟩ := bind_eq_ok ran
  rw [flush_eq_ok rest]
  refine wellFormed.insertNew fresh ?_ rfl
  intro target isFallback
  exact validateFallback_create passed isFallback

theorem wellFormed_update {req : AIProviderUpdate} (wellFormed : WellFormed records)
    (ran : updateProvider env records orgId id req = .ok next) : WellFormed next := by
  obtain ⟨row, owned, rest⟩ := bind_eq_ok ran
  obtain ⟨isRow, isOwner⟩ := getOwned_eq_ok owned
  obtain ⟨_, passed, rest⟩ := bind_eq_ok rest
  obtain ⟨_, _, rest⟩ := bind_eq_ok rest
  obtain ⟨_, _, rest⟩ := bind_eq_ok rest
  rw [flush_eq_ok rest]
  refine wellFormed.insert ?_ ?_ ?_
  · intro target isFallback
    cases isSet : req.fallbackProviderId with
    | some fallbackId =>
        simp only [validateUpdate, isSet] at passed
        have newFallback : orNone fallbackId = some target := by
          simpa [AIProviderConfig.fallback, AIProviderUpdate.apply, isSet]
            using isFallback
        obtain ⟨noWay, other, isThere, sameOrg⟩ :=
          validateFallback_eq_ok wellFormed passed newFallback
        exact ⟨noWay, other, isThere, sameOrg.trans isOwner.symm⟩
    | none =>
        -- The link was there, so a path back would have closed already.
        have oldFallback : row.fallback = some target := by
          simpa [AIProviderConfig.fallback, AIProviderUpdate.apply, isSet]
            using isFallback
        refine ⟨?_, wellFormed.linked id row target isRow oldFallback⟩
        intro reaches
        exact wellFormed.acyclic id (Relation.TransGen.head'
          (links_iff.mpr ⟨row, isRow, oldFallback⟩) reaches)
  · intro old isOld
    cases isRow.symm.trans isOld
    rfl
  · intro isActive other row' different isOther isActive' sameOrg
    exact different (wellFormed.active other id row' row isOther isRow isActive' isActive
      sameOrg)

theorem wellFormed_delete (wellFormed : WellFormed records)
    (ran : deleteProvider records orgId id = .ok next) : WellFormed next := by
  obtain ⟨row, owned, done⟩ := bind_eq_ok ran
  obtain ⟨isRow, isOwner⟩ := getOwned_eq_ok owned
  cases done
  refine WellFormed.erase (wellFormed.updateAll ?_ ?_ ?_) ?_
  · intro row
    rfl
  · intro row target isFallback
    cases isFallback
  · intro row isActive
    exact isActive
  · intro other found present named
    obtain ⟨old, wasThere, rfl⟩ := OrderedDict.lookup_updateAll present
    split at named
    · cases named
    · rename_i notSelected
      -- Whoever names the record is of its organisation, and was unlinked.
      obtain ⟨row', isRow', sameOrg⟩ := wellFormed.linked other old id wasThere named
      cases isRow.symm.trans isRow'
      refine notSelected (decide_eq_true ⟨sameOrg.symm.trans isOwner, ?_⟩)
      exact (Option.filter_eq_some_iff.mp named).1

theorem wellFormed_activate (wellFormed : WellFormed records)
    (ran : activateProvider records orgId id = .ok next) : WellFormed next := by
  obtain ⟨row, owned, rest⟩ := bind_eq_ok ran
  obtain ⟨isRow, isOwner⟩ := getOwned_eq_ok owned
  obtain ⟨_, _, done⟩ := bind_eq_ok rest
  cases done
  have demoted : WellFormed (records.updateAll
      (fun row => decide (row.organizationId = orgId ∧ row.priority = 1))
      fun row => { row with priority := 0 }) := by
    refine wellFormed.updateAll ?_ ?_ ?_
    · intro row
      rfl
    · intro row target isFallback
      exact isFallback
    · intro row isActive
      cases isActive
  let isActive : AIProviderConfig → Bool := fun row =>
    decide (row.organizationId = orgId ∧ row.priority = 1)
  have isThere : (OrderedDict.updateAll records isActive
      fun row => { row with priority := 0 }).lookup id =
        some (if isActive row = true then { row with priority := 0 } else row) :=
    OrderedDict.lookup_updateAll_eq_some isRow
  refine demoted.insert ?_ ?_ ?_
  · intro target isFallback
    have oldFallback : AIProviderConfig.fallback (if decide (row.organizationId = orgId ∧
        row.priority = 1) = true then { row with priority := 0 } else row) =
          some target := by
      split
      · exact isFallback
      · exact isFallback
    obtain ⟨other, isOther, sameOrg⟩ := demoted.linked id _ target isThere oldFallback
    refine ⟨?_, other, isOther, ?_⟩
    · intro reaches
      exact demoted.acyclic id (Relation.TransGen.head'
        (links_iff.mpr ⟨_, isThere, oldFallback⟩) reaches)
    · rw [sameOrg]
      split
      · rfl
      · rfl
  · intro old isOld
    cases isThere.symm.trans isOld
    split
    · rfl
    · rfl
  · intro _ other row' _ isOther isActive sameOrg
    obtain ⟨old, _, rfl⟩ := OrderedDict.lookup_updateAll isOther
    split at isActive
    · cases isActive
    · rename_i notSelected
      rw [if_neg notSelected] at sameOrg
      exact notSelected (decide_eq_true ⟨sameOrg.trans isOwner, isActive⟩)

theorem wellFormed_duplicate {newId : String} (wellFormed : WellFormed records)
    (fresh : records.lookup newId = none)
    (ran : duplicateProvider records orgId id newId = .ok next) : WellFormed next := by
  obtain ⟨row, owned, rest⟩ := bind_eq_ok ran
  obtain ⟨isRow, isOwner⟩ := getOwned_eq_ok owned
  obtain ⟨name, _, done⟩ := bind_eq_ok rest
  cases done
  refine wellFormed.insertNew fresh ?_ rfl
  intro target isFallback
  obtain ⟨other, isThere, sameOrg⟩ := wellFormed.linked id row target isRow isFallback
  exact ⟨other, isThere, sameOrg.trans isOwner⟩

theorem wellFormed_step {label : Label} (wellFormed : WellFormed records)
    (stepped : step env records label = some next) : WellFormed next := by
  cases label with
  | create orgId id req =>
      obtain ⟨fresh, ran⟩ := Option.ite_none_right_eq_some.mp stepped
      exact wellFormed_create wellFormed fresh (toOption_eq_some ran)
  | update orgId id req =>
      exact wellFormed_update wellFormed (toOption_eq_some stepped)
  | delete orgId id =>
      exact wellFormed_delete wellFormed (toOption_eq_some stepped)
  | activate orgId id =>
      exact wellFormed_activate wellFormed (toOption_eq_some stepped)
  | duplicate orgId id newId =>
      obtain ⟨fresh, ran⟩ := Option.ite_none_right_eq_some.mp stepped
      exact wellFormed_duplicate wellFormed fresh (toOption_eq_some ran)

theorem wellFormed_empty : WellFormed ∅ := by
  constructor
  · intro node closed
    obtain ⟨_, link, _⟩ := Relation.TransGen.head'_iff.mp closed
    obtain ⟨row, present, _⟩ := links_iff.mp link
    simp at present
  · intro id row target present
    simp at present
  · intro id other row row' present
    simp at present

end Operations

/-! ## The first start -/

section FirstStart

variable {env : Environment} {records : Records} {id : String}

/-- No record has a fallback. -/
def Unlinked (records : Records) : Prop :=
  ∀ id row, records.lookup id = some row → row.fallback = none

/-- Records are well formed and unlinked after one of that name has been ensured,
if any was; and at most the new one has been added. -/
structure Ensured (records next : Records) (newId orgId name : String)
    (ensured : Option String) : Prop where
  wellFormed : WellFormed next
  unlinked : Unlinked next
  isThere : ∀ id, ensured = some id → ∃ row, next.lookup id = some row ∧
    row.organizationId = orgId ∧ row.name = name
  kept : ∀ id row, records.lookup id = some row → next.lookup id = some row
  others : ∀ id, id ≠ newId → next.lookup id = records.lookup id

theorem ensured {row : AIProviderConfig} (wellFormed : WellFormed records)
    (unlinked : Unlinked records) (fresh : records.lookup id = none)
    (noFallback : row.fallback = none) (inactive : row.priority = 0) :
    Ensured records (ensure records id row).1 id row.organizationId row.name
      (some (ensure records id row).2) := by
  unfold ensure
  split
  · rename_i present found isFirst
    obtain ⟨isThere, same⟩ := OrderedDict.lookup_first isFirst
    refine ⟨wellFormed, unlinked, ?_, fun _ _ older => older, fun _ _ => rfl⟩
    intro id isEnsured
    cases isEnsured
    exact ⟨found, isThere, of_decide_eq_true same⟩
  · constructor
    · refine wellFormed.insertNew fresh ?_ inactive
      intro target isFallback
      rw [noFallback] at isFallback
      cases isFallback
    · intro other found present
      rcases OrderedDict.lookup_insert_cases present with ⟨_, rfl⟩ | ⟨_, older⟩
      · exact noFallback
      · exact unlinked other found older
    · intro other isEnsured
      cases isEnsured
      exact ⟨row, AList.lookup_insert _, rfl, rfl⟩
    · intro other found older
      rw [AList.lookup_insert_ne]
      · exact older
      · intro same
        rw [same, fresh] at older
        cases older
    · intro other different
      exact AList.lookup_insert_ne different

theorem ensured_nothing {newId orgId name : String} (wellFormed : WellFormed records)
    (unlinked : Unlinked records) : Ensured records records newId orgId name none := by
  refine ⟨wellFormed, unlinked, ?_, fun _ _ older => older, fun _ _ => rfl⟩
  intro id isEnsured
  cases isEnsured

theorem ensured_nemotron {settings : LegacySettings} {orgId : String}
    (wellFormed : WellFormed records) (unlinked : Unlinked records)
    (fresh : records.lookup id = none) :
    Ensured records (ensureNemotron env settings orgId id records).1 id orgId
      "Production Nemotron" (ensureNemotron env settings orgId id records).2 := by
  unfold ensureNemotron
  split
  · exact ensured wellFormed unlinked fresh rfl rfl
  · exact ensured_nothing wellFormed unlinked

theorem ensured_openai {settings : LegacySettings} {orgId : String}
    (wellFormed : WellFormed records) (unlinked : Unlinked records)
    (fresh : records.lookup id = none) :
    ∃ openai, Ensured records (ensureOpenai env settings orgId id records) id orgId
      "Production OpenAI" openai := by
  unfold ensureOpenai
  split
  · exact ⟨_, ensured wellFormed unlinked fresh rfl rfl⟩
  · exact ⟨none, ensured_nothing wellFormed unlinked⟩

theorem Unlinked.reaches (unlinked : Unlinked records) {first last : String}
    (path : Relation.ReflTransGen (Links (falls records)) first last) : first = last := by
  rcases Relation.ReflTransGen.cases_head path with same | ⟨_, link, _⟩
  · exact same
  · obtain ⟨row, present, isFallback⟩ := links_iff.mp link
    rw [unlinked first row present] at isFallback
    cases isFallback

theorem wellFormed_activateLocal {orgId localId : String} {nemotron : Option String}
    (wellFormed : WellFormed records) (unlinked : Unlinked records)
    {row : AIProviderConfig} (isLocal : records.lookup localId = some row)
    (isOwner : row.organizationId = orgId)
    (apart : ∀ id, nemotron = some id → id ≠ localId ∧
      ∃ other, records.lookup id = some other ∧ other.organizationId = orgId) :
    WellFormed (activateLocal records orgId localId nemotron) := by
  unfold activateLocal
  split
  · exact wellFormed
  · rename_i isActive
    rw [isLocal]
    refine wellFormed.insert ?_ ?_ ?_
    · intro target isFallback
      have noFallback := unlinked localId row isLocal
      cases nemotron with
      | none =>
          exact absurd (noFallback.symm.trans isFallback) (by simp)
      | some nemotronId =>
          have isUnset : nemotronOr row (some nemotronId) = some nemotronId :=
            if_pos noFallback
          have reference : orNone (some nemotronId) = some target := by
            rw [← isUnset]
            exact isFallback
          have same : nemotronId = target :=
            Option.some.inj (Option.filter_eq_some_iff.mp reference).1
          subst same
          obtain ⟨different, other, isThere, sameOrg⟩ := apart nemotronId rfl
          refine ⟨?_, other, isThere, sameOrg.trans isOwner.symm⟩
          intro reaches
          exact different (unlinked.reaches reaches)
    · intro old isOld
      cases isLocal.symm.trans isOld
      rfl
    · intro _ other row' _ isOther isActive' sameOrg
      exact OrderedDict.first_eq_none isActive isOther
        (decide_eq_true ⟨sameOrg.trans isOwner, isActive'⟩)

/-- The first start leaves well-formed records: nothing leads from Nemotron's record
back to the local one. -/
theorem wellFormed_bootstrap {settings : LegacySettings}
    {orgId localId nemotronId openaiId : String}
    (different : [localId, nemotronId, openaiId].Nodup) :
    WellFormed
      (bootstrapAiProviders env settings orgId localId nemotronId openaiId ∅) := by
  simp only [List.nodup_cons, List.mem_cons, List.not_mem_nil, or_false, not_or] at different
  obtain ⟨⟨notNemotron, notOpenai⟩, notOpenai', _⟩ := different
  have first : Ensured ∅ (ensureLocal settings orgId localId ∅).1 localId orgId
      "Local Ollama" (some (ensureLocal settings orgId localId ∅).2) :=
    ensured wellFormed_empty (fun id row present => by simp at present) rfl rfl rfl
  let start := (ensureLocal settings orgId localId ∅).1
  have second : Ensured start (ensureNemotron env settings orgId nemotronId start).1
      nemotronId orgId "Production Nemotron"
      (ensureNemotron env settings orgId nemotronId start).2 := by
    apply ensured_nemotron first.wellFormed first.unlinked
    exact (first.others nemotronId (Ne.symm notNemotron)).trans rfl
  let later := (ensureNemotron env settings orgId nemotronId start).1
  have third : ∃ openai, Ensured later
      (ensureOpenai env settings orgId openaiId later) openaiId orgId
      "Production OpenAI" openai := by
    apply ensured_openai second.wellFormed second.unlinked
    exact (second.others openaiId (Ne.symm notOpenai')).trans
      ((first.others openaiId (Ne.symm notOpenai)).trans rfl)
  obtain ⟨openai, third⟩ := third
  obtain ⟨row, isLocal, isOwner, isNamed⟩ := first.isThere _ rfl
  have isLocal' := third.kept _ row (second.kept _ row isLocal)
  refine wellFormed_activateLocal third.wellFormed third.unlinked isLocal' isOwner ?_
  intro id isNemotron
  obtain ⟨other, isThere, itsOwner, itsName⟩ := second.isThere id isNemotron
  have isThere' := third.kept id other isThere
  refine ⟨?_, other, isThere', itsOwner⟩
  intro same
  rw [same] at isThere'
  cases isLocal'.symm.trans isThere'
  exact absurd (isNamed.symm.trans itsName) (by decide)

end FirstStart

/-! ## A copy finds a name -/

theorem numbered_injective {base : String} {first second : ℕ}
    (same : base ++ " " ++ first.repr = base ++ " " ++ second.repr) : first = second := by
  have chars := congrArg String.toList same
  simp only [String.toList_append, Nat.toList_repr, List.append_cancel_left_eq] at chars
  have value := congrArg (fun chars => Nat.ofDigitChars 10 chars 0) chars
  simpa only [Nat.ofDigitChars_ten_toDigits] using value

theorem numbered_ne {base : String} {number : ℕ} : base ++ " " ++ number.repr ≠ base := by
  intro same
  have lengths := congrArg (fun text => text.toList.length) same
  have spaced : (" " : String).toList.length = 1 := rfl
  simp only [String.toList_append, List.length_append] at lengths
  omega

/-- The candidates are distinct, so one of them is not in use. -/
theorem freeName_eq_some {names tried : List String} {base name : String} {fuel n : ℕ}
    (new : name ∉ tried)
    (apart : ∀ later, n ≤ later → base ++ " " ++ later.repr ∉ name :: tried)
    (lasts : (unseen names tried).length < fuel) :
    ∃ free, freeName (fun name => decide (name ∈ names)) base fuel n name = some free ∧
      free ∉ names := by
  induction fuel generalizing tried name n with
  | zero => omega
  | succ fuel inductionHypothesis =>
      rw [freeName]
      by_cases isTaken : name ∈ names
      · rw [if_pos (decide_eq_true isTaken)]
        have fewer := unseen_lt isTaken new
        refine inductionHypothesis (apart n (Nat.le_refl n)) ?_ (by omega)
        intro later isLater again
        rcases List.mem_cons.mp again with same | older
        · have sameNumber := numbered_injective same
          omega
        · exact apart later (by omega) older
      · exact ⟨name, if_neg (by simpa using isTaken), isTaken⟩

/-- A record that is owned can be duplicated, under a name that is not in use. -/
theorem duplicateProvider_isOk {records : Records} {orgId id newId : String}
    {row : AIProviderConfig} (owned : getOwned records id orgId = .ok row) :
    ∃ name, name ∉ namesIn records orgId ∧
      duplicateProvider records orgId id newId =
        .ok (records.insert newId
          { row with
            organizationId := orgId
            name := name
            priority := 0 }) := by
  have isNew : row.name ++ " (copy)" ∉ ([] : List String) := List.not_mem_nil
  obtain ⟨name, isName, isFree⟩ := @freeName_eq_some _ _ _ _
    ((namesIn records orgId).length + 1) 2 isNew
    (fun _ _ again => numbered_ne (List.mem_singleton.mp again))
    (Nat.lt_succ_of_le (List.length_filter_le _ _))
  refine ⟨name, isFree, ?_⟩
  rw [duplicateProvider, owned, ok_bind]
  simp only [isName]
  rfl

/-! ## What the chain is -/

section Chain

variable {env : Environment} {records : Records} {orgId id : String}

theorem usable_eq_some {row : AIProviderConfig} :
    usable records orgId id = some row ↔
      records.lookup id = some row ∧ row.organizationId = orgId ∧ row.enabled = true := by
  simp [usable, Option.filter_eq_some_iff]

def isUsable (records : Records) (orgId id : String) : Bool :=
  (usable records orgId id).isSome

/-- The loop walks along the usable fallbacks. -/
theorem chainFrom_of_walk {fuel : ℕ} {visited path : List String}
    {node : AIProviderConfig} (isNode : usable records orgId id = some node)
    (done : walk (falls records) (isUsable records orgId) fuel visited id = some path) :
    chainFrom records orgId fuel visited id node = some (path.filterMap records.lookup) := by
  induction fuel generalizing visited path id node with
  | zero => cases done
  | succ fuel inductionHypothesis =>
      obtain ⟨present, _, _⟩ := usable_eq_some.mp isNode
      have isTested : isUsable records orgId id = true := by
        rw [isUsable, isNode]
        rfl
      rw [walk] at done
      rw [chainFrom]
      by_cases seen : id ∈ visited
      · rw [if_pos (Or.inr seen)] at done
        cases done
        rw [if_pos seen]
        rfl
      · have goesOn : ¬ (isUsable records orgId id = false ∨ id ∈ visited) := by
          simp [isTested, seen]
        rw [if_neg goesOn, fallback_of_lookup present] at done
        rw [if_neg seen]
        cases isNext : node.fallback with
        | none =>
            simp only [isNext] at done
            cases done
            simp [present]
        | some next =>
            simp only [isNext] at done
            obtain ⟨rest, isRest, rfl⟩ := Option.map_eq_some_iff.mp done
            have onward : (id :: rest).filterMap records.lookup =
                node :: rest.filterMap records.lookup := by
              simp [present]
            rw [onward]
            dsimp only
            cases fuel with
            | zero => cases isRest
            | succ fuel =>
                by_cases again : next ∈ id :: visited
                · rw [walk, if_pos (Or.inr again)] at isRest
                  cases isRest
                  rw [if_pos again]
                  rfl
                · rw [if_neg again]
                  cases isLater : usable records orgId next with
                  | none =>
                      have stops : isUsable records orgId next = false := by
                        rw [isUsable, isLater]
                        rfl
                      rw [walk, if_pos (Or.inl stops)] at isRest
                      cases isRest
                      rfl
                  | some later =>
                      simp only [inductionHypothesis isLater isRest, Option.map_some]

/-- `path` is the longest start of the fallback path from the organisation's active
record whose records are enabled, distinct and of the organisation. -/
def Served (records : Records) (orgId : String) (path : List String) : Prop :=
  (∀ active row, records.lookup active = some row → row.organizationId = orgId →
    row.priority = 1 →
    IsLongest (fun path => Follows (falls records) (some active) path ∧ path.Nodup ∧
      ∀ member ∈ path, ∃ row, records.lookup member = some row ∧ row.enabled = true ∧
        row.organizationId = orgId) path) ∧
    ((∀ active row, records.lookup active = some row → row.organizationId = orgId →
      row.priority ≠ 1) → path = [])

/-- The chain is resolved from some fuel on, and is that start of the path. -/
def ResolvesLongest (env : Environment) (records : Records) (orgId : String) : Prop :=
  ∃ path, Served records orgId path ∧
    ∃ enough, ∀ fuel, enough ≤ fuel →
      resolveActiveProviderChain env records (some orgId) fuel =
        some (chainOrNone env (path.filterMap records.lookup))

theorem resolvesLongest (wellFormed : WellFormed records) (named : orgId ≠ "") :
    ResolvesLongest env records orgId := by
  have isNamed : orNone (some orgId) = some orgId :=
    Option.filter_eq_some_iff.mpr ⟨rfl, decide_eq_true named⟩
  cases isActive : activeRecord records orgId with
  | none =>
      refine ⟨[], ⟨?_, fun _ => rfl⟩, 0, ?_⟩
      · intro active row present isOwner hasPriority
        refine ⟨⟨trivial, List.nodup_nil, by simp⟩, ?_⟩
        intro other ⟨follows, _, good⟩
        cases other with
        | nil => exact List.prefix_rfl
        | cons first rest =>
            -- The active record is disabled, so nothing begins there.
            cases follows.1
            obtain ⟨found, isFound, isEnabled, _⟩ := good active List.mem_cons_self
            cases present.symm.trans isFound
            refine absurd ?_ (OrderedDict.first_eq_none isActive present)
            simp [isOwner, hasPriority, isEnabled]
      · intro fuel _
        simp [resolveActiveProviderChain, isNamed, isActive, chainOrNone]
  | some found =>
      obtain ⟨id, node⟩ := found
      obtain ⟨present, selected⟩ := OrderedDict.lookup_first isActive
      simp only [Bool.and_eq_true, decide_eq_true_eq] at selected
      obtain ⟨⟨isOwner, hasPriority⟩, isEnabled⟩ := selected
      have isNode : usable records orgId id = some node :=
        usable_eq_some.mpr ⟨present, isOwner, isEnabled⟩
      have isKey : id ∈ records.keys :=
        AList.mem_keys.mpr (AList.lookup_isSome.mp (by rw [present]; rfl))
      have lasts : (unseen records.keys []).length < records.keys.length + 1 :=
        Nat.lt_succ_of_le (List.length_filter_le _ _)
      have ends : (walk (falls records) (isUsable records orgId)
          (records.keys.length + 1) [] id).isSome = true :=
        walk_isSome (fun _ _ => wellFormed.isRecord) isKey lasts
      obtain ⟨path, isPath⟩ := Option.isSome_iff_exists.mp ends
      refine ⟨path, ⟨?_, ?_⟩, records.keys.length + 1, ?_⟩
      · intro active row isRow sameOrg isFirst
        have same := wellFormed.active active id row node isRow present isFirst hasPriority
          (sameOrg.trans isOwner.symm)
        subst same
        have tested : ∀ member, isUsable records orgId member = true ↔
            ∃ row, records.lookup member = some row ∧ row.enabled = true ∧
              row.organizationId = orgId := by
          intro member
          rw [isUsable, Option.isSome_iff_exists]
          refine exists_congr ?_
          intro row
          rw [usable_eq_some, and_comm (a := row.enabled = true)]
        simpa only [tested] using walk_isLongest isPath
      · intro noActive
        exact absurd hasPriority (noActive id node present isOwner)
      · intro fuel enough
        simp only [resolveActiveProviderChain, isNamed, isActive,
          chainFrom_of_walk isNode (walk_of_le enough isPath), Option.map_some]

end Chain

/-! ## Every run -/

/-- A run starts without records, or with those of the first start. -/
def Initial (env : Environment) (records : Records) : Prop :=
  records = ∅ ∨ ∃ settings orgId localId nemotronId openaiId,
    [localId, nemotronId, openaiId].Nodup ∧
      records = bootstrapAiProviders env settings orgId localId nemotronId openaiId ∅

def system (env : Environment) : TransitionSystem Records Label where
  initial := Initial env
  step := step env

theorem wellFormed_reachable {env : Environment} {records : Records}
    (reachable : (system env).Reachable records) : WellFormed records := by
  refine reachable.invariant WellFormed ?_ ?_
  · intro records isInitial
    rcases isInitial with rfl | ⟨settings, orgId, localId, nemotronId, openaiId,
      different, rfl⟩
    · exact wellFormed_empty
    · exact wellFormed_bootstrap different
  · intro before label after holds stepped
    exact wellFormed_step holds stepped

/-- The fallbacks close no path, stay within an organisation, and give each
organisation the longest chain that can be used. -/
theorem fallback_graph (env : Environment) (records : Records)
    (reachable : (system env).Reachable records) :
    (Acyclic (Links (falls records)) ∧
      ∀ id row target, records.lookup id = some row → row.fallback = some target →
        ∃ other, records.lookup target = some other ∧
          other.organizationId = row.organizationId) ∧
      ∀ orgId, orgId ≠ "" → ResolvesLongest env records orgId := by
  have wellFormed := wellFormed_reachable reachable
  refine ⟨⟨wellFormed.acyclic, wellFormed.linked⟩, ?_⟩
  intro orgId named
  exact resolvesLongest wellFormed named

/-! ### Three records in a row -/

def plainEnv : Environment where
  encryptSecret := fun key => key
  decryptSecret := some
  repr := fun text => "'" ++ text ++ "'"

def plain (name : String) (fallback : Option String) : AIProviderIn where
  name := name
  adapter := "ollama"
  baseUrl := none
  model := "m"
  apiKey := none
  enabled := true
  fallbackProviderId := fallback

def setFallback (id : String) : AIProviderUpdate where
  name := none
  adapter := none
  baseUrl := none
  model := none
  apiKey := none
  enabled := none
  fallbackProviderId := some (some id)

/-- Each record falls back to the next, the first is active, the second copied. -/
def rowOfThree : List Label :=
  [.create "org" "a" (plain "first" none),
    .create "org" "b" (plain "second" none),
    .create "org" "c" (plain "third" none),
    .update "org" "a" (setFallback "b"),
    .update "org" "b" (setFallback "c"),
    .activate "org" "a",
    .duplicate "org" "b" "d"]

def rowRun (labels : List Label) : Records :=
  ((system plainEnv).exec ∅ labels).getD ∅

theorem fallback_graph_three :
    ((Acyclic (Links (falls (rowRun rowOfThree))) ∧
      ∀ id row target, (rowRun rowOfThree).lookup id = some row →
        row.fallback = some target →
        ∃ other, (rowRun rowOfThree).lookup target = some other ∧
          other.organizationId = row.organizationId) ∧
      ∀ orgId, orgId ≠ "" → ResolvesLongest plainEnv (rowRun rowOfThree) orgId) ∧
      updateProvider plainEnv (rowRun rowOfThree) "org" "c" (setFallback "a") =
        .error fallbackCycle ∧
      (resolveActiveProviderChain plainEnv (rowRun rowOfThree) (some "org") 4).map
        (Option.map (List.map ProviderRuntimeConfig.name)) =
          some (some ["first", "second", "third"]) := by
  have reachable : (system plainEnv).Reachable (rowRun rowOfThree) :=
    TransitionSystem.reachable_of_exec rowOfThree (Or.inl rfl)
      (TransitionSystem.exec_eq_getD rfl)
  exact ⟨fallback_graph plainEnv (rowRun rowOfThree) reachable, rfl, rfl⟩

end DbBuddy.Providers.FallbackGraph
