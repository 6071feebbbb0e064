import DbBuddy.Context.Store

/-!
# Who is handed what

Every thing the store keeps was created for a configuration that is on record
under the same key, so a call is handed only what was created for its own target
as long as its keys tell it apart from the configurations on record.
-/

namespace DbBuddy.Context

open DbBuddy.Library DbBuddy.Dialects

/-- The configuration pool `pid` opens its connections with. -/
def configAt (state : State) (pid : ℕ) : Option DBConfig :=
  (state.poolAt pid).map Pool.config

/-! ## Keys -/

/-- What stands before the first bar, and what stands after it. -/
theorem first_bar_injective {front front' back back' : List Char}
    (plain : '|' ∉ front) (plain' : '|' ∉ front')
    (same : front ++ '|' :: back = front' ++ '|' :: back') :
    front = front' ∧ back = back' := by
  induction front generalizing front' with
  | nil =>
      cases front' with
      | nil =>
          exact ⟨rfl, (List.cons.inj same).2⟩
      | cons head tail =>
          obtain ⟨rfl, _⟩ := List.cons.inj same
          exact absurd List.mem_cons_self plain'
  | cons head tail inductionHypothesis =>
      cases front' with
      | nil =>
          obtain ⟨rfl, _⟩ := List.cons.inj same
          exact absurd List.mem_cons_self plain
      | cons head' tail' =>
          obtain ⟨rfl, rest⟩ := List.cons.inj same
          obtain ⟨rfl, backEq⟩ := inductionHypothesis
            (fun isIn => plain (List.mem_cons_of_mem _ isIn))
            (fun isIn => plain' (List.mem_cons_of_mem _ isIn)) rest
          exact ⟨rfl, backEq⟩

/-- What stands before the last bar, and what stands after it. -/
theorem last_bar_injective {front front' back back' : List Char}
    (plain : '|' ∉ back) (plain' : '|' ∉ back')
    (same : front ++ '|' :: back = front' ++ '|' :: back') :
    front = front' ∧ back = back' := by
  have reversed : back.reverse ++ '|' :: front.reverse =
      back'.reverse ++ '|' :: front'.reverse := by
    simpa using congrArg List.reverse same
  obtain ⟨backEq, frontEq⟩ := first_bar_injective (by simpa using plain)
    (by simpa using plain') reversed
  exact ⟨List.reverse_injective frontEq, List.reverse_injective backEq⟩

/-- A context key tells the database key and the digest apart. -/
theorem ctxKey_injective {config other : DBConfig} {schemaHash digest : String}
    (plain : '|' ∉ schemaHash.toList) (plain' : '|' ∉ digest.toList)
    (same : ctxKey config schemaHash = ctxKey other digest) :
    dbKey config = dbKey other ∧ schemaHash = digest := by
  have lists : (dbKey config).toList ++ '|' :: schemaHash.toList =
      (dbKey other).toList ++ '|' :: digest.toList := by
    simpa [ctxKey] using congrArg String.toList same
  have parts := last_bar_injective plain plain' lists
  exact ⟨String.toList_injective parts.1, String.toList_injective parts.2⟩

theorem startsWith_ctxKey (config : DBConfig) (schemaHash : String) :
    startsWith (ctxKey config schemaHash) (dbKey config ++ "|") = true := by
  simp [startsWith, ctxKey, List.isPrefixOf_iff_prefix]

/-! ## The invariant -/

/-- A thing was created for the target of whoever it is handed to; a connection
also for the same database user. -/
def Isolated (use : Use) : Prop :=
  use.createdFor.target = use.caller.target ∧
    (use.resource = .connection → use.createdFor.user = use.caller.user)

/-- Pool `pid` opens its connections for the target and the user of `config`. -/
def PoolFor (state : State) (pid : ℕ) (config : DBConfig) : Prop :=
  ∃ opener, configAt state pid = some opener ∧
    opener.target = config.target ∧ opener.user = config.user

structure Inv (setup : Setup) (state : State) : Prop where
  pool : ∀ key pid, state.pools.lookup key = some pid →
    ∃ opener, configAt state pid = some opener ∧ dbKey opener = key ∧
      opener ∈ state.served
  schema : ∀ key entry, state.schemaCache.lookup key = some entry →
    dbKey entry.createdFor = key ∧ entry.createdFor ∈ state.served
  context : ∀ key cid, state.contexts.lookup key = some cid →
    ∃ context, state.contextAt cid = some context ∧
      ctxKey context.createdFor context.schemaHash = key ∧
      '|' ∉ context.schemaHash.toList ∧ context.createdFor ∈ state.served
  object : ∀ cid context, state.contextAt cid = some context →
    ∃ opener, configAt state context.pool = some opener ∧
      opener.target = context.createdFor.target
  holder : ∀ config cid, (config, cid) ∈ state.held →
    ∃ context, state.contextAt cid = some context ∧
      PoolFor state context.pool config
  poolIds : ∀ pid, state.nextPool ≤ pid → state.poolAt pid = none
  contextIds : ∀ cid, state.nextContext ≤ cid → state.contextAt cid = none
  semanticFile : ∀ path file, state.semanticFiles.lookup path = some file →
    ∃ schemaHash, (file.createdFor, schemaHash) ∈ state.written ∧
      path = semanticPath setup file.createdFor schemaHash
  valueIndexFile : ∀ path file,
    state.valueIndexFiles.lookup path = some file →
    ∃ schemaHash, (file.createdFor, schemaHash) ∈ state.written ∧
      path = valueIndexPath setup file.createdFor schemaHash
  uses : ∀ use ∈ state.uses, Isolated use

section Invariant

variable {setup : Setup} {state next : State} {config : DBConfig}

theorem inv_initial (isInitial : Initial setup state) : Inv setup state where
  pool key pid present := by
    simp [isInitial.noPools] at present
  schema key entry present := by
    simp [isInitial.noSchemas] at present
  context key cid present := by
    simp [isInitial.noContexts] at present
  object cid context present := by
    simp [isInitial.noContextObjects] at present
  holder config cid isHeld := by
    simp [isInitial.noHolders] at isHeld
  poolIds := isInitial.poolIds
  contextIds cid _ := isInitial.noContextObjects cid
  semanticFile := isInitial.semanticFiles
  valueIndexFile := isInitial.valueIndexFiles
  uses use isUse := by
    simp [isInitial.noUses] at isUse

/-- Handing out what was created for the caller's target, and user. -/
theorem Inv.use (inv : Inv setup state) {resource : Resource}
    {createdFor : DBConfig} (isolated : Isolated ⟨resource, config, createdFor⟩) :
    Inv setup (state.use resource config createdFor) := by
  refine { inv with uses := ?_ }
  intro use isUse
  rcases List.mem_cons.mp isUse with rfl | older
  · exact isolated
  · exact inv.uses use older

/-- What a step leaves as it was; pools keep the configuration they open with. -/
structure Frame (state next : State) : Prop where
  now : next.now = state.now
  contexts : next.contexts = state.contexts
  contextAt : next.contextAt = state.contextAt
  written : next.written = state.written
  served : next.served = state.served
  configs : ∀ pid opener, configAt state pid = some opener →
    configAt next pid = some opener

theorem Frame.refl (state : State) : Frame state state :=
  ⟨rfl, rfl, rfl, rfl, rfl, fun _ _ present => present⟩

theorem Frame.trans {middle : State} (first : Frame state middle)
    (second : Frame middle next) : Frame state next where
  now := second.now.trans first.now
  contexts := second.contexts.trans first.contexts
  contextAt := second.contextAt.trans first.contextAt
  written := second.written.trans first.written
  served := second.served.trans first.served
  configs pid opener present :=
    second.configs pid opener (first.configs pid opener present)

theorem PoolFor.frame {pid : ℕ} (isFor : PoolFor state pid config)
    (frame : Frame state next) : PoolFor next pid config := by
  obtain ⟨opener, present, sameTarget, sameUser⟩ := isFor
  exact ⟨opener, frame.configs pid opener present, sameTarget, sameUser⟩

/-! ## Lending -/

/-- A pool only ever hands out connections it opened with its own
configuration. -/
theorem Pool.acquire_opener (pool : Pool) (alive : Bool) :
    (pool.acquire alive).1 = pool.config := by
  unfold Pool.acquire
  split
  · rfl
  · rename_i opener rest idle
    cases alive with
    | false =>
        rfl
    | true =>
        exact pool.opened opener (idle ▸ List.mem_cons_self)

theorem Pool.acquire_config (pool : Pool) (alive : Bool) :
    (pool.acquire alive).2.config = pool.config := by
  unfold Pool.acquire
  split
  · rfl
  · rfl

theorem Pool.release_config (pool : Pool) :
    pool.release.config = pool.config := by
  unfold Pool.release
  split
  · rfl
  · rfl

def swapPool (state : State) (pid : ℕ) (pool : Pool) : State :=
  { state with poolAt := Function.update state.poolAt pid (some pool) }

theorem configAt_swapPool {pid : ℕ} {pool after : Pool}
    (present : state.poolAt pid = some pool)
    (sameConfig : after.config = pool.config) (other : ℕ) :
    configAt (swapPool state pid after) other = configAt state other := by
  by_cases same : other = pid
  · subst other
    simp [configAt, swapPool, present, sameConfig]
  · simp [configAt, swapPool, same]

/-- A pool changes in what the invariant does not read. -/
theorem Inv.swapPool (inv : Inv setup state) {pid : ℕ} {pool after : Pool}
    (present : state.poolAt pid = some pool)
    (sameConfig : after.config = pool.config) :
    Inv setup (swapPool state pid after) := by
  have configs := configAt_swapPool present sameConfig
  refine { inv with pool := ?_, object := ?_, holder := ?_, poolIds := ?_ }
  · intro key other isPool
    rw [configs]
    exact inv.pool key other isPool
  · intro cid context isContext
    rw [configs]
    exact inv.object cid context isContext
  · intro holder cid isHeld
    obtain ⟨context, isContext, isFor⟩ := inv.holder holder cid isHeld
    refine ⟨context, isContext, ?_⟩
    unfold PoolFor
    rw [configs]
    exact isFor
  · intro other isFree
    have different : other ≠ pid := by
      rintro rfl
      rw [inv.poolIds other isFree] at present
      cases present
    simp only [DbBuddy.Context.swapPool, Function.update_of_ne different]
    exact inv.poolIds other isFree

theorem frame_swapPool {pid : ℕ} {pool after : Pool}
    (present : state.poolAt pid = some pool)
    (sameConfig : after.config = pool.config) :
    Frame state (swapPool state pid after) :=
  { Frame.refl state with
    configs := fun other opener isOpener => by
      rw [configAt_swapPool present sameConfig]
      exact isOpener }

theorem lend_spec (inv : Inv setup state) {pid : ℕ} (alive : Bool)
    (isFor : PoolFor state pid config) :
    Inv setup (lend state pid config alive) ∧
      Frame state (lend state pid config alive) := by
  obtain ⟨opener, present, sameTarget, sameUser⟩ := isFor
  obtain ⟨pool, isPool, rfl⟩ := Option.map_eq_some_iff.mp present
  have lent : lend state pid config alive =
      (swapPool state pid (pool.acquire alive).2.release).use .connection
        config pool.config := by
    simp [lend, isPool, State.use, swapPool, pool.acquire_opener alive]
  have sameConfig : (pool.acquire alive).2.release.config = pool.config :=
    (Pool.release_config _).trans (pool.acquire_config alive)
  rw [lent]
  exact ⟨(inv.swapPool isPool sameConfig).use ⟨sameTarget, fun _ => sameUser⟩,
    { frame_swapPool isPool sameConfig with }⟩

/-! ## Finding a pool -/

theorem dropPool_spec (inv : Inv setup state) (key : String) :
    Inv setup (dropPool state key) ∧ Frame state (dropPool state key) ∧
      (dropPool state key).schemaCache = state.schemaCache ∧
      (dropPool state key).pools.lookup key = none := by
  unfold dropPool
  split
  · rename_i absent
    exact ⟨inv, Frame.refl state, rfl, absent⟩
  · rename_i pid isPool
    obtain ⟨opener, present, _, _⟩ := inv.pool key pid isPool
    obtain ⟨pool, found, _⟩ := Option.map_eq_some_iff.mp present
    have sameConfig : pool.close.config = pool.config := rfl
    have swapped := inv.swapPool found sameConfig
    have frame := frame_swapPool found sameConfig
    rw [found, Option.map_some]
    refine ⟨{ swapped with pool := ?_ }, { frame with }, rfl,
      AList.lookup_erase key _⟩
    intro other otherId isOther
    exact swapped.pool other otherId (OrderedDict.lookup_erase_cases isOther).2

/-- The pool that a call gets was opened for its key; it was there before, or it
is a new one of the call's own configuration. -/
theorem findPool_spec (inv : Inv setup state) (isServed : config ∈ state.served) :
    Inv setup (findPool state config).2 ∧
      Frame state (findPool state config).2 ∧
      (findPool state config).2.schemaCache = state.schemaCache ∧
      ∃ opener, configAt (findPool state config).2 (findPool state config).1 =
          some opener ∧
        dbKey opener = dbKey config ∧ opener ∈ state.served ∧
        (opener = config ∨ (state.pools.lookup (dbKey config)).bind
          (configAt state) = some opener) := by
  unfold findPool
  split
  · rename_i pid isPool
    obtain ⟨opener, present, sameKey, wasServed⟩ := inv.pool _ pid isPool
    exact ⟨inv, Frame.refl state, rfl, opener, present, sameKey, wasServed,
      Or.inr (by simp [isPool, present])⟩
  · have isFree := inv.poolIds state.nextPool le_rfl
    have older : ∀ pid opener, configAt state pid = some opener →
        (Function.update state.poolAt state.nextPool
          (some (Pool.new config)) pid).map Pool.config = some opener := by
      intro pid opener present
      have different : pid ≠ state.nextPool := by
        rintro rfl
        simp [configAt, isFree] at present
      rwa [Function.update_of_ne different]
    refine ⟨{ inv with
        pool := ?_, object := ?_, holder := ?_, poolIds := ?_ },
      { Frame.refl state with configs := older }, rfl, config, ?_, rfl,
      isServed, Or.inl rfl⟩
    · intro key pid isPool
      rcases OrderedDict.lookup_insert_cases isPool with ⟨rfl, rfl⟩ | ⟨_, isOld⟩
      · exact ⟨config, by simp [configAt, Pool.new], rfl, isServed⟩
      · obtain ⟨opener, present, sameKey, wasServed⟩ := inv.pool key pid isOld
        exact ⟨opener, older pid opener present, sameKey, wasServed⟩
    · intro cid context isContext
      obtain ⟨opener, present, sameTarget⟩ := inv.object cid context isContext
      exact ⟨opener, older _ opener present, sameTarget⟩
    · intro holder cid isHeld
      obtain ⟨context, isContext, opener, present, same⟩ :=
        inv.holder holder cid isHeld
      exact ⟨context, isContext, opener, older _ opener present, same⟩
    · intro pid isAbove
      have different : pid ≠ state.nextPool := by
        rintro rfl
        exact Nat.not_succ_le_self _ isAbove
      simp only [Function.update_of_ne different]
      exact inv.poolIds pid (le_trans (Nat.le_succ _) isAbove)
    · simp [configAt, Pool.new]

theorem getPool_spec (inv : Inv setup state) (isServed : config ∈ state.served)
    (fresh : Bool) :
    Inv setup (getPool state config fresh).2 ∧
      Frame state (getPool state config fresh).2 ∧
      (getPool state config fresh).2.schemaCache = state.schemaCache ∧
      ∃ opener, configAt (getPool state config fresh).2
          (getPool state config fresh).1 = some opener ∧
        dbKey opener = dbKey config ∧ opener ∈ state.served ∧
        (opener = config ∨ (fresh = false ∧
          (state.pools.lookup (dbKey config)).bind (configAt state) =
            some opener)) := by
  cases fresh with
  | false =>
      obtain ⟨found, frame, sameSchemas, opener, present, sameKey, wasServed,
        which⟩ := findPool_spec inv isServed
      exact ⟨found, frame, sameSchemas, opener, present, sameKey, wasServed,
        which.imp id fun old => ⟨rfl, old⟩⟩
  | true =>
      obtain ⟨dropped, dropFrame, dropSchemas, noPool⟩ :=
        dropPool_spec inv (dbKey config)
      obtain ⟨found, frame, sameSchemas, opener, present, sameKey, wasServed,
        which⟩ := findPool_spec dropped (dropFrame.served ▸ isServed)
      refine ⟨found, dropFrame.trans frame, sameSchemas.trans dropSchemas,
        opener, present, sameKey, dropFrame.served ▸ wasServed, ?_⟩
      rcases which with isNew | old
      · exact Or.inl isNew
      · simp [noPool] at old

/-! ## Resolving the schema -/

/-- The schema a call will work with. -/
def resolvedSchema (setup : Setup) (state : State) (config : DBConfig)
    (reading : Reading) : Option Schema :=
  match freshSchema setup state config with
  | some entry => some entry.schema
  | none => reading.live

theorem freshSchema_lookup {entry : CachedSchema}
    (isFresh : freshSchema setup state config = some entry) :
    state.schemaCache.lookup (dbKey config) = some entry := by
  unfold freshSchema at isFresh
  split at isFresh
  · exact (Option.filter_eq_some_iff.mp isFresh).1
  · cases isFresh

theorem freshSchema_congr (sameSchemas : next.schemaCache = state.schemaCache)
    (sameNow : next.now = state.now) :
    freshSchema setup next config = freshSchema setup state config := by
  simp [freshSchema, sameSchemas, sameNow]

theorem resolveSchemaEx_spec (inv : Inv setup state) {pid : ℕ}
    (reading : Reading) (isFor : PoolFor state pid config)
    (isServed : config ∈ state.served)
    (sameTarget : ∀ entry, freshSchema setup state config = some entry →
      entry.createdFor.target = config.target) :
    Inv setup (resolveSchemaEx setup state config pid reading).2 ∧
      Frame state (resolveSchemaEx setup state config pid reading).2 ∧
      ∀ schema rich, (resolveSchemaEx setup state config pid reading).1 =
          some (schema, rich) →
        resolvedSchema setup state config reading = some schema := by
  unfold resolveSchemaEx
  split
  · rename_i entry isFresh
    refine ⟨inv.use ⟨sameTarget entry isFresh, by simp⟩,
      { Frame.refl state with }, ?_⟩
    intro schema rich resolved
    cases resolved
    rw [resolvedSchema, isFresh]
  · rename_i notFresh
    obtain ⟨lent, frame⟩ := lend_spec inv reading.alive isFor
    split
    · exact ⟨lent, frame, by simp⟩
    · rename_i schema isLive
      split
      · refine ⟨{ lent with schema := ?_ }, { frame with }, ?_⟩
        · intro key entry isEntry
          rcases OrderedDict.lookup_insert_cases isEntry with
            ⟨rfl, rfl⟩ | ⟨_, older⟩
          · exact ⟨rfl, frame.served ▸ isServed⟩
          · exact lent.schema key entry older
        · intro found rich same
          simp only [Option.some.injEq, Prod.mk.injEq] at same
          rw [resolvedSchema, notFresh, isLive, same.1]
      · refine ⟨lent, frame, ?_⟩
        intro found rich same
        simp only [Option.some.injEq, Prod.mk.injEq] at same
        rw [resolvedSchema, notFresh, isLive, same.1]

/-! ## Building a context -/

theorem semanticPath_injective {other : DBConfig} {schemaHash digest : String}
    (same : semanticPath setup config schemaHash =
      semanticPath setup other digest) :
    fileSuffix setup config schemaHash = fileSuffix setup other digest := by
  have lists := congrArg String.toList same
  simp only [semanticPath, String.toList_append] at lists
  exact String.toList_injective (List.append_cancel_left lists)

theorem valueIndexPath_injective {other : DBConfig} {schemaHash digest : String}
    (same : valueIndexPath setup config schemaHash =
      valueIndexPath setup other digest) :
    fileSuffix setup config schemaHash = fileSuffix setup other digest := by
  have lists := congrArg String.toList same
  simp only [valueIndexPath, String.toList_append] at lists
  exact String.toList_injective (List.append_cancel_left lists)

/-- Every file of that name on record was written for the target. -/
def FilesKnown (setup : Setup) (state : State) (config : DBConfig)
    (schema : Schema) : Prop :=
  ∀ other schemaHash, (other, schemaHash) ∈ state.written →
    fileSuffix setup other schemaHash =
      fileSuffix setup config (setup.schemaHash schema) →
    other.target = config.target

/-- What a stage of the build leaves for the next one. -/
structure Built (setup : Setup) (state next : State) (config : DBConfig)
    (pid : ℕ) (rebuild : Bool) : Prop where
  inv : Inv setup next
  pool : PoolFor next pid config
  served : next.served = state.served
  written : rebuild = false → next.written = state.written

theorem buildSemantic_spec (inv : Inv setup state) {pid : ℕ} {schema : Schema}
    {rebuild : Bool} (reading : Reading) (isFor : PoolFor state pid config)
    (known : rebuild = false → FilesKnown setup state config schema) :
    Built setup state
      (buildSemantic setup state config schema rebuild reading).2 config pid
      rebuild := by
  unfold buildSemantic
  cases rebuild with
  | true =>
      refine ⟨{ inv with semanticFile := ?_, valueIndexFile := ?_ }, isFor, rfl,
        by simp⟩
      · intro path file isFile
        rcases OrderedDict.lookup_insert_cases isFile with
          ⟨rfl, rfl⟩ | ⟨_, older⟩
        · exact ⟨_, List.mem_cons_self, rfl⟩
        · obtain ⟨digest, isWritten, isPath⟩ := inv.semanticFile path file older
          exact ⟨digest, List.mem_cons_of_mem _ isWritten, isPath⟩
      · intro path file isFile
        obtain ⟨digest, isWritten, isPath⟩ :=
          inv.valueIndexFile path file isFile
        exact ⟨digest, List.mem_cons_of_mem _ isWritten, isPath⟩
  | false =>
      simp only [Bool.false_eq_true, if_false]
      split
      · rename_i file isFile
        obtain ⟨digest, isWritten, isPath⟩ := inv.semanticFile _ file isFile
        have sameTarget := known rfl _ digest isWritten
          (semanticPath_injective isPath).symm
        exact ⟨inv.use ⟨sameTarget, by simp⟩, isFor, rfl, fun _ => rfl⟩
      · exact ⟨inv, isFor, rfl, fun _ => rfl⟩

theorem buildValueIndex_spec (inv : Inv setup state) {pid : ℕ}
    {schema : Schema} {rebuild : Bool} (reading : Reading)
    (isFor : PoolFor state pid config)
    (known : rebuild = false → FilesKnown setup state config schema) :
    Built setup state
      (buildValueIndex setup state config schema pid rebuild reading).2 config
      pid rebuild := by
  unfold buildValueIndex
  cases rebuild with
  | true =>
      obtain ⟨lent, frame⟩ := lend_spec inv reading.alive isFor
      have stillFor := isFor.frame frame
      refine ⟨{ lent with semanticFile := ?_, valueIndexFile := ?_ },
        stillFor, frame.served, by simp⟩
      · intro path file isFile
        obtain ⟨digest, isWritten, isPath⟩ := lent.semanticFile path file isFile
        exact ⟨digest, List.mem_cons_of_mem _ isWritten, isPath⟩
      · intro path file isFile
        rcases OrderedDict.lookup_insert_cases isFile with
          ⟨rfl, rfl⟩ | ⟨_, older⟩
        · exact ⟨_, List.mem_cons_self, rfl⟩
        · obtain ⟨digest, isWritten, isPath⟩ :=
            lent.valueIndexFile path file older
          exact ⟨digest, List.mem_cons_of_mem _ isWritten, isPath⟩
  | false =>
      simp only [Bool.false_eq_true, if_false]
      split
      · rename_i file isFile
        obtain ⟨digest, isWritten, isPath⟩ := inv.valueIndexFile _ file isFile
        have sameTarget := known rfl _ digest isWritten
          (valueIndexPath_injective isPath).symm
        exact ⟨inv.use ⟨sameTarget, by simp⟩, isFor, rfl, fun _ => rfl⟩
      · exact ⟨inv, isFor, rfl, fun _ => rfl⟩

/-- A new context of the caller is stored and returned. -/
theorem inv_newContext (inv : Inv setup state) {context : DBContext}
    (isFor : PoolFor state context.pool config)
    (isServed : config ∈ state.served) (isOwn : context.createdFor = config)
    (plain : '|' ∉ context.schemaHash.toList) :
    Inv setup (hand
      { state with
        contextAt := Function.update state.contextAt state.nextContext
          (some context)
        nextContext := state.nextContext + 1
        contexts := state.contexts.insert (ctxKey config context.schemaHash)
          state.nextContext } config state.nextContext) := by
  have isFree := inv.contextIds state.nextContext le_rfl
  have older : ∀ cid old, state.contextAt cid = some old →
      Function.update state.contextAt state.nextContext (some context) cid =
        some old := by
    intro cid old present
    have different : cid ≠ state.nextContext := by
      rintro rfl
      rw [isFree] at present
      cases present
    rwa [Function.update_of_ne different]
  refine { inv with
    context := ?_, object := ?_, holder := ?_, contextIds := ?_ }
  · intro key cid isContext
    rcases OrderedDict.lookup_insert_cases isContext with ⟨rfl, rfl⟩ | ⟨_, isOld⟩
    · exact ⟨context, Function.update_self .., by rw [isOwn], plain,
        isOwn ▸ isServed⟩
    · obtain ⟨old, present, rest⟩ := inv.context key cid isOld
      exact ⟨old, older cid old present, rest⟩
  · intro cid found isContext
    by_cases same : cid = state.nextContext
    · subst cid
      simp only [hand, Function.update_self, Option.some.injEq] at isContext
      obtain ⟨opener, present, sameTarget, _⟩ := isFor
      subst found
      exact ⟨opener, present, isOwn ▸ sameTarget⟩
    · simp only [hand, Function.update_of_ne same] at isContext
      exact inv.object cid found isContext
  · intro holder cid isHeld
    rcases List.mem_cons.mp isHeld with isNew | isOld
    · cases isNew
      exact ⟨context, Function.update_self .., isFor⟩
    · obtain ⟨old, present, oldFor⟩ := inv.holder holder cid isOld
      exact ⟨old, older cid old present, oldFor⟩
  · intro cid isAbove
    have different : cid ≠ state.nextContext := by
      rintro rfl
      exact Nat.not_succ_le_self _ isAbove
    simp only [hand, Function.update_of_ne different]
    exact inv.contextIds cid (le_trans (Nat.le_succ _) isAbove)

theorem buildContext_spec (inv : Inv setup state) {pid : ℕ} {schema : Schema}
    {rebuild : Bool} (rich : Bool) (reading : Reading)
    (isFor : PoolFor state pid config) (isServed : config ∈ state.served)
    (known : rebuild = false → FilesKnown setup state config schema) :
    Inv setup
      (buildContext setup state config schema rich pid rebuild reading) := by
  have semantic := buildSemantic_spec inv reading isFor known
  have stillKnown : ∀ {later : State}, Built setup state later config pid
      rebuild → rebuild = false → FilesKnown setup later config schema :=
    fun built isLazy other digest isWritten =>
      known isLazy other digest (built.written isLazy ▸ isWritten)
  have introspected : Built setup state
      (if rich then
          (buildSemantic setup state config schema rebuild reading).2
        else lend (buildSemantic setup state config schema rebuild reading).2
          pid config reading.alive) config pid rebuild := by
    cases rich with
    | true =>
        exact semantic
    | false =>
        obtain ⟨lent, frame⟩ := lend_spec semantic.inv reading.alive semantic.pool
        exact ⟨lent, semantic.pool.frame frame, frame.served.trans
          semantic.served, fun isLazy =>
            frame.written.trans (semantic.written isLazy)⟩
  have indexed := buildValueIndex_spec introspected.inv reading
    introspected.pool (stillKnown introspected)
  have servedThen := indexed.served.trans introspected.served
  exact inv_newContext indexed.inv indexed.pool (servedThen ▸ isServed) rfl
    (setup.schemaHash_plain schema)

/-- A cached context is handed on, with the pool of the present call. -/
theorem adopt_spec (inv : Inv setup state) {pid cid : ℕ} {existing : DBContext}
    (isFor : PoolFor state pid config)
    (isContext : state.contextAt cid = some existing)
    (sameTarget : existing.createdFor.target = config.target)
    (sameUser : ∀ opener, configAt state existing.pool = some opener →
      opener.user = config.user) :
    Inv setup (adopt state config pid cid existing) := by
  obtain ⟨oldOpener, oldPresent, oldTarget⟩ := inv.object cid existing isContext
  have used : Inv setup (state.use .context config existing.createdFor) :=
    inv.use ⟨sameTarget, by simp⟩
  refine { used with
    context := ?_, object := ?_, holder := ?_, contextIds := ?_ }
  · intro key other isKey
    obtain ⟨found, present, rest⟩ := inv.context key other isKey
    by_cases same : other = cid
    · subst other
      cases isContext.symm.trans present
      exact ⟨_, Function.update_self .., rest⟩
    · exact ⟨found, (Function.update_of_ne same ..).trans present, rest⟩
  · intro other found isFound
    by_cases same : other = cid
    · subst other
      simp only [adopt, hand, State.use, Function.update_self,
        Option.some.injEq] at isFound
      subst found
      obtain ⟨opener, present, openerTarget, _⟩ := isFor
      exact ⟨opener, present, openerTarget.trans sameTarget.symm⟩
    · simp only [adopt, hand, State.use, Function.update_of_ne same] at isFound
      exact inv.object other found isFound
  · intro holder other isHeld
    rcases List.mem_cons.mp isHeld with isNew | isOld
    · cases isNew
      exact ⟨_, Function.update_self .., isFor⟩
    · obtain ⟨found, present, foundFor⟩ := inv.holder holder other isOld
      by_cases same : other = cid
      · -- Whoever holds the object gets a pool of the same target and user.
        subst other
        cases isContext.symm.trans present
        obtain ⟨opener, openerPresent, toHolder, userHolder⟩ := foundFor
        cases oldPresent.symm.trans openerPresent
        obtain ⟨newOpener, newPresent, newTarget, newUser⟩ := isFor
        refine ⟨_, Function.update_self .., newOpener, newPresent, ?_, ?_⟩
        · rw [newTarget, ← sameTarget, ← oldTarget, toHolder]
        · rw [newUser, ← sameUser _ oldPresent, userHolder]
      · exact ⟨found, (Function.update_of_ne same ..).trans present, foundFor⟩
  · intro other isAbove
    have isFree := inv.contextIds other isAbove
    have different : other ≠ cid := by
      rintro rfl
      rw [isContext] at isFree
      cases isFree
    simp only [adopt, hand, State.use, Function.update_of_ne different]
    exact isFree

/-! ## Calls -/

/-- Every configuration on record under the key has the same target. -/
def SameTargets (state : State) (config : DBConfig) : Prop :=
  ∀ other ∈ state.served, dbKey other = dbKey config →
    other.target = config.target

/-- What a call finds under its keys was opened for its own user. -/
def SameUsers (setup : Setup) (state : State) (config : DBConfig)
    (reading : Reading) : Prop :=
  (∀ opener, (state.pools.lookup (dbKey config)).bind (configAt state) =
    some opener → opener.user = config.user) ∧
  ∀ schema cid context opener,
    resolvedSchema setup state config reading = some schema →
    state.contexts.lookup (ctxKey config (setup.schemaHash schema)) = some cid →
    state.contextAt cid = some context →
    configAt state context.pool = some opener → opener.user = config.user

theorem Inv.serve (inv : Inv setup state) (config : DBConfig) :
    Inv setup { state with served := config :: state.served } := by
  refine { inv with pool := ?_, schema := ?_, context := ?_ }
  · intro key pid isPool
    obtain ⟨opener, present, sameKey, wasServed⟩ := inv.pool key pid isPool
    exact ⟨opener, present, sameKey, List.mem_cons_of_mem _ wasServed⟩
  · intro key entry isEntry
    obtain ⟨sameKey, wasServed⟩ := inv.schema key entry isEntry
    exact ⟨sameKey, List.mem_cons_of_mem _ wasServed⟩
  · intro key cid isContext
    obtain ⟨context, present, sameKey, plain, wasServed⟩ :=
      inv.context key cid isContext
    exact ⟨context, present, sameKey, plain, List.mem_cons_of_mem _ wasServed⟩

theorem SameTargets.of_cons (same : SameTargets state config)
    {other : DBConfig} (isServed : other ∈ config :: state.served)
    (sameKey : dbKey other = dbKey config) : other.target = config.target := by
  rcases List.mem_cons.mp isServed with rfl | wasServed
  · rfl
  · exact same other wasServed sameKey

theorem contextFor_spec (inv : Inv setup state) {pid : ℕ} {schema : Schema}
    {rebuild : Bool} (rich : Bool) (reading : Reading)
    (isFor : PoolFor state pid config) (isServed : config ∈ state.served)
    (known : rebuild = false → FilesKnown setup state config schema)
    (hits : rebuild = false → ∀ cid existing,
      state.contexts.lookup (ctxKey config (setup.schemaHash schema)) =
        some cid →
      state.contextAt cid = some existing →
      existing.createdFor.target = config.target ∧
        ∀ opener, configAt state existing.pool = some opener →
          opener.user = config.user) :
    Inv setup
      (contextFor setup state config schema rich pid rebuild reading) := by
  have built := buildContext_spec inv rich reading isFor isServed known
  unfold contextFor
  cases rebuild with
  | true =>
      exact built
  | false =>
      simp only [Bool.false_eq_true, if_false]
      split
      · exact built
      · rename_i cid isContext
        split
        · exact built
        · rename_i existing present
          obtain ⟨sameTarget, sameUser⟩ := hits rfl cid existing isContext present
          exact adopt_spec inv isFor present sameTarget sameUser

/-- What a context that is found under the call's key has to be. -/
def GoodHit (state : State) (config : DBConfig) (existing : DBContext) : Prop :=
  existing.createdFor.target = config.target ∧
    ∀ opener, configAt state existing.pool = some opener →
      opener.user = config.user

/-- The part of `get_context_ex` that has a pool for the caller. -/
theorem resolved_spec (inv : Inv setup state) {pid : ℕ} {rebuild : Bool}
    (reading : Reading) (isFor : PoolFor state pid config)
    (isServed : config ∈ state.served)
    (schemas : ∀ entry, freshSchema setup state config = some entry →
      entry.createdFor.target = config.target)
    (known : rebuild = false → ∀ schema,
      resolvedSchema setup state config reading = some schema →
      FilesKnown setup state config schema)
    (hits : rebuild = false → ∀ schema,
      resolvedSchema setup state config reading = some schema →
      ∀ cid existing,
        state.contexts.lookup (ctxKey config (setup.schemaHash schema)) =
          some cid →
        state.contextAt cid = some existing → GoodHit state config existing) :
    Inv setup (match resolveSchemaEx setup state config pid reading with
      | (none, next) => next
      | (some (schema, rich), next) =>
          contextFor setup next config schema rich pid rebuild reading) := by
  obtain ⟨resolved, frame, whichSchema⟩ :=
    resolveSchemaEx_spec inv reading isFor isServed schemas
  cases outcome : resolveSchemaEx setup state config pid reading with
  | mk found next =>
      rw [outcome] at resolved frame whichSchema
      cases found with
      | none =>
          exact resolved
      | some pair =>
          obtain ⟨schema, rich⟩ := pair
          have isSchema := whichSchema schema rich rfl
          refine contextFor_spec resolved rich reading (isFor.frame frame)
            (frame.served ▸ isServed) ?_ ?_
          · intro isLazy other digest isWritten
            exact known isLazy schema isSchema other digest
              (frame.written ▸ isWritten)
          · intro isLazy cid existing isContext present
            rw [frame.contexts] at isContext
            rw [frame.contextAt] at present
            obtain ⟨sameTarget, sameUser⟩ :=
              hits isLazy schema isSchema cid existing isContext present
            obtain ⟨opener, atBefore, _⟩ := inv.object cid existing present
            refine ⟨sameTarget, fun opener' atAfter => ?_⟩
            cases (frame.configs _ _ atBefore).symm.trans atAfter
            exact sameUser _ atBefore

theorem resolvedSchema_congr {reading : Reading}
    (sameSchemas : next.schemaCache = state.schemaCache)
    (sameNow : next.now = state.now) :
    resolvedSchema setup next config reading =
      resolvedSchema setup state config reading := by
  simp [resolvedSchema, freshSchema_congr sameSchemas sameNow]

theorem getContextEx_spec (inv : Inv setup state) {rebuild : Bool}
    (reading : Reading)
    (schemas : ∀ entry, freshSchema setup state config = some entry →
      entry.createdFor.target = config.target)
    (told : rebuild = false → SameTargets state config ∧
      SameUsers setup state config reading ∧
      ∀ schema, resolvedSchema setup state config reading = some schema →
        FilesKnown setup state config schema) :
    Inv setup (getContextEx setup state config rebuild reading) := by
  obtain ⟨pooled, frame, sameSchemas, opener, present, sameKey, wasServed,
    which⟩ := getPool_spec (inv.serve config) List.mem_cons_self rebuild
  have sameResolved : resolvedSchema setup _ config reading =
      resolvedSchema setup state config reading :=
    resolvedSchema_congr sameSchemas frame.now
  refine resolved_spec pooled reading ?_ (frame.served ▸ List.mem_cons_self)
    ?_ ?_ ?_
  · rcases which with rfl | ⟨isLazy, old⟩
    · exact ⟨_, present, rfl, rfl⟩
    · obtain ⟨targets, users, _⟩ := told isLazy
      exact ⟨opener, present, targets.of_cons wasServed sameKey,
        users.1 opener old⟩
  · intro entry isFresh
    exact schemas entry ((freshSchema_congr sameSchemas frame.now).symm.trans
      isFresh)
  · intro isLazy schema isSchema other digest isWritten
    exact (told isLazy).2.2 schema (sameResolved.symm.trans isSchema) other
      digest (frame.written ▸ isWritten)
  · intro isLazy schema isSchema cid existing isContext isObject
    obtain ⟨targets, users, _⟩ := told isLazy
    rw [frame.contexts] at isContext
    rw [frame.contextAt] at isObject
    obtain ⟨found, isFound, sameCtxKey, plain, isRecorded⟩ :=
      inv.context _ cid isContext
    cases isFound.symm.trans isObject
    have keys := ctxKey_injective plain (setup.schemaHash_plain schema) sameCtxKey
    obtain ⟨older, atBefore, _⟩ := inv.object cid existing isObject
    refine ⟨targets _ isRecorded keys.1, fun opener' atAfter => ?_⟩
    cases (frame.configs _ _ atBefore).symm.trans atAfter
    exact users.2 schema cid existing _ (sameResolved.symm.trans isSchema)
      isContext isObject atBefore

theorem rebuild_spec (inv : Inv setup state) (reading : Reading) :
    Inv setup (rebuild setup state config reading) := by
  have erased : Inv setup { state with
      schemaCache := state.schemaCache.erase (dbKey config) } := by
    refine { inv with schema := ?_ }
    intro key entry isEntry
    exact inv.schema key entry (OrderedDict.lookup_erase_cases isEntry).2
  refine getContextEx_spec erased reading ?_ (by simp)
  intro entry isFresh
  have found := freshSchema_lookup isFresh
  simp [AList.lookup_erase] at found

/-- What an invalidation forgets is everything it has on record for the key. -/
theorem invalidate_spec (inv : Inv setup state) :
    Inv setup (invalidate state config) := by
  obtain ⟨dropped, frame, _, noPool⟩ := dropPool_spec inv (dbKey config)
  have stays : ∀ {other : DBConfig},
      other ∈ (dropPool state (dbKey config)).served →
      dbKey other ≠ dbKey config →
      other ∈ (invalidate state config).served := by
    intro other isServed different
    exact List.mem_filter.mpr ⟨isServed, by simpa using different⟩
  refine { dropped with pool := ?_, schema := ?_, context := ?_ }
  · intro key pid isPool
    obtain ⟨opener, present, sameKey, isServed⟩ := dropped.pool key pid isPool
    refine ⟨opener, present, sameKey, stays isServed ?_⟩
    intro isDropped
    rw [← sameKey, isDropped] at isPool
    exact absurd (noPool.symm.trans isPool) (by simp)
  · intro key entry isEntry
    obtain ⟨different, isOld⟩ := OrderedDict.lookup_erase_cases isEntry
    obtain ⟨sameKey, isServed⟩ := dropped.schema key entry isOld
    exact ⟨sameKey, stays isServed (sameKey ▸ different)⟩
  · intro key cid isContext
    obtain ⟨isOld, isKept⟩ := OrderedDict.lookup_keepKeys isContext
    obtain ⟨context, present, sameKey, plain, isServed⟩ :=
      dropped.context key cid isOld
    refine ⟨context, present, sameKey, plain, stays isServed ?_⟩
    intro isDropped
    have starts := startsWith_ctxKey context.createdFor context.schemaHash
    rw [sameKey, isDropped] at starts
    simp [starts] at isKept

/-- Whoever borrows through a context it holds gets its own pool. -/
theorem borrow_spec (inv : Inv setup state) {cid : ℕ} {alive : Bool}
    (stepped : borrow state config cid alive = some next) : Inv setup next := by
  unfold borrow at stepped
  split at stepped
  · rename_i isHeld
    obtain ⟨context, isContext, isFor⟩ := inv.holder config cid isHeld
    rw [isContext] at stepped
    cases stepped
    exact (lend_spec inv alive isFor).1
  · cases stepped

/-! ## Runs -/

/-- The keys of a call tell its configuration apart from all others on record.
A rebuild replaces the pool, the context and the files, and only reads what it
finds in the schema cache. -/
def ToldApart (setup : Setup) (state : State) : Label → Prop
  | .getContextEx config rebuild reading =>
      SameTargets state config ∧
        (rebuild = false → SameUsers setup state config reading ∧
          ∀ schema, resolvedSchema setup state config reading = some schema →
            FilesKnown setup state config schema)
  | _ => True

theorem inv_step (inv : Inv setup state) {label : Label}
    (told : ToldApart setup state label)
    (stepped : step setup state label = some next) : Inv setup next := by
  cases label with
  | tick elapsed =>
      cases stepped
      exact { inv with }
  | getContextEx config rebuild reading =>
      cases stepped
      obtain ⟨targets, others⟩ := told
      refine getContextEx_spec inv reading ?_ fun isLazy =>
        ⟨targets, others isLazy⟩
      intro entry isFresh
      obtain ⟨sameKey, isServed⟩ := inv.schema _ entry
        (freshSchema_lookup isFresh)
      exact targets _ isServed sameKey
  | rebuild config reading =>
      cases stepped
      exact rebuild_spec inv reading
  | invalidate config =>
      cases stepped
      exact invalidate_spec inv
  | connection config cid alive =>
      exact borrow_spec inv stepped

end Invariant

/-- Whoever holds a context borrows from a pool of its own target and user. -/
def HoldersIsolated (state : State) : Prop :=
  ∀ config cid, (config, cid) ∈ state.held →
    ∃ context, state.contextAt cid = some context ∧
      PoolFor state context.pool config

/-- In a run whose calls all have keys that tell their configuration apart from
those on record, nothing that was created for one target is ever handed to, or
read by, a caller of another, and no connection goes to another user. -/
theorem store_isolated (setup : Setup) (state : State)
    (reachable : (system setup).ReachableUnder (ToldApart setup) state) :
    (∀ use ∈ state.uses, Isolated use) ∧ HoldersIsolated state := by
  have inv : Inv setup state :=
    reachable.invariant (Inv setup) (fun _ isInitial => inv_initial isInitial)
      fun _ _ _ inv told stepped => inv_step inv told stepped
  exact ⟨inv.uses, inv.holder⟩

/-! ### Two databases that share a key -/

def shopSetup : Setup where
  ttl := 5
  schemaHash _ := "7b809f480c851baf618690b46950b9ce"
  dbId _ := "0d8630bcc81a"
  mapSchema _ := []
  schemaHash_plain _ := by decide

/-- The database `shop` of the server at a port. -/
def shopAt (engine : DatabaseEngine) (port : ℤ) (user : String) : DBConfig where
  host := "db.internal"
  user := user
  password := "secret"
  database := "shop"
  port := some port
  dbSchema := none
  engine := engine
  ai := false

def readsOrders : Reading where
  live := some [("orders", ["id", "total"])]
  rich := true
  refined := []
  sampled := []
  alive := true

def emptyStore : State where
  now := 0
  poolAt _ := none
  nextPool := 0
  pools := ∅
  schemaCache := ∅
  contextAt _ := none
  nextContext := 0
  contexts := ∅
  semanticFiles := ∅
  valueIndexFiles := ∅
  held := []
  uses := []
  served := []
  written := []

theorem emptyStore_initial : Initial shopSetup emptyStore where
  noPools := rfl
  noSchemas := rfl
  noContexts := rfl
  noContextObjects _ := rfl
  noHolders := rfl
  noUses := rfl
  poolIds _ _ := rfl
  semanticFiles path file isFile := by
    simp [emptyStore] at isFile
  valueIndexFiles path file isFile := by
    simp [emptyStore] at isFile

def storeRun (labels : List Label) : State :=
  ((system shopSetup).exec emptyStore labels).getD emptyStore

theorem storeRun_reachable (labels : List Label)
    (executed : (system shopSetup).exec emptyStore labels =
      some (storeRun labels)) :
    (system shopSetup).Reachable (storeRun labels) := by
  have starts : (system shopSetup).initial emptyStore := emptyStore_initial
  exact TransitionSystem.reachable_of_exec labels starts executed

/-- Each of two callers asks for its context once, the schema cache having
expired in between. -/
def oneAfterTheOther (first second : DBConfig) (rebuilds : Bool) : List Label :=
  [.getContextEx first rebuilds readsOrders, .tick 5,
    .getContextEx second false readsOrders]

/-- A second server on another port is read through the first one's pool and gets
its context; a second user gets the first one's connection; and the layer and
the index saved for a database of one engine are read for another's. -/
theorem store_leaks :
    let cluster := shopAt .postgres 5432 "ana"
    let sibling := shopAt .postgres 5433 "ana"
    let stranger := shopAt .postgres 5432 "bo"
    let legacy := shopAt .mysql 5432 "ana"
    (∃ state, (system shopSetup).Reachable state ∧
        ⟨.connection, sibling, cluster⟩ ∈ state.uses ∧
        ⟨.context, sibling, cluster⟩ ∈ state.uses ∧
        sibling.target ≠ cluster.target) ∧
      (∃ state, (system shopSetup).Reachable state ∧
        ⟨.connection, stranger, cluster⟩ ∈ state.uses ∧
        stranger.user ≠ cluster.user) ∧
      ∃ state, (system shopSetup).Reachable state ∧
        ⟨.semanticLayer, legacy, cluster⟩ ∈ state.uses ∧
        ⟨.valueIndex, legacy, cluster⟩ ∈ state.uses ∧
        legacy.target ≠ cluster.target := by
  refine ⟨⟨storeRun (oneAfterTheOther (shopAt .postgres 5432 "ana")
      (shopAt .postgres 5433 "ana") false), storeRun_reachable _ rfl, ?_⟩,
    ⟨storeRun (oneAfterTheOther (shopAt .postgres 5432 "ana")
      (shopAt .postgres 5432 "bo") false), storeRun_reachable _ rfl, ?_⟩,
    ⟨storeRun (oneAfterTheOther (shopAt .postgres 5432 "ana")
      (shopAt .mysql 5432 "ana") true), storeRun_reachable _ rfl, ?_⟩⟩
  · decide
  · decide
  · decide

/-! ### Two databases with keys of their own -/

def shopCaller : DBConfig := shopAt .postgres 5432 "ana"

def booksCaller : DBConfig :=
  { shopAt .postgres 5432 "bo" with database := "books" }

def shopServed : State :=
  storeRun [.getContextEx shopCaller false readsOrders]

def bothServed : State :=
  storeRun [.getContextEx shopCaller false readsOrders,
    .getContextEx booksCaller false readsOrders,
    .connection shopCaller 0 true]

theorem store_isolated_books :
    bothServed.uses.length = 3 ∧ (∀ use ∈ bothServed.uses, Isolated use) ∧
      HoldersIsolated bothServed := by
  have starts : (system shopSetup).initial emptyStore := emptyStore_initial
  have served : (system shopSetup).Reaches (ToldApart shopSetup) emptyStore
      shopServed := by
    refine TransitionSystem.Reaches.single
      (.getContextEx shopCaller false readsOrders) ?_ rfl
    refine ⟨by simp [SameTargets, emptyStore], fun _ => ⟨⟨?_, ?_⟩, ?_⟩⟩
    · simp [emptyStore]
    · simp [emptyStore]
    · simp [FilesKnown, emptyStore]
  have both : (system shopSetup).Reaches (ToldApart shopSetup) shopServed
      (storeRun [.getContextEx shopCaller false readsOrders,
        .getContextEx booksCaller false readsOrders]) := by
    refine TransitionSystem.Reaches.single
      (.getContextEx booksCaller false readsOrders) ?_ rfl
    have noPool : shopServed.pools.lookup (dbKey booksCaller) = none := by
      decide
    have noContext : ∀ schema, shopServed.contexts.lookup
        (ctxKey booksCaller (shopSetup.schemaHash schema)) = none := by
      intro schema
      change shopServed.contexts.lookup
        (ctxKey booksCaller "7b809f480c851baf618690b46950b9ce") = none
      decide
    refine ⟨by unfold SameTargets; decide, fun _ => ⟨⟨?_, ?_⟩, ?_⟩⟩
    · simp [noPool]
    · simp [noContext]
    · intro schema _ other digest isWritten
      exact absurd isWritten List.not_mem_nil
  have borrowed : (system shopSetup).Reaches (ToldApart shopSetup) _
      bothServed :=
    (served.trans both).trans <| TransitionSystem.Reaches.single
      (.connection shopCaller 0 true) trivial rfl
  have reachable : (system shopSetup).ReachableUnder (ToldApart shopSetup)
      bothServed := ⟨emptyStore, starts, borrowed⟩
  exact ⟨by decide, store_isolated shopSetup bothServed reachable⟩

end DbBuddy.Context
