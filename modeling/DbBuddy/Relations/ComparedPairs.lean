import Mathlib.Data.List.ProdSigma
import DbBuddy.Relations.Overview

/-!
# The overview by comparison of all pairs

The definition that the index saves the work of: every two snapshotted databases are compared
entity by entity.  The overview has exactly the edges of this comparison, in the same order,
and neither the order of the databases nor that of their tables matters.
-/

namespace DbBuddy.Relations

open DbBuddy.Library

/-! ## The comparison -/

/-- A snapshotted database, as far as links go. -/
structure Profile where
  id : String
  signals : Signals
  deriving DecidableEq

def Database.profile (lowercase : Lowercase) (database : Database) : Option Profile :=
  database.snapshot.map fun snapshot => ⟨database.id, entitySignals lowercase snapshot⟩

def profilesOf (lowercase : Lowercase) (databases : List Database) : List Profile :=
  databases.filterMap (Database.profile lowercase)

/-- The entities that may link the database. -/
def Profile.entities (profile : Profile) : Finset Token :=
  (profile.signals.defines ∪ profile.signals.refers).filter fun token =>
    token ∉ stopwordEntities

/-- How many databases share an entity. -/
def fanout (profiles : List Profile) (token : Token) : ℕ :=
  profiles.countP fun profile => token ∈ profile.entities

/-- The entities that link two databases. -/
def sharedEntities (profiles : List Profile) (first second : Profile) : Finset Token :=
  (first.entities ∩ second.entities).filter fun token =>
    minComputeWeight ≤ tokenWeight (fanout profiles token)

/-- What one entity says about two databases. -/
def entityScore (profiles : List Profile) (first second : Profile) (token : Token) : ℚ :=
  signalScore (decide (token ∈ first.signals.defines)) (decide (token ∈ second.signals.defines))
      (decide (token ∈ first.signals.refers)) (decide (token ∈ second.signals.refers)) *
    tokenWeight (fanout profiles token)

/-- The best score of an entity, and the entities. -/
def comparedLink (profiles : List Profile) (first second : Profile) : Link :=
  ⟨(sharedEntities profiles first second).fold max 0 (entityScore profiles first second),
    sharedEntities profiles first second⟩

/-- The pairs that are linked, each with the smaller id first. -/
def linkedPairs (profiles : List Profile) : List (Profile × Profile) :=
  (profiles.product profiles).filter fun pair =>
    pair.1.id < pair.2.id ∧ sharedEntities profiles pair.1 pair.2 ≠ ∅

/-- The edge of a pair. -/
def comparedEdge (profiles : List Profile) (pair : Profile × Profile) : Edge :=
  (comparedLink profiles pair.1 pair.2).edge (pair.1.id, pair.2.id)

def Edge.ends (edge : Edge) : String × String :=
  (edge.source, edge.target)

/-- By rounded confidence, the highest first, and then by the two ids. -/
def Edge.ranksBefore (edge other : Edge) : Bool :=
  decide (other.confidence < edge.confidence ∨
    other.confidence = edge.confidence ∧ toLex edge.ends ≤ toLex other.ends)

/-- All edges, ranked. -/
def comparedEdges (profiles : List Profile) : List Edge :=
  ((linkedPairs profiles).map (comparedEdge profiles)).mergeSort Edge.ranksBefore

/-! ## Profiles -/

section Profiles

variable {lowercase : Lowercase} {databases : List Database} {profiles : List Profile}

theorem map_id_profilesOf :
    ((profilesOf lowercase databases).map Profile.id).Sublist (databases.map Database.id) := by
  induction databases with
  | nil => exact List.Sublist.refl _
  | cons database rest inductionHypothesis =>
      unfold profilesOf Database.profile at inductionHypothesis ⊢
      rw [List.filterMap_cons]
      cases database.snapshot with
      | none => exact inductionHypothesis.cons _
      | some snapshot => exact inductionHypothesis.cons_cons _

variable (lowercase) in
theorem nodup_profilesOf (distinct : (databases.map Database.id).Nodup) :
    ((profilesOf lowercase databases).map Profile.id).Nodup :=
  distinct.sublist map_id_profilesOf

variable (lowercase) in
theorem entries_signalsOf {signals : Dict String Signals}
    (distinct : (databases.map Database.id).Nodup)
    (absent : ∀ database ∈ databases, database.id ∉ signals) :
    (signalsOf lowercase databases signals).entries =
      signals.entries ++
        (profilesOf lowercase databases).map fun profile => ⟨profile.id, profile.signals⟩ := by
  induction databases generalizing signals with
  | nil => exact (List.append_nil _).symm
  | cons database rest inductionHypothesis =>
      obtain ⟨isFirst, restDistinct⟩ := List.nodup_cons.mp distinct
      have restAbsent := fun other isIn => absent other (List.mem_cons_of_mem _ isIn)
      have isNew := absent database List.mem_cons_self
      unfold signalsOf profilesOf Database.profile
      rw [List.filterMap_cons]
      cases database.snapshot with
      | none => exact inductionHypothesis restDistinct restAbsent
      | some snapshot =>
          have stillAbsent : ∀ other ∈ rest, other.id ∉
              signals.assign database.id (entitySignals lowercase snapshot) := by
            intro other isIn isAssigned
            rcases Dict.mem_assign.mp isAssigned with same | inSignals
            · exact isFirst (same ▸ List.mem_map_of_mem isIn)
            · exact restAbsent other isIn inSignals
          change (signalsOf lowercase rest _).entries = _
          rw [inductionHypothesis restDistinct stillAbsent,
            Dict.entries_assign_of_notMem isNew, List.append_assoc]
          rfl

theorem mem_entities {profile : Profile} {token : Token} :
    token ∈ profile.entities ↔
      (token ∈ profile.signals.defines ∨ token ∈ profile.signals.refers) ∧
        token ∉ stopwordEntities := by
  rw [Profile.entities, Finset.mem_filter, Finset.mem_union]

end Profiles

/-! ## The index -/

section Index

variable {order : SetOrder} {profiles : List Profile} {token : Token} {hit : Hit}

/-- The databases of an entity, as the profiles have it. -/
def hitOf (profiles : List Profile) (token : Token) : Hit where
  defines :=
    ((profiles.filter fun profile => token ∈ profile.signals.defines).map Profile.id).toFinset
  refers :=
    ((profiles.filter fun profile => token ∈ profile.signals.refers).map Profile.id).toFinset

theorem SetOrder.mem_list {tokens : Finset Token} : token ∈ order.list tokens ↔ token ∈ tokens := by
  rw [← Multiset.mem_coe, order.listed, Finset.mem_val]

/-- What a hit has taken down. -/
def Hit.Has (hit : Hit) : Mention → Prop
  | .defines id => id ∈ hit.defines
  | .refers id => id ∈ hit.refers

theorem Hit.ext_has {other : Hit} (same : ∀ mention, hit.Has mention ↔ other.Has mention) :
    hit = other :=
  congrArg₂ Hit.mk (Finset.ext fun id => same (.defines id))
    (Finset.ext fun id => same (.refers id))

theorem has_foldl {items : List Mention} {mention : Mention} :
    (items.foldl Hit.add hit).Has mention ↔ hit.Has mention ∨ mention ∈ items := by
  induction items generalizing hit with
  | nil => simp
  | cons item rest inductionHypothesis =>
      rw [List.foldl_cons, inductionHypothesis, List.mem_cons, ← or_assoc]
      apply or_congr_left
      cases item <;> cases mention <;> simp [Hit.add, Hit.Has, or_comm]

/-- All that is entered in the index. -/
def mentions (order : SetOrder) (profiles : List Profile) : List (Token × Mention) :=
  profiles.flatMap fun profile => mentionsOf order profile.id profile.signals

theorem mem_mentions {mention : Mention} :
    (token, mention) ∈ mentions order profiles ↔
      (hitOf profiles token).Has mention ∧ token ∉ stopwordEntities := by
  cases mention with
  | defines id =>
      simp only [mentions, mentionsOf, hitOf, Hit.Has, List.mem_flatMap, List.mem_append,
        List.mem_map, List.mem_filter, List.mem_toFinset, SetOrder.mem_list]
      grind
  | refers id =>
      simp only [mentions, mentionsOf, hitOf, Hit.Has, List.mem_flatMap, List.mem_append,
        List.mem_map, List.mem_filter, List.mem_toFinset, SetOrder.mem_list]
      grind

/-- The index has the databases of each entity that is no stopword and that any has. -/
theorem lookup_index :
    (gather Hit.blank Hit.add (mentions order profiles) ∅).lookup token = some hit ↔
      hit = hitOf profiles token ∧ token ∉ stopwordEntities ∧
        (hitOf profiles token).involved.Nonempty := by
  rw [lookup_gather_empty]
  have isHit : token ∉ stopwordEntities →
      (itemsOf token (mentions order profiles)).foldl Hit.add Hit.blank =
        hitOf profiles token := by
    intro notStop
    apply Hit.ext_has
    intro mention
    rw [has_foldl, mem_itemsOf, mem_mentions]
    cases mention <;> simp [Hit.blank, Hit.Has, notStop]
  have hasItems : itemsOf token (mentions order profiles) ≠ [] ↔
      token ∉ stopwordEntities ∧ (hitOf profiles token).involved.Nonempty := by
    constructor
    · intro someItems
      obtain ⟨item, isItem⟩ := List.exists_mem_of_ne_nil _ someItems
      obtain ⟨isThere, notStop⟩ := mem_mentions.mp (mem_itemsOf.mp isItem)
      cases item with
      | defines id => exact ⟨notStop, id, Finset.mem_union_left _ isThere⟩
      | refers id => exact ⟨notStop, id, Finset.mem_union_right _ isThere⟩
    · rintro ⟨notStop, id, isInvolved⟩
      rcases Finset.mem_union.mp isInvolved with isDefined | isReferred
      · exact List.ne_nil_of_mem
          (mem_itemsOf.mpr (@mem_mentions _ _ _ (.defines id) |>.mpr ⟨isDefined, notStop⟩))
      · exact List.ne_nil_of_mem
          (mem_itemsOf.mpr (@mem_mentions _ _ _ (.refers id) |>.mpr ⟨isReferred, notStop⟩))
  rw [hasItems]
  constructor
  · rintro ⟨⟨notStop, someone⟩, isFolded⟩
    exact ⟨by rw [← isFolded, isHit notStop], notStop, someone⟩
  · rintro ⟨rfl, notStop, someone⟩
    exact ⟨⟨notStop, someone⟩, isHit notStop⟩

theorem mem_involved {id : String} :
    id ∈ (hitOf profiles token).involved ↔
      ∃ profile ∈ profiles, profile.id = id ∧
        (token ∈ profile.signals.defines ∨ token ∈ profile.signals.refers) := by
  simp only [Hit.involved, hitOf, Finset.mem_union, List.mem_toFinset, List.mem_map,
    List.mem_filter, decide_eq_true_eq]
  constructor
  · rintro (⟨profile, ⟨isIn, isDefined⟩, same⟩ | ⟨profile, ⟨isIn, isReferred⟩, same⟩)
    · exact ⟨profile, isIn, same, Or.inl isDefined⟩
    · exact ⟨profile, isIn, same, Or.inr isReferred⟩
  · rintro ⟨profile, isIn, same, isDefined | isReferred⟩
    · exact Or.inl ⟨profile, ⟨isIn, isDefined⟩, same⟩
    · exact Or.inr ⟨profile, ⟨isIn, isReferred⟩, same⟩

section Distinct

variable (distinct : (profiles.map Profile.id).Nodup)

include distinct

theorem eq_of_id {first second : Profile} (isFirst : first ∈ profiles)
    (isSecond : second ∈ profiles) (same : first.id = second.id) : first = second :=
  List.inj_on_of_nodup_map distinct isFirst isSecond same

theorem mem_selected_id {holds : Profile → Prop} [DecidablePred holds] {profile : Profile}
    (isIn : profile ∈ profiles) :
    profile.id ∈ ((profiles.filter fun other => holds other).map Profile.id).toFinset ↔
      holds profile := by
  simp only [List.mem_toFinset, List.mem_map, List.mem_filter, decide_eq_true_eq]
  constructor
  · rintro ⟨other, ⟨isOther, isSelected⟩, same⟩
    rwa [eq_of_id distinct isOther isIn same] at isSelected
  · intro isSelected
    exact ⟨profile, ⟨isIn, isSelected⟩, rfl⟩

theorem mem_defines_id {profile : Profile} (isIn : profile ∈ profiles) :
    profile.id ∈ (hitOf profiles token).defines ↔ token ∈ profile.signals.defines :=
  mem_selected_id distinct isIn

theorem mem_refers_id {profile : Profile} (isIn : profile ∈ profiles) :
    profile.id ∈ (hitOf profiles token).refers ↔ token ∈ profile.signals.refers :=
  mem_selected_id distinct isIn

theorem mem_involved_id {profile : Profile} (isIn : profile ∈ profiles) :
    profile.id ∈ (hitOf profiles token).involved ↔
      token ∈ profile.signals.defines ∨ token ∈ profile.signals.refers := by
  rw [Hit.involved, Finset.mem_union, mem_defines_id distinct isIn, mem_refers_id distinct isIn]

/-- The size of a hit is the fan-out. -/
theorem card_involved (notStop : token ∉ stopwordEntities) :
    (hitOf profiles token).involved.card = fanout profiles token := by
  have sameSet : (hitOf profiles token).involved =
      ((profiles.filter fun profile => token ∈ profile.entities).map Profile.id).toFinset := by
    ext id
    rw [mem_involved]
    simp only [List.mem_toFinset, List.mem_map, List.mem_filter, decide_eq_true_eq, mem_entities]
    constructor
    · rintro ⟨profile, isIn, same, isMentioned⟩
      exact ⟨profile, ⟨isIn, isMentioned, notStop⟩, same⟩
    · rintro ⟨profile, ⟨isIn, isMentioned, _⟩, same⟩
      exact ⟨profile, isIn, same, isMentioned⟩
  have nodup : ((profiles.filter fun profile => token ∈ profile.entities).map
      Profile.id).Nodup :=
    distinct.sublist (List.filter_sublist.map Profile.id)
  rw [sameSet, List.toFinset_card_of_nodup nodup, List.length_map, fanout,
    List.countP_eq_length_filter]

end Distinct

end Index

/-! ## The links of a pair -/

section Pairs

theorem mem_pairsOf {items : List String} {first second : String}
    (sorted : items.Pairwise (· < ·)) :
    (first, second) ∈ pairsOf items ↔ first < second ∧ first ∈ items ∧ second ∈ items := by
  induction items with
  | nil => simp [pairsOf]
  | cons item rest inductionHypothesis =>
      obtain ⟨smaller, restSorted⟩ := List.pairwise_cons.mp sorted
      rw [pairsOf, List.mem_append, inductionHypothesis restSorted, List.mem_map]
      constructor
      · rintro (⟨other, isIn, same⟩ | ⟨isLess, inFirst, inSecond⟩)
        · cases same
          exact ⟨smaller _ isIn, List.mem_cons_self, List.mem_cons_of_mem _ isIn⟩
        · exact ⟨isLess, List.mem_cons_of_mem _ inFirst, List.mem_cons_of_mem _ inSecond⟩
      · rintro ⟨isLess, inFirst, inSecond⟩
        rcases List.mem_cons.mp inSecond with rfl | secondIn
        · rcases List.mem_cons.mp inFirst with rfl | firstIn
          · exact absurd isLess (lt_irrefl _)
          · exact absurd isLess (lt_asymm (smaller _ firstIn))
        · rcases List.mem_cons.mp inFirst with rfl | firstIn
          · exact Or.inl ⟨second, secondIn, rfl⟩
          · exact Or.inr ⟨isLess, firstIn, secondIn⟩

theorem nodup_pairsOf {items : List String} (sorted : items.Pairwise (· < ·)) :
    (pairsOf items).Nodup := by
  induction items with
  | nil => exact List.nodup_nil
  | cons item rest inductionHypothesis =>
      obtain ⟨smaller, restSorted⟩ := List.pairwise_cons.mp sorted
      have restNodup : rest.Nodup := restSorted.imp fun isLess => ne_of_lt isLess
      have mapNodup : (rest.map fun other => (item, other)).Nodup :=
        restNodup.map fun first second same => (Prod.mk.inj same).2
      refine mapNodup.append (inductionHypothesis restSorted) ?_
      intro pair inMap inRest
      obtain ⟨other, isIn, rfl⟩ := List.mem_map.mp inMap
      have itemIn := ((mem_pairsOf restSorted).mp inRest).2.1
      exact lt_irrefl item (smaller item itemIn)

/-- Whether an entry of the index links two databases. -/
def Hit.Links (hit : Hit) (pair : String × String) : Prop :=
  pair.1 < pair.2 ∧ pair.1 ∈ hit.involved ∧ pair.2 ∈ hit.involved ∧
    minComputeWeight ≤ tokenWeight hit.involved.card

instance (hit : Hit) (pair : String × String) : Decidable (hit.Links pair) := by
  unfold Hit.Links
  infer_instance

/-- The score that an entry of the index gives to two databases. -/
def Hit.score (hit : Hit) (pair : String × String) : ℚ :=
  pairConfidence pair.1 pair.2 hit * tokenWeight hit.involved.card

theorem itemsOf_map_of_nodup {pairs : List (String × String)} (nodup : pairs.Nodup)
    (pair : String × String) (found : String × String → Token × ℚ) :
    itemsOf pair (pairs.map fun other => (other, found other)) =
      if pair ∈ pairs then [found pair] else [] := by
  induction pairs with
  | nil => rfl
  | cons other rest inductionHypothesis =>
      obtain ⟨absent, restNodup⟩ := List.nodup_cons.mp nodup
      rw [List.map_cons]
      by_cases same : other = pair
      · subst same
        rw [itemsOf_cons_self, inductionHypothesis restNodup, if_neg absent,
          if_pos List.mem_cons_self]
      · rw [itemsOf_cons_of_ne same, inductionHypothesis restNodup]
        simp [Ne.symm same]

/-- One entry of the index says at most one thing about two databases. -/
theorem itemsOf_linksOf (pair : String × String) (token : Token) (hit : Hit) :
    itemsOf pair (linksOf token hit) =
      if hit.Links pair then [(token, hit.score pair)] else [] := by
  have sorted : (hit.involved.sort (· ≤ ·)).Pairwise (· < ·) :=
    (Finset.sortedLT_sort hit.involved).pairwise
  have isMember : pair ∈ pairsOf (hit.involved.sort (· ≤ ·)) ↔
      pair.1 < pair.2 ∧ pair.1 ∈ hit.involved ∧ pair.2 ∈ hit.involved := by
    have member : (pair.1, pair.2) ∈ pairsOf (hit.involved.sort (· ≤ ·)) ↔ _ :=
      mem_pairsOf sorted
    rwa [Finset.mem_sort, Finset.mem_sort] at member
  unfold linksOf
  by_cases few : hit.involved.card < 2
  · have notLinked : ¬hit.Links pair := by
      rintro ⟨isLess, inFirst, inSecond, _⟩
      have two := Finset.one_lt_card.mpr ⟨pair.1, inFirst, pair.2, inSecond, ne_of_lt isLess⟩
      omega
    rw [if_pos few, if_neg notLinked]
    rfl
  · rw [if_neg few]
    by_cases isLight : tokenWeight hit.involved.card < minComputeWeight
    · have notLinked : ¬hit.Links pair := by
        rintro ⟨_, _, _, isHeavy⟩
        exact absurd isLight (not_lt.mpr isHeavy)
      rw [if_pos isLight, if_neg notLinked]
      rfl
    · have isLinked : hit.Links pair ↔ pair ∈ pairsOf (hit.involved.sort (· ≤ ·)) := by
        rw [isMember]
        unfold Hit.Links
        have isHeavy := not_lt.mp isLight
        tauto
      rw [if_neg isLight, itemsOf_map_of_nodup (nodup_pairsOf sorted), if_congr isLinked rfl rfl]
      rfl

/-- What is added to a link one after the other. -/
theorem foldl_linkAdd (items : List (Token × ℚ)) (link : Link) :
    items.foldl Link.add link =
      ⟨(items.map Prod.snd).foldl max link.confidence,
        (items.map Prod.fst).toFinset ∪ link.shared⟩ := by
  induction items generalizing link with
  | nil => simp
  | cons item rest inductionHypothesis =>
      rw [List.foldl_cons, inductionHypothesis]
      simp [Link.add]

/-- The entries of the index that link two databases. -/
def linkingEntries (index : Dict Token Hit) (pair : String × String) :
    List (Sigma fun _ : Token => Hit) :=
  index.entries.filter fun entry => entry.snd.Links pair

theorem itemsOf_links (index : Dict Token Hit) (pair : String × String) :
    itemsOf pair (index.entries.flatMap fun entry => linksOf entry.fst entry.snd) =
      (linkingEntries index pair).map fun entry => (entry.fst, entry.snd.score pair) := by
  rw [itemsOf_flatMap]
  unfold linkingEntries
  generalize index.entries = entries
  induction entries with
  | nil => rfl
  | cons entry rest inductionHypothesis =>
      rw [List.flatMap_cons, inductionHypothesis, itemsOf_linksOf]
      by_cases isLinked : entry.snd.Links pair
      · rw [if_pos isLinked, List.filter_cons_of_pos (by simpa using isLinked)]
        rfl
      · rw [if_neg isLinked, List.filter_cons_of_neg (by simpa using isLinked)]
        rfl

/-- What is found under a pair after the loop over the index. -/
theorem lookup_pairLinks {index : Dict Token Hit} {pair : String × String} {link : Link} :
    (pairLinks index).lookup pair = some link ↔
      linkingEntries index pair ≠ [] ∧
        link = ⟨((linkingEntries index pair).map fun entry => entry.snd.score pair).foldl max 0,
          ((linkingEntries index pair).map Sigma.fst).toFinset⟩ := by
  unfold pairLinks
  rw [lookup_gather_empty, itemsOf_links, foldl_linkAdd, List.map_map, List.map_map]
  simp only [ne_eq, List.map_eq_nil_iff, Link.blank, Finset.union_empty]
  exact and_congr_right fun _ => eq_comm

end Pairs

/-! ## The index compares all pairs -/

section Agreement

variable {profiles : List Profile} (distinct : (profiles.map Profile.id).Nodup)

include distinct

/-- An entry of the index gives the score of the comparison. -/
theorem score_hitOf {first second : Profile} (inFirst : first ∈ profiles)
    (inSecond : second ∈ profiles) {token : Token}
    (isShared : token ∈ sharedEntities profiles first second) :
    (hitOf profiles token).score (first.id, second.id) =
      entityScore profiles first second token := by
  obtain ⟨inBoth, _⟩ := Finset.mem_filter.mp isShared
  have notStop := (mem_entities.mp (Finset.mem_inter.mp inBoth).1).2
  unfold Hit.score entityScore pairConfidence
  simp only [mem_defines_id distinct inFirst, mem_defines_id distinct inSecond,
    mem_refers_id distinct inFirst, mem_refers_id distinct inSecond,
    card_involved distinct notStop]

variable {index : Dict Token Hit}
  (isIndex : ∀ token hit, index.lookup token = some hit ↔
    hit = hitOf profiles token ∧ token ∉ stopwordEntities ∧
      (hitOf profiles token).involved.Nonempty)

include isIndex

theorem mem_linkingEntries {first second : Profile} (inFirst : first ∈ profiles)
    (inSecond : second ∈ profiles) (isLess : first.id < second.id) {token : Token} {hit : Hit} :
    ⟨token, hit⟩ ∈ linkingEntries index (first.id, second.id) ↔
      hit = hitOf profiles token ∧ token ∈ sharedEntities profiles first second := by
  have isEntry : (⟨token, hit⟩ : Sigma fun _ : Token => Hit) ∈ index.entries ↔
      index.lookup token = some hit := AList.mem_lookup_iff.symm
  unfold linkingEntries
  rw [List.mem_filter, decide_eq_true_iff, isEntry, isIndex]
  constructor
  · rintro ⟨⟨rfl, notStop, _⟩, _, firstIn, secondIn, isHeavy⟩
    refine ⟨rfl, Finset.mem_filter.mpr ⟨Finset.mem_inter.mpr ⟨?_, ?_⟩, ?_⟩⟩
    · exact mem_entities.mpr ⟨(mem_involved_id distinct inFirst).mp firstIn, notStop⟩
    · exact mem_entities.mpr ⟨(mem_involved_id distinct inSecond).mp secondIn, notStop⟩
    · rwa [card_involved distinct notStop] at isHeavy
  · rintro ⟨rfl, isShared⟩
    obtain ⟨inBoth, isHeavy⟩ := Finset.mem_filter.mp isShared
    obtain ⟨ofFirst, ofSecond⟩ := Finset.mem_inter.mp inBoth
    obtain ⟨isMentioned, notStop⟩ := mem_entities.mp ofFirst
    have firstIn := (mem_involved_id distinct inFirst).mpr isMentioned
    have secondIn := (mem_involved_id distinct inSecond).mpr (mem_entities.mp ofSecond).1
    refine ⟨⟨rfl, notStop, first.id, firstIn⟩, isLess, firstIn, secondIn, ?_⟩
    rwa [card_involved distinct notStop]

/-- The link that the loop leaves under two ids is that of the comparison. -/
theorem lookup_pairLinks_id {first second : Profile} (inFirst : first ∈ profiles)
    (inSecond : second ∈ profiles) (isLess : first.id < second.id) {link : Link} :
    (pairLinks index).lookup (first.id, second.id) = some link ↔
      sharedEntities profiles first second ≠ ∅ ∧
        link = comparedLink profiles first second := by
  have member : ∀ token hit, ⟨token, hit⟩ ∈ linkingEntries index (first.id, second.id) ↔
      hit = hitOf profiles token ∧ token ∈ sharedEntities profiles first second :=
    fun token hit => mem_linkingEntries distinct isIndex inFirst inSecond isLess
  have nodup : ((linkingEntries index (first.id, second.id)).map Sigma.fst).Nodup :=
    index.nodupKeys.sublist List.filter_sublist
  rw [lookup_pairLinks]
  generalize linkingEntries index (first.id, second.id) = entries at member nodup ⊢
  have isShared : (entries.map Sigma.fst).toFinset = sharedEntities profiles first second := by
    ext token
    rw [List.mem_toFinset, List.mem_map]
    constructor
    · rintro ⟨⟨_, hit⟩, isIn, rfl⟩
      exact ((member _ hit).mp isIn).2
    · intro isIn
      exact ⟨⟨token, hitOf profiles token⟩, (member token _).mpr ⟨rfl, isIn⟩, rfl⟩
  have scores : (entries.map fun entry => entry.snd.score (first.id, second.id)) =
      (entries.map Sigma.fst).map (entityScore profiles first second) := by
    rw [List.map_map]
    apply List.map_congr_left
    intro entry isIn
    obtain ⟨isHit, inShared⟩ := (member entry.fst entry.snd).mp isIn
    rw [isHit]
    exact score_hitOf distinct inFirst inSecond inShared
  have best : ((entries.map Sigma.fst).map (entityScore profiles first second)).foldl max 0 =
      (sharedEntities profiles first second).fold max 0 (entityScore profiles first second) := by
    rw [← isShared, Finset.fold, List.toFinset_val, nodup.dedup, Multiset.map_coe,
      Multiset.coe_fold_l]
  have isEmpty : entries ≠ [] ↔ sharedEntities profiles first second ≠ ∅ := by
    rw [← isShared, Ne, Ne, List.toFinset_eq_empty_iff, List.map_eq_nil_iff]
  rw [isEmpty, scores, best, isShared]
  rfl

/-- The links are those of the linked pairs. -/
theorem mem_entries_pairLinks {pair : String × String} {link : Link} :
    ⟨pair, link⟩ ∈ (pairLinks index).entries ↔
      ∃ linked ∈ linkedPairs profiles, pair = (linked.1.id, linked.2.id) ∧
        link = comparedLink profiles linked.1 linked.2 := by
  have isEntry : (⟨pair, link⟩ : Sigma fun _ : String × String => Link) ∈
      (pairLinks index).entries ↔ (pairLinks index).lookup pair = some link :=
    AList.mem_lookup_iff.symm
  have linked : ∀ first second, (first, second) ∈ linkedPairs profiles ↔
      (first ∈ profiles ∧ second ∈ profiles) ∧ first.id < second.id ∧
        sharedEntities profiles first second ≠ ∅ := by
    intro first second
    unfold linkedPairs
    rw [List.mem_filter, List.pair_mem_product, decide_eq_true_iff]
  rw [isEntry]
  constructor
  · intro isFound
    obtain ⟨someEntries, _⟩ := lookup_pairLinks.mp isFound
    obtain ⟨entry, isIn⟩ := List.exists_mem_of_ne_nil _ someEntries
    obtain ⟨inIndex, isLinked⟩ := List.mem_filter.mp isIn
    obtain ⟨isLess, firstIn, secondIn, _⟩ := of_decide_eq_true isLinked
    obtain ⟨isHit, _, _⟩ := (isIndex _ _).mp (AList.mem_lookup_iff.mpr inIndex)
    rw [isHit] at firstIn secondIn
    obtain ⟨first, inFirst, firstId, _⟩ := mem_involved.mp firstIn
    obtain ⟨second, inSecond, secondId, _⟩ := mem_involved.mp secondIn
    have isPair : pair = (first.id, second.id) := by
      rw [firstId, secondId]
    rw [← firstId, ← secondId] at isLess
    rw [isPair] at isFound
    obtain ⟨isShared, isLink⟩ :=
      (lookup_pairLinks_id distinct isIndex inFirst inSecond isLess).mp isFound
    exact ⟨(first, second), (linked first second).mpr ⟨⟨inFirst, inSecond⟩, isLess, isShared⟩,
      isPair, isLink⟩
  · rintro ⟨⟨first, second⟩, isIn, rfl, rfl⟩
    obtain ⟨⟨inFirst, inSecond⟩, isLess, isShared⟩ := (linked first second).mp isIn
    exact (lookup_pairLinks_id distinct isIndex inFirst inSecond isLess).mpr ⟨isShared, rfl⟩

end Agreement

/-! ## The ranking -/

section Ranking

theorem ranksBefore_iff {edge other : Edge} :
    edge.ranksBefore other = true ↔ other.confidence < edge.confidence ∨
      other.confidence = edge.confidence ∧ toLex edge.ends ≤ toLex other.ends :=
  decide_eq_true_iff

theorem ranksBefore_trans (first second third : Edge) (front : first.ranksBefore second = true)
    (back : second.ranksBefore third = true) : first.ranksBefore third = true := by
  rw [ranksBefore_iff] at front back ⊢
  rcases front with higher | ⟨same, atMost⟩
  · rcases back with higherBack | ⟨sameBack, _⟩
    · exact Or.inl (lt_trans higherBack higher)
    · exact Or.inl (sameBack ▸ higher)
  · rcases back with higherBack | ⟨sameBack, atMostBack⟩
    · exact Or.inl (same ▸ higherBack)
    · exact Or.inr ⟨sameBack.trans same, le_trans atMost atMostBack⟩

theorem ranksBefore_total (first second : Edge) :
    (first.ranksBefore second || second.ranksBefore first) = true := by
  rw [Bool.or_eq_true, ranksBefore_iff, ranksBefore_iff]
  rcases lt_trichotomy second.confidence first.confidence with higher | same | lower
  · exact Or.inl (Or.inl higher)
  · rcases le_total (toLex first.ends) (toLex second.ends) with atMost | atLeast
    · exact Or.inl (Or.inr ⟨same, atMost⟩)
    · exact Or.inr (Or.inr ⟨same.symm, atLeast⟩)
  · exact Or.inr (Or.inl lower)

theorem ends_eq_of_ranksBefore {first second : Edge} (front : first.ranksBefore second = true)
    (back : second.ranksBefore first = true) : first.ends = second.ends := by
  rw [ranksBefore_iff] at front back
  rcases front with higher | ⟨_, atMost⟩
  · rcases back with lower | ⟨same, _⟩
    · exact absurd lower (lt_asymm higher)
    · exact absurd higher (same ▸ lt_irrefl _)
  · rcases back with lower | ⟨_, atLeast⟩
    · next same => exact absurd lower (same ▸ lt_irrefl _)
    · exact toLex_inj.mp (le_antisymm atMost atLeast)

/-- A ranking is determined by what it ranks. -/
theorem eq_of_ranked {edges others : List Edge}
    (ranked : edges.Pairwise fun edge other => edge.ranksBefore other = true)
    (othersRanked : others.Pairwise fun edge other => edge.ranksBefore other = true)
    (distinct : (edges.map Edge.ends).Nodup) (same : edges.Perm others) : edges = others := by
  refine List.Perm.eq_of_pairwise ?_ ranked othersRanked same
  intro edge other isIn isOther front back
  exact List.inj_on_of_nodup_map distinct isIn (same.mem_iff.mpr isOther)
    (ends_eq_of_ranksBefore front back)

/-- Two sorts, the second of them stable, rank the edges. -/
theorem ranked_rankedEdges (pairs : Dict (String × String) Link) :
    (rankedEdges pairs).Pairwise fun edge other => edge.ranksBefore other = true := by
  have byEnds : ((pairs.entries.mergeSort fun entry other =>
      decide (toLex entry.fst ≤ toLex other.fst)).map
        fun entry => entry.snd.edge entry.fst).Pairwise
          fun edge other => toLex edge.ends ≤ toLex other.ends := by
    rw [List.pairwise_map]
    have trans : ∀ first second third : Sigma fun _ : String × String => Link,
        decide (toLex first.fst ≤ toLex second.fst) = true →
          decide (toLex second.fst ≤ toLex third.fst) = true →
            decide (toLex first.fst ≤ toLex third.fst) = true := by
      intro first second third front back
      rw [decide_eq_true_iff] at front back ⊢
      exact le_trans front back
    have total : ∀ first second : Sigma fun _ : String × String => Link,
        (decide (toLex first.fst ≤ toLex second.fst) ||
          decide (toLex second.fst ≤ toLex first.fst)) = true := by
      intro first second
      rw [Bool.or_eq_true, decide_eq_true_iff, decide_eq_true_iff]
      exact le_total _ _
    have sorted := List.pairwise_mergeSort trans total pairs.entries
    exact sorted.imp fun isSorted => of_decide_eq_true isSorted
  have trans : ∀ first second third : Edge,
      decide (second.confidence ≤ first.confidence) = true →
        decide (third.confidence ≤ second.confidence) = true →
          decide (third.confidence ≤ first.confidence) = true := by
    intro first second third front back
    rw [decide_eq_true_iff] at front back ⊢
    exact le_trans back front
  have total : ∀ first second : Edge, (decide (second.confidence ≤ first.confidence) ||
      decide (first.confidence ≤ second.confidence)) = true := by
    intro first second
    rw [Bool.or_eq_true, decide_eq_true_iff, decide_eq_true_iff]
    exact le_total _ _
  have stable := pairwise_mergeSort_stable trans total byEnds
  refine stable.imp fun {edge other} isStable => ?_
  rw [decide_eq_true_iff, decide_eq_true_iff] at isStable
  rw [ranksBefore_iff]
  rcases lt_or_eq_of_le isStable.1 with higher | same
  · exact Or.inl higher
  · exact Or.inr ⟨same, isStable.2 same.ge⟩

theorem rankedEdges_perm (pairs : Dict (String × String) Link) :
    (rankedEdges pairs).Perm (pairs.entries.map fun entry => entry.snd.edge entry.fst) :=
  (List.mergeSort_perm _ _).trans ((List.mergeSort_perm _ _).map _)

end Ranking

/-! ## The overview is the comparison -/

section Overview

variable {profiles : List Profile}

theorem nodup_linkedPairs (distinct : (profiles.map Profile.id).Nodup) :
    (((linkedPairs profiles).map (comparedEdge profiles)).map Edge.ends).Nodup := by
  have nodup : (linkedPairs profiles).Nodup :=
    ((List.Nodup.of_map _ distinct).product (List.Nodup.of_map _ distinct)).filter _
  rw [List.map_map]
  refine nodup.map_on ?_
  intro pair isIn other isOther same
  have members := List.mem_product.mp (List.mem_filter.mp isIn).1
  have othersIn := List.mem_product.mp (List.mem_filter.mp isOther).1
  obtain ⟨sameFirst, sameSecond⟩ := Prod.mk.inj same
  exact Prod.ext (eq_of_id distinct members.1 othersIn.1 sameFirst)
    (eq_of_id distinct members.2 othersIn.2 sameSecond)

theorem ranked_comparedEdges :
    (comparedEdges profiles).Pairwise fun edge other => edge.ranksBefore other = true :=
  List.pairwise_mergeSort ranksBefore_trans ranksBefore_total _

theorem comparedEdges_perm :
    (comparedEdges profiles).Perm ((linkedPairs profiles).map (comparedEdge profiles)) :=
  List.mergeSort_perm _ _

/-- Each pair has one edge at most. -/
theorem nodup_ends_comparedEdges (distinct : (profiles.map Profile.id).Nodup) :
    ((comparedEdges profiles).map Edge.ends).Nodup :=
  ((comparedEdges_perm.map Edge.ends).nodup_iff).mpr (nodup_linkedPairs distinct)

/-- The index gives the edges of the comparison, ranked alike. -/
theorem rankedEdges_eq_comparedEdges (distinct : (profiles.map Profile.id).Nodup)
    {index : Dict Token Hit}
    (isIndex : ∀ token hit, index.lookup token = some hit ↔
      hit = hitOf profiles token ∧ token ∉ stopwordEntities ∧
        (hitOf profiles token).involved.Nonempty) :
    rankedEdges (pairLinks index) = comparedEdges profiles := by
  have linksNodup : (((pairLinks index).entries.map fun entry =>
      entry.snd.edge entry.fst).map Edge.ends).Nodup := by
    rw [List.map_map]
    exact (pairLinks index).nodupKeys
  have pairsNodup := nodup_linkedPairs distinct
  have same : ((pairLinks index).entries.map fun entry => entry.snd.edge entry.fst).Perm
      ((linkedPairs profiles).map (comparedEdge profiles)) := by
    rw [List.perm_ext_iff_of_nodup (List.Nodup.of_map _ linksNodup)
      (List.Nodup.of_map _ pairsNodup)]
    intro edge
    rw [List.mem_map, List.mem_map]
    constructor
    · rintro ⟨⟨pair, link⟩, isIn, rfl⟩
      obtain ⟨linked, isLinked, rfl, rfl⟩ := (mem_entries_pairLinks distinct isIndex).mp isIn
      exact ⟨linked, isLinked, rfl⟩
    · rintro ⟨linked, isLinked, rfl⟩
      exact ⟨⟨_, _⟩, (mem_entries_pairLinks distinct isIndex).mpr ⟨linked, isLinked, rfl, rfl⟩,
        rfl⟩
  have shown := rankedEdges_perm (pairLinks index)
  refine eq_of_ranked (ranked_rankedEdges _) ranked_comparedEdges ?_ ?_
  · exact (shown.map Edge.ends).nodup_iff.mpr linksNodup
  · exact (shown.trans same).trans comparedEdges_perm.symm

/-! ### Other orders -/

theorem fanout_of_perm {others : List Profile} (same : profiles.Perm others) (token : Token) :
    fanout profiles token = fanout others token :=
  same.countP_eq _

theorem comparedEdges_of_perm {others : List Profile}
    (distinct : (profiles.map Profile.id).Nodup) (same : profiles.Perm others) :
    comparedEdges profiles = comparedEdges others := by
  have fanouts : fanout profiles = fanout others := funext fun token => fanout_of_perm same token
  have sharedSame : sharedEntities profiles = sharedEntities others := by
    unfold sharedEntities
    rw [fanouts]
  have edgesSame : comparedEdge profiles = comparedEdge others := by
    unfold comparedEdge comparedLink entityScore
    rw [sharedSame, fanouts]
  have pairsSame : (linkedPairs profiles).Perm (linkedPairs others) := by
    unfold linkedPairs
    rw [sharedSame]
    exact (same.product same).filter _
  have shown : (comparedEdges profiles).Perm (comparedEdges others) := by
    refine comparedEdges_perm.trans (List.Perm.trans ?_ comparedEdges_perm.symm)
    rw [edgesSame]
    exact pairsSame.map _
  exact eq_of_ranked ranked_comparedEdges ranked_comparedEdges
    (nodup_ends_comparedEdges distinct) shown

end Overview

/-! ### The order of the tables -/

section Tables

variable (lowercase : Lowercase)

theorem foldl_addForeignKey (keys : List ForeignKey) :
    ∃ added : Finset Token, ∀ signals : Signals,
      keys.foldl (Signals.addForeignKey lowercase) signals =
        ⟨signals.defines, added ∪ signals.refers⟩ := by
  induction keys with
  | nil => exact ⟨∅, fun signals => by simp⟩
  | cons key rest inductionHypothesis =>
      obtain ⟨added, isAdded⟩ := inductionHypothesis
      refine ⟨added ∪ {normalizeEntity lowercase key.referencedTable}, fun signals => ?_⟩
      rw [List.foldl_cons, isAdded]
      simp only [Signals.addForeignKey, Finset.insert_eq, Finset.union_assoc]

theorem foldl_addColumn (columns : List Column) :
    ∃ added : Finset Token, ∀ signals : Signals,
      columns.foldl (Signals.addColumn lowercase) signals =
        ⟨signals.defines, added ∪ signals.refers⟩ := by
  induction columns with
  | nil => exact ⟨∅, fun signals => by simp⟩
  | cons column rest inductionHypothesis =>
      obtain ⟨added, isAdded⟩ := inductionHypothesis
      cases isReferred : referredName lowercase column with
      | none =>
          refine ⟨added, fun signals => ?_⟩
          rw [List.foldl_cons, isAdded]
          simp [Signals.addColumn, isReferred]
      | some name =>
          refine ⟨added ∪ {normalizeEntity lowercase (some name)}, fun signals => ?_⟩
          rw [List.foldl_cons, isAdded]
          simp only [Signals.addColumn, isReferred, Finset.insert_eq, Finset.union_assoc]

/-- A table adds its own entities, whatever was found before. -/
theorem addTable_eq (table : Table) :
    ∃ added : Finset Token, ∀ signals : Signals,
      signals.addTable lowercase table =
        ⟨{normalizeEntity lowercase table.name} ∪ signals.defines, added ∪ signals.refers⟩ := by
  obtain ⟨byKeys, isByKeys⟩ := foldl_addForeignKey lowercase table.foreignKeys
  obtain ⟨byColumns, isByColumns⟩ := foldl_addColumn lowercase table.columns
  refine ⟨byColumns ∪ byKeys, fun signals => ?_⟩
  unfold Signals.addTable
  dsimp only
  rw [isByKeys, isByColumns]
  simp only [Finset.insert_eq, Finset.union_assoc]

theorem entitySignals_of_perm {snapshot other : Snapshot}
    (same : snapshot.tables.Perm other.tables) :
    entitySignals lowercase snapshot = entitySignals lowercase other := by
  have commutes : RightCommutative (Signals.addTable lowercase) := by
    refine ⟨fun signals table next => ?_⟩
    obtain ⟨added, isAdded⟩ := addTable_eq lowercase table
    obtain ⟨later, isLater⟩ := addTable_eq lowercase next
    rw [isAdded, isLater, isLater, isAdded]
    simp only [Finset.union_left_comm]
  unfold entitySignals
  rw [same.foldl_eq]

/-- The same database, with its tables in another order. -/
structure Shuffled (database other : Database) : Prop where
  id : database.id = other.id
  tables : Option.Rel (fun snapshot shuffled : Snapshot => snapshot.tables.Perm shuffled.tables)
    database.snapshot other.snapshot

/-- The same databases in another order, and their tables too. -/
def Reordered (databases others : List Database) : Prop :=
  ∃ middle, databases.Perm middle ∧ List.Forall₂ Shuffled middle others

theorem Shuffled.profile_eq {database other : Database} (shuffled : Shuffled database other) :
    database.profile lowercase = other.profile lowercase := by
  have tables := shuffled.tables
  unfold Database.profile
  generalize database.snapshot = before, other.snapshot = after at tables ⊢
  cases tables with
  | none => rfl
  | some same =>
      rw [Option.map_some, Option.map_some, entitySignals_of_perm lowercase same, shuffled.id]

theorem profilesOf_of_shuffled {databases others : List Database}
    (shuffled : List.Forall₂ Shuffled databases others) :
    profilesOf lowercase databases = profilesOf lowercase others := by
  induction shuffled with
  | nil => rfl
  | cons first _ inductionHypothesis =>
      unfold profilesOf at inductionHypothesis ⊢
      rw [List.filterMap_cons, List.filterMap_cons, first.profile_eq, inductionHypothesis]

theorem profilesOf_of_reordered {databases others : List Database}
    (reordered : Reordered databases others) :
    (profilesOf lowercase databases).Perm (profilesOf lowercase others) := by
  obtain ⟨middle, permuted, shuffled⟩ := reordered
  rw [← profilesOf_of_shuffled lowercase shuffled]
  exact permuted.filterMap _

theorem map_id_of_shuffled {databases others : List Database}
    (shuffled : List.Forall₂ Shuffled databases others) :
    databases.map Database.id = others.map Database.id := by
  induction shuffled with
  | nil => rfl
  | cons first _ inductionHypothesis =>
      rw [List.map_cons, List.map_cons, first.id, inductionHypothesis]

theorem map_id_of_reordered {databases others : List Database}
    (reordered : Reordered databases others) :
    (databases.map Database.id).Perm (others.map Database.id) := by
  obtain ⟨middle, permuted, shuffled⟩ := reordered
  rw [← map_id_of_shuffled shuffled]
  exact permuted.map _

end Tables

/-! ### The overview -/

/-- The overview shows the first of all edges, and counts all of them. -/
structure ShowsComparison (lowercase : Lowercase) (databases : List Database)
    (graph : OverviewGraph) : Prop where
  edges : graph.edges = (comparedEdges (profilesOf lowercase databases)).take maxEdges
  once : ((comparedEdges (profilesOf lowercase databases)).map Edge.ends).Nodup
  stats : graph.stats =
    { databases := databases.length
      snapshotted := (profilesOf lowercase databases).length
      links := min maxEdges (comparedEdges (profilesOf lowercase databases)).length
      totalLinks := (comparedEdges (profilesOf lowercase databases)).length
      truncated := decide
        (maxEdges < (comparedEdges (profilesOf lowercase databases)).length) }

section Overview

variable {lowercase : Lowercase} {order : SetOrder} {databases : List Database}

/-- What the index has is what the profiles have. -/
theorem lookup_indexOf (distinct : (databases.map Database.id).Nodup) (token : Token)
    (hit : Hit) :
    (indexOf order (signalsOf lowercase databases ∅)).lookup token = some hit ↔
      hit = hitOf (profilesOf lowercase databases) token ∧ token ∉ stopwordEntities ∧
        (hitOf (profilesOf lowercase databases) token).involved.Nonempty := by
  have isEmpty : (∅ : Dict String Signals).entries = [] := rfl
  have absent : ∀ database ∈ databases, database.id ∉ (∅ : Dict String Signals) :=
    fun _ _ isIn => AList.notMem_empty _ isIn
  have entries := entries_signalsOf lowercase distinct absent
  have sameItems : ((signalsOf lowercase databases ∅).entries.flatMap fun entry =>
      mentionsOf order entry.fst entry.snd) =
        mentions order (profilesOf lowercase databases) := by
    rw [entries, isEmpty, List.nil_append, List.flatMap_map]
    rfl
  unfold indexOf
  rw [sameItems]
  exact lookup_index

theorem showsComparison (distinct : (databases.map Database.id).Nodup) :
    ShowsComparison lowercase databases (buildOverviewGraph lowercase order databases) := by
  have distinctProfiles := nodup_profilesOf lowercase distinct
  have sameEdges : rankedEdges (pairLinks (indexOf order (signalsOf lowercase databases ∅))) =
      comparedEdges (profilesOf lowercase databases) :=
    rankedEdges_eq_comparedEdges distinctProfiles (lookup_indexOf distinct)
  have kept : (buildOverviewGraph lowercase order databases).edges =
      (comparedEdges (profilesOf lowercase databases)).take maxEdges := by
    unfold buildOverviewGraph
    dsimp only
    rw [sameEdges]
    split
    · rfl
    · next notMore =>
        have short := not_lt.mp fun isMore => notMore (decide_eq_true isMore)
        exact (List.take_of_length_le short).symm
  have snapshotted : (signalsOf lowercase databases ∅).entries.length =
      (profilesOf lowercase databases).length := by
    have absent : ∀ database ∈ databases, database.id ∉ (∅ : Dict String Signals) :=
      fun _ _ isIn => AList.notMem_empty _ isIn
    rw [entries_signalsOf lowercase distinct absent, List.length_append, List.length_map]
    exact Nat.zero_add _
  have counted : (buildOverviewGraph lowercase order databases).stats =
      { databases := databases.length
        snapshotted := (profilesOf lowercase databases).length
        links := (buildOverviewGraph lowercase order databases).edges.length
        totalLinks := (comparedEdges (profilesOf lowercase databases)).length
        truncated := decide
          (maxEdges < (comparedEdges (profilesOf lowercase databases)).length) } := by
    unfold buildOverviewGraph
    dsimp only
    rw [sameEdges, snapshotted]
  rw [kept, List.length_take] at counted
  exact ⟨kept, nodup_ends_comparedEdges distinctProfiles, counted⟩

/-- The overview is the comparison of all pairs, in whatever order the databases, their tables
and the sets of Python come. -/
theorem overview_exact (lowercase : Lowercase) (order : SetOrder)
    (distinct : (databases.map Database.id).Nodup) :
    ShowsComparison lowercase databases (buildOverviewGraph lowercase order databases) ∧
      ∀ others otherOrder, Reordered databases others →
        (buildOverviewGraph lowercase otherOrder others).edges =
            (buildOverviewGraph lowercase order databases).edges ∧
          (buildOverviewGraph lowercase otherOrder others).stats =
            (buildOverviewGraph lowercase order databases).stats := by
  have shown : ShowsComparison lowercase databases
      (buildOverviewGraph lowercase order databases) := showsComparison distinct
  refine ⟨shown, ?_⟩
  intro others otherOrder reordered
  have ids := map_id_of_reordered reordered
  have othersDistinct : (others.map Database.id).Nodup := ids.nodup_iff.mp distinct
  have othersShown : ShowsComparison lowercase others
      (buildOverviewGraph lowercase otherOrder others) := showsComparison othersDistinct
  have profiles := profilesOf_of_reordered lowercase reordered
  have sameEdges := comparedEdges_of_perm (nodup_profilesOf lowercase distinct) profiles
  have sameCount : others.length = databases.length := by
    have length := ids.length_eq
    rw [List.length_map, List.length_map] at length
    exact length.symm
  constructor
  · rw [othersShown.edges, shown.edges, sameEdges]
  · rw [othersShown.stats, shown.stats, sameEdges, sameCount, profiles.length_eq]

/-! ### A shop and its mailing list -/

/-- Sets in the order of their entities. -/
def sortedOrder : SetOrder where
  list tokens := tokens.sort (· ≤ ·)
  listed tokens := Finset.sort_eq tokens _

/-- A database with one table. -/
def databaseOf (id table : String) (columns : List String) : Database where
  id := id
  label := none
  engine := some "sqlite"
  database := none
  snapshot := some
    { tables :=
        [{ name := some table.toList
           columns := columns.map fun name => ⟨some name.toList⟩
           foreignKeys := [] }] }
  capturedAt := none

def shopAndList : List Database :=
  [databaseOf "shop" "customers" ["id", "name"], databaseOf "list" "mails" ["customer_id"]]

example : (profilesOf asciiLowercase shopAndList).map (fun profile => profile.signals.refers) =
    [∅, {"customer".toList}] := by
  decide

theorem overview_exact_shopAndList :
    ShowsComparison asciiLowercase shopAndList
        (buildOverviewGraph asciiLowercase sortedOrder shopAndList) ∧
      ∀ others otherOrder, Reordered shopAndList others →
        (buildOverviewGraph asciiLowercase otherOrder others).edges =
            (buildOverviewGraph asciiLowercase sortedOrder shopAndList).edges ∧
          (buildOverviewGraph asciiLowercase otherOrder others).stats =
            (buildOverviewGraph asciiLowercase sortedOrder shopAndList).stats :=
  overview_exact asciiLowercase sortedOrder (by decide)

end Overview

end DbBuddy.Relations
