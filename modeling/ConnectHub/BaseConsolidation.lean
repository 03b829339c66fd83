import ConnectHub.BaseDiagnosis
import ConnectHub.CleanupInvariant

/-!
# Consolidating the base

One transaction makes the links that are missing and adds the constraints that demand them. It goes
through exactly where the diagnosis finds no dangling reference and no ambiguous remote identity; it
leaves everything but the missing links as it was; and from then on the writers of the Hub keep the
diagnosis clean.
-/

namespace ConnectHub

open Store

/-- Whether two instances on one provider have the same remote identity. -/
def Database.ambiguousRemoteIds (db : Database) : Bool :=
  db.instances.rows.any fun i => i.providerInstanceId.isSome && decide (1 < db.instances.rows.countP fun j =>
    j.vpsProviderId = i.vpsProviderId && j.providerInstanceId = i.providerInstanceId)

/-- Make the links that are missing, then add the constraints that demand them. -/
def consolidateEvolutionBase : Tx Unit := do
  modify (·.backfilled)
  let db ← get
  throwWhen (db.ambiguousRemoteIds = true)
    (.internal "Ambiguous provider instance IDs: diagnose before consolidation")
  throwWhen (db.products.rows.any (fun p =>
      p.vpsProviderId.any fun v => (db.links.find? (p.id, v)).isNone) = true)
    (.internal "Product_id_vpsProviderId_fkey")
  throwWhen (db.instances.rows.any (fun i =>
      (db.links.find? (i.productId, i.vpsProviderId)).isNone) = true)
    (.internal "Instance_productId_vpsProviderId_fkey")
  set { db with baseConsolidated := true }

/-- Links are of products and providers that are there. -/
def Database.LinksReferenced (db : Database) : Prop :=
  ∀ p v, db.HasLink p v → db.products.find? p ≠ none ∧ db.providers.find? v ≠ none

section Backfill

variable {env : Env} {db db' : Database} {p v : Uuid} {pair other : Uuid × Uuid}

/-- Making sure of several links adds those that are not there, in order. -/
theorem foldl_ensureLink_rows (link : Uuid × Uuid → ProductEvolution) (hlink : ∀ pair, Keyed.key (link pair) = pair)
    {pairs : List (Uuid × Uuid)} (hpairs : pairs.Nodup) (made : Database) :
    ∃ links, pairs.foldl (fun made pair => made.ensureLink (link pair)) made = { made with links := links } ∧
      links.rows = made.links.rows ++
        (pairs.filter fun pair => (made.links.find? pair).isNone).map link := by
  induction pairs generalizing made with
  | nil => exact ⟨made.links, rfl, (List.append_nil _).symm⟩
  | cons pair pairs ih =>
    obtain ⟨hnew, hrest⟩ := List.nodup_cons.mp hpairs
    obtain ⟨links, heq, hrows⟩ := ih hrest (made.ensureLink (link pair))
    rw [List.foldl_cons, heq]
    unfold Database.ensureLink at hrows ⊢
    cases hinsert : made.links.insert? (link pair) with
    | none =>
      -- the pair is linked already
      obtain ⟨l, hl, hkey⟩ := Table.insert?_eq_none hinsert
      have hfound : made.links.find? pair = some l := Table.find?_eq_some.mpr ⟨hl, hkey.trans (hlink pair)⟩
      simp only [hinsert, Option.getD_none] at hrows ⊢
      refine ⟨links, rfl, ?_⟩
      rw [hrows, List.filter_cons_of_neg (by rw [hfound]; exact Bool.false_ne_true)]
    | some inserted =>
      obtain ⟨hfresh, hadded⟩ := Table.insert?_eq_some hinsert
      have hfound : made.links.find? pair = none :=
        Table.find?_eq_none.mpr fun l hl hkey => hfresh l hl (hkey.trans (hlink pair).symm)
      have hothers : pairs.filter (fun other => (inserted.find? other).isNone) =
          pairs.filter fun other => (made.links.find? other).isNone := by
        refine List.filter_congr fun other hother => ?_
        rw [Table.find?_insert? hinsert, if_neg]
        rw [hlink]
        rintro rfl
        exact hnew hother
      simp only [hinsert, Option.getD_some] at hrows ⊢
      refine ⟨links, rfl, ?_⟩
      rw [hrows, hothers, hadded, List.filter_cons_of_pos (by rw [hfound]; rfl), List.map_cons, List.append_assoc,
        List.singleton_append]

/-- The pairs in use whose product and provider are there. -/
theorem usedPairs_eq : db.usedPairs = db.expectedPairs.filter fun pair =>
    (db.products.find? pair.1).isSome && (db.providers.find? pair.2).isSome := rfl

/-- No pair in use is listed twice. -/
theorem usedPairs_nodup : db.usedPairs.Nodup := expectedPairs_nodup.filter _

/-- A pair that is used where its product and its provider are there. -/
theorem mem_usedPairs : pair ∈ db.usedPairs ↔ db.Uses pair.1 pair.2 ∧
    db.products.find? pair.1 ≠ none ∧ db.providers.find? pair.2 ≠ none := by
  rw [usedPairs_eq, List.mem_filter, mem_expectedPairs, Bool.and_eq_true, Option.isSome_iff_ne_none,
    Option.isSome_iff_ne_none]

/-- The pairs that a backfill links. -/
def Database.linkedNew (db : Database) : List (Uuid × Uuid) :=
  db.usedPairs.filter fun pair => (db.links.find? pair).isNone

/-- The backfill adds the links of the pairs that have none, and changes nothing else. -/
theorem backfilled_eq : ∃ links, db.backfilled = { db with links := links } ∧
    links.rows = db.links.rows ++ db.linkedNew.map db.backfillLink :=
  foldl_ensureLink_rows db.backfillLink (fun _ => rfl) usedPairs_nodup db

/-- What is linked after the backfill. -/
theorem hasLink_backfilled : db.backfilled.HasLink p v ↔ db.HasLink p v ∨ (p, v) ∈ db.usedPairs := by
  obtain ⟨links, heq, hrows⟩ := @backfilled_eq db
  have hmem : ∀ l, l ∈ links ↔ l ∈ db.links ∨ ∃ pair ∈ db.linkedNew, db.backfillLink pair = l := fun l => by
    rw [← Table.mem_rows, hrows, List.mem_append, List.mem_map, Table.mem_rows]
  rw [heq]
  constructor
  · rintro ⟨l, hl, rfl, rfl⟩
    rcases (hmem l).mp hl with hold | ⟨pair, hpair, rfl⟩
    · exact Or.inl ⟨l, hold, rfl, rfl⟩
    · exact Or.inr (List.mem_filter.mp hpair).1
  · rintro (⟨l, hl, rfl, rfl⟩ | hused)
    · exact ⟨l, (hmem l).mpr (Or.inl hl), rfl, rfl⟩
    · by_cases hlinked : db.HasLink p v
      · obtain ⟨l, hl, rfl, rfl⟩ := hlinked
        exact ⟨l, (hmem l).mpr (Or.inl hl), rfl, rfl⟩
      · rw [hasLink_iff, not_not] at hlinked
        exact ⟨_, (hmem _).mpr (Or.inr ⟨(p, v), List.mem_filter.mpr ⟨hused, Option.isNone_iff_eq_none.mpr hlinked⟩,
          rfl⟩), rfl, rfl⟩

/-- The consolidation goes through where no remote identity is ambiguous and every pair in use is linked once the
missing links were made. -/
theorem consolidate_ok {r : Unit × Database} : consolidateEvolutionBase.run db = .ok r ↔
    db.ambiguousRemoteIds = false ∧ (∀ p v, db.Uses p v → db.backfilled.HasLink p v) ∧
      r = ((), { db.backfilled with baseConsolidated := true }) := by
  obtain ⟨links, heq, -⟩ := @backfilled_eq db
  have hdefaults : ¬db.products.rows.any (fun p => p.vpsProviderId.any fun v => (links.find? (p.id, v)).isNone) = true ↔
      ∀ q ∈ db.products, ∀ v, q.vpsProviderId = some v → db.backfilled.HasLink q.id v := by
    simp only [List.any_eq_true, Option.any_eq_true, Option.isNone_iff_eq_none, not_exists, not_and, hasLink_iff, heq]
    exact Iff.rfl
  have hinstances : ¬db.instances.rows.any (fun i => (links.find? (i.productId, i.vpsProviderId)).isNone) = true ↔
      ∀ i ∈ db.instances, db.backfilled.HasLink i.productId i.vpsProviderId := by
    simp only [List.any_eq_true, Option.isNone_iff_eq_none, not_exists, not_and, hasLink_iff, heq]
    exact Iff.rfl
  have hrun : consolidateEvolutionBase.run db = .ok r ↔ ¬db.ambiguousRemoteIds = true ∧
      ¬db.products.rows.any (fun p => p.vpsProviderId.any fun v => (links.find? (p.id, v)).isNone) = true ∧
      ¬db.instances.rows.any (fun i => (links.find? (i.productId, i.vpsProviderId)).isNone) = true ∧
      r = ((), { db.backfilled with baseConsolidated := true }) := by
    simp only [consolidateEvolutionBase, modify_bind_ok, get_bind_ok, throwWhen_bind_ok, set_ok, heq]
    exact Iff.rfl
  rw [hrun, hdefaults, hinstances, Bool.not_eq_true]
  constructor
  · rintro ⟨hambiguous, hlinked, hplaced, hr⟩
    refine ⟨hambiguous, ?_, hr⟩
    rintro p v (⟨q, hq, rfl, hv⟩ | ⟨i, hi, rfl, rfl⟩)
    · exact hlinked q hq v hv
    · exact hplaced i hi
  · rintro ⟨hambiguous, hused, hr⟩
    exact ⟨hambiguous, fun q hq v hv => hused q.id v (Or.inl ⟨q, hq, rfl, hv⟩),
      fun i hi => hused _ _ (Or.inr ⟨i, hi, rfl, rfl⟩), hr⟩

/-- The instances that have the remote identity of one are counted as that identity is. -/
theorem countP_remoteIdentity {item : Instance} {key : Uuid × String} (hkey : item.remoteIdentity = some key) :
    (db.instances.rows.countP fun j =>
        j.vpsProviderId = item.vpsProviderId && j.providerInstanceId = item.providerInstanceId) =
      (db.instances.rows.filterMap (·.remoteIdentity)).count key := by
  obtain ⟨hprovider, hid⟩ := remoteIdentity_eq_some.mp hkey
  rw [List.count_filterMap]
  refine List.countP_congr fun j _ => ?_
  rw [Bool.and_eq_true, decide_eq_true_eq, decide_eq_true_eq, beq_iff_eq, remoteIdentity_eq_some, hprovider, hid]

/-- The check for ambiguous remote identities finds those that occur twice. -/
theorem ambiguousRemoteIds_eq_false :
    db.ambiguousRemoteIds = false ↔ (db.instances.rows.filterMap (·.remoteIdentity)).Nodup := by
  rw [List.nodup_iff_count_le_one, Database.ambiguousRemoteIds, List.any_eq_false]
  constructor
  · intro h key
    by_contra hmany
    rw [Nat.not_le] at hmany
    obtain ⟨item, hitem, hkey⟩ := List.mem_filterMap.mp (List.count_pos_iff.mp (Nat.zero_lt_of_lt hmany))
    refine h item hitem ?_
    rw [countP_remoteIdentity hkey, (remoteIdentity_eq_some.mp hkey).2, Option.isSome_some, Bool.true_and,
      decide_eq_true_eq]
    exact hmany
  · intro h item hitem hfound
    rw [Bool.and_eq_true, decide_eq_true_eq, Option.isSome_iff_exists] at hfound
    obtain ⟨⟨id, hid⟩, hmany⟩ := hfound
    have hkey : item.remoteIdentity = some (item.vpsProviderId, id) := remoteIdentity_eq_some.mpr ⟨rfl, hid⟩
    rw [countP_remoteIdentity hkey] at hmany
    exact absurd (h (item.vpsProviderId, id)) (Nat.not_le.mpr hmany)

/-- The consolidation goes through exactly where the diagnosis finds neither dangling references nor ambiguous remote
identities. -/
theorem consolidate_isOk (env : Env) (hlinks : db.LinksReferenced) :
    (∃ db', consolidateEvolutionBase.run db = .ok ((), db')) ↔
      (db.diagnosis env).orphanReferences = 0 ∧ (db.diagnosis env).duplicateRemoteIds = 0 := by
  rw [diagnosis_duplicateRemoteIds, repeatedKeys_eq_zero, ← ambiguousRemoteIds_eq_false,
    diagnosis_orphanReferences_eq_zero, and_comm]
  simp only [consolidate_ok]
  constructor
  · rintro ⟨made, hambiguous, hused, -⟩
    refine ⟨hambiguous, fun p v huses => ?_⟩
    rcases hasLink_backfilled.mp (hused p v huses) with hlinked | hpair
    · exact hlinks p v hlinked
    · exact (mem_usedPairs.mp hpair).2
  · rintro ⟨hambiguous, hreferenced⟩
    exact ⟨_, hambiguous, fun p v huses =>
      hasLink_backfilled.mpr (Or.inr (mem_usedPairs.mpr ⟨huses, hreferenced p v huses⟩)), rfl⟩

/-- Where no reference dangles, what is linked anew is what the diagnosis finds missing. -/
theorem linkedNew_length (h : (db.diagnosis env).orphanReferences = 0) :
    db.linkedNew.length = (db.diagnosis env).missingLinks := by
  have hreferenced := diagnosis_orphanReferences_eq_zero.mp h
  have hused : db.usedPairs = db.expectedPairs := by
    rw [usedPairs_eq, List.filter_eq_self]
    intro pair hpair
    obtain ⟨hproduct, hprovider⟩ := hreferenced pair.1 pair.2 (mem_expectedPairs.mp hpair)
    rw [Bool.and_eq_true, Option.isSome_iff_ne_none, Option.isSome_iff_ne_none]
    exact ⟨hproduct, hprovider⟩
  rw [diagnosis_missingLinks, Database.linkedNew, hused, Database.missingPairs]

/-- Links and the mark of the consolidation change no count but that of the missing links. -/
theorem diagnosis_withLinks (env : Env) (db : Database) (links : Table ProductEvolution) (consolidated : Bool) :
    ({ db with links := links, baseConsolidated := consolidated } : Database).diagnosis env =
      { db.diagnosis env with missingLinks :=
          (({ db with links := links, baseConsolidated := consolidated } : Database).diagnosis env).missingLinks } :=
  rfl

/-- Where every pair in use is linked, there is nothing to make. -/
theorem backfilled_of_linked (h : ∀ p v, db.Uses p v → db.HasLink p v) : db.backfilled = db := by
  obtain ⟨links, heq, hrows⟩ := @backfilled_eq db
  have hnone : db.linkedNew = [] := by
    rw [Database.linkedNew, List.filter_eq_nil_iff]
    intro pair hpair hunlinked
    exact hasLink_iff.mp (h pair.1 pair.2 (mem_usedPairs.mp hpair).1) (Option.isNone_iff_eq_none.mp hunlinked)
  rw [hnone, List.map_nil, List.append_nil] at hrows
  have hlinks : links = db.links := by
    cases links
    cases hold : db.links
    rw [hold] at hrows
    cases hrows
    rfl
  rw [heq, hlinks]

/-- The consolidation changes the links alone, and marks the base. -/
theorem consolidate_eq (h : consolidateEvolutionBase.run db = .ok ((), db')) :
    ∃ links, db' = { db with links := links, baseConsolidated := true } ∧
      links.rows = db.links.rows ++ db.linkedNew.map db.backfillLink := by
  obtain ⟨-, -, hdb⟩ := consolidate_ok.mp h
  obtain ⟨links, heq, hrows⟩ := @backfilled_eq db
  rw [heq] at hdb
  exact ⟨links, congrArg Prod.snd hdb, hrows⟩

/-- After the consolidation every pair in use is linked. -/
theorem consolidate_linked (h : consolidateEvolutionBase.run db = .ok ((), db')) :
    ∀ p v, db'.Uses p v → db'.HasLink p v := by
  obtain ⟨links, hsame, -⟩ := consolidate_eq h
  obtain ⟨-, hused, hdb⟩ := consolidate_ok.mp h
  intro p v huses
  have hbackfilled : db.backfilled.HasLink p v := by
    refine hused p v ?_
    rw [hsame] at huses
    exact huses
  rw [show db' = { db.backfilled with baseConsolidated := true } from congrArg Prod.snd hdb]
  exact hbackfilled

/-- A consolidated base is consolidated again without a change. -/
theorem consolidate_again (h : consolidateEvolutionBase.run db = .ok ((), db')) :
    consolidateEvolutionBase.run db' = .ok ((), db') := by
  have hlinked := consolidate_linked h
  have hagain : db'.backfilled = db' := backfilled_of_linked hlinked
  obtain ⟨links, hsame, -⟩ := consolidate_eq h
  refine consolidate_ok.mpr ⟨?_, fun p v huses => hasLink_backfilled.mpr (Or.inl (hlinked p v huses)), ?_⟩
  · rw [hsame]
    exact (consolidate_ok.mp h).1
  · rw [hagain, hsame]

/-- Fewer elements pass a narrower test that one of those that pass the wider test fails. -/
theorem countP_lt_countP {α : Type} {l : List α} {narrow wide : α → Bool} {a : α}
    (h : ∀ x ∈ l, narrow x = true → wide x = true) (ha : a ∈ l) (hwide : wide a = true) (hnarrow : narrow a ≠ true) :
    l.countP narrow < l.countP wide := by
  have hboth : (l.filter wide).filter narrow = l.filter narrow := by
    rw [List.filter_filter]
    refine List.filter_congr fun x hx => ?_
    cases hnarrows : narrow x with
    | false => rfl
    | true => rw [h x hx hnarrows, Bool.and_self]
  rw [List.countP_eq_length_filter, List.countP_eq_length_filter, ← hboth, List.length_filter_lt_length_iff_exists]
  exact ⟨a, List.mem_filter.mpr ⟨ha, hwide⟩, hnarrow⟩

/-- A product has one default. -/
theorem isDefaultPair_unique {a b : Uuid × Uuid} (hproduct : a.1 = b.1) (ha : db.isDefaultPair a = true)
    (hb : db.isDefaultPair b = true) : a = b := by
  rw [Database.isDefaultPair, hproduct] at ha
  rw [Database.isDefaultPair] at hb
  obtain ⟨q, hq, hdefault⟩ := (Option.any_eq_true _ _).mp ha
  rw [hq, Option.any_some] at hb
  exact Prod.ext hproduct (Option.some.inj ((of_decide_eq_true hdefault).symm.trans (of_decide_eq_true hb)))

/-- A pair that comes before another one of its product is ranked before it. -/
theorem pairRank_lt {a b : Uuid × Uuid} (hb : b ∈ db.usedPairs) (hproduct : a.1 = b.1)
    (hdefault : db.isDefaultPair a = db.isDefaultPair b) (hle : a.2.value ≤ b.2.value) (hne : a ≠ b) :
    db.pairRank a < db.pairRank b := by
  unfold Database.pairRank
  refine countP_lt_countP (fun other _ hother => ?_) hb ?_ fun hbefore => hne ?_
  · simp only [Bool.and_eq_true, Bool.or_eq_true, decide_eq_true_eq, hproduct, hdefault] at hother ⊢
    exact ⟨hother.1, hother.2.imp id fun hplace => ⟨hplace.1, String.le_trans hplace.2 hle⟩⟩
  · simp
  · simp only [Bool.and_eq_true, Bool.or_eq_true, decide_eq_true_eq, hdefault, Bool.not_eq_true', true_and] at hbefore
    rcases hbefore.2 with ⟨htrue, hfalse⟩ | hback
    · exact absurd (htrue.symm.trans hfalse) Bool.true_eq_false.mp
    · exact Prod.ext hproduct (uuid_value_inj (String.le_antisymm hle hback))

/-- The links made for the pairs of one product have different priorities. -/
theorem backfillLink_priority {a b : Uuid × Uuid} (ha : a ∈ db.usedPairs) (hb : b ∈ db.usedPairs)
    (hproduct : a.1 = b.1) (hne : a ≠ b) :
    (db.backfillLink a).allocationPriority ≠ (db.backfillLink b).allocationPriority := by
  have hpositive : ∀ pair ∈ db.usedPairs, 0 < db.pairRank pair := fun pair hpair =>
    List.countP_pos_iff.mpr ⟨pair, hpair, by simp⟩
  unfold Database.backfillLink
  dsimp only
  cases hdefault : db.isDefaultPair a with
  | true =>
    cases hother : db.isDefaultPair b with
    | true => exact absurd (isDefaultPair_unique hproduct hdefault hother) hne
    | false => simpa using (hpositive b hb).ne
  | false =>
    cases hother : db.isDefaultPair b with
    | true => simpa using (hpositive a ha).ne'
    | false =>
      simp only [Bool.false_eq_true, if_false]
      rcases String.le_total a.2.value b.2.value with hle | hle
      · exact (pairRank_lt hb hproduct (hdefault.trans hother.symm) hle hne).ne
      · exact (pairRank_lt ha hproduct.symm (hother.trans hdefault.symm) hle hne.symm).ne'

end Backfill

end ConnectHub
