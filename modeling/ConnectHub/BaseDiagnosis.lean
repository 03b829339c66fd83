import ConnectHub.JsonText
import ConnectHub.LinkInvariant
import ConnectHub.Store.Tally

/-!
# The diagnosis of the base

Before the base is consolidated, the Hub counts what stands in the way: pairs of a product and a provider
that are in use without a link, references to rows that are gone, and names, remote identities and
endpoints that several rows share. Pairs are counted under their JSON text.
-/

namespace ConnectHub

open Store

/-- What the diagnosis reports. -/
structure EvolutionBaseDiagnosis where
  products : ℕ
  providers : ℕ
  instances : ℕ
  sharedProviders : ℕ
  missingLinks : ℕ
  orphanReferences : ℕ
  duplicateProductNames : ℕ
  duplicateProviderNames : ℕ
  duplicateRemoteIds : ℕ
  endpointAliasGroups : ℕ
  invalidEndpoints : ℕ
  pendingIdentity : ℕ
deriving DecidableEq, Repr

/-- The text under which two texts are counted together. -/
def pairText (product provider : String) : List Char := (Json.arr [.str product, .str provider]).stringify

/-- The second of the texts counted together. -/
def secondOf (key : List Char) : Option String :=
  match Json.parse key with
  | some (.arr [_, .str provider]) => some provider
  | _ => none

/-- The pairs that should be linked: of every product and its default, and of every instance. -/
def expectedLinks (products : List Product) (instances : List Instance) : List (List Char) :=
  ((products.filterMap fun p => p.vpsProviderId.map fun v => pairText p.id.value v.value) ++
    instances.map fun i => pairText i.productId.value i.vpsProviderId.value).dedup

/-- Count what stands in the way of the consolidation, in the rows that were read. -/
def diagnoseEvolutionBase (env : Env) (products : List Product) (providers : List VpsProvider)
    (instances : List Instance) (links : List ProductEvolution) : EvolutionBaseDiagnosis :=
  let linkKeys := links.map fun l => pairText l.productId.value l.vpsProviderId.value
  let productIds := products.map (·.id)
  let providerIds := providers.map (·.id)
  let expected := expectedLinks products instances
  let endpoints := providers.map fun p => canonicalEvolutionEndpoint env p.providerUrl
  { products := products.length
    providers := providers.length
    instances := instances.length
    sharedProviders := repeatedKeys (expected.map secondOf)
    missingLinks := (expected.filter fun key => !linkKeys.contains key).length
    orphanReferences :=
      (products.filter fun p => p.vpsProviderId.any fun v => v ∉ providerIds).length +
        (instances.filter fun i => i.productId ∉ productIds || i.vpsProviderId ∉ providerIds).length
    duplicateProductNames := repeatedKeys (instances.map fun i => pairText i.productId.value i.instanceName)
    duplicateProviderNames := repeatedKeys (instances.map fun i => pairText i.vpsProviderId.value i.instanceName)
    duplicateRemoteIds :=
      repeatedKeys (instances.filterMap fun i => i.providerInstanceId.map (pairText i.vpsProviderId.value))
    endpointAliasGroups := repeatedKeys (endpoints.filterMap id)
    invalidEndpoints := (endpoints.filter fun endpoint => endpoint = none).length
    pendingIdentity := (providers.filter fun p => p.identityStatus ≠ .verified).length }

/-- The diagnosis of a database. -/
def Database.diagnosis (env : Env) (db : Database) : EvolutionBaseDiagnosis :=
  diagnoseEvolutionBase env db.products.rows db.providers.rows db.instances.rows db.links.rows

/-- Whether a product uses a provider: as its default, or through an instance. -/
def Database.Uses (db : Database) (p v : Uuid) : Prop :=
  (∃ q ∈ db.products, q.id = p ∧ q.vpsProviderId = some v) ∨
    ∃ i ∈ db.instances, i.productId = p ∧ i.vpsProviderId = v

/-- What a report says of a database: each count is the size of the set it is named after. -/
structure Database.Diagnosed (env : Env) (db : Database) (report : EvolutionBaseDiagnosis) : Prop where
  products : report.products = Set.ncard {p | p ∈ db.products}
  providers : report.providers = Set.ncard {p | p ∈ db.providers}
  instances : report.instances = Set.ncard {i | i ∈ db.instances}
  sharedProviders : report.sharedProviders = Set.ncard {v | ∃ p q, p ≠ q ∧ db.Uses p v ∧ db.Uses q v}
  missingLinks : report.missingLinks =
    Set.ncard {pair : Uuid × Uuid | db.Uses pair.1 pair.2 ∧ ¬db.HasLink pair.1 pair.2}
  orphanReferences : report.orphanReferences =
    Set.ncard {p | p ∈ db.products ∧ ∃ v, p.vpsProviderId = some v ∧ db.providers.find? v = none} +
      Set.ncard {i | i ∈ db.instances ∧
        (db.products.find? i.productId = none ∨ db.providers.find? i.vpsProviderId = none)}
  duplicateProductNames : report.duplicateProductNames =
    Set.ncard {key : Uuid × String | ∃ i ∈ db.instances, ∃ j ∈ db.instances, i ≠ j ∧
      (i.productId, i.instanceName) = key ∧ (j.productId, j.instanceName) = key}
  duplicateProviderNames : report.duplicateProviderNames =
    Set.ncard {key : Uuid × String | ∃ i ∈ db.instances, ∃ j ∈ db.instances, i ≠ j ∧
      (i.vpsProviderId, i.instanceName) = key ∧ (j.vpsProviderId, j.instanceName) = key}
  duplicateRemoteIds : report.duplicateRemoteIds =
    Set.ncard {key : Uuid × String | ∃ i ∈ db.instances, ∃ j ∈ db.instances, i ≠ j ∧
      (i.vpsProviderId = key.1 ∧ i.providerInstanceId = some key.2) ∧
        j.vpsProviderId = key.1 ∧ j.providerInstanceId = some key.2}
  endpointAliasGroups : report.endpointAliasGroups =
    Set.ncard {endpoint | ∃ p ∈ db.providers, ∃ q ∈ db.providers, p ≠ q ∧
      canonicalEvolutionEndpoint env p.providerUrl = some endpoint ∧
        canonicalEvolutionEndpoint env q.providerUrl = some endpoint}
  invalidEndpoints : report.invalidEndpoints =
    Set.ncard {p | p ∈ db.providers ∧ canonicalEvolutionEndpoint env p.providerUrl = none}
  pendingIdentity : report.pendingIdentity =
    Set.ncard {p | p ∈ db.providers ∧ p.identityStatus ≠ .verified}

section Pairs

/-- What is counted together is read back. -/
theorem parse_pairText (product provider : String) :
    Json.parse (pairText product provider) = some (.arr [.str product, .str provider]) :=
  parse_stringify ⟨trivial, trivial, trivial⟩

/-- The second text of a pair. -/
theorem secondOf_pairText (product provider : String) : secondOf (pairText product provider) = some provider := by
  rw [secondOf, parse_pairText]

/-- Pairs are told apart by their texts. -/
theorem pairText_inj {product provider product' provider' : String}
    (h : pairText product provider = pairText product' provider') :
    product = product' ∧ provider = provider' := by
  have hread := parse_pairText product provider
  rw [h, parse_pairText] at hread
  simp only [Option.some.injEq, Json.arr.injEq, List.cons.injEq, Json.str.injEq, and_true] at hread
  exact ⟨hread.1.symm, hread.2.symm⟩

/-- Identifiers are told apart by their texts. -/
theorem uuid_value_inj {p q : Uuid} (h : p.value = q.value) : p = q := by
  cases p
  cases q
  cases h
  rfl

/-- The text of a pair of identifiers. -/
def keyText (pair : Uuid × Uuid) : List Char := pairText pair.1.value pair.2.value

/-- The text of an identifier and a name. -/
def nameText (pair : Uuid × String) : List Char := pairText pair.1.value pair.2

/-- Pairs of identifiers are told apart by their texts. -/
theorem keyText_injective : Function.Injective keyText := fun _ _ h =>
  Prod.ext (uuid_value_inj (pairText_inj h).1) (uuid_value_inj (pairText_inj h).2)

/-- Identifiers with names are told apart by their texts. -/
theorem nameText_injective : Function.Injective nameText := fun _ _ h =>
  Prod.ext (uuid_value_inj (pairText_inj h).1) (pairText_inj h).2

end Pairs

section Counts

variable {env : Env} {db : Database} {ρ κ α : Type}

/-- The rows of a table are pairwise distinct. -/
theorem rows_nodup [Keyed ρ κ] (t : Table ρ) : t.rows.Nodup := t.nodup.of_map _

/-- The rows are counted. -/
theorem length_eq_ncard {rows : List α} (hrows : rows.Nodup) : rows.length = Set.ncard {a | a ∈ rows} := by
  classical
  rw [show {a | a ∈ rows} = ↑rows.toFinset from (List.coe_toFinset rows).symm, Set.ncard_coe_finset,
    List.toFinset_card_of_nodup hrows]

/-- The rows that pass a test are counted. -/
theorem length_filter_eq_ncard {rows : List α} (hrows : rows.Nodup) (test : α → Bool) :
    (rows.filter test).length = Set.ncard {a | a ∈ rows ∧ test a = true} := by
  rw [length_eq_ncard (hrows.filter test)]
  simp only [List.mem_filter]

/-- The pairs in use, once each. -/
def Database.expectedPairs (db : Database) : List (Uuid × Uuid) :=
  ((db.products.rows.filterMap fun p => p.vpsProviderId.map fun v => (p.id, v)) ++
    db.instances.rows.map fun i => (i.productId, i.vpsProviderId)).dedup

/-- No pair in use is listed twice. -/
theorem expectedPairs_nodup : db.expectedPairs.Nodup := List.nodup_dedup _

/-- The pairs in use are those that products use. -/
theorem mem_expectedPairs {pair : Uuid × Uuid} : pair ∈ db.expectedPairs ↔ db.Uses pair.1 pair.2 := by
  obtain ⟨p, v⟩ := pair
  simp only [Database.expectedPairs, List.mem_dedup, List.mem_append, List.mem_filterMap, List.mem_map,
    Option.map_eq_some_iff, Prod.mk.injEq, Database.Uses]
  constructor
  · rintro (⟨q, hq, w, hw, rfl, rfl⟩ | h)
    · exact Or.inl ⟨q, hq, rfl, hw⟩
    · exact Or.inr h
  · rintro (⟨q, hq, rfl, hw⟩ | h)
    · exact Or.inl ⟨q, hq, v, hw, rfl, rfl⟩
    · exact Or.inr h

/-- The texts that are expected are those of the pairs in use. -/
theorem expectedLinks_eq : expectedLinks db.products.rows db.instances.rows = db.expectedPairs.map keyText := by
  rw [Database.expectedPairs, ← List.dedup_map_of_injective keyText_injective, List.map_append, List.map_map,
    List.map_filterMap, expectedLinks]
  simp only [Option.map_map]
  rfl

/-- The texts of the links that are there. -/
theorem mem_linkTexts {pair : Uuid × Uuid} :
    keyText pair ∈ db.links.rows.map (fun l => pairText l.productId.value l.vpsProviderId.value) ↔
      db.HasLink pair.1 pair.2 := by
  rw [List.mem_map]
  constructor
  · rintro ⟨l, hl, htext⟩
    have hpair : (l.productId, l.vpsProviderId) = pair := keyText_injective htext
    exact ⟨l, hl, congrArg Prod.fst hpair, congrArg Prod.snd hpair⟩
  · rintro ⟨l, hl, hproduct, hprovider⟩
    exact ⟨l, hl, by rw [keyText, hproduct, hprovider]⟩

/-- The pairs that are in use and not linked. -/
def Database.missingPairs (db : Database) : List (Uuid × Uuid) :=
  db.expectedPairs.filter fun pair => (db.links.find? pair).isNone

/-- What is missing is in use and not linked. -/
theorem mem_missingPairs {pair : Uuid × Uuid} :
    pair ∈ db.missingPairs ↔ db.Uses pair.1 pair.2 ∧ ¬db.HasLink pair.1 pair.2 := by
  rw [Database.missingPairs, List.mem_filter, mem_expectedPairs, Option.isNone_iff_eq_none, hasLink_iff, not_not]

/-- The missing pairs are counted once each. -/
theorem diagnosis_missingLinks : (db.diagnosis env).missingLinks = db.missingPairs.length := by
  unfold Database.diagnosis diagnoseEvolutionBase
  dsimp only
  rw [expectedLinks_eq, List.filter_map, List.length_map, Database.missingPairs]
  congr 1
  refine List.filter_congr fun pair _ => ?_
  rw [Function.comp_apply, Bool.eq_iff_iff, Bool.not_eq_true', List.contains_eq_mem, decide_eq_false_iff_not,
    mem_linkTexts, Option.isNone_iff_eq_none, hasLink_iff, not_not]

/-- No link is missing exactly when every pair in use has one. -/
theorem diagnosis_missingLinks_eq_zero :
    (db.diagnosis env).missingLinks = 0 ↔ ∀ p v, db.Uses p v → db.HasLink p v := by
  rw [diagnosis_missingLinks, List.length_eq_zero_iff, List.eq_nil_iff_forall_not_mem, Prod.forall]
  simp only [mem_missingPairs, not_and, not_not]

/-- The providers that several products use. -/
theorem diagnosis_sharedProviders :
    (db.diagnosis env).sharedProviders = Set.ncard {v | ∃ p q, p ≠ q ∧ db.Uses p v ∧ db.Uses q v} := by
  have hsome : Function.Injective fun v : Uuid => some v.value := fun v w h =>
    uuid_value_inj (Option.some.inj h)
  have hseconds : (db.expectedPairs.map keyText).map secondOf =
      (db.expectedPairs.filterMap fun pair => some pair.2).map fun v => some v.value := by
    rw [List.map_map, List.filterMap_eq_map', List.map_map]
    exact List.map_congr_left fun pair _ => secondOf_pairText _ _
  unfold Database.diagnosis diagnoseEvolutionBase
  dsimp only
  rw [expectedLinks_eq, hseconds, repeatedKeys_map hsome, repeatedKeys_filterMap expectedPairs_nodup]
  congr 1
  ext v
  constructor
  · rintro ⟨a, ha, b, hb, hne, hav, hbv⟩
    obtain rfl := Option.some.inj hav
    have hprovider : b.2 = a.2 := Option.some.inj hbv
    exact ⟨a.1, b.1, fun h => hne (Prod.ext h hprovider.symm), mem_expectedPairs.mp ha,
      hprovider ▸ mem_expectedPairs.mp hb⟩
  · rintro ⟨p, q, hne, hp, hq⟩
    exact ⟨(p, v), mem_expectedPairs.mpr hp, (q, v), mem_expectedPairs.mpr hq, fun h => hne (congrArg Prod.fst h),
      rfl, rfl⟩

/-- A key is not among those of a table where nothing is found. -/
theorem not_mem_keys_iff [Keyed ρ κ] [DecidableEq κ] {t : Table ρ} {k : κ} :
    k ∉ t.rows.map Keyed.key ↔ t.find? k = none := by
  rw [List.mem_map, Table.find?_eq_none]
  simp only [not_exists, not_and]
  rfl

/-- A product that is not listed is gone. -/
theorem not_mem_productIds {id : Uuid} : id ∉ db.products.rows.map (·.id) ↔ db.products.find? id = none :=
  not_mem_keys_iff

/-- A provider that is not listed is gone. -/
theorem not_mem_providerIds {id : Uuid} : id ∉ db.providers.rows.map (·.id) ↔ db.providers.find? id = none :=
  not_mem_keys_iff

/-- The references to rows that are gone. -/
theorem diagnosis_orphanReferences : (db.diagnosis env).orphanReferences =
    Set.ncard {p | p ∈ db.products ∧ ∃ v, p.vpsProviderId = some v ∧ db.providers.find? v = none} +
      Set.ncard {i | i ∈ db.instances ∧
        (db.products.find? i.productId = none ∨ db.providers.find? i.vpsProviderId = none)} := by
  unfold Database.diagnosis diagnoseEvolutionBase
  dsimp only
  rw [length_filter_eq_ncard (rows_nodup _), length_filter_eq_ncard (rows_nodup _)]
  simp only [Option.any_eq_true, Bool.or_eq_true, decide_eq_true_eq, not_mem_productIds, not_mem_providerIds,
    Table.mem_rows]

/-- No reference dangles exactly when the rows that are used are there. -/
theorem diagnosis_orphanReferences_eq_zero :
    (db.diagnosis env).orphanReferences = 0 ↔
      ∀ p v, db.Uses p v → db.products.find? p ≠ none ∧ db.providers.find? v ≠ none := by
  unfold Database.diagnosis diagnoseEvolutionBase
  dsimp only
  rw [Nat.add_eq_zero_iff, List.length_eq_zero_iff, List.length_eq_zero_iff, List.filter_eq_nil_iff,
    List.filter_eq_nil_iff]
  simp only [Option.any_eq_true, Bool.or_eq_true, decide_eq_true_eq, not_mem_productIds, not_mem_providerIds, not_or,
    not_exists, not_and]
  constructor
  · rintro ⟨hdefaults, hinstances⟩ p v (⟨q, hq, rfl, hv⟩ | ⟨i, hi, rfl, rfl⟩)
    · exact ⟨by rw [show db.products.find? q.id = some q from Table.find?_key hq]; exact Option.some_ne_none q,
        hdefaults q hq v hv⟩
    · exact hinstances i hi
  · intro h
    exact ⟨fun q hq v hv => (h q.id v (Or.inl ⟨q, hq, rfl, hv⟩)).2, fun i hi => h _ _ (Or.inr ⟨i, hi, rfl, rfl⟩)⟩

/-- The names that two instances of a product have. -/
theorem diagnosis_duplicateProductNames : (db.diagnosis env).duplicateProductNames =
    Set.ncard {key : Uuid × String | ∃ i ∈ db.instances, ∃ j ∈ db.instances, i ≠ j ∧
      (i.productId, i.instanceName) = key ∧ (j.productId, j.instanceName) = key} := by
  have htexts : (db.instances.rows.map fun i => pairText i.productId.value i.instanceName) =
      (db.instances.rows.filterMap fun i => some (i.productId, i.instanceName)).map nameText := by
    rw [List.filterMap_eq_map', List.map_map]
    rfl
  unfold Database.diagnosis diagnoseEvolutionBase
  dsimp only
  rw [htexts, repeatedKeys_map nameText_injective, repeatedKeys_filterMap (rows_nodup _)]
  simp only [Option.some.injEq, Table.mem_rows]

/-- The names that two instances on a provider have. -/
theorem diagnosis_duplicateProviderNames : (db.diagnosis env).duplicateProviderNames =
    Set.ncard {key : Uuid × String | ∃ i ∈ db.instances, ∃ j ∈ db.instances, i ≠ j ∧
      (i.vpsProviderId, i.instanceName) = key ∧ (j.vpsProviderId, j.instanceName) = key} := by
  have htexts : (db.instances.rows.map fun i => pairText i.vpsProviderId.value i.instanceName) =
      (db.instances.rows.filterMap fun i => some (i.vpsProviderId, i.instanceName)).map nameText := by
    rw [List.filterMap_eq_map', List.map_map]
    rfl
  unfold Database.diagnosis diagnoseEvolutionBase
  dsimp only
  rw [htexts, repeatedKeys_map nameText_injective, repeatedKeys_filterMap (rows_nodup _)]
  simp only [Option.some.injEq, Table.mem_rows]

/-- The remote identity of an instance on its provider. -/
def Instance.remoteIdentity (item : Instance) : Option (Uuid × String) :=
  item.providerInstanceId.map fun id => (item.vpsProviderId, id)

/-- An instance with a remote identity has its two parts. -/
theorem remoteIdentity_eq_some {item : Instance} {key : Uuid × String} : item.remoteIdentity = some key ↔
    item.vpsProviderId = key.1 ∧ item.providerInstanceId = some key.2 := by
  rw [Instance.remoteIdentity, Option.map_eq_some_iff]
  constructor
  · rintro ⟨id, hid, rfl⟩
    exact ⟨rfl, hid⟩
  · rintro ⟨hprovider, hid⟩
    exact ⟨key.2, hid, Prod.ext hprovider rfl⟩

/-- The remote identities are repeated as often as their texts. -/
theorem diagnosis_duplicateRemoteIds :
    (db.diagnosis env).duplicateRemoteIds = repeatedKeys (db.instances.rows.filterMap (·.remoteIdentity)) := by
  have htexts : (db.instances.rows.filterMap fun i => i.providerInstanceId.map (pairText i.vpsProviderId.value)) =
      (db.instances.rows.filterMap (·.remoteIdentity)).map nameText := by
    rw [List.map_filterMap]
    refine List.filterMap_congr fun i _ => ?_
    rw [Instance.remoteIdentity, Option.map_map]
    rfl
  unfold Database.diagnosis diagnoseEvolutionBase
  dsimp only
  rw [htexts, repeatedKeys_map nameText_injective]

/-- Every count of the diagnosis is the size of the set it is named after. -/
theorem Database.diagnosed (env : Env) (db : Database) : db.Diagnosed env (db.diagnosis env) where
  products := length_eq_ncard (rows_nodup _)
  providers := length_eq_ncard (rows_nodup _)
  instances := length_eq_ncard (rows_nodup _)
  sharedProviders := diagnosis_sharedProviders
  missingLinks := by
    rw [diagnosis_missingLinks, Database.missingPairs, length_filter_eq_ncard expectedPairs_nodup]
    congr 1
    ext pair
    exact (List.mem_filter.symm.trans mem_missingPairs)
  orphanReferences := diagnosis_orphanReferences
  duplicateProductNames := diagnosis_duplicateProductNames
  duplicateProviderNames := diagnosis_duplicateProviderNames
  duplicateRemoteIds := by
    rw [diagnosis_duplicateRemoteIds, repeatedKeys_filterMap (rows_nodup _)]
    simp only [remoteIdentity_eq_some, Table.mem_rows]
  endpointAliasGroups := by
    unfold Database.diagnosis diagnoseEvolutionBase
    dsimp only
    rw [List.filterMap_map, repeatedKeys_filterMap (rows_nodup _)]
    rfl
  invalidEndpoints := by
    unfold Database.diagnosis diagnoseEvolutionBase
    dsimp only
    rw [List.filter_map, List.length_map, length_filter_eq_ncard (rows_nodup _)]
    simp only [Function.comp_apply, decide_eq_true_eq, Table.mem_rows]
  pendingIdentity := by
    unfold Database.diagnosis diagnoseEvolutionBase
    dsimp only
    rw [length_filter_eq_ncard (rows_nodup _)]
    simp only [decide_eq_true_eq, Table.mem_rows]

end Counts

end ConnectHub
