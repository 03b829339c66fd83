import ConnectHub.InstanceImport
import ConnectHub.ProvisioningRuns

/-!
# Importing the same sessions again

What an import reads is not changed by the imports of other sessions, so that a second import of the same rows
finds the instances of the first and reports the same failures. An instance that an import adds shares its
session with no other, and those that were there stay as they are.
-/

namespace ConnectHub

open Store

section Transactions

/-- Why an import is refused before it looks for the instance. -/
def Database.importRefusal (db : Database) (data : Instance) (source : ImportSource) : Option HubError :=
  match db.products.find? data.productId with
  | none => some (.notFound "Produto não encontrado")
  | some product =>
    match db.providers.find? data.vpsProviderId with
    | none => some (.notFound "VpsProvider não encontrado")
    | some provider =>
      if product.isActive = false then some (.badRequest "Produto inativo")
      else if provider.providerUrl ≠ source.providerUrl ∨ provider.providerApiKey ≠ source.providerApiKey ∨
          provider.configurationRevision ≠ source.configurationRevision then
        some (.conflict "Origem alterada durante a consulta; consulte novamente")
      else if db.links.find? (data.productId, data.vpsProviderId) = none then
        some (.badRequest "Provider não vinculado ao produto")
      else if (db.openForImport data).isSome = true then some (.conflict "Instância ainda em provisionamento")
      else none

/-- The database with an instance that an import adds. -/
def Database.bring (db : Database) (data : Instance) : Except HubError Database :=
  if db.instances.rows.any (data.collides db.baseConsolidated) = true then .error .uniqueViolation
  else
    match db.instances.insert? data with
    | none => .error .uniqueViolation
    | some instances =>
      if db.providers.find? data.vpsProviderId = none then .error .recordNotFound
      else .ok ({ db with instances := instances }.advanceOccupancy data.vpsProviderId)

/-- Whether an instance is the session that is to be assigned, and assigned so already. -/
def Instance.SameSession (item data : Instance) : Prop :=
  item.productId = data.productId ∧ item.vpsProviderId = data.vpsProviderId ∧
    item.instanceName = data.instanceName ∧ item.providerInstanceId = data.providerInstanceId

instance (item data : Instance) : Decidable (item.SameSession data) := inferInstanceAs (Decidable (_ ∧ _))

/-- What the transaction of an import comes to. -/
theorem importLinkedInstance_run (db : Database) (data : Instance) (source : ImportSource) :
    (importLinkedInstance data source).run db =
      match db.importRefusal data source with
      | some e => .error e
      | none =>
        match db.instancesForImport data with
        | [] => (db.bring data).map fun db' => ((.created, data), db')
        | [item] =>
          if item.SameSession data then .ok ((.skipped, item), db)
          else .error (.conflict "Sessão já atribuída ou identidade em conflito")
        | _ => .error (.conflict "Sessão já atribuída ou identidade em conflito") := by
  unfold importLinkedInstance lockProduct lockProvider Database.importRefusal
  simp only [bind_assoc, get_bind_run, orThrow_bind_run, throwWhen_bind_run]
  cases hproduct : db.products.find? data.productId with
  | none => rfl
  | some product =>
    simp only
    cases hprovider : db.providers.find? data.vpsProviderId with
    | none => rfl
    | some provider =>
      simp only
      by_cases hactive : product.isActive = false
      · rw [if_pos hactive, if_pos hactive]
      · rw [if_neg hactive, if_neg hactive]
        split
        · rfl
        · split
          · rfl
          · split
            · rfl
            · simp only
              cases hfound : db.instancesForImport data with
              | nil =>
                simp only [createInstance, advanceOccupancy, bind_assoc, get_bind_run, throwWhen_bind_run,
                  orThrow_bind_run, set_bind_run, pure_bind]
                unfold Database.bring
                split
                · rfl
                · cases db.instances.insert? data with
                  | none => rfl
                  | some instances =>
                    simp only
                    split
                    · rfl
                    · rfl
              | cons item rest =>
                cases rest with
                | nil =>
                  simp only [throwWhen_bind_run]
                  by_cases hsame : item.SameSession data
                  · obtain ⟨hproductId, hproviderId, hname, hid⟩ := hsame
                    rw [if_pos (show item.SameSession data from ⟨hproductId, hproviderId, hname, hid⟩)]
                    rw [if_neg]
                    · rfl
                    · intro hdiffers
                      obtain h | h | h | h := hdiffers
                      · exact h hproductId
                      · exact h hproviderId
                      · exact h hname
                      · exact h hid
                  · rw [if_neg hsame]
                    rw [if_pos]
                    by_contra hagrees
                    push Not at hagrees
                    exact hsame hagrees
                | cons other rest => rfl

/-- What imports leave as it was, and what they add: instances that share their session with no other. -/
structure Imported (db db' : Database) : Prop where
  products : db'.products = db.products
  links : db'.links = db.links
  provisionings : db'.provisionings = db.provisionings
  consolidated : db'.baseConsolidated = db.baseConsolidated
  providers : ∀ id, ∃ n, db'.providers.find? id = (db.providers.find? id).map fun p =>
    { p with occupancyRevision := p.occupancyRevision + n }
  kept : ∀ item ∈ db.instances, item ∈ db'.instances
  alone : ∀ item ∈ db'.instances, item ∉ db.instances → ∀ other ∈ db'.instances,
    other.vpsProviderId = item.vpsProviderId →
    other.instanceName = item.instanceName ∨ other.providerInstanceId = item.providerInstanceId → other = item

/-- An import that does nothing leaves everything as it was. -/
theorem Imported.refl (db : Database) : Imported db db where
  products := rfl
  links := rfl
  provisionings := rfl
  consolidated := rfl
  providers := fun id => ⟨0, by simp only [Nat.add_zero, Option.map_id']⟩
  kept := fun _ h => h
  alone := fun _ h hnot => absurd h hnot

/-- One import after another. -/
theorem Imported.trans {db db' db'' : Database} (h : Imported db db') (h' : Imported db' db'') :
    Imported db db'' where
  products := h'.products.trans h.products
  links := h'.links.trans h.links
  provisionings := h'.provisionings.trans h.provisionings
  consolidated := h'.consolidated.trans h.consolidated
  providers := by
    intro id
    obtain ⟨n, hn⟩ := h.providers id
    obtain ⟨m, hm⟩ := h'.providers id
    refine ⟨n + m, ?_⟩
    rw [hm, hn, Option.map_map]
    congr 1
    funext p
    simp only [Function.comp_apply, Nat.add_assoc]
  kept := fun item hitem => h'.kept item (h.kept item hitem)
  alone := by
    intro item hitem hnew other hother hprovider hshares
    by_cases hbefore : item ∈ db'.instances
    · by_cases hotherBefore : other ∈ db'.instances
      · exact h.alone item hbefore hnew other hotherBefore hprovider hshares
      · exact (h'.alone other hother hotherBefore item hitem hprovider.symm
          (hshares.imp Eq.symm Eq.symm)).symm
    · exact h'.alone item hitem hbefore other hother hprovider hshares

/-- The instances that a session could already be are those with its name or its id. -/
theorem mem_instancesForImport {db : Database} {data item : Instance} : item ∈ db.instancesForImport data ↔
    item ∈ db.instances ∧ ((item.productId = data.productId ∧ item.instanceName = data.instanceName) ∨
      (item.vpsProviderId = data.vpsProviderId ∧ item.instanceName = data.instanceName) ∨
      (item.vpsProviderId = data.vpsProviderId ∧ item.providerInstanceId = data.providerInstanceId)) := by
  unfold Database.instancesForImport
  rw [List.mem_filter, Table.mem_rows]
  simp only [Bool.or_eq_true, Bool.and_eq_true, decide_eq_true_eq, or_assoc]

/-- What adding an instance comes to, if it succeeds. -/
theorem bring_eq_ok {db db' : Database} {data : Instance} (h : db.bring data = .ok db') :
    ∃ instances, db.instances.insert? data = some instances ∧
      db' = { db with instances := instances }.advanceOccupancy data.vpsProviderId := by
  unfold Database.bring at h
  split at h
  · cases h
  · cases hinsert : db.instances.insert? data with
    | none =>
      rw [hinsert] at h
      cases h
    | some instances =>
      rw [hinsert] at h
      simp only at h
      split at h
      · cases h
      · cases h
        exact ⟨instances, rfl, rfl⟩

/-- An instance whose session none has stays the only one with it. -/
theorem bring_imported {db db' : Database} {data : Instance} (hfree : db.instancesForImport data = [])
    (h : db.bring data = .ok db') : Imported db db' := by
  obtain ⟨instances, hinsert, hdb'⟩ := bring_eq_ok h
  rw [hdb']
  exact {
    products := rfl
    links := rfl
    provisionings := rfl
    consolidated := rfl
    providers := by
      intro id
      refine ⟨if id = data.vpsProviderId then 1 else 0, ?_⟩
      simp only [Database.advanceOccupancy, Database.updateProvider_providers, Table.find?_modify]
      cases hfound : db.providers.find? id with
      | none => rfl
      | some provider =>
        have hid : provider.id = id := (Table.find?_eq_some.mp hfound).2
        have htest : decide (provider.id = data.vpsProviderId) = decide (id = data.vpsProviderId) := by
          rw [hid]
        rw [Option.map_some, Option.map_some, htest]
        by_cases hprovider : id = data.vpsProviderId
        · rw [if_pos hprovider, decide_eq_true hprovider, if_pos rfl]
        · rw [if_neg hprovider, decide_eq_false hprovider, if_neg Bool.false_ne_true]
          rfl
    kept := fun item hitem => (Table.mem_insert? hinsert).mpr (.inl hitem)
    alone := by
      intro item hitem hnew other hother hprovider hshares
      have hdata : item = data := ((Table.mem_insert? hinsert).mp hitem).resolve_left hnew
      rw [hdata] at hprovider hshares ⊢
      apply ((Table.mem_insert? hinsert).mp hother).resolve_left
      intro hbefore
      have hmember : other ∈ db.instancesForImport data := by
        apply mem_instancesForImport.mpr
        constructor
        · exact hbefore
        · right
          cases hshares with
          | inl hname => exact .inl ⟨hprovider, hname⟩
          | inr hid => exact .inr ⟨hprovider, hid⟩
      rw [hfree] at hmember
      cases hmember }

/-- An instance that is added is found by every session that it could be, after those found before. -/
theorem bring_instancesForImport {db db' : Database} {data : Instance} (h : db.bring data = .ok db')
    (session : Instance) : db'.instancesForImport session = db.instancesForImport session ++
      [data].filter fun i => (i.productId = session.productId && i.instanceName = session.instanceName) ||
        (i.vpsProviderId = session.vpsProviderId && i.instanceName = session.instanceName) ||
        (i.vpsProviderId = session.vpsProviderId && i.providerInstanceId = session.providerInstanceId) := by
  obtain ⟨instances, hinsert, hdb'⟩ := bring_eq_ok h
  rw [hdb']
  unfold Database.instancesForImport
  rw [advanceOccupancy_instances, (Table.insert?_eq_some hinsert).2, List.filter_append]

/-- Imports change nothing that another import is refused for. -/
theorem Imported.importRefusal {db db' : Database} (h : Imported db db') (data : Instance)
    (source : ImportSource) : db'.importRefusal data source = db.importRefusal data source := by
  unfold Database.importRefusal Database.openForImport
  rw [h.products, h.links, h.provisionings]
  obtain ⟨n, hn⟩ := h.providers data.vpsProviderId
  rw [hn]
  cases db.providers.find? data.vpsProviderId with
  | none => rfl
  | some provider => rfl

/-- The provider of an import that is not refused is there. -/
theorem importRefusal_provider {db : Database} {data : Instance} {source : ImportSource}
    (h : db.importRefusal data source = none) : db.providers.find? data.vpsProviderId ≠ none := by
  intro hnone
  unfold Database.importRefusal at h
  rw [hnone] at h
  cases hproduct : db.products.find? data.productId with
  | none =>
    rw [hproduct] at h
    cases h
  | some product =>
    rw [hproduct] at h
    cases h

/-- An instance with a new id is refused only because it collides with one that is there. -/
theorem bring_eq_error {db : Database} {data : Instance} {e : HubError}
    (hfresh : db.instances.find? data.id = none) (hprovider : db.providers.find? data.vpsProviderId ≠ none)
    (h : db.bring data = .error e) : db.instances.rows.any (data.collides db.baseConsolidated) = true := by
  unfold Database.bring at h
  by_cases hcollides : db.instances.rows.any (data.collides db.baseConsolidated) = true
  · exact hcollides
  · rw [if_neg hcollides] at h
    cases hinsert : db.instances.insert? data with
    | none =>
      obtain ⟨taken, htaken, hid⟩ := Table.insert?_eq_none hinsert
      exact absurd hid (Table.find?_eq_none.mp hfresh taken htaken)
    | some instances =>
      rw [hinsert] at h
      simp only at h
      rw [if_neg hprovider] at h
      cases h

/-- What collides keeps colliding. -/
theorem Imported.collides {db db' : Database} (h : Imported db db') {data : Instance}
    (hcollides : db.instances.rows.any (data.collides db.baseConsolidated) = true) :
    db'.bring data = .error .uniqueViolation := by
  have hstill : db'.instances.rows.any (data.collides db'.baseConsolidated) = true := by
    rw [h.consolidated]
    obtain ⟨item, hitem, hboth⟩ := List.any_eq_true.mp hcollides
    exact List.any_eq_true.mpr ⟨item, h.kept item hitem, hboth⟩
  unfold Database.bring
  rw [if_pos hstill]

/-- An instance cannot be added for a reason that is not told to clients. -/
theorem bring_error_reason {db : Database} {data : Instance} {e : HubError} (h : db.bring data = .error e) :
    e.importReason = "Falha ao registrar instância; vínculo preservado" := by
  unfold Database.bring at h
  split at h
  · cases h
    rfl
  · cases hinsert : db.instances.insert? data with
    | none =>
      rw [hinsert] at h
      cases h
      rfl
    | some instances =>
      rw [hinsert] at h
      simp only at h
      split at h
      · cases h
        rfl
      · cases h

end Transactions

section Rows

/-- An assignment that fails. -/
theorem importWithStatus_of_error {db : Database} {data : Instance} {source : ImportSource} {e : HubError}
    (h : (importLinkedInstance data source).run db = .error e) (status : Option String) :
    (importWithStatus data status source).run db = .error e := by
  unfold importWithStatus
  rw [StateT.run_bind, h]
  rfl

/-- An assignment that succeeds, unless it would write a status that is not a text. -/
theorem importWithStatus_of_ok {db db' : Database} {data : Instance} {source : ImportSource}
    {assigned : ImportOutcome × Instance}
    (h : (importLinkedInstance data source).run db = .ok (assigned, db')) (status : Option String) :
    (importWithStatus data status source).run db =
      if assigned.1 = .created ∧ status = none then .error (.internal "Invalid value provided: status")
      else .ok (assigned, db') := by
  unfold importWithStatus
  rw [run_bind_of_ok h, throwWhen_bind_run]
  rfl

/-- What is reported about the outcome of a row. -/
def itemResult : Except HubError AssignedImport → BulkItemResult
  | .ok assigned => .assigned assigned.result assigned.hubInstanceId
  | .error e => .error e.importReason

/-- What is reported when the same row is imported again. -/
def BulkItemResult.again : BulkItemResult → BulkItemResult
  | .assigned _ id => .assigned .skipped id
  | .error reason => .error reason

variable {context later : ImportContext} {productId : Uuid} {provider : VpsProvider} {row : ImportRow}
  {number : Option String} {db db' : Database}

/-- The outcome of an assignment once the cache is cleared. -/
def ImportContext.clear (context : ImportContext) (assigned : ImportOutcome × Instance) :
    Except HubError AssignedImport :=
  if context.cache.all (invalidateInstanceCache · assigned.2) then .ok ⟨assigned.1, assigned.2.id⟩
  else .error (.internal "cache")

/-- A session that was found or created before is skipped, if its cache can be cleared as before. -/
theorem clear_again (hcache : later.cache = context.cache) (result : ImportOutcome) (item : Instance) :
    itemResult (later.clear (.skipped, item)) = (itemResult (context.clear (result, item))).again := by
  unfold ImportContext.clear
  rw [hcache]
  by_cases hcleared : context.cache.all (invalidateInstanceCache · item) = true
  · rw [if_pos hcleared, if_pos hcleared]
    rfl
  · rw [if_neg hcleared, if_neg hcleared]
    rfl

/-- A row that cannot be assigned leaves the database alone. -/
theorem assignImported_of_error {e : HubError} (hid : row.evId ≠ "") (hname : row.evName ≠ "")
    (h : (importWithStatus (importedInstance context productId provider row number db)
      (normalizeConnectionStatus row.evStatus) provider.importSource).run db = .error e) :
    assignImported context productId provider row number db = (.error e, db) := by
  unfold assignImported
  rw [if_neg (not_or.mpr ⟨hid, hname⟩), h]

/-- One that can is reported once its cache is cleared. -/
theorem assignImported_of_ok {assigned : ImportOutcome × Instance} (hid : row.evId ≠ "")
    (hname : row.evName ≠ "")
    (h : (importWithStatus (importedInstance context productId provider row number db)
      (normalizeConnectionStatus row.evStatus) provider.importSource).run db = .ok (assigned, db')) :
    assignImported context productId provider row number db = (context.clear assigned, db') := by
  unfold assignImported ImportContext.clear
  rw [if_neg (not_or.mpr ⟨hid, hname⟩), h]
  simp only
  by_cases hcleared : context.cache.all (invalidateInstanceCache · assigned.2) = true
  · rw [if_pos hcleared, if_pos hcleared]
  · rw [if_neg hcleared, if_neg hcleared]

/-- A session that several instances could be, or one that it is not, is refused. -/
theorem importLinkedInstance_conflict {data : Instance} {source : ImportSource} {item : Instance}
    {rest : List Instance} (hrefusal : db.importRefusal data source = none)
    (hfound : db.instancesForImport data = item :: rest) (hnot : ¬(rest = [] ∧ item.SameSession data)) :
    (importLinkedInstance data source).run db =
      .error (.conflict "Sessão já atribuída ou identidade em conflito") := by
  rw [importLinkedInstance_run, hrefusal]
  simp only
  rw [hfound]
  cases rest with
  | nil =>
    have hdiffers : ¬item.SameSession data := fun hsame => hnot ⟨rfl, hsame⟩
    simp only
    rw [if_neg hdiffers]
  | cons other rest => rfl

/-- A session that is assigned already is found. -/
theorem importLinkedInstance_found {data : Instance} {source : ImportSource} {item : Instance}
    (hrefusal : db.importRefusal data source = none) (hfound : db.instancesForImport data = [item])
    (hsame : item.SameSession data) :
    (importLinkedInstance data source).run db = .ok ((.skipped, item), db) := by
  rw [importLinkedInstance_run, hrefusal]
  simp only
  rw [hfound]
  simp only
  rw [if_pos hsame]

/-- A session that no instance is yet is added. -/
theorem importLinkedInstance_added {data : Instance} {source : ImportSource}
    (hrefusal : db.importRefusal data source = none) (hfree : db.instancesForImport data = []) :
    (importLinkedInstance data source).run db = (db.bring data).map fun db' => ((.created, data), db') := by
  rw [importLinkedInstance_run, hrefusal]
  simp only
  rw [hfree]

/-- A session that is found again is skipped. -/
theorem assignImported_found (hcache : later.cache = context.cache) (hid : row.evId ≠ "")
    (hname : row.evName ≠ "") {item : Instance} {result : ImportOutcome}
    (hrefusal : db'.importRefusal (importedInstance later productId provider row number db')
      provider.importSource = none)
    (hfound : db'.instancesForImport (importedInstance later productId provider row number db') = [item])
    (hsame : item.SameSession (importedInstance later productId provider row number db')) :
    (assignImported later productId provider row number db').2 = db' ∧
      itemResult (assignImported later productId provider row number db').1 =
        (itemResult (context.clear (result, item))).again := by
  have hrun := importWithStatus_of_ok (importLinkedInstance_found hrefusal hfound hsame)
    (normalizeConnectionStatus row.evStatus)
  rw [if_neg fun hboth => by cases hboth.1] at hrun
  rw [assignImported_of_ok hid hname hrun]
  exact ⟨rfl, clear_again hcache result item⟩

/-- A session that could not be added for a reason that stays cannot be added again. -/
theorem assignImported_refused (hid : row.evId ≠ "") (hname : row.evName ≠ "")
    (hrefusal : db'.importRefusal (importedInstance later productId provider row number db')
      provider.importSource = none)
    (hfree : db'.instancesForImport (importedInstance later productId provider row number db') = [])
    (hstays : db'.bring (importedInstance later productId provider row number db') = .error .uniqueViolation ∨
      normalizeConnectionStatus row.evStatus = none) :
    (assignImported later productId provider row number db').2 = db' ∧
      itemResult (assignImported later productId provider row number db').1 =
        .error "Falha ao registrar instância; vínculo preservado" := by
  have hadded := importLinkedInstance_added hrefusal hfree
  cases hbring : db'.bring (importedInstance later productId provider row number db') with
  | error e =>
    rw [hbring] at hadded
    rw [assignImported_of_error hid hname (importWithStatus_of_error hadded _)]
    exact ⟨rfl, congrArg BulkItemResult.error (bring_error_reason hbring)⟩
  | ok brought =>
    have hstatus : normalizeConnectionStatus row.evStatus = none := by
      apply hstays.resolve_left
      rw [hbring]
      intro hviolation
      cases hviolation
    rw [hbring] at hadded
    have hrun := importWithStatus_of_ok hadded (normalizeConnectionStatus row.evStatus)
    rw [if_pos ⟨rfl, hstatus⟩] at hrun
    rw [assignImported_of_error hid hname hrun]
    exact ⟨rfl, rfl⟩

/-- Importing a row again, when only other sessions were imported since, changes nothing and reports the same,
but for what was created. -/
theorem assignImported_again (hcache : later.cache = context.cache)
    (hfresh : db.instances.find? (context.newId db) = none)
    (himported : Imported (assignImported context productId provider row number db).2 db')
    (hunmoved : db'.instancesForImport (importedInstance context productId provider row number db) =
      (assignImported context productId provider row number db).2.instancesForImport
        (importedInstance context productId provider row number db)) :
    (assignImported later productId provider row number db').2 = db' ∧
      itemResult (assignImported later productId provider row number db').1 =
        (itemResult (assignImported context productId provider row number db).1).again := by
  by_cases hcomplete : row.evId = "" ∨ row.evName = ""
  · unfold assignImported
    rw [if_pos hcomplete, if_pos hcomplete]
    exact ⟨rfl, rfl⟩
  · obtain ⟨hid, hname⟩ := not_or.mp hcomplete
    let data := importedInstance context productId provider row number db
    let data' := importedInstance later productId provider row number db'
    let status := normalizeConnectionStatus row.evStatus
    cases hrefusal : db.importRefusal data provider.importSource with
    | some e =>
      have hrun : (importLinkedInstance data provider.importSource).run db = .error e := by
        rw [importLinkedInstance_run, hrefusal]
      rw [assignImported_of_error hid hname (importWithStatus_of_error hrun status)] at himported ⊢
      have hrefusal' : db'.importRefusal data' provider.importSource = some e :=
        (himported.importRefusal data' provider.importSource).trans hrefusal
      have hrun' : (importLinkedInstance data' provider.importSource).run db' = .error e := by
        rw [importLinkedInstance_run, hrefusal']
      rw [assignImported_of_error hid hname (importWithStatus_of_error hrun' status)]
      exact ⟨rfl, rfl⟩
    | none =>
      have hrefusal' : Imported db db' → db'.importRefusal data' provider.importSource = none :=
        fun h => (h.importRefusal data' provider.importSource).trans hrefusal
      cases hfound : db.instancesForImport data with
      | nil =>
        have hadded := importLinkedInstance_added hrefusal hfound
        cases hbring : db.bring data with
        | error e =>
          rw [hbring] at hadded
          have hfirst := assignImported_of_error hid hname (importWithStatus_of_error hadded status)
          rw [hfirst] at himported hunmoved ⊢
          have hcollides := bring_eq_error hfresh (importRefusal_provider hrefusal) hbring
          have hstays := @Imported.collides _ _ himported data' hcollides
          have hagain := assignImported_refused hid hname (hrefusal' himported) (hunmoved.trans hfound)
            (.inl hstays)
          exact ⟨hagain.1, hagain.2.trans (congrArg BulkItemResult.error (bring_error_reason hbring)).symm⟩
        | ok brought =>
          rw [hbring] at hadded
          have hrun := importWithStatus_of_ok hadded status
          by_cases hstatus : status = none
          · rw [if_pos ⟨rfl, hstatus⟩] at hrun
            rw [assignImported_of_error hid hname hrun] at himported hunmoved ⊢
            have hagain := assignImported_refused hid hname (hrefusal' himported) (hunmoved.trans hfound)
              (.inr hstatus)
            exact hagain
          · rw [if_neg fun hboth => hstatus hboth.2] at hrun
            rw [assignImported_of_ok hid hname hrun] at himported hunmoved ⊢
            have hbrought : Imported db brought := bring_imported hfound hbring
            have hone : db'.instancesForImport data = [data] := by
              have hfilter := bring_instancesForImport hbring data
              rw [hfound] at hfilter
              refine hunmoved.trans (hfilter.trans ?_)
              simp only [decide_true, Bool.and_self, Bool.or_self, List.filter_cons, List.filter_nil, if_true,
                List.nil_append]
            exact assignImported_found hcache hid hname (hrefusal' (hbrought.trans himported)) hone
              ⟨rfl, rfl, rfl, rfl⟩
      | cons item rest =>
        by_cases hone : rest = [] ∧ item.SameSession data
        · rw [hone.1] at hfound
          have hrun := importWithStatus_of_ok (importLinkedInstance_found hrefusal hfound hone.2) status
          rw [if_neg fun hboth => by cases hboth.1] at hrun
          rw [assignImported_of_ok hid hname hrun] at himported hunmoved ⊢
          exact assignImported_found hcache hid hname (hrefusal' himported) (hunmoved.trans hfound) hone.2
        · have hrun := importLinkedInstance_conflict hrefusal hfound hone
          rw [assignImported_of_error hid hname (importWithStatus_of_error hrun status)] at himported hunmoved ⊢
          have hrun' := @importLinkedInstance_conflict db' data' provider.importSource item rest
            (hrefusal' himported) (hunmoved.trans hfound) hone
          rw [assignImported_of_error hid hname (importWithStatus_of_error hrun' status)]
          exact ⟨rfl, rfl⟩

/-- An assignment leaves the database as it was, or adds its instance. -/
theorem assignImported_database :
    (assignImported context productId provider row number db).2 = db ∨
      db.instancesForImport (importedInstance context productId provider row number db) = [] ∧
        db.bring (importedInstance context productId provider row number db) =
          .ok (assignImported context productId provider row number db).2 := by
  let data := importedInstance context productId provider row number db
  let status := normalizeConnectionStatus row.evStatus
  by_cases hcomplete : row.evId = "" ∨ row.evName = ""
  · left
    unfold assignImported
    rw [if_pos hcomplete]
  · obtain ⟨hid, hname⟩ := not_or.mp hcomplete
    cases hrun : (importWithStatus data status provider.importSource).run db with
    | error e =>
      left
      rw [assignImported_of_error hid hname hrun]
    | ok done =>
      obtain ⟨assigned, after⟩ := done
      rw [assignImported_of_ok hid hname hrun]
      cases hlinked : (importLinkedInstance data provider.importSource).run db with
      | error e =>
        rw [importWithStatus_of_error hlinked status] at hrun
        cases hrun
      | ok linked =>
        have hsame : linked = (assigned, after) := by
          rw [importWithStatus_of_ok hlinked status] at hrun
          split at hrun
          · cases hrun
          · cases hrun
            rfl
        rw [hsame, importLinkedInstance_run] at hlinked
        split at hlinked
        · cases hlinked
        · split at hlinked
          · rename_i hfree
            right
            refine ⟨hfree, ?_⟩
            cases hbring : db.bring data with
            | error e =>
              rw [hbring] at hlinked
              cases hlinked
            | ok brought =>
              rw [hbring] at hlinked
              cases hlinked
              rfl
          · split at hlinked
            · cases hlinked
              exact .inl rfl
            · cases hlinked
          · cases hlinked

/-- An assignment adds an instance that shares its session with no other, or nothing. -/
theorem assignImported_imported : Imported db (assignImported context productId provider row number db).2 := by
  cases @assignImported_database context productId provider row number db with
  | inl hsame =>
    rw [hsame]
    exact .refl db
  | inr hadded => exact bring_imported hadded.1 hadded.2

/-- It does not change what the import of another session finds. -/
theorem assignImported_unmoved {session : Instance} (hname : session.instanceName ≠ row.evName)
    (hid : session.providerInstanceId ≠ some row.evId) :
    (assignImported context productId provider row number db).2.instancesForImport session =
      db.instancesForImport session := by
  cases @assignImported_database context productId provider row number db with
  | inl hsame => rw [hsame]
  | inr hadded =>
    have hfilter := bring_instancesForImport hadded.2 session
    have hnameFalse : decide (row.evName = session.instanceName) = false := decide_eq_false hname.symm
    have hidFalse : decide (some row.evId = session.providerInstanceId) = false := decide_eq_false hid.symm
    refine hfilter.trans ?_
    simp only [importedInstance, hnameFalse, hidFalse, Bool.and_false, Bool.or_false, List.filter_cons,
      Bool.false_eq_true, if_false, List.filter_nil, List.append_nil]

end Rows

section Loop

variable {context later : ImportContext} {productId : Uuid} {provider : VpsProvider} {all : List ImportRow}

/-- Two rows that share neither an id nor a name. -/
def ImportRow.Apart (row other : ImportRow) : Prop := row.evId ≠ other.evId ∧ row.evName ≠ other.evName

/-- A row that some other shares an id or a name with is not assigned. -/
theorem importBulkRow_imported (row : ImportRow) (db : Database) :
    Imported db (importBulkRow context productId provider all row db).2 := by
  unfold importBulkRow
  split
  · exact .refl db
  · split
    · exact .refl db
    · exact assignImported_imported

/-- A row that is assigned does not change what the import of another finds. -/
theorem importBulkRow_unmoved {row other : ImportRow} (hapart : (other.alike all).length = 1 → row.Apart other)
    (origin db : Database) (source : ImportContext) :
    (importBulkRow context productId provider all other db).2.instancesForImport
        (importedInstance source productId provider row row.evNumber origin) =
      db.instancesForImport (importedInstance source productId provider row row.evNumber origin) := by
  unfold importBulkRow
  split
  · rfl
  · split
    · rfl
    · rename_i hone
      obtain ⟨hid, hname⟩ := hapart (not_not.mp hone)
      exact assignImported_unmoved hname fun hsome => hid (Option.some.inj hsome)

/-- A row that is imported again changes nothing, and is reported as before, but for what was created. -/
theorem importBulkRow_again (hcache : later.cache = context.cache) {row : ImportRow} {db db' : Database}
    (hfresh : db.instances.find? (context.newId db) = none)
    (himported : Imported (importBulkRow context productId provider all row db).2 db')
    (hunmoved : db'.instancesForImport (importedInstance context productId provider row row.evNumber db) =
      (importBulkRow context productId provider all row db).2.instancesForImport
        (importedInstance context productId provider row row.evNumber db)) :
    (importBulkRow later productId provider all row db').2 = db' ∧
      itemResult (importBulkRow later productId provider all row db').1 =
        (itemResult (importBulkRow context productId provider all row db).1).again := by
  unfold importBulkRow at himported hunmoved ⊢
  by_cases hid : row.evId = ""
  · rw [if_pos hid, if_pos hid]
    exact ⟨rfl, rfl⟩
  · rw [if_neg hid] at himported hunmoved ⊢
    rw [if_neg hid]
    by_cases hambiguous : (row.alike all).length ≠ 1
    · rw [if_pos hambiguous, if_pos hambiguous]
      exact ⟨rfl, rfl⟩
    · rw [if_neg hambiguous] at himported hunmoved ⊢
      rw [if_neg hambiguous]
      exact assignImported_again hcache hfresh himported hunmoved

/-- A report with one row more. -/
def ImportBulkResultDto.add (report : ImportBulkResultDto) (label : String) (item : BulkItemResult) :
    ImportBulkResultDto where
  created := report.created + (match item with | .assigned .created _ => 1 | _ => 0)
  skipped := report.skipped + (match item with | .assigned .skipped _ => 1 | _ => 0)
  errors := report.errors + (match item with | .error _ => 1 | _ => 0)
  details := report.details ++ [⟨label, item⟩]

/-- A row is reported by its name and what became of it. -/
theorem report_eq (report : ImportBulkResultDto) (row : ImportRow) (outcome : Except HubError AssignedImport) :
    report.report row outcome = report.add row.label (itemResult outcome) := by
  cases outcome with
  | error e => rfl
  | ok assigned =>
    obtain ⟨result, id⟩ := assigned
    cases result with
    | created => rfl
    | skipped => rfl

/-- What is reported when the same rows are imported again. -/
def ImportBulkResultDto.again (report : ImportBulkResultDto) : ImportBulkResultDto where
  created := 0
  skipped := report.created + report.skipped
  errors := report.errors
  details := report.details.map fun item => { item with result := item.result.again }

/-- Each row adds to the report of the second import what it became in the first. -/
theorem again_add (report : ImportBulkResultDto) (label : String) (item : BulkItemResult) :
    report.again.add label item.again = (report.add label item).again := by
  unfold ImportBulkResultDto.again ImportBulkResultDto.add
  rw [List.map_append]
  cases item with
  | error reason => rfl
  | assigned result id =>
    cases result with
    | created =>
      simp only [BulkItemResult.again, List.map_cons, List.map_nil, Nat.add_zero, ImportBulkResultDto.mk.injEq,
        and_true, true_and]
      omega
    | skipped =>
      simp only [BulkItemResult.again, List.map_cons, List.map_nil, Nat.add_zero, ImportBulkResultDto.mk.injEq,
        and_true, true_and]
      omega

/-- Rows that are imported one after another add instances that share their sessions with no other. -/
theorem importBulkRows_imported (rows : List ImportRow) (report : ImportBulkResultDto) (db : Database) :
    Imported db (importBulkRows context productId provider all rows (report, db)).2 := by
  induction rows generalizing report db with
  | nil => exact .refl db
  | cons row rows ih => exact (importBulkRow_imported row db).trans (ih _ _)

/-- Rows apart from a row do not change what its import finds. -/
theorem importBulkRows_unmoved {row : ImportRow} {rows : List ImportRow}
    (hapart : ∀ other ∈ rows, (other.alike all).length = 1 → row.Apart other) (origin : Database)
    (source : ImportContext) (report : ImportBulkResultDto) (db : Database) :
    (importBulkRows context productId provider all rows (report, db)).2.instancesForImport
        (importedInstance source productId provider row row.evNumber origin) =
      db.instancesForImport (importedInstance source productId provider row row.evNumber origin) := by
  induction rows generalizing report db with
  | nil => rfl
  | cons other rows ih =>
    have hrest := ih (fun next hnext => hapart next (List.mem_cons_of_mem _ hnext))
    exact (hrest _ _).trans (importBulkRow_unmoved (hapart other (List.mem_cons_self ..)) origin db source)

/-- Rows that are imported again, once all were imported, change nothing and are reported as before. -/
theorem importBulkRows_again (hcache : later.cache = context.cache)
    (hfresh : ∀ db : Database, db.instances.find? (context.newId db) = none) {rows : List ImportRow}
    (hapart : rows.Pairwise fun row other => (other.alike all).length = 1 → row.Apart other)
    (report : ImportBulkResultDto) (db : Database) :
    importBulkRows later productId provider all rows
        (report.again, (importBulkRows context productId provider all rows (report, db)).2) =
      ((importBulkRows context productId provider all rows (report, db)).1.again,
        (importBulkRows context productId provider all rows (report, db)).2) := by
  induction rows generalizing report db with
  | nil => rfl
  | cons row rows ih =>
    obtain ⟨hfirst, hrest⟩ := List.pairwise_cons.mp hapart
    let outcome := importBulkRow context productId provider all row db
    let done := importBulkRows context productId provider all rows (report.report row outcome.1, outcome.2)
    have hagain := @importBulkRow_again context later productId provider all hcache row db done.2 (hfresh db)
      (importBulkRows_imported rows _ outcome.2)
      (importBulkRows_unmoved hfirst db context _ outcome.2)
    change importBulkRows later productId provider all rows
      (report.again.report row (importBulkRow later productId provider all row done.2).1,
        (importBulkRow later productId provider all row done.2).2) = (done.1.again, done.2)
    rw [hagain.1, report_eq, hagain.2, again_add, ← report_eq]
    exact ih hrest _ outcome.2

/-- Of two rows of a list, the second is not assigned unless it is apart from the first. -/
theorem rows_apart {rows : List ImportRow} (h : rows.Sublist all) :
    rows.Pairwise fun row other => (other.alike all).length = 1 → row.Apart other := by
  apply List.pairwise_iff_forall_sublist.mpr
  intro row other hpair hone
  have hfilter := (hpair.trans h).filter fun o => o.evId = other.evId || o.evName = other.evName
  have hlength := hfilter.length_le
  change _ ≤ (other.alike all).length at hlength
  rw [hone] at hlength
  have hnot : (decide (row.evId = other.evId) || decide (row.evName = other.evName)) = false := by
    apply Bool.eq_false_iff.mpr
    intro hshares
    simp only [List.filter_cons, hshares, decide_true, Bool.or_self, if_true, List.filter_nil, List.length_cons,
      List.length_nil] at hlength
    omega
  obtain ⟨hid, hname⟩ := Bool.or_eq_false_iff.mp hnot
  exact ⟨of_decide_eq_false hid, of_decide_eq_false hname⟩

/-- The rows of a selection are rows of the provider, in their order. -/
theorem selectedRows_sublist (instanceIds : Option (List String)) :
    (selectedRows instanceIds all).Sublist all := by
  cases instanceIds with
  | none => exact .refl _
  | some ids => exact List.filter_sublist

/-- An import reads a provider only by its id and the columns that it was prepared against. -/
theorem importBulkRows_provider {other : VpsProvider} (hid : other.id = provider.id)
    (hsource : other.importSource = provider.importSource) (rows : List ImportRow)
    (done : ImportBulkResultDto × Database) :
    importBulkRows context productId other all rows done =
      importBulkRows context productId provider all rows done := by
  have hrow : ∀ row db, importBulkRow context productId other all row db =
      importBulkRow context productId provider all row db := by
    intro row db
    unfold importBulkRow assignImported importedInstance
    rw [hid, hsource]
  induction rows generalizing done with
  | nil => rfl
  | cons row rows ih =>
    obtain ⟨report, db⟩ := done
    change importBulkRows context productId other all rows
      (report.report row (importBulkRow context productId other all row db).1,
        (importBulkRow context productId other all row db).2) = _
    rw [hrow, ih]
    rfl

/-- The ids that no row has are reported again. -/
theorem missing_again (ids : List String) (report : ImportBulkResultDto) :
    ids.foldl (fun report _ => report.missing) report.again =
      (ids.foldl (fun report _ => report.missing) report).again := by
  induction ids generalizing report with
  | nil => rfl
  | cons id ids ih =>
    have hone : report.again.missing = report.missing.again := by
      unfold ImportBulkResultDto.again ImportBulkResultDto.missing
      rw [List.map_append]
      rfl
    rw [List.foldl_cons, List.foldl_cons, hone, ih]

end Loop

section Requests

variable {db db' : Database}

/-- Imports leave the origin of further imports as it was. -/
theorem importSource_again (h : Imported db db') (productId : Uuid) (selected : Option String) :
    match (importSource productId selected).run db with
    | .error e => (importSource productId selected).run db' = .error e
    | .ok (provider, _) => ∃ other, (importSource productId selected).run db' = .ok (other, db') ∧
        other.id = provider.id ∧ other.importSource = provider.importSource := by
  unfold importSource importProvider
  simp only [get_bind_run, orThrow_bind_run, throwWhen_bind_run, h.products, h.links]
  by_cases hblank : selected.any (trimmed · = "") = true
  · simp only [if_pos hblank]
  · simp only [if_neg hblank]
    cases db.products.find? productId with
    | none => rfl
    | some product =>
      simp only
      by_cases hactive : product.isActive = false
      · simp only [if_pos hactive]
      · simp only [if_neg hactive]
        cases product.importOrigin selected with
        | none => rfl
        | some id =>
          simp only
          by_cases hlink : db.links.find? (productId, id) = none
          · simp only [if_pos hlink]
          · simp only [if_neg hlink]
            obtain ⟨n, hn⟩ := h.providers id
            rw [hn]
            cases db.providers.find? id with
            | none => rfl
            | some provider =>
              rw [Option.map_some]
              cases hon : provider.isActive with
              | false => simp only [Option.filter_some, hon, Bool.false_eq_true, if_false]
              | true =>
                simp only [Option.filter_some, hon, if_true]
                by_cases hadapter : provider.adapterType ≠ "evolution"
                · simp only [if_pos hadapter]
                · simp only [if_neg hadapter]
                  exact ⟨_, rfl, rfl, rfl⟩

/-- An import of many sessions adds instances that share their sessions with no other. -/
theorem importBulkInstances_imported (context : ImportContext)
    (response : Except HubError (Option (List RemoteEntry))) (productId : Uuid) (selected : Option String)
    (instanceIds : Option (List String)) (db : Database) :
    Imported db (importBulkInstances context response productId selected instanceIds db).2 := by
  unfold importBulkInstances
  split
  · exact .refl db
  · split
    · exact .refl db
    · split
      · exact .refl db
      · exact importBulkRows_imported _ _ db

/-- So does the import of one. -/
theorem importSingleInstance_imported (context : ImportContext)
    (response : Except HubError (Option (List RemoteEntry))) (productId : Uuid)
    (dto : ImportEvolutionInstanceDto) (db : Database) :
    Imported db (importSingleInstance context response productId dto db).2 := by
  unfold importSingleInstance
  split
  · exact .refl db
  · split
    · exact .refl db
    · split
      · exact .refl db
      · split
        · split
          · exact .refl db
          · exact assignImported_imported
        · exact .refl db

/-- So do any imports, one after another. -/
theorem runImports_imported (db : Database) (imports : List ImportRequest) :
    Imported db (runImports db imports) := by
  induction imports generalizing db with
  | nil => exact .refl db
  | cons request imports ih =>
    have hone : Imported db (ImportRequest.apply db request) := by
      cases request with
      | single context response productId dto => exact importSingleInstance_imported ..
      | bulk context response productId selected instanceIds => exact importBulkInstances_imported ..
    exact hone.trans (ih _)

/-- An import of many sessions that is repeated changes nothing: it skips what the first one created or skipped,
and fails as the first one did. -/
theorem importBulkInstances_repeated {context later : ImportContext} (hcache : later.cache = context.cache)
    (hfresh : ∀ db : Database, db.instances.find? (context.newId db) = none)
    (response : Except HubError (Option (List RemoteEntry))) (productId : Uuid) (selected : Option String)
    (instanceIds : Option (List String)) (db : Database) :
    importBulkInstances later response productId selected instanceIds
        (importBulkInstances context response productId selected instanceIds db).2 =
      ((importBulkInstances context response productId selected instanceIds db).1.map ImportBulkResultDto.again,
        (importBulkInstances context response productId selected instanceIds db).2) := by
  have himported := importBulkInstances_imported context response productId selected instanceIds db
  have hsource := importSource_again himported productId selected
  unfold importBulkInstances at himported hsource ⊢
  by_cases hinvalid : instanceIds.any (!selectionValid ·) = true
  · simp only [if_pos hinvalid]
    rfl
  · simp only [if_neg hinvalid] at himported hsource ⊢
    cases hrun : (importSource productId selected).run db with
    | error e =>
      simp only [hrun] at hsource ⊢
      rfl
    | ok origin =>
      obtain ⟨provider, _⟩ := origin
      simp only [hrun] at himported hsource ⊢
      cases hrows : remoteImportRows response with
      | error e =>
        simp only [hrows] at himported hsource ⊢
        obtain ⟨other, hother, -⟩ := hsource
        rw [hother]
        rfl
      | ok all =>
        simp only [hrows] at himported hsource ⊢
        obtain ⟨other, hother, hid, hcolumns⟩ := hsource
        rw [hother]
        simp only
        have hagain := @importBulkRows_again context later productId provider all hcache hfresh _
          (rows_apart (selectedRows_sublist instanceIds)) {} db
        have hnone : ImportBulkResultDto.again {} = {} := rfl
        rw [hnone] at hagain
        rw [importBulkRows_provider hid hcolumns, hagain, missing_again]
        rfl

/-- An import of many sessions that is repeated changes nothing: it skips what the first one created or skipped,
and fails as the first one did. Whatever is imported, an instance that is added shares its session with no
other, and those that were there stay as they were. -/
theorem importBulkInstances_again (context later : ImportContext) (hcache : later.cache = context.cache)
    (hfresh : ∀ db : Database, db.instances.find? (context.newId db) = none)
    (response : Except HubError (Option (List RemoteEntry))) (productId : Uuid) (selected : Option String)
    (instanceIds : Option (List String)) (db : Database) (imports : List ImportRequest) :
    let first := importBulkInstances context response productId selected instanceIds db
    let after := runImports db imports
    importBulkInstances later response productId selected instanceIds first.2 =
        (first.1.map ImportBulkResultDto.again, first.2) ∧
      (∀ item ∈ db.instances, item ∈ after.instances) ∧
      ∀ item ∈ after.instances, item ∉ db.instances → ∀ other ∈ after.instances,
        other.vpsProviderId = item.vpsProviderId →
        other.instanceName = item.instanceName ∨ other.providerInstanceId = item.providerInstanceId →
        other = item := by
  intro first after
  have himports : Imported db after := runImports_imported db imports
  exact ⟨importBulkInstances_repeated hcache hfresh response productId selected instanceIds db, himports.kept,
    himports.alone⟩

/-- An id longer than those of all instances. -/
def spareId (db : Database) : Uuid :=
  ⟨String.ofList ('+' :: db.instances.rows.flatMap (·.id.value.toList)), by
    intro hempty
    have hlength := congrArg (·.toList.length) hempty
    simp only [String.toList_ofList] at hlength
    cases hlength⟩

/-- No instance has it. -/
theorem spareId_unused (db : Database) : db.instances.find? (spareId db) = none := by
  apply Table.find?_eq_none.mpr
  intro item hitem hid
  have hvalue : item.id.value.toList = '+' :: db.instances.rows.flatMap (·.id.value.toList) := by
    have htexts := congrArg (·.value.toList) hid
    simp only [spareId, String.toList_ofList] at htexts
    exact htexts
  have hsub : item.id.value.toList.Sublist (db.instances.rows.flatMap (·.id.value.toList)) :=
    List.sublist_flatten_of_mem (List.mem_map_of_mem (Table.mem_rows.mpr hitem))
  have hlength := hsub.length_le
  rw [hvalue, List.length_cons] at hlength
  omega

/-- Of four sessions two share a name and one has none, so that one is assigned; it is skipped afterwards. -/
theorem importBulkInstances_again_small :
    let context : ImportContext := ⟨0, spareId, none⟩
    let response : Except HubError (Option (List RemoteEntry)) := .ok (some [
      .item (.session { id := some "r1", name := some "one" }),
      .item (.session { id := some "r2", name := some "two" }),
      .item (.session { id := some "r3", nested := some { instanceName := some "two" } }),
      .item (.session { instanceId := some "r4" })])
    let first := importBulkInstances context response smallProduct.id (some "provider") none smallDatabase
    let second := importBulkInstances context response smallProduct.id (some "provider") none first.2
    let failures : List ImportBulkItemResultDto :=
      [⟨"two", .error "Identidade ambígua na Evolution"⟩, ⟨"two", .error "Identidade ambígua na Evolution"⟩,
        ⟨"unknown", .error "Identidade incompleta na Evolution"⟩]
    first.1.toOption =
        some ⟨1, 0, 3, ⟨"one", .assigned .created (spareId smallDatabase)⟩ :: failures⟩ ∧
      second.1.toOption =
        some ⟨0, 1, 3, ⟨"one", .assigned .skipped (spareId smallDatabase)⟩ :: failures⟩ := by
  intro context response first second failures
  have hfirst : first.1.toOption =
      some ⟨1, 0, 3, ⟨"one", .assigned .created (spareId smallDatabase)⟩ :: failures⟩ := by decide +kernel
  have hagain := (importBulkInstances_again context context rfl spareId_unused response smallProduct.id
    (some "provider") none smallDatabase []).1
  change second = (first.1.map ImportBulkResultDto.again, first.2) at hagain
  constructor
  · exact hfirst
  · rw [hagain]
    cases hreport : first.1 with
    | error e =>
      rw [hreport] at hfirst
      cases hfirst
    | ok report =>
      rw [hreport] at hfirst
      have hsame : report = ⟨1, 0, 3, ⟨"one", .assigned .created (spareId smallDatabase)⟩ :: failures⟩ :=
        Option.some.inj hfirst
      rw [hsame]
      rfl

end Requests

end ConnectHub
