import ConnectHub.Batch
import ConnectHub.Links

/-!
# Importing the sessions of a provider

An administrator assigns sessions that a provider reports to a product, one of them or all at once. The rows
are read from what the provider answers; each is assigned in a transaction of its own, and only if no other row
has its id or its name.
-/

namespace ConnectHub

open Store

section Rows

/-- The nested members of a session that a provider reports. -/
structure NestedSession where
  instanceId : Option String := none
  instanceName : Option String := none
  token : Option String := none
  number : Option String := none
  connectionStatus : Option String := none
  status : Option String := none
deriving DecidableEq, Repr

/-- A session that a provider reports, in any of the forms that its versions use. -/
structure RemoteInstance where
  id : Option String := none
  name : Option String := none
  token : Option String := none
  number : Option String := none
  connectionStatus : Option String := none
  instanceId : Option String := none
  instanceName : Option String := none
  nested : Option NestedSession := none
  settingInstanceId : Option String := none
deriving DecidableEq, Repr

/-- An element of a list that a provider reports. -/
inductive RemoteItem
  | session (inst : RemoteInstance)
  | other
deriving DecidableEq, Repr

/-- An element of what a provider reports, which may be a list of its own. -/
inductive RemoteEntry
  | item (element : RemoteItem)
  | array (items : List RemoteItem)
deriving DecidableEq, Repr

/-- What is read of a session. -/
structure ImportRow where
  evId : String
  evName : String
  evToken : String
  evNumber : Option String
  evStatus : Option String
deriving DecidableEq, Repr

/-- The first text, if it is there and not empty, and otherwise the second. -/
def orText (first second : Option String) : Option String := if truthy first then first else second

/-- Read a session in any of its forms. -/
def extractEvolutionInstanceFields (inst : RemoteInstance) : ImportRow where
  evId := (orText (orText (orText (orText inst.id (inst.nested.bind (·.instanceId))) inst.instanceId)
    inst.settingInstanceId) (some "")).getD ""
  evName := (orText (orText (orText inst.name (inst.nested.bind (·.instanceName))) inst.instanceName)
    (some "")).getD ""
  evToken := (orText (orText inst.token (inst.nested.bind (·.token))) (some "")).getD ""
  evNumber := orText inst.number (inst.nested.bind (·.number))
  evStatus := orText (orText inst.connectionStatus (inst.nested.bind (·.connectionStatus)))
    (inst.nested.bind (·.status))

/-- The elements of an entry. -/
def RemoteEntry.flat : RemoteEntry → List RemoteItem
  | .item element => [element]
  | .array items => items

/-- An entry as an element. -/
def RemoteEntry.toItem : RemoteEntry → RemoteItem
  | .item element => element
  | .array _ => .other

/-- The elements of what a provider reports, whose first entry tells whether it is a list of lists. -/
def normalizeEvolutionFetchResponse (raw : List RemoteEntry) : List RemoteItem :=
  match raw with
  | .array _ :: _ => raw.flatMap RemoteEntry.flat
  | _ => raw.map RemoteEntry.toItem

/-- The session that an element is. -/
def RemoteItem.session? : RemoteItem → Option RemoteInstance
  | .session inst => some inst
  | .other => none

/-- The rows that a provider reports, if it answers with a list of sessions. -/
def remoteImportRows (response : Except HubError (Option (List RemoteEntry))) :
    Except HubError (List ImportRow) :=
  match response with
  | .error e => .error e
  | .ok none => .error (.badGateway "Resposta de inventário inválida")
  | .ok (some raw) =>
    match (normalizeEvolutionFetchResponse raw).mapM RemoteItem.session? with
    | none => .error (.badGateway "Resposta de inventário inválida")
    | some sessions => .ok (sessions.map extractEvolutionInstanceFields)

/-- The status of a session; a name that every object inherits is found, but is not a text. -/
def normalizeConnectionStatus (connectionStatus : Option String) : Option String :=
  if truthy connectionStatus then
    match (connectionStatus.getD "").toLower with
    | "open" => some "connected"
    | "connecting" => some "connecting"
    | "close" => some "disconnected"
    | "disconnected" => some "disconnected"
    | "constructor" => none
    | "__proto__" => none
    | _ => some "disconnected"
  else some "disconnected"

end Rows

section Cache

/-- Whether a character stands for itself in a component of an address. -/
def isUriUnreserved (c : Char) : Bool := c.isAlphanum || "-_.!~*'()".toList.contains c

/-- A text as a component of an address. -/
def encodeURIComponent (text : String) : String :=
  String.ofList (text.toList.flatMap fun c =>
    if isUriUnreserved c then [c]
    else (String.singleton c).toUTF8.toList.flatMap fun byte =>
      ['%', (Nat.digitChar (byte.toNat / 16)).toUpper, (Nat.digitChar (byte.toNat % 16)).toUpper])

/-- The key under which an instance of a product is cached. -/
def instanceCacheKey (productId : Uuid) (kind identifier : String) : String :=
  "instance:v2:" ++ encodeURIComponent productId.value ++ ":" ++ kind ++ ":" ++ encodeURIComponent identifier

/-- The keys under which an instance may be cached. -/
def instanceCacheKeys (item : Instance) : List String :=
  ([instanceCacheKey item.productId "id" item.id.value,
    instanceCacheKey item.productId "name" item.instanceName, "instance:" ++ item.id.value,
    "instance:" ++ item.productId.value ++ ":" ++ item.instanceName] ++
    (if truthy item.providerInstanceId then
      [instanceCacheKey item.productId "id" (item.providerInstanceId.getD ""),
        "instance:" ++ item.providerInstanceId.getD ""]
    else [])).eraseDups

/-- Whether all keys of an instance could be deleted. -/
def invalidateInstanceCache (deletes : String → Bool) (item : Instance) : Bool :=
  (instanceCacheKeys item).all deletes

end Cache

section Assigning

/-- What an import finds besides the database: the time, how identifiers are generated, and a cache, if there is
one, with the keys that it can delete. -/
structure ImportContext where
  now : Instant
  newId : Database → Uuid
  cache : Option (String → Bool) := none

/-- A session that is assigned to a product. -/
structure AssignedImport where
  result : ImportOutcome
  hubInstanceId : Uuid
deriving DecidableEq, Repr

/-- The id of the provider that is asked for, or of the default one of a product. -/
def Product.importOrigin (product : Product) (selected : Option String) : Option Uuid :=
  match selected with
  | some text => if h : text ≠ "" then some ⟨text, h⟩ else none
  | none => product.vpsProviderId

/-- Where the sessions of a product are imported from: a provider that it is linked to. -/
def importSource (productId : Uuid) (selected : Option String) : Tx VpsProvider := do
  throwWhen (selected.any (trimmed · = "") = true) (.badRequest "vpsProviderId inválido")
  let db ← get
  let product ← orThrow (.notFound ("Produto " ++ productId.value ++ " não encontrado"))
    (db.products.find? productId)
  throwWhen (product.isActive = false) (.badRequest "Produto inativo")
  let id ← orThrow (.badRequest "Produto sem VpsProvider associado") (product.importOrigin selected)
  throwWhen (db.links.find? (productId, id) = none) (.badRequest "Provider não vinculado ao produto")
  importProvider id

/-- The instance that a row is assigned as. -/
def importedInstance (context : ImportContext) (productId : Uuid) (provider : VpsProvider) (row : ImportRow)
    (number : Option String) (db : Database) : Instance where
  id := context.newId db
  productId := productId
  vpsProviderId := provider.id
  instanceName := row.evName
  providerInstanceId := some row.evId
  instanceToken := if row.evToken = "" then none else some row.evToken
  hubToken := "hub_" ++ productId.value ++ "_" ++ row.evName
  phoneNumber := number
  status := (normalizeConnectionStatus row.evStatus).getD ""
  isActive := true
  updatedAt := context.now

/-- Assign a session; a status that is not a text is refused when it is to be written. -/
def importWithStatus (data : Instance) (status : Option String) (source : ImportSource) :
    Tx (ImportOutcome × Instance) := do
  let assigned ← importLinkedInstance data source
  throwWhen (assigned.1 = .created ∧ status = none) (.internal "Invalid value provided: status")
  pure assigned

/-- Assign a row to a product, and clear the cache of its instance. -/
def assignImported (context : ImportContext) (productId : Uuid) (provider : VpsProvider) (row : ImportRow)
    (number : Option String) (db : Database) : Except HubError AssignedImport × Database :=
  if row.evId = "" ∨ row.evName = "" then (.error (.badRequest "Identidade incompleta na Evolution"), db)
  else
    match (importWithStatus (importedInstance context productId provider row number db)
        (normalizeConnectionStatus row.evStatus) provider.importSource).run db with
    | .error e => (.error e, db)
    | .ok (assigned, db') =>
      if context.cache.all (invalidateInstanceCache · assigned.2) then (.ok ⟨assigned.1, assigned.2.id⟩, db')
      else (.error (.internal "cache"), db')

/-- A session that an administrator names. -/
structure ImportEvolutionInstanceDto where
  vpsProviderId : Option String := none
  id : Option String
  name : Option String
  number : Option String := none
deriving DecidableEq, Repr

/-- Import one session, which only one row may be. -/
def importSingleInstance (context : ImportContext) (response : Except HubError (Option (List RemoteEntry)))
    (productId : Uuid) (dto : ImportEvolutionInstanceDto) (db : Database) :
    Except HubError AssignedImport × Database :=
  if truthy dto.id = false ∨ truthy dto.name = false then
    (.error (.badRequest "ID e nome da instância são obrigatórios"), db)
  else
    match (importSource productId dto.vpsProviderId).run db with
    | .error e => (.error e, db)
    | .ok (provider, _) =>
      match remoteImportRows response with
      | .error e => (.error e, db)
      | .ok rows =>
        match rows.filter fun row => some row.evId = dto.id || some row.evName = dto.name with
        | [row] =>
          if some row.evId ≠ dto.id ∨ some row.evName ≠ dto.name then
            (.error (.conflict "Origem ou identidade da instância não comprovada"), db)
          else assignImported context productId provider row (dto.number.or row.evNumber) db
        | _ => (.error (.conflict "Origem ou identidade da instância não comprovada"), db)

end Assigning

section Bulk

/-- What became of a row. -/
inductive BulkItemResult
  | assigned (result : ImportOutcome) (hubInstanceId : Uuid)
  | error (reason : String)
deriving DecidableEq, Repr

/-- What is reported about a row. -/
structure ImportBulkItemResultDto where
  instanceName : String
  result : BulkItemResult
deriving DecidableEq, Repr

/-- What is reported about an import. -/
structure ImportBulkResultDto where
  created : ℕ := 0
  skipped : ℕ := 0
  errors : ℕ := 0
  details : List ImportBulkItemResultDto := []
deriving DecidableEq, Repr

/-- The name under which a row is reported. -/
def ImportRow.label (row : ImportRow) : String := if row.evName = "" then "unknown" else row.evName

/-- The reason that is reported for a failure: its message, if it is meant for clients. -/
def HubError.importReason : HubError → String
  | .badRequest message => message
  | .forbidden message => message
  | .notFound message => message
  | .conflict message => message
  | .blocked message _ => message
  | .unprocessable message => message
  | .badGateway message => message
  | .serviceUnavailable message => message
  | .requestTimeout _ => "Request timeout"
  | .uniqueViolation | .recordNotFound | .internal _ => "Falha ao registrar instância; vínculo preservado"

/-- The rows that share the id or the name of a row. -/
def ImportRow.alike (row : ImportRow) (all : List ImportRow) : List ImportRow :=
  all.filter fun other => other.evId = row.evId || other.evName = row.evName

/-- Import one row of many. -/
def importBulkRow (context : ImportContext) (productId : Uuid) (provider : VpsProvider) (all : List ImportRow)
    (row : ImportRow) (db : Database) : Except HubError AssignedImport × Database :=
  if row.evId = "" then
    (.error (.badRequest "id ausente na resposta da Evolution — não foi possível identificar a instância"), db)
  else if (row.alike all).length ≠ 1 then (.error (.conflict "Identidade ambígua na Evolution"), db)
  else assignImported context productId provider row row.evNumber db

/-- Report what became of a row. -/
def ImportBulkResultDto.report (report : ImportBulkResultDto) (row : ImportRow) :
    Except HubError AssignedImport → ImportBulkResultDto
  | .ok ⟨.created, id⟩ =>
    { report with
      created := report.created + 1
      details := report.details ++ [⟨row.label, .assigned .created id⟩] }
  | .ok ⟨.skipped, id⟩ =>
    { report with
      skipped := report.skipped + 1
      details := report.details ++ [⟨row.label, .assigned .skipped id⟩] }
  | .error e =>
    { report with
      errors := report.errors + 1
      details := report.details ++ [⟨row.label, .error e.importReason⟩] }

/-- Report an id that no row has. -/
def ImportBulkResultDto.missing (report : ImportBulkResultDto) : ImportBulkResultDto :=
  { report with
    errors := report.errors + 1
    details := report.details ++ [⟨"unknown", .error "ID selecionado não encontrado na origem"⟩] }

/-- Import one row after another. -/
def importBulkRows (context : ImportContext) (productId : Uuid) (provider : VpsProvider)
    (all : List ImportRow) : List ImportRow → ImportBulkResultDto × Database → ImportBulkResultDto × Database
  | [], done => done
  | row :: rows, (report, db) =>
    let outcome := importBulkRow context productId provider all row db
    importBulkRows context productId provider all rows (report.report row outcome.1, outcome.2)

/-- Whether a selection of ids is not empty and has only distinct ids that are not blank. -/
def selectionValid (instanceIds : List String) : Bool :=
  instanceIds ≠ [] ∧ instanceIds.all (trimmed · ≠ "") ∧ instanceIds.Nodup

/-- The rows that a selection picks, or all. -/
def selectedRows (instanceIds : Option (List String)) (all : List ImportRow) : List ImportRow :=
  match instanceIds with
  | some ids => all.filter fun row => ids.contains row.evId
  | none => all

/-- The ids of a selection that no row has. -/
def missingIds (instanceIds : Option (List String)) (all : List ImportRow) : List String :=
  (instanceIds.getD []).filter fun id => !(all.any fun row => row.evId = id)

/-- Import the sessions of a provider, all or those selected. -/
def importBulkInstances (context : ImportContext) (response : Except HubError (Option (List RemoteEntry)))
    (productId : Uuid) (selected : Option String) (instanceIds : Option (List String)) (db : Database) :
    Except HubError ImportBulkResultDto × Database :=
  if instanceIds.any (!selectionValid ·) then
    (.error (.badRequest "instanceIds deve conter IDs distintos e não vazios"), db)
  else
    match (importSource productId selected).run db with
    | .error e => (.error e, db)
    | .ok (provider, _) =>
      match remoteImportRows response with
      | .error e => (.error e, db)
      | .ok all =>
        let done := importBulkRows context productId provider all (selectedRows instanceIds all) ({}, db)
        (.ok ((missingIds instanceIds all).foldl (fun report _ => report.missing) done.1), done.2)

end Bulk

section Requests

/-- An import of one session or of many, with what it finds. -/
inductive ImportRequest
  | single (context : ImportContext) (response : Except HubError (Option (List RemoteEntry))) (productId : Uuid)
      (dto : ImportEvolutionInstanceDto)
  | bulk (context : ImportContext) (response : Except HubError (Option (List RemoteEntry))) (productId : Uuid)
      (selected : Option String) (instanceIds : Option (List String))

/-- The database after an import. -/
def ImportRequest.apply (db : Database) : ImportRequest → Database
  | .single context response productId dto => (importSingleInstance context response productId dto db).2
  | .bulk context response productId selected instanceIds =>
    (importBulkInstances context response productId selected instanceIds db).2

/-- The database after one import after another. -/
def runImports (db : Database) (imports : List ImportRequest) : Database := imports.foldl ImportRequest.apply db

end Requests

end ConnectHub
