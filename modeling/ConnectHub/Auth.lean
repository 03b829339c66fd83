import ConnectHub.Schema
import ConnectHub.Store.Pool
import Mathlib.Logic.Function.Basic

/-!
# API keys

A product is known by the hash of its API key. A guard looks the hash up in the cache and only then among the
products, and keeps what it finds for a minute; a rotation drops the entry of the old hash and stores a new
one. Guards and rotations share no lock: a task here runs one access at a time.
-/

namespace ConnectHub

open Store

/-- What a request is known by once its API key was accepted. -/
structure AuthCachePayload where
  productId : Uuid
  apiKeyHash : String
  isActive : Bool
  origins : List String
  hubRelay : Bool
  adapterType : String
  vpsProviderId : Option Uuid
  batchWebhookEnabled : Bool
  batchWebhookUrl : Option String
deriving DecidableEq, Repr

/-- What is kept of a product that was found by its hash. -/
def Product.authPayload (hash : String) (product : Product) : AuthCachePayload where
  productId := product.id
  apiKeyHash := hash
  isActive := product.isActive
  origins := product.origins
  hubRelay := product.hubRelay
  adapterType := product.adapterType
  vpsProviderId := product.vpsProviderId
  batchWebhookEnabled := product.batchWebhookEnabled
  batchWebhookUrl := product.batchWebhookUrl

/-- The entries of the cache by hash, and the products. -/
structure AuthShared where
  cache : String → Option AuthCachePayload
  products : Table Product

/-- Keep an entry. -/
def AuthShared.setWithTTL (shared : AuthShared) (hash : String) (payload : AuthCachePayload) : AuthShared :=
  { shared with cache := Function.update shared.cache hash (some payload) }

/-- Drop an entry. -/
def AuthShared.del (shared : AuthShared) (hash : String) : AuthShared :=
  { shared with cache := Function.update shared.cache hash none }

/-- A guard or a rotation under way, before its next access. -/
inductive AuthTask
  /-- Get the entry of the key presented. -/
  | canActivate (call : Nat) (apiKey : String)
  /-- Look the key up among the products. -/
  | missed (call : Nat) (apiKey : String)
  /-- Keep what was found. -/
  | found (call : Nat) (apiKey : String) (payload : AuthCachePayload)
  /-- Let the request through, unless its product is not active. -/
  | known (call : Nat) (apiKey : String) (payload : AuthCachePayload)
  /-- Read the hash of the product. -/
  | rotateKey (id : Uuid)
  /-- Drop the entry of that hash. -/
  | invalidate (id : Uuid) (apiKeyHash : String)
  /-- Store the new hash. -/
  | replace (id : Uuid) (apiKeyHash : String)
deriving DecidableEq, Repr

/-- The call a guard answers. -/
def AuthTask.call? : AuthTask → Option Nat
  | .canActivate call _ | .missed call _ | .found call _ _ | .known call _ _ => some call
  | .rotateKey _ | .invalidate _ _ | .replace _ _ => none

/-- What is observed of a step: a call is let through, a rotation returns, or neither. -/
inductive AuthEvent
  | accepted (call : Nat) (apiKey : String) (product : AuthCachePayload)
  | rotated (id : Uuid) (apiKeyHash : String)
  | silent
deriving DecidableEq, Repr

/-- The next access of a task, where a rotation draws the given key. -/
def AuthTask.run (hashSHA256 : String → String) (newApiKey : String) (shared : AuthShared) :
    AuthTask → AuthEvent × AuthShared × Option AuthTask
  | .canActivate call apiKey =>
    if apiKey = "" then (.silent, shared, none)
    else match shared.cache (hashSHA256 apiKey) with
      | some payload => (.silent, shared, some (.known call apiKey payload))
      | none => (.silent, shared, some (.missed call apiKey))
  | .missed call apiKey =>
    match shared.products.rows.find? fun product => product.apiKeyHash = hashSHA256 apiKey with
    | some product =>
      (.silent, shared, some (.found call apiKey (product.authPayload (hashSHA256 apiKey))))
    | none => (.silent, shared, none)
  | .found call apiKey payload =>
    (.silent, shared.setWithTTL (hashSHA256 apiKey) payload, some (.known call apiKey payload))
  | .known call apiKey payload =>
    if payload.isActive then (.accepted call apiKey payload, shared, none) else (.silent, shared, none)
  | .rotateKey id =>
    match shared.products.find? id with
    | some product => (.silent, shared, some (.invalidate id product.apiKeyHash))
    | none => (.silent, shared, none)
  | .invalidate id apiKeyHash => (.silent, shared.del apiKeyHash, some (.replace id apiKeyHash))
  | .replace id apiKeyHash =>
    if (shared.products.find? id).isSome then
      (.rotated id apiKeyHash,
        { shared with
          products := shared.products.modify (fun product => product.id = id)
            ({ · with apiKeyHash := hashSHA256 newApiKey }) },
        none)
    else (.silent, shared, none)

/-- One access of a task. No key that is drawn has the hash of the key in question. -/
inductive AuthStatement (hashSHA256 : String → String) (apiKey : String) (shared : AuthShared)
    (task : AuthTask) : AuthEvent → AuthShared → Option AuthTask → Prop
  | ran (newApiKey : String) (fresh : hashSHA256 newApiKey ≠ hashSHA256 apiKey) :
      AuthStatement hashSHA256 apiKey shared task (task.run hashSHA256 newApiKey shared).1
        (task.run hashSHA256 newApiKey shared).2.1 (task.run hashSHA256 newApiKey shared).2.2

/-- What happens besides: a request arrives, a rotation is asked for, or entries expire or are dropped and
products are edited, where none gets the hash of the key in question. -/
inductive AuthMove (hashSHA256 : String → String) (apiKey : String) (shared : AuthShared) :
    AuthEvent → AuthShared → List AuthTask → Prop
  | called (call : Nat) (presented : String) :
      AuthMove hashSHA256 apiKey shared .silent shared [.canActivate call presented]
  | rotates (id : Uuid) : AuthMove hashSHA256 apiKey shared .silent shared [.rotateKey id]
  | elsewhere {shared' : AuthShared}
      (cache : ∀ hash, shared'.cache hash = shared.cache hash ∨ shared'.cache hash = none)
      (products : ∀ product ∈ shared'.products, product.apiKeyHash = hashSHA256 apiKey →
        ∃ old ∈ shared.products, old.id = product.id ∧ old.apiKeyHash = hashSHA256 apiKey) :
      AuthMove hashSHA256 apiKey shared .silent shared' []

/-- One step of the guards and rotations. A task may be cut off where its access fails. -/
abbrev AuthStep (hashSHA256 : String → String) (apiKey : String) :
    Pool AuthShared AuthTask → AuthEvent → Pool AuthShared AuthTask → Prop :=
  PoolStep (AuthStatement hashSHA256 apiKey) (AuthMove hashSHA256 apiKey) .silent

end ConnectHub
