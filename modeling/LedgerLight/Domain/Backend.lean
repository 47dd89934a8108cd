import LedgerLight.Domain.Database
import LedgerLight.Domain.Inventory
import LedgerLight.Domain.Team

/-!
# The whole database

All tables behind the backend. `Domain.Database` has the tables of orders and payments, and of the
catalog what orders read of it: `Backend.shop` is that part of the whole.

A row of `MembershipLocation` has no other name than its membership and its location.
-/

namespace LedgerLight

open Infra

structure Backend where
  organizations : Table Id Organization
  users : Table Id User
  memberships : Table Id Membership
  membershipLocations : List MembershipLocation
  inviteTokens : Table Id InviteToken
  refreshTokens : Table Id RefreshToken
  /-- The rows of `AuditLog` about users and memberships. -/
  memberLogs : List MemberAuditLog
  products : Table Id ProductRecord
  customers : Table Id CustomerRecord
  locations : Table Id LocationRecord
  inventoryLevels : Table Id InventoryLevel
  inventoryAdjustments : Table Id InventoryAdjustment
  orders : Table Id OrderRecord
  /-- The rows of `AuditLog` about payments. -/
  auditLogs : List AuditLog
  receipts : Table StripeEventId StripeWebhookReceipt

namespace Backend

def empty : Backend :=
  { organizations := ∅, users := ∅, memberships := ∅, membershipLocations := [],
    inviteTokens := ∅, refreshTokens := ∅, memberLogs := [], products := ∅, customers := ∅,
    locations := ∅, inventoryLevels := ∅, inventoryAdjustments := ∅, orders := ∅, auditLogs := [],
    receipts := ∅ }

/-- The database as orders and payments see it. -/
def shop (db : Backend) : Database :=
  { orders := db.orders
    products := db.products.mapRows (·.toProduct)
    customers := db.customers.mapRows (·.toCustomer)
    locations := db.locations.mapRows (·.toLocation)
    auditLogs := db.auditLogs
    receipts := db.receipts }

/-- The database after orders and payments wrote theirs; they do not write the catalog. -/
def setShop (db : Backend) (shop : Database) : Backend :=
  { db with orders := shop.orders, auditLogs := shop.auditLogs, receipts := shop.receipts }

end Backend

/-- The exceptions of the services behind all routes. -/
inductive BackendError where
  | app (e : AppError)
  | unauthorized (message : String)
  /-- An exception of the language, such as reading a field of `null`. -/
  | typeError (message : String)
deriving DecidableEq, Repr

namespace BackendError

def badRequest (message : String) : BackendError := .app (.badRequest message)

def conflict (message : String) : BackendError := .app (.conflict message)

def notFound (message : String) : BackendError := .app (.notFound message)

def forbidden (message : String) : BackendError := .app (.forbidden message)

def prisma (code : String) : BackendError := .app (.prisma code)

end BackendError

/-- What a statement locks: a row, or the value of a unique column. -/
inductive BackendKey where
  | shop (row : RowKey)
  | user (userId : Id)
  | email (email : String)
  | membership (membershipId : Id)
  /-- `@@unique([organizationId, userId])` of memberships. -/
  | seat (organizationId userId : Id)
  /-- The location rows of a membership. -/
  | scope (membershipId : Id)
  /-- The invite tokens of a membership. -/
  | invites (membershipId : Id)
  | inviteToken (tokenId : Id)
  /-- `tokenHash` of invite tokens is unique. -/
  | inviteHash (tokenHash : String)
  | location (locationId : Id)
  | product (productId : Id)
  /-- `@@unique([organizationId, sku])` of products. -/
  | sku (organizationId : Id) (sku : String)
  /-- `@@unique([productId, locationId])` of inventory levels: the level of the two. -/
  | level (productId locationId : Id)
  /-- The id of an inventory level. -/
  | levelId (levelId : Id)
  | adjustment (adjustmentId : Id)
deriving DecidableEq, Repr

/-- A transaction, or a service call outside one, over Stripe states `S`. -/
abbrev Work (S : Type) := Prog Backend BackendKey S BackendError

end LedgerLight
