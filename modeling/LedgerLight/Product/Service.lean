import LedgerLight.Inventory.Service

/-!
# The product service

`domain/product/product.service.ts`, the calls on a product that exists; `createProduct` is with the
stock. A product is never deleted: `deleteProduct` sets it inactive.
-/

namespace LedgerLight

open Infra Prog

/-- A missing field is left alone; the client refuses `null`, but for the category, which it
clears. -/
structure UpdateProductDto where
  name : Option (Option String) := none
  sku : Option (Option String) := none
  category : Option (Option String) := none
  priceCents : Option (Option Rat) := none
  reorderThreshold : Option (Option Int) := none
  active : Option (Option Bool) := none
deriving DecidableEq, Repr

/-- The client takes the values of the request. -/
def UpdateProductDto.isValid (data : UpdateProductDto) : Bool :=
  data.name != some none && data.sku != some none && data.active != some none &&
    data.priceCents.all (fun x => (x.bind int4?).isSome) &&
    data.reorderThreshold.all fun n => n.any isInt4

/-- The row after `product.update`. -/
def updatedProduct (env : Env) (data : UpdateProductDto) (p : ProductRecord) : ProductRecord :=
  { p with
    name := data.name.join.getD p.name
    sku := data.sku.join.getD p.sku
    category := data.category.getD p.category
    priceCents := (data.priceCents.join.bind int4?).getD p.priceCents
    reorderThreshold := data.reorderThreshold.join.getD p.reorderThreshold
    active := data.active.join.getD p.active
    updatedAt := env.now }

/-- Another product of the organization has the SKU of `p`. -/
def Backend.skuTakenFrom (db : Backend) (productId : Id) (p : ProductRecord) : Bool :=
  (db.products.findRow? fun id p' =>
    id != productId && p'.organizationId == p.organizationId && p'.sku == p.sku).isSome

variable {S : Type}

/-- `product.update` by `id` and `organizationId`, with the row it answers. -/
def productUpdate (env : Env) (organizationId productId : Id) (data : UpdateProductDto) :
    Work S ProductRecord :=
  returning [.product productId]
    (fun db =>
      if data.isValid = false then some validationError
      else match (db.products.lookup productId).filter fun p =>
          p.organizationId == organizationId with
      | none => some (.prisma "P2025")
      | some p =>
        if (updatedProduct env data p).fits = false then some (.prisma "P2000")
        else if db.skuTakenFrom productId (updatedProduct env data p) = true then
          some (.prisma "P2002")
        else none)
    (fun db =>
      match db.products.lookup productId with
      | none => db
      | some p => db.setProduct productId (updatedProduct env data p))
    (fun db => (db.products.lookup productId).elim (.error (.prisma "P2025")) .ok)

def updateProduct (env : Env) (organizationId productId : Id) (data : UpdateProductDto) :
    Work S ProductRecord :=
  productUpdate env organizationId productId data

def deleteProduct (env : Env) (organizationId productId : Id) : Work S ProductRecord :=
  productUpdate env organizationId productId { active := some (some false) }

/-! ## What the calls do -/

section

variable {env : Env} {organizationId productId : Id} {data : UpdateProductDto} {db db' : Backend}
  {s s' : S} {p : ProductRecord}

theorem productUpdate_ok
    (h : (productUpdate env organizationId productId data).run db s = (.ok (p, db'), s')) :
    ∃ p₀, db.products.lookup productId = some p₀ ∧ p₀.organizationId = organizationId ∧
      db' = db.setProduct productId (updatedProduct env data p₀) ∧ s' = s := by
  obtain ⟨hfails, -, rfl, rfl⟩ := run_returning_ok.mp h
  split at hfails
  · cases hfails
  · cases hp : (db.products.lookup productId).filter fun p =>
        p.organizationId == organizationId with
    | none => rw [hp] at hfails; cases hfails
    | some p₀ =>
      obtain ⟨hlookup, horg⟩ := Option.filter_eq_some_iff.mp hp
      exact ⟨p₀, hlookup, beq_iff_eq.mp horg, by rw [hlookup], rfl⟩

/-- A call that fails leaves the products alone. -/
theorem productUpdate_failsClean :
    (productUpdate env organizationId productId data : Work S _).FailsClean := by
  refine failsClean_returning fun db hfails => ?_
  cases hp : db.products.lookup productId with
  | none =>
    split at hfails
    · cases hfails
    · rw [hp] at hfails
      cases hfails
  | some p => exact ⟨_, by simp only [Backend.setProduct, AList.lookup_insert]; rfl⟩

end

end LedgerLight
