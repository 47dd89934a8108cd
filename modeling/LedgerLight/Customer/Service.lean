import LedgerLight.Domain.Backend

/-!
# The customer service

`domain/customer/customer.service.ts`, the calls that change something. Deleting a customer takes it
off its orders.
-/

namespace LedgerLight

open Infra Prog

structure CreateCustomerDto where
  name : String
  email : String
  phone : Option String := none
  internalNote : Option String := none
deriving DecidableEq, Repr

/-- A missing field is left alone; `null` clears the phone and the note, for the others the client
refuses it. -/
structure UpdateCustomerDto where
  name : Option (Option String) := none
  email : Option (Option String) := none
  phone : Option (Option String) := none
  status : Option (Option CustomerStatus) := none
  internalNote : Option (Option String) := none
deriving DecidableEq, Repr

/-- The row of `customer.create`. -/
def createdCustomer (env : Env) (organizationId : Id) (data : CreateCustomerDto) :
    CustomerRecord :=
  { organizationId := organizationId, name := data.name, email := data.email, phone := data.phone
    status := .active, internalNote := data.internalNote, createdAt := env.now
    updatedAt := env.now }

/-- The row after `customer.update`. -/
def updatedCustomer (env : Env) (data : UpdateCustomerDto) (c : CustomerRecord) :
    CustomerRecord :=
  { c with
    name := data.name.join.getD c.name
    email := data.email.join.getD c.email
    phone := data.phone.getD c.phone
    status := data.status.join.getD c.status
    internalNote := data.internalNote.getD c.internalNote
    updatedAt := env.now }

/-- The columns are wide enough. -/
def CustomerRecord.fits (c : CustomerRecord) : Bool :=
  c.name.length ≤ 200 && c.email.length ≤ 320 && c.phone.all fun s => s.length ≤ 50

namespace Backend

variable (db : Backend)

def setCustomer (customerId : Id) (c : CustomerRecord) : Backend :=
  { db with customers := db.customers.insert customerId c }

/-- `db` without a customer; its orders have none. -/
def removeCustomer (customerId : Id) : Backend :=
  { db with
    customers := db.customers.erase customerId
    orders := db.orders.mapRows fun o =>
      if o.customerId = some customerId then { o with customerId := none } else o }

/-- The customer, if it is one of the organization. -/
def customerOf? (organizationId customerId : Id) : Option CustomerRecord :=
  (db.customers.lookup customerId).filter fun c => c.organizationId == organizationId

end Backend

variable {S : Type}

/-- `createCustomer`; the new row gets the id `env.uuid 0`. -/
def createCustomer (env : Env) (organizationId : Id) (data : CreateCustomerDto) :
    Work S CustomerRecord := do
  exec []
    (fun db =>
      if (createdCustomer env organizationId data).fits = false then some (.prisma "P2000")
      else if (db.customers.lookup (env.uuid 0)).isSome then some (.prisma "P2002")
      else if (db.organizations.lookup organizationId).isSome then none
      else some (.prisma "P2003"))
    (fun db => db.setCustomer (env.uuid 0) (createdCustomer env organizationId data))
  pure (createdCustomer env organizationId data)

def updateCustomer (env : Env) (organizationId customerId : Id) (data : UpdateCustomerDto) :
    Work S CustomerRecord :=
  returning []
    (fun db =>
      if data.name = some none ∨ data.email = some none ∨ data.status = some none then
        some (.prisma "PrismaClientValidationError")
      else match db.customerOf? organizationId customerId with
      | none => some (.prisma "P2025")
      | some c => if (updatedCustomer env data c).fits = false then some (.prisma "P2000") else none)
    (fun db =>
      match db.customers.lookup customerId with
      | none => db
      | some c => db.setCustomer customerId (updatedCustomer env data c))
    (fun db => (db.customers.lookup customerId).elim (.error (.prisma "P2025")) .ok)

/-- `deleteCustomer`; it answers the row that is deleted. -/
def deleteCustomer (organizationId customerId : Id) : Work S CustomerRecord := do
  match ← select fun db => db.customerOf? organizationId customerId with
  | none => fail (.prisma "P2025")
  | some c =>
    exec [] (fun _ => none) fun db => db.removeCustomer customerId
    pure c

/-! ## What the calls do -/

section

variable {env : Env} {organizationId customerId : Id} {db db' : Backend} {s s' : S}
  {c : CustomerRecord}

theorem Backend.customerOf?_eq_some (h : db.customerOf? organizationId customerId = some c) :
    db.customers.lookup customerId = some c ∧ c.organizationId = organizationId := by
  obtain ⟨hc, horg⟩ := Option.filter_eq_some_iff.mp h
  exact ⟨hc, beq_iff_eq.mp horg⟩

theorem createCustomer_ok {data : CreateCustomerDto}
    (h : (createCustomer env organizationId data).run db s = (.ok (c, db'), s')) :
    db.customers.lookup (env.uuid 0) = none ∧
      db' = db.setCustomer (env.uuid 0) (createdCustomer env organizationId data) ∧ s' = s := by
  obtain ⟨u, d, t, hcreate, h₁⟩ := run_bind_ok.mp h
  obtain ⟨hfails, rfl, rfl⟩ := run_exec_ok.mp hcreate
  obtain ⟨-, rfl, rfl⟩ := run_pure_ok.mp h₁
  split at hfails
  · cases hfails
  · split at hfails
    · cases hfails
    · next hnew => exact ⟨by simpa using hnew, rfl, rfl⟩

theorem updateCustomer_ok {data : UpdateCustomerDto}
    (h : (updateCustomer env organizationId customerId data).run db s = (.ok (c, db'), s')) :
    ∃ c₀, db.customerOf? organizationId customerId = some c₀ ∧
      db' = db.setCustomer customerId (updatedCustomer env data c₀) ∧ s' = s := by
  obtain ⟨hfails, -, rfl, rfl⟩ := run_returning_ok.mp h
  split at hfails
  · cases hfails
  · cases hc : db.customerOf? organizationId customerId with
    | none => rw [hc] at hfails; cases hfails
    | some c₀ => exact ⟨c₀, rfl, by rw [(Backend.customerOf?_eq_some hc).1], rfl⟩

theorem deleteCustomer_ok
    (h : (deleteCustomer organizationId customerId).run db s = (.ok (c, db'), s')) :
    db.customerOf? organizationId customerId = some c ∧ db' = db.removeCustomer customerId ∧
      s' = s := by
  obtain ⟨found, d, t, hread, h₁⟩ := run_bind_ok.mp h
  obtain ⟨rfl, rfl, rfl⟩ := run_select_ok.mp hread
  cases hc : d.customerOf? organizationId customerId with
  | none => rw [hc] at h₁; exact (run_fail_ok.mp h₁).elim
  | some c₀ =>
    rw [hc] at h₁
    obtain ⟨u, d₁, t₁, hdelete, h₂⟩ := run_bind_ok.mp h₁
    obtain ⟨-, rfl, rfl⟩ := run_exec_ok.mp hdelete
    obtain ⟨rfl, rfl, rfl⟩ := run_pure_ok.mp h₂
    exact ⟨rfl, rfl, rfl⟩

/-! ## Calls that fail -/

theorem createCustomer_failsClean {data : CreateCustomerDto} :
    (createCustomer env organizationId data : Work S _).FailsClean :=
  failsClean_exec.bind_pure

theorem updateCustomer_failsClean {data : UpdateCustomerDto} :
    (updateCustomer env organizationId customerId data : Work S _).FailsClean := by
  refine failsClean_returning fun db hfails => ?_
  cases hc : db.customers.lookup customerId with
  | none =>
    split at hfails
    · cases hfails
    · rw [Backend.customerOf?, hc] at hfails
      cases hfails
  | some c => exact ⟨_, by simp only [Backend.setCustomer, AList.lookup_insert]; rfl⟩

theorem deleteCustomer_failsClean :
    (deleteCustomer organizationId customerId : Work S _).FailsClean := by
  refine readOnly_select.bind_failsClean fun found => ?_
  cases found with
  | none => exact (ReadOnly.failsClean trivial)
  | some c => exact failsClean_exec.bind_pure

end

end LedgerLight
