/-!
# Identifiers, dates and errors

What every service shares: the ids it generates, the clock it reads, and the exceptions it throws.
-/

namespace LedgerLight

/--
A generated id (`uuid()` in the schema, `randomUUID()` in the services).

It records the step of the run it was generated in and its number within that step, so two ids
generated at different places differ.
-/
structure Id where
  step : Nat
  index : Nat
deriving DecidableEq, Repr

/-- Milliseconds since the epoch. -/
abbrev Date := Nat

/-- What a request reads besides its input: the clock and the generator of ids. -/
structure Env where
  now : Date
  uuid : Nat → Id

/-- The exceptions a service call ends with. -/
inductive AppError where
  | badRequest (message : String)
  | conflict (message : String)
  | notFound (message : String)
  | forbidden (message : String)
  /-- `PrismaClientKnownRequestError` with its code. -/
  | prisma (code : String)
  /-- An error thrown by the Stripe client. -/
  | stripe (message : String)
deriving DecidableEq, Repr

/-- `error.message`. -/
def AppError.message : AppError → String
  | badRequest m | conflict m | notFound m | forbidden m | stripe m => m
  | prisma code => code

/-- The request data an audit row repeats. -/
structure AuditContext where
  actorUserId : Option Id := none
  requestId : Option String := none
  ip : Option String := none
  userAgent : Option String := none
deriving DecidableEq, Repr

end LedgerLight
