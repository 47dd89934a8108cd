import LedgerLight.Mcp.TokenManager

/-!
# The tools of the MCP server

`mcp-server/src/tools`: what the tools ask the backend for. A call of a tool gets an access token
from the token manager, takes a correlation id, and sends one request with both. What the tools
that read pass on of their arguments is the query of a list, which no route of the model reads.
-/

namespace LedgerLight.Mcp

open Infra

/-- A tool with its arguments. -/
inductive ToolCall where
  | searchProducts | searchOrders | getOrderDetails | getOrdersForCustomer | checkInventory
  | listLowStockProducts
  | proposeInventoryAdjustment (productId locationId : Id) (delta : Int)
      (reason : InventoryAdjustmentReason) (note : Option String)
deriving DecidableEq, Repr

/-- The length of a text in JavaScript. -/
def utf16Length (s : String) : Nat := (s.toList.map fun c => if c.toNat < 0x10000 then 1 else 2).sum

/-- The note of an adjustment, behind the mark of the server. -/
def aiNote (correlationId : String) (note : Option String) : String :=
  " ".intercalate (("[AI/MCP correlationId:" ++ correlationId ++ "]") :: (nonempty? note).toList)

/-- The body that `propose_inventory_adjustment` posts. -/
def adjustmentPayload (correlationId : String) (productId locationId : Id) (delta : Int)
    (reason : InventoryAdjustmentReason) (note : Option String) : CreateAdjustmentBodyDto :=
  { productId := productId, locationId := locationId, delta := delta, reason := some (some reason)
    note := some (aiNote correlationId note) }

namespace ToolCall

/-- `InputSchema`, besides the types of the arguments. -/
def parses : ToolCall → Bool
  | proposeInventoryAdjustment _ _ delta _ note =>
    delta != 0 && note.all fun note => decide (utf16Length note ≤ 500)
  | _ => true

/-- The endpoint that the tool calls, with the body it posts. -/
def route (correlationId : String) : ToolCall → Route
  | searchProducts => .read .getProducts
  | searchOrders | getOrdersForCustomer => .read .getOrders
  | getOrderDetails => .read .getOrder
  | checkInventory => .read .getLevels
  | listLowStockProducts => .read .getInventory
  | proposeInventoryAdjustment productId locationId delta reason note =>
    .createAdjustment (adjustmentPayload correlationId productId locationId delta reason note)

end ToolCall

structure ToolContext where
  organizationId : Id
  accessToken : String
  correlationId : String
deriving DecidableEq, Repr

/-- The request of a call, with `buildBackendHeaders`. -/
def ToolContext.request (ctx : ToolContext) (env : TeamEnv) (call : ToolCall) : ApiRequest :=
  { env := env, bearer := some ctx.accessToken, organizationId := some ctx.organizationId
    requestId := some ctx.correlationId, route := call.route ctx.correlationId }

/-! ## Calls of tools -/

variable {S M : Type}

/-- The server and the backend, and the calls of `getAccessToken` whose tools have gone on. -/
structure Agent (S : Type) where
  service : Service S
  called : List Nat

inductive AgentMove (M : Type) where
  | service (move : ServiceMove M)
  /-- The tool that made a call of `getAccessToken` goes on with the token it got. -/
  | tool (id : Nat) (env : TeamEnv) (correlationId : String) (call : ToolCall)

/-- `buildToolContext`, once the token is there. -/
def Agent.context? (organizationId : Id) (st : Agent S) (id : Nat) (correlationId : String) :
    Option ToolContext :=
  if id ∈ st.called then none
  else (st.service.tokens.returned.find? fun r => r.id == id).map fun r =>
    ⟨organizationId, r.accessToken, correlationId⟩

/-- The MCP server beside the backend, with its tools. -/
def agent (jwt : Jwt) (stripe : StripeService S M) (config : LoginDto) (organizationId : Id)
    (decodeJwt : TokenManager.DecodeJwt) : Machine (Agent S) (AgentMove M) where
  step st
    | .service move =>
      { st with service := (service jwt stripe config decodeJwt).step st.service move }
    | .tool id env correlationId call =>
      match (st.context? organizationId id correlationId).filter fun _ => call.parses with
      | none => st
      | some ctx =>
        { service := { st.service with
            backend := (api jwt stripe).step st.service.backend (.request (ctx.request env call)) }
          called := id :: st.called }

def Agent.started (backend : Api S) : Agent S := { service := .started backend, called := [] }

end LedgerLight.Mcp
