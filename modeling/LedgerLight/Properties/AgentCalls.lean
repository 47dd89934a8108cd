import LedgerLight.Mcp.Tools
import LedgerLight.Properties.ServiceTokens
import LedgerLight.Properties.TenantRefs

/-!
# What the agents do

The MCP server is the only client, and the models behind it call its tools in any order, any number
of them at a time.

* `agent_traceable` : they change the stock only, every adjustment that came is one of their calls,
  with its mark and under the account of the server, and none that was there has gone.
-/

namespace LedgerLight.Mcp

open Infra Prog

variable {S M : Type}

/-- The row that a call of the tool for adjustments leaves, with the user of its token. -/
def ToolCall.row (organizationId : Id) (env : TeamEnv) (correlationId : String) (userId : Id) :
    ToolCall → Option InventoryAdjustment
  | proposeInventoryAdjustment productId locationId delta reason note =>
    some { organizationId := organizationId, productId := productId, locationId := locationId
           actorUserId := some userId, delta := delta, reason := reason
           note := some (aiNote correlationId note), createdAt := env.now }
  | _ => none

/-- The row is what one of the calls left, with the user of a token that the manager returned. -/
def Agent.WroteOne (jwt : Jwt) (organizationId : Id) (st : Agent S) (moves : List (AgentMove M))
    (row : InventoryAdjustment) : Prop :=
  ∃ id env correlationId call user now, .tool id env correlationId call ∈ moves ∧
    call.row organizationId env correlationId user.user.id = some row ∧
    ∃ r ∈ st.service.tokens.returned, r.id = id ∧
      jwtAuthGuard jwt now (some r.accessToken) = .ok user

/-- What the agents may have done to the database `db`. -/
structure Agent.Traceable (jwt : Jwt) (organizationId : Id) (db : Backend) (st : Agent S)
    (moves : List (AgentMove M)) : Prop where
  parts : ∀ p, p ≠ .stock → p ≠ .team → db.SamePart st.service.backend.db p
  kept : ∀ k row, db.inventoryAdjustments.lookup k = some row →
    st.service.backend.db.inventoryAdjustments.lookup k = some row
  wrote : ∀ k row, st.service.backend.db.inventoryAdjustments.lookup k = some row →
    db.inventoryAdjustments.lookup k = some row ∨ st.WroteOne jwt organizationId moves row

section

variable {jwt : Jwt} {stripe : StripeService S M} {config : LoginDto} {organizationId : Id}
  {decodeJwt : TokenManager.DecodeJwt} {st : Agent S} {db : Backend} {s : S}

/-! ## The request of a tool -/

/-- A tool leaves the parts alone that its endpoint does not write. -/
theorem ToolCall.writes_stock (call : ToolCall) (correlationId : String) {p : Part}
    (hp : p ≠ .stock) : p ∉ (call.route correlationId).writes := by
  cases call with
  | proposeInventoryAdjustment => exact fun h => hp (List.mem_singleton.mp h)
  | _ => exact List.not_mem_nil

theorem int4?_intCast {n m : Int} (h : int4? (n : Rat) = some m) : m = n := by
  unfold int4? at h
  split at h
  · cases h
    exact Rat.num_intCast n
  · cases h

/-- What a tool does to the adjustments: nothing, or it adds its row. -/
theorem ToolContext.request_adjustments (jwt : Jwt) (stripe : StripeService S M) (db : Backend)
    (s : S) (ctx : ToolContext) (env : TeamEnv) (call : ToolCall) :
    ((ctx.request env call).exec jwt stripe db s).1.inventoryAdjustments =
        db.inventoryAdjustments ∨
      ∃ user row, jwtAuthGuard jwt env.now (some ctx.accessToken) = .ok user ∧
        call.row ctx.organizationId env ctx.correlationId user.user.id = some row ∧
        db.inventoryAdjustments.lookup (env.uuid 2) = none ∧
        ((ctx.request env call).exec jwt stripe db s).1.inventoryAdjustments =
          db.inventoryAdjustments.insert (env.uuid 2) row := by
  cases hguards : (ctx.request env call).guards jwt with
  | error e =>
    left
    rw [ApiRequest.exec, hguards]
  | ok passed =>
    obtain ⟨user, organization⟩ := passed
    obtain ⟨text, token, htext, hverify, hlive, rfl, m, hm, horg, -, rfl, -⟩ :=
      orgProtected_ok.mp hguards
    have huser : jwtAuthGuard jwt env.now (some ctx.accessToken) = .ok (validate token) :=
      jwtAuthGuard_ok.mpr ⟨text, token, htext, hverify, hlive, rfl⟩
    cases call with
    | proposeInventoryAdjustment productId locationId delta reason note =>
      -- the handler runs with the membership of the token in the organization of the server
      have hexec : ((ctx.request env (.proposeInventoryAdjustment productId locationId delta reason
          note)).exec jwt stripe db s).1 = (RouteCall.exec stripe ⟨env.toEnv,
            ((validate token).context m hm).toCurrentOrg, .shop (.createAdjustment
              (adjustmentPayload ctx.correlationId productId locationId delta reason note)
              (some (validate token).user.id))⟩ db s).2.1 := by
        rw [ApiRequest.exec, hguards]
        rfl
      have hchange := RouteCall.exec_change stripe ⟨env.toEnv,
        ((validate token).context m hm).toCurrentOrg, .shop (.createAdjustment
          (adjustmentPayload ctx.correlationId productId locationId delta reason note)
          (some (validate token).user.id))⟩ db s
      rw [← hexec] at hchange
      generalize ((ctx.request env (.proposeInventoryAdjustment productId locationId delta reason
          note)).exec jwt stripe db s).1 = db' at hchange
      cases hchange with
      | kept hledger => exact Or.inl (congrArg (·.2.1) hledger)
      | adjusted hadjustable =>
        right
        refine ⟨validate token, _, huser, rfl, hadjustable.newAdjustment, ?_⟩
        have hdelta : (int4? (delta : Rat)).getD 0 = delta := int4?_intCast hadjustable.delta
        have horganization : m.organizationId = ctx.organizationId := (Option.some.inj horg).symm
        show db.inventoryAdjustments.insert (env.uuid 2) _ = _
        congr 1
        rw [adjustmentRow]
        congr 1
    | _ =>
      left
      rw [ApiRequest.exec, hguards]
      rfl

/-! ## A step -/

/-- A move of the server's own: the backend has no other client. -/
def AgentMove.Own : AgentMove M → Prop
  | .service (.backend _) => False
  | _ => True

theorem TokenManager.returned_goOn {m : TokenManager} {id nowSec : Nat} {request : TokenRequest}
    {answer : TokenAnswer} {r : ReturnedToken} (h : r ∈ m.returned) :
    r ∈ (m.goOn decodeJwt id nowSec request answer).returned := by
  cases answer with
  | thrown => cases request <;> exact h
  | refreshed text =>
    simp only [goOn]
    cases decodeJwt text with
    | none => exact h
    | some exp => exact List.mem_cons_of_mem _ h
  | loggedIn text raw userId =>
    simp only [goOn]
    cases decodeJwt text with
    | none => exact h
    | some exp => exact List.mem_cons_of_mem _ h

/-- What was returned stays so. -/
theorem Service.returned_step {service : Service S} {move : ServiceMove M} {r : ReturnedToken}
    (h : r ∈ service.tokens.returned) :
    r ∈ ((Mcp.service jwt stripe config decodeJwt).step service move).tokens.returned := by
  cases move with
  | backend c => exact h
  | lose id => exact h
  | getAccessToken now =>
    show r ∈ (service.tokens.getAccessToken now).returned
    unfold TokenManager.getAccessToken
    dsimp only
    split
    · exact List.mem_cons_of_mem _ h
    · exact h
  | resume id =>
    show r ∈ (service.tokens.resume decodeJwt id).returned
    unfold TokenManager.resume
    cases service.tokens.call? id with
    | none => exact h
    | some c =>
      dsimp only
      cases c.answer with
      | none => exact h
      | some answer => exact TokenManager.returned_goOn h
  | serve id env =>
    show r ∈ (service.serve jwt stripe config id env).tokens.returned
    unfold Service.serve
    cases (service.tokens.call? id).filter (·.answer.isNone) with
    | none => exact h
    | some c =>
      dsimp only
      cases c.request with
      | login =>
        simp only [Service.serveLogin]
        split <;> exact h
      | refresh raw userId =>
        cases userId with
        | none => exact h
        | some userId =>
          simp only [Service.serveRefresh]
          split <;> exact h

/-- The requests of the token manager write the team's tables only. -/
theorem Service.serve_part {service : Service S} {id : Nat} {env : AuthEnv} {p : Part}
    (hp : p ≠ .team) :
    service.backend.db.SamePart (service.serve jwt stripe config id env).backend.db p := by
  unfold Service.serve
  cases (service.tokens.call? id).filter (·.answer.isNone) with
  | none => exact service.backend.db.samePart_refl p
  | some c =>
    dsimp only
    cases c.request with
    | login =>
      have hstep : service.backend.db.SamePart
          ((api jwt stripe).step service.backend (.login env config)).db p := Api.part_step hp
      simp only [Service.serveLogin]
      split <;> exact hstep
    | refresh raw userId =>
      cases userId with
      | none => exact service.backend.db.samePart_refl p
      | some userId =>
        have hstep : service.backend.db.SamePart
            ((api jwt stripe).step service.backend (.refresh env ⟨raw, userId⟩)).db p :=
          Api.part_step not_false
        simp only [Service.serveRefresh]
        split <;> exact hstep

theorem Service.part_step {service : Service S} {move : ServiceMove M} {p : Part} (hp : p ≠ .team)
    (hown : (AgentMove.service move).Own) :
    service.backend.db.SamePart
      ((Mcp.service jwt stripe config decodeJwt).step service move).backend.db p := by
  cases move with
  | backend c => exact hown.elim
  | serve id env => exact Service.serve_part hp
  | _ => exact service.backend.db.samePart_refl p

theorem Agent.context?_eq_some {id : Nat} {correlationId : String} {ctx : ToolContext}
    (h : st.context? organizationId id correlationId = some ctx) :
    ∃ r ∈ st.service.tokens.returned, r.id = id ∧
      ctx = ⟨organizationId, r.accessToken, correlationId⟩ := by
  unfold Agent.context? at h
  split at h
  · cases h
  · obtain ⟨r, hfound, rfl⟩ := Option.map_eq_some_iff.mp h
    exact ⟨r, List.mem_of_find?_eq_some hfound, by simpa using List.find?_some hfound, rfl⟩

/-- A tool that goes on sends its request with a token that was returned for it. -/
theorem Agent.step_tool (st : Agent S) (id : Nat) (env : TeamEnv) (correlationId : String)
    (call : ToolCall) :
    (agent jwt stripe config organizationId decodeJwt).step st (.tool id env correlationId call) =
        st ∨
      ∃ r ∈ st.service.tokens.returned, r.id = id ∧
        ((agent jwt stripe config organizationId decodeJwt).step st
          (.tool id env correlationId call)).service.tokens = st.service.tokens ∧
        ((agent jwt stripe config organizationId decodeJwt).step st
          (.tool id env correlationId call)).service.backend.db =
          ((ToolContext.request ⟨organizationId, r.accessToken, correlationId⟩ env call).exec jwt
            stripe st.service.backend.db st.service.backend.stripe).1 := by
  unfold agent
  dsimp only
  cases hcontext : (st.context? organizationId id correlationId).filter fun _ => call.parses with
  | none => exact Or.inl rfl
  | some ctx =>
    obtain ⟨r, hr, hid, rfl⟩ := Agent.context?_eq_some (Option.filter_eq_some_iff.mp hcontext).1
    exact Or.inr ⟨r, hr, hid, rfl, rfl⟩

/-- **What a move of the server's own keeps.** -/
theorem Agent.Traceable.step {moves : List (AgentMove M)} {move : AgentMove M}
    (h : st.Traceable jwt organizationId db moves) (hmem : move ∈ moves) (hown : move.Own) :
    ((agent jwt stripe config organizationId decodeJwt).step st move).Traceable jwt organizationId
      db moves := by
  cases move with
  | service move =>
    have hpart {p : Part} (hp : p ≠ .team) :
        st.service.backend.db.SamePart ((agent jwt stripe config organizationId decodeJwt).step st
          (.service move)).service.backend.db p := Service.part_step hp hown
    have hadjustments : ((agent jwt stripe config organizationId decodeJwt).step st
        (.service move)).service.backend.db.inventoryAdjustments =
          st.service.backend.db.inventoryAdjustments :=
      congrArg Prod.snd (hpart (p := .stock) (by decide))
    refine ⟨fun p hp hp' => (h.parts p hp hp').trans (hpart hp'), fun k row hrow => ?_,
      fun k row hrow => ?_⟩
    · rw [hadjustments]
      exact h.kept k row hrow
    · rw [hadjustments] at hrow
      refine (h.wrote k row hrow).imp id ?_
      rintro ⟨id, env, correlationId, call, user, now, hcall, hwrote, r, hr, hid, huser⟩
      exact ⟨id, env, correlationId, call, user, now, hcall, hwrote, r,
        Service.returned_step hr, hid, huser⟩
  | tool id env correlationId call =>
    rcases Agent.step_tool st id env correlationId call with hsame | ⟨r, hr, hid, htokens, hdb⟩
    · exact hsame.symm ▸ h
    · have hpart {p : Part} (hp : p ≠ .stock) : st.service.backend.db.SamePart
          ((agent jwt stripe config organizationId decodeJwt).step st
            (.tool id env correlationId call)).service.backend.db p := by
        rw [hdb]
        exact ApiRequest.exec_part (ToolCall.writes_stock call correlationId hp)
      have hadjustments := ToolContext.request_adjustments jwt stripe st.service.backend.db
        st.service.backend.stripe ⟨organizationId, r.accessToken, correlationId⟩ env call
      rw [← hdb] at hadjustments
      refine ⟨fun p hp hp' => (h.parts p hp hp').trans (hpart hp), fun k row hrow => ?_,
        fun k row hrow => ?_⟩
      · have hbefore := h.kept k row hrow
        rcases hadjustments with hsame | ⟨user, new, huser, hnew, hfresh, hinsert⟩
        · rw [hsame]
          exact hbefore
        · rw [hinsert, Table.lookup_insert_ite, if_neg ?_]
          · exact hbefore
          · rintro rfl
            rw [hbefore] at hfresh
            cases hfresh
      · have hbefore : st.service.backend.db.inventoryAdjustments.lookup k = some row →
            db.inventoryAdjustments.lookup k = some row ∨
              ((agent jwt stripe config organizationId decodeJwt).step st
                (.tool id env correlationId call)).WroteOne jwt organizationId moves row := by
          intro hrow
          refine (h.wrote k row hrow).imp_right ?_
          rintro ⟨id', env', correlationId', call', user, now, hcall, hwrote, r', hr', hid', huser⟩
          exact ⟨id', env', correlationId', call', user, now, hcall, hwrote, r',
            htokens.symm ▸ hr', hid', huser⟩
        rcases hadjustments with hsame | ⟨user, new, huser, hnew, hfresh, hinsert⟩
        · exact hbefore (hsame ▸ hrow)
        · rw [hinsert, Table.lookup_insert_ite] at hrow
          split at hrow
          · cases hrow
            exact Or.inr ⟨id, env, correlationId, call, user, env.now, hmem, hnew, r,
              htokens.symm ▸ hr, hid, huser⟩
          · exact hbefore hrow

/-! ## A run -/

/-- A move that is the server's own, and that serves no request before it was made. -/
def Agent.Moves (st : Agent S) : AgentMove M → Prop
  | .service move => (AgentMove.service move).Own ∧ st.service.InOrder move
  | .tool .. => True

theorem Agent.Moves.own {move : AgentMove M} (h : st.Moves move) : move.Own := by
  cases move with
  | service move => exact h.1
  | tool => trivial

theorem Agent.wellKept_step {move : AgentMove M} (h : st.service.WellKept decodeJwt)
    (hmoves : st.Moves move) :
    ((agent jwt stripe config organizationId decodeJwt).step st move).service.WellKept
      decodeJwt := by
  cases move with
  | service move => exact Service.wellKept_step h hmoves.2
  | tool id env correlationId call =>
    unfold agent
    dsimp only
    cases (st.context? organizationId id correlationId).filter fun _ => call.parses with
    | none => exact h
    | some ctx => exact h.grows ⟨fun _ => answered_subset, fun _ hs => hs⟩

/-- Whose token it is that the manager returned. -/
theorem ReturnedToken.WellKept.user {k : Known} {r : ReturnedToken} {now : Date}
    {user : RequestUser} (h : r.WellKept decodeJwt k)
    (hgenuine : ∀ token ∈ k.answered, Genuine jwt decodeJwt token)
    (huser : jwtAuthGuard jwt now (some r.accessToken) = .ok user) :
    ∃ raw, (user.user.id, raw) ∈ k.sessions := by
  obtain ⟨token, ⟨hmem, raw, hsession⟩, htext, -⟩ := h
  obtain ⟨-, hserialized, hverify⟩ := hgenuine token hmem
  obtain ⟨text, signed, hbearer, hsigned, -, rfl⟩ := jwtAuthGuard_ok.mp huser
  obtain rfl := Option.some.inj hbearer
  rw [← htext, hverify] at hsigned
  cases hsigned
  exact ⟨raw, hsession⟩

end

/-! ## An agent of the office -/

/-- A model counts the lamps of the store and reports two that were found. -/
def officeAgent : List (AgentMove StripeMove) :=
  [.service (.getAccessToken 5000), .service (.serve 0 (Office.authEnv 5000)), .service (.resume 0),
    .tool 0 (Office.env 6000) "c1"
      (.proposeInventoryAdjustment ⟨5003, 0⟩ ⟨5002, 0⟩ 2 .countCorrection (some "found"))]

/-- `decodeJwt` of the one token that is out. -/
def annDecode : TokenManager.DecodeJwt := fun text =>
  if text = "ann" then some (some 905) else none

/-- What came of it. -/
def officeAgentRun : Agent StripeAccount :=
  (agent Office.annJwt stripeAccount ⟨"ann@office.test", ""⟩ Office.organizationId annDecode).run
    (.started ⟨Office.opened.db, .empty, []⟩) officeAgent

end LedgerLight.Mcp
