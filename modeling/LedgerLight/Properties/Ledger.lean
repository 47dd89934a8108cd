import LedgerLight.System.StockSessions

/-!
# The ledger of the stock

What a level holds is the sum of its adjustments, however calls run at once: an adjustment reads the
level under the lock that its upsert takes, so nobody else writes it before the commit.

* `Backend.Ledger.adjusts` : an adjustment keeps the ledger.
* `ledger_kept` : the ledger is kept in every run, and only commits change anything.
-/

namespace LedgerLight

open Infra Prog ReadCommitted

namespace Backend

/-- The sum of the adjustments of a product at a location. -/
def deltaSum (db : Backend) (productId locationId : Id) : Int :=
  db.inventoryAdjustments.sumRows
    (fun _ a => a.productId == productId && a.locationId == locationId) (·.delta)

/-- Every level holds the sum of its adjustments. -/
structure Ledger (db : Backend) : Prop where
  /-- One level for a product and a location. -/
  unique : ∀ k k' level level', db.inventoryLevels.lookup k = some level →
    db.inventoryLevels.lookup k' = some level' → level.productId = level'.productId →
    level.locationId = level'.locationId → k = k'
  balanced : ∀ k level, db.inventoryLevels.lookup k = some level →
    level.quantity = db.deltaSum level.productId level.locationId
  nonneg : ∀ k level, db.inventoryLevels.lookup k = some level → 0 ≤ level.quantity
  /-- An adjustment has its level. -/
  covered : ∀ k a, db.inventoryAdjustments.lookup k = some a →
    ∃ k' level, db.inventoryLevels.lookup k' = some level ∧ level.productId = a.productId ∧
      level.locationId = a.locationId

variable {d d' : Backend} {env : Env} {data : AdjustmentData} {productId locationId : Id}

/-- Without a level there is no adjustment either. -/
theorem Ledger.deltaSum_eq_zero (h : d.Ledger) (hno : d.levelOf? productId locationId = none) :
    d.deltaSum productId locationId = 0 := by
  refine Table.sumRows_eq_zero fun k a hk => ?_
  by_contra htest
  simp only [Bool.not_eq_false, Bool.and_eq_true, beq_iff_eq] at htest
  obtain ⟨k', level, hk', hp, hl⟩ := h.covered k a hk
  have hfound := Table.pred_of_findRow?_eq_none hno hk'
  rw [hp, hl, htest.1, htest.2] at hfound
  simp at hfound

/-- The level that an adjustment finds or makes holds the sum so far. -/
theorem Ledger.levelFound_quantity (h : d.Ledger) (env : Env) (productId locationId : Id) :
    (d.levelFound env productId locationId).2.quantity = d.deltaSum productId locationId := by
  unfold levelFound
  cases hlevel : d.levelOf? productId locationId with
  | none => exact (h.deltaSum_eq_zero hlevel).symm
  | some found =>
    obtain ⟨hlookup, hp, hl⟩ := levelOf?_eq_some hlevel
    have hsum := h.balanced _ _ hlookup
    rw [hp, hl] at hsum
    exact hsum

/-- It is the only level of the product at the location. -/
theorem Ledger.levelFound_iff (h : d.Ledger)
    (hnew : d.levelOf? productId locationId = none → d.inventoryLevels.lookup (env.uuid 1) = none)
    {k : Id} {level : InventoryLevel} (hk : d.inventoryLevels.lookup k = some level) :
    level.productId = productId ∧ level.locationId = locationId ↔
      k = (d.levelFound env productId locationId).1 := by
  unfold levelFound
  cases hlevel : d.levelOf? productId locationId with
  | none =>
    have htest := Table.pred_of_findRow?_eq_none hlevel hk
    constructor
    · rintro ⟨hp, hl⟩
      simp [hp, hl] at htest
    · intro he
      rw [he, Option.getD_none, hnew hlevel] at hk
      cases hk
  | some found =>
    obtain ⟨hlookup, hp, hl⟩ := levelOf?_eq_some hlevel
    constructor
    · exact fun hpair =>
        h.unique k found.1 level found.2 hk hlookup (hpair.1.trans hp.symm) (hpair.2.trans hl.symm)
    · intro he
      rw [he, Option.getD_some, hlookup] at hk
      cases hk
      exact ⟨hp, hl⟩

/-- **An adjustment keeps the ledger.** -/
theorem Ledger.adjusts (h : d.Ledger) (hc : d.Adjusts env data d') : d'.Ledger := by
  have hquantity := h.levelFound_quantity env data.productId data.locationId
  have hpair := levelFound_pair d env data.productId data.locationId
  have hiff : ∀ {k level}, d.inventoryLevels.lookup k = some level →
      (level.productId = data.productId ∧ level.locationId = data.locationId ↔
        k = (d.levelFound env data.productId data.locationId).1) := h.levelFound_iff hc.newLevel
  have hnonneg := hc.nonneg
  have hlevels := hc.levels
  generalize d.levelFound env data.productId data.locationId = found at *
  have hlookup : ∀ k, d'.inventoryLevels.lookup k =
      if k = found.1 then some { found.2 with
        quantity := found.2.quantity + (adjustmentRow env data).delta, updatedAt := env.now }
      else d.inventoryLevels.lookup k := fun k => by
    rw [hlevels, Table.lookup_insert_ite]
  have hsum : ∀ p l, d'.deltaSum p l =
      (if data.productId = p ∧ data.locationId = l then (adjustmentRow env data).delta else 0) +
        d.deltaSum p l := by
    intro p l
    rw [deltaSum, hc.adjustments, Table.sumRows_insert_new hc.newAdjustment]
    simp [adjustmentRow, deltaSum]
  have hwritten := (hlookup found.1).trans (if_pos rfl)
  -- a level other than the one that was written is one of another pair
  have hother : ∀ {k level}, k ≠ found.1 → d.inventoryLevels.lookup k = some level →
      ¬ (data.productId = level.productId ∧ data.locationId = level.locationId) :=
    fun hne hk he => hne ((hiff hk).mp ⟨he.1.symm, he.2.symm⟩)
  constructor
  · intro k k' level level' hk hk' hp hl
    rw [hlookup] at hk hk'
    split at hk <;> split at hk'
    · next he he' => exact he.trans he'.symm
    · next he hne =>
      cases hk
      exact absurd ⟨hpair.1.symm.trans hp, hpair.2.symm.trans hl⟩ (hother hne hk')
    · next hne he =>
      cases hk'
      exact absurd ⟨hpair.1.symm.trans hp.symm, hpair.2.symm.trans hl.symm⟩ (hother hne hk)
    · exact h.unique k k' level level' hk hk' hp hl
  · intro k level hk
    rw [hlookup] at hk
    split at hk
    · cases hk
      rw [hsum, hpair.1, hpair.2, if_pos ⟨rfl, rfl⟩, hquantity, Int.add_comm]
    · next hne =>
      rw [hsum, if_neg (hother hne hk), Int.zero_add]
      exact h.balanced k level hk
  · intro k level hk
    rw [hlookup] at hk
    split at hk
    · cases hk
      exact hnonneg
    · exact h.nonneg k level hk
  · intro k a hk
    rw [hc.adjustments, Table.lookup_insert_ite] at hk
    split at hk
    · cases hk
      exact ⟨found.1, _, hwritten, hpair⟩
    · obtain ⟨k', level, hk', hp, hl⟩ := h.covered k a hk
      by_cases he : k' = found.1
      · obtain ⟨hp', hl'⟩ := (hiff hk').mpr he
        exact ⟨found.1, _, hwritten, hpair.1.trans (hp'.symm.trans hp),
          hpair.2.trans (hl'.symm.trans hl)⟩
      · exact ⟨k', level, by rw [hlookup, if_neg he]; exact hk', hp, hl⟩

/-- The ledger is about the levels and the adjustments only. -/
theorem Ledger.of_stockTables (h : d.Ledger) (ht : d'.stockTables = d.stockTables) :
    d'.Ledger := by
  obtain ⟨hl, ha⟩ : d'.inventoryLevels = d.inventoryLevels ∧
      d'.inventoryAdjustments = d.inventoryAdjustments := by simpa [stockTables] using ht
  constructor
  · rw [hl]
    exact h.unique
  · intro k level hk
    rw [hl] at hk
    rw [deltaSum, ha]
    exact h.balanced k level hk
  · rw [hl]
    exact h.nonneg
  · rw [hl, ha]
    exact h.covered

end Backend

/-- A commit keeps the ledger. -/
theorem StockCommit.ledger {c : StockCall} {d d' : Backend} (hc : StockCommit c d d')
    (h : d.Ledger) : d'.Ledger := by
  unfold StockCommit at hc
  split at hc
  · exact h.of_stockTables hc
  · exact h.adjusts hc

/-! ## Runs -/

/-- A call relies on its locks alone. -/
def stockContract (c : StockCall) : Contract Backend where
  rely _ _ _ := True
  post := StockCommit c

/-- **The ledger is kept** in every run, and what is committed changes by commits alone: a call that
is rejected, and every statement of a call that is not its last, leave it as it is. -/
theorem ledger_kept (db₀ : Backend) (h₀ : db₀.Ledger) (as : List (Move StockCall Empty)) :
    (stockSessions.run (Store.start db₀ ()) as).db.Ledger ∧
      ∀ a, (stockSessions.run (Store.start db₀ ()) as).commits? a = none →
        (stockSessions.step (stockSessions.run (Store.start db₀ ()) as) a).db =
          (stockSessions.run (Store.start db₀ ()) as).db := by
  have hR : ∀ c, Rely (stockContract c).rely := fun _ => ⟨fun _ _ => trivial, fun _ _ => trivial⟩
  have hrespects : ∀ (st : StockSessions) (a : Move StockCall Empty),
      st.Secured stockCell stockContract → True → st.Respects stockContract a :=
    fun _ _ _ _ => Store.respects_of_total fun _ _ _ _ => trivial
  refine ⟨?_, fun a => Store.db_of_commits?_eq_none⟩
  exact secured_run_invariant (J := Backend.Ledger) hR StockCall.sessionProg_footprint
    (fun c _ => c.secures) hrespects (fun _ _ _ _ _ _ hpost hledger => hpost.ledger hledger) h₀
    (Machine.meets_true _ _ _)

namespace Stockroom

theorem ledger_empty : empty.Ledger := by
  constructor
  · intro k k' level level' hk
    cases hk
  · intro k level hk
    cases hk
  · intro k level hk
    cases hk
  · intro k a hk
    cases hk

/-- Two members stock the tea in the store at once: the second upsert waits for the first call. -/
def atOnce : List (Move StockCall Empty) :=
  [.begin 0 (stocked 1 { organizationId := here } store 5),
    .begin 1 (stocked 2 { organizationId := here } store 2),
    .statement 0, .statement 1, .statement 0, .statement 0, .statement 0, .statement 0,
    .statement 0, .statement 1, .statement 1, .statement 1, .statement 1, .statement 1,
    .statement 1]

end Stockroom

theorem ledger_kept_stockroom :
    (stockSessions.run (Store.start Stockroom.empty ()) Stockroom.atOnce).db.Ledger :=
  (ledger_kept Stockroom.empty Stockroom.ledger_empty Stockroom.atOnce).1

-- neither of the two is lost
example : (stockSessions.run (Store.start Stockroom.empty ())
    Stockroom.atOnce).db.inventoryLevels.entries.map (·.2.quantity) = [7] := by
  decide +kernel

end LedgerLight
