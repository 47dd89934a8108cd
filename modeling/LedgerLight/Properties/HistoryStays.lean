import LedgerLight.Stripe.Account
import LedgerLight.System.Routes

/-!
# The history of the stock stays

The rows of `InventoryAdjustment` are written once. By foreign key they are deleted with their
product, which no route deletes, and with their location: `deleteLocation` looks for stock and for
orders, not for adjustments.

* `history_stays` : in every run all rows stay as they are, exactly if no call deletes a location
  that has adjustments, the checks of `deleteLocation` passed.
* `history_deleted` : stock comes and goes again, and the location is deleted with its history.
-/

namespace LedgerLight

open Infra Prog

namespace Backend

/-- From `db` to `db'` the adjustments stay as they are, and so do the locations they are about. -/
def KeepsHistory (db db' : Backend) : Prop :=
  ∀ k a, db.inventoryAdjustments.lookup k = some a →
    db'.inventoryAdjustments.lookup k = some a ∧
      ((db.locations.lookup a.locationId).isSome = true →
        (db'.locations.lookup a.locationId).isSome = true)

/-- The adjustments at a location. -/
def adjustmentsAt (db : Backend) (locationId : Id) : Nat :=
  db.inventoryAdjustments.countRows fun _ a => a.locationId == locationId

/-- A call that deletes a location that has adjustments, and passes the checks for it. -/
def LosesHistory (db : Backend) (c : RouteCall) : Prop :=
  match c.action with
  | .shop (.deleteLocation locationId) =>
    (db.visibleLocation? c.org locationId).isSome = true ∧ 1 < db.visibleLocations c.org ∧
      db.onHand locationId = 0 ∧ db.ordersAt c.org.organizationId locationId = 0 ∧
      db.adjustmentsAt locationId ≠ 0
  | _ => False

end Backend

section

variable {db db' db'' : Backend} {env : Env} {org : CurrentOrg}

theorem keepsHistory_refl (db : Backend) : db.KeepsHistory db := fun _ _ h => ⟨h, id⟩

theorem Backend.KeepsHistory.trans (h : db.KeepsHistory db') (h' : db'.KeepsHistory db'') :
    db.KeepsHistory db'' := by
  intro k a ha
  obtain ⟨ha', hl⟩ := h k a ha
  obtain ⟨ha'', hl'⟩ := h' k a ha'
  exact ⟨ha'', fun hlocation => hl' (hl hlocation)⟩

theorem keepsHistory_of_ledger (h : db'.ledger = db.ledger) : db.KeepsHistory db' := by
  obtain ⟨-, h₁⟩ := Prod.ext_iff.mp h
  obtain ⟨hadjustments, hlocations⟩ := Prod.ext_iff.mp h₁
  intro k a ha
  dsimp only [Backend.ledger] at hadjustments hlocations
  rw [hadjustments, hlocations]
  exact ⟨ha, id⟩

theorem keepsHistory_setLocation {locationId : Id} {l : LocationRecord} :
    db.KeepsHistory (db.setLocation locationId l) := by
  refine fun k a ha => ⟨ha, fun hl => ?_⟩
  show ((db.locations.insert locationId l).lookup a.locationId).isSome = true
  rw [Table.lookup_insert_ite]
  split
  · rfl
  · exact hl

/-- An adjustment is added. -/
theorem Backend.Adjustable.keepsHistory {data : AdjustmentData} {quantity : Int}
    (h : db.Adjustable env data quantity) :
    db.KeepsHistory (db.adjusted env data quantity) := by
  refine fun k a ha => ⟨?_, id⟩
  have hne : k ≠ env.uuid 2 := fun hk => by
    rw [hk, h.newAdjustment] at ha
    cases ha
  exact (AList.lookup_insert_ne hne).trans ha

theorem keepsHistory_created {productData : CreateProductDto} {actorUserId : Option Id}
    (h : db.Created env org productData actorUserId db') : db.KeepsHistory db' := by
  have hproduct : db.KeepsHistory (db.withProduct env org productData) :=
    keepsHistory_of_ledger rfl
  cases h with
  | bare => exact hproduct
  | stocked given adjustable => exact hproduct.trans adjustable.keepsHistory

/-- Deleting a location loses no history exactly if there are no adjustments at it. -/
theorem keepsHistory_removeLocation {locationId : Id} :
    db.KeepsHistory (db.removeLocation locationId) ↔ db.adjustmentsAt locationId = 0 := by
  unfold Backend.adjustmentsAt
  rw [Table.countRows_eq_zero]
  constructor
  · intro h k a ha
    obtain ⟨hafter, -⟩ := h k a ha
    rw [Backend.removeLocation, Table.lookup_filterRows, ha] at hafter
    by_contra hat
    simp only [Bool.not_eq_false, beq_iff_eq] at hat
    simp [hat] at hafter
  · intro h k a ha
    have hne : a.locationId ≠ locationId := by simpa using h k a ha
    constructor
    · rw [Backend.removeLocation, Table.lookup_filterRows, ha]
      simp [hne]
    · intro hl
      rw [Backend.removeLocation]
      show ((db.locations.erase locationId).lookup a.locationId).isSome = true
      rw [AList.lookup_erase_ne hne]
      exact hl

end

/-- The call that loses history deletes the location. -/
theorem Backend.LosesHistory.removes {S M : Type} {stripe : StripeService S M} {db : Backend}
    {s : S} {c : RouteCall} (h : db.LosesHistory c) :
    ∃ locationId, (c.exec stripe db s).2.1 = db.removeLocation locationId ∧
      db.adjustmentsAt locationId ≠ 0 := by
  obtain ⟨env, org, action⟩ := c
  unfold Backend.LosesHistory at h
  split at h
  · next locationId haction =>
    obtain rfl : action = .shop (.deleteLocation locationId) := haction
    obtain ⟨hvisible, hmore, hempty, hunused, hadjustments⟩ := h
    obtain ⟨l, hl⟩ := Option.isSome_iff_exists.mp hvisible
    have hrun := runAuto_ok.mpr (deleteLocation_of_unused (s := s) hl hmore hempty hunused)
    refine ⟨locationId, ?_, hadjustments⟩
    show (db.onAll (deleteLocation org locationId) s).2.1 = _
    rw [Backend.onAll_db, hrun]
  · exact h.elim

/-- A call keeps the history, or it is one of those that lose it. -/
theorem keepsHistory_iff {S M : Type} (stripe : StripeService S M) (st : Backend × S)
    (c : RouteCall) :
    ¬ st.1.LosesHistory c ↔ st.1.KeepsHistory ((routes stripe).step st c).1 := by
  obtain ⟨db, s⟩ := st
  show ¬ db.LosesHistory c ↔ db.KeepsHistory (c.exec stripe db s).2.1
  constructor
  · intro hkeeps
    have hchange := RouteCall.exec_change stripe c db s
    obtain ⟨env, org, action⟩ := c
    generalize (RouteCall.exec stripe ⟨env, org, action⟩ db s).2.1 = db' at hchange
    cases hchange with
    | kept ledger => exact keepsHistory_of_ledger ledger
    | adjusted adjustable => exact adjustable.keepsHistory
    | productCreated creatable created => exact keepsHistory_created created
    | locationCreated new => exact keepsHistory_setLocation
    | locationUpdated visible empty => exact keepsHistory_setLocation
    | locationDeleted visible more empty unused =>
      rw [keepsHistory_removeLocation]
      by_contra hadjustments
      exact hkeeps ⟨Option.isSome_of_eq_some visible, more, empty, unused, hadjustments⟩
  · intro hstays hloses
    obtain ⟨locationId, hdb, hadjustments⟩ := hloses.removes
    rw [hdb, keepsHistory_removeLocation] at hstays
    exact hadjustments hstays

/-- **The adjustments stay in the history**, each as it was written and with its location, through
every stretch of a run, exactly if no call of the run deletes a location that has adjustments and
neither stock nor orders. -/
theorem history_stays {S M : Type} (stripe : StripeService S M) (db : Backend) (s : S)
    (as : List RouteCall) :
    (routes stripe).Meets (fun st c => ¬ st.1.LosesHistory c) (db, s) as ↔
      ∀ as₁ as₂ as₃, as = as₁ ++ as₂ ++ as₃ →
        ((routes stripe).run (db, s) as₁).1.KeepsHistory
          ((routes stripe).run (db, s) (as₁ ++ as₂)).1 := by
  have hstep : ∀ (st : Backend × S) (c : RouteCall), ¬ st.1.LosesHistory c ↔
      st.1.KeepsHistory ((routes stripe).step st c).1 := keepsHistory_iff stripe
  simp only [hstep]
  exact Machine.meets_step_iff (R := fun st st' : Backend × S => st.1.KeepsHistory st'.1)
    (fun st => keepsHistory_refl st.1) fun h h' => h.trans h'

/-! ## A store that was emptied -/

namespace Stockroom

def stockedStore : Id := ⟨0, 32⟩

/-- The organization has a second store. -/
def twoStores : Backend := empty.setLocation stockedStore (location here)

def routed (step : Nat) (action : RouteAction) : RouteCall :=
  { env := env step, org := { organizationId := here }, action := action }

/-- The clerk moves tea into the second store or out of it. -/
def moved (step : Nat) (delta : Rat) : RouteCall :=
  routed step (.shop (.createAdjustment
    { productId := tea, locationId := stockedStore, delta := delta } (some clerk)))

/-- Five packets come and go. -/
def emptied : List RouteCall := [moved 1 5, moved 2 (-5)]

/-- Then the second store is deleted. -/
def dropped : RouteCall := routed 3 (.shop (.deleteLocation stockedStore))

/-- The database after the calls. -/
def after (as : List RouteCall) : Backend :=
  ((routes stripeAccount).run (twoStores, .empty) as).1

end Stockroom

open Stockroom in
/-- **A location is deleted with its history.** Five packets of tea came to a store and went again:
there are two adjustments. No stock is left and no order was placed, so the store can be deleted, and
the adjustments are deleted with it. -/
theorem history_deleted :
    (after emptied).inventoryAdjustments.entries.map (fun row => row.2.delta) = [-5, 5] ∧
      (after (emptied ++ [dropped])).inventoryAdjustments.entries.isEmpty = true ∧
      ((after (emptied ++ [dropped])).locations.lookup stockedStore).isNone = true ∧
      ¬ (after emptied).KeepsHistory (after (emptied ++ [dropped])) := by
  refine ⟨by decide +kernel, by decide +kernel, by decide +kernel, fun hkeeps => ?_⟩
  have hbefore : ((after emptied).inventoryAdjustments.lookup ⟨1, 2⟩).isSome = true := by
    decide +kernel
  have hafter : ((after (emptied ++ [dropped])).inventoryAdjustments.lookup ⟨1, 2⟩).isNone =
      true := by
    decide +kernel
  obtain ⟨a, ha⟩ := Option.isSome_iff_exists.mp hbefore
  rw [Option.isNone_iff_eq_none, (hkeeps _ a ha).1] at hafter
  cases hafter

end LedgerLight
