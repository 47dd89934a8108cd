import LedgerLight.Location.Service
import LedgerLight.Team.Calls

/-!
# Who gains a location

A membership with location rows may use these locations, one without rows all of its organization.
So it may use more when rows are added, and also when the last one goes away.

* `scopes_stay` : if no location is deleted that is a membership's only one, and tokens are no wider
  than the rows, a membership gains a location only from somebody who has it.
* `scope_widened` : the only location of a member is deleted, and the member gains all others.
-/

namespace LedgerLight

open Infra

/-- The calls of the team service and of the location service. -/
inductive ScopeCall where
  | team (c : TeamCall)
  | location (c : LocationCall)

/-- The two services over one database. -/
def teamAndLocations : Machine Backend ScopeCall where
  step db
    | .team c => (c.exec db).2
    | .location c => (c.exec db).2

/-- The membership under which a call sets the location rows of another one. -/
def TeamAction.grantor? : TeamAction → Option MemberContext
  | .inviteMember organization _ _ => some organization
  | .updateMemberLocations organization _ _ _ => some organization
  | _ => none

def ScopeCall.grantor? : ScopeCall → Option MemberContext
  | .team c => c.action.grantor?
  | .location _ => none

namespace Backend

variable (db : Backend)

/-- The location is in the effective scope of the membership. -/
def InScope (k l : Id) : Prop :=
  ∃ m, db.memberships.lookup k = some m ∧
    (l ∈ db.scopeOf k ∨
      db.scopeOf k = [] ∧ ∃ r, db.locations.lookup l = some r ∧
        r.organizationId = m.organizationId)

/-- From `db` to `db'` a membership gains a location; both existed before. -/
structure Gains (db' : Backend) (k l : Id) : Prop where
  membership : (db.memberships.lookup k).isSome = true
  location : (db.locations.lookup l).isSome = true
  without : ¬ db.InScope k l
  gained : db'.InScope k l

/-- What a membership gains in a step is granted by a membership that has it. -/
def KeepsScopes (c : ScopeCall) : Prop :=
  ∀ k l, db.Gains (teamAndLocations.step db c) k l →
    ∃ organization, c.grantor? = some organization ∧ db.InScope organization.membershipId l

/-- The membership has location rows, and they all name this location. -/
def onlyScope (k l : Id) : Bool := !(db.scopeOf k).isEmpty && (db.scopeOf k).all fun l' => l' == l

/-- The token is no wider than the membership it was issued for is now. -/
def TokenCovered (organization : MemberContext) : Prop :=
  ((db.memberships.lookup organization.membershipId).any fun m =>
      m.organizationId == organization.organizationId) = true ∧
    (db.scopeOf organization.membershipId = [] ∨ organization.hasAllLocations = false ∧
      ∀ l ∈ organization.allowedLocationIds, l ∈ db.scopeOf organization.membershipId)

/-- Nobody's only location is deleted, and who grants locations has a covered token. -/
def LeavesScopes (c : ScopeCall) : Prop :=
  match c with
  | .team c => ∀ organization ∈ c.action.grantor?, db.TokenCovered organization
  | .location c =>
    match c.action with
    | .deleteLocation _ l => ∀ e ∈ db.memberships.entries, db.onlyScope e.1 l = false
    | _ => True

instance (organization : MemberContext) : Decidable (db.TokenCovered organization) :=
  inferInstanceAs (Decidable (_ ∧ _))

instance (c : ScopeCall) : Decidable (db.LeavesScopes c) := by
  unfold LeavesScopes
  split
  · infer_instance
  · split <;> infer_instance

end Backend

section

variable {db db' : Backend} {env : TeamEnv} {action : TeamAction} {k l : Id}
  {organization : MemberContext}

/-! ## Calls of the team -/

theorem TeamChange.locations (h : TeamChange db env action k db') :
    db'.locations = db.locations := by
  cases h with
  | invited _ _ _ account _ _ logs => cases account <;> exact logs.locations
  | reinvited _ _ _ _ _ logs =>
    refine logs.locations.trans ?_
    unfold Backend.reinvited Backend.renewed
    split <;> rfl
  | profileUpdated _ _ _ logs => exact logs.locations
  | roleChanged _ _ _ _ _ logs => exact logs.locations
  | locationsUpdated _ _ _ _ logs => exact logs.locations
  | deactivated _ _ _ _ logs => exact logs.locations
  | reactivated _ _ _ _ logs =>
    refine logs.locations.trans ?_
    unfold Backend.renewed
    split <;> rfl
  | inviteResent _ _ _ _ _ logs => exact logs.locations
  | accepted _ _ _ logs =>
    refine logs.locations.trans ?_
    unfold Backend.passworded
    split <;> rfl

/-- The location rows of a member are as before, or they were set from what the actor asked for. -/
theorem TeamChange.scope (h : TeamChange db env action k db')
    (hk : (db.memberships.lookup k).isSome = true) :
    db'.scopeOf k = db.scopeOf k ∨ ∃ organization requested,
      action.grantor? = some organization ∧
      db.organizationOf? env action = some organization.organizationId ∧
      (∀ l ∈ scopedLocationIds organization requested, db.assignable organization l = true) ∧
      db'.scopeOf k = scopedLocationIds organization requested := by
  cases h with
  | invited _ _ _ _ new =>
    rw [new] at hk
    cases hk
  | @reinvited organization _ input _ _ _ assignable _ _ _ logs =>
    refine Or.inr ⟨organization, input.locationIds, rfl, rfl, assignable, ?_⟩
    rw [logs.scopeOf, Backend.reinvited, Backend.scopeOf_renewed, Backend.scopeOf_setScope,
      if_pos rfl]
  | profileUpdated _ _ _ logs => exact Or.inl (logs.scopeOf _)
  | roleChanged _ _ _ _ _ logs => exact Or.inl (logs.scopeOf _)
  | @locationsUpdated organization _ _ requested _ _ _ _ _ assignable logs =>
    refine Or.inr ⟨organization, requested, rfl, rfl, assignable, ?_⟩
    rw [logs.scopeOf, Backend.scopeOf_setScope, if_pos rfl]
  | deactivated _ _ _ _ logs => exact Or.inl (logs.scopeOf _)
  | reactivated _ _ _ _ logs =>
    exact Or.inl ((logs.scopeOf _).trans (congrFun Backend.scopeOf_renewed _))
  | inviteResent _ _ _ _ _ logs => exact Or.inl (logs.scopeOf _)
  | accepted _ _ _ logs =>
    refine Or.inl ((logs.scopeOf _).trans ?_)
    exact congrFun Backend.scopeOf_passworded _

theorem Backend.assignable_iff :
    db.assignable organization l = true ↔ ∃ r, db.locations.lookup l = some r ∧
      r.organizationId = organization.organizationId ∧ r.status = .active ∧
      getLocationScopeWhere organization.toCurrentOrg (some l) = true := by
  rw [Backend.assignable, Option.any_eq_true]
  simp only [Bool.and_eq_true, beq_iff_eq, and_assoc]

/-- Whoever may assign no rows at all has none. -/
theorem scopedLocationIds_nil {requested : Option (List Id)}
    (h : scopedLocationIds organization requested = []) : organization.hasAllLocations = true := by
  unfold scopedLocationIds at h
  split at h
  · next l ls => simp [List.eraseDups_cons] at h
  · split at h
    · assumption
    · rw [organization.serialized, h]
      rfl

/-- What the token of an actor allows is in the scope of the actor, if the token is covered. -/
theorem Backend.TokenCovered.inScope (h : db.TokenCovered organization) {r : LocationRecord}
    (hr : db.locations.lookup l = some r) (ho : r.organizationId = organization.organizationId)
    (hl : getLocationScopeWhere organization.toCurrentOrg (some l) = true) :
    db.InScope organization.membershipId l := by
  obtain ⟨hmember, hcovered⟩ := h
  obtain ⟨m, hm, hmo⟩ := (Option.any_eq_true _ _).mp hmember
  refine ⟨m, hm, ?_⟩
  rcases hcovered with hnone | ⟨hrestricted, hrows⟩
  · exact Or.inr ⟨hnone, r, hr, ho.trans (beq_iff_eq.mp hmo).symm⟩
  · refine Or.inl (hrows l ?_)
    simpa [getLocationScopeWhere, hrestricted] using hl

/-- **A call of the team** gives a membership only what the actor has. -/
theorem TeamChange.grants (h : TeamChange db env action k db')
    (hcovered : ∀ organization ∈ action.grantor?, db.TokenCovered organization) {k' : Id}
    (hgain : db.Gains db' k' l) :
    ∃ organization, action.grantor? = some organization ∧
      db.InScope organization.membershipId l := by
  obtain ⟨hk', hl, hwithout, m', hm', hin⟩ := hgain
  obtain ⟨m, hm⟩ := Option.isSome_iff_exists.mp hk'
  obtain ⟨r, hr⟩ := Option.isSome_iff_exists.mp hl
  rw [h.locations] at hin
  -- every call is about an organization
  obtain ⟨x, hx⟩ : ∃ x, db.organizationOf? env action = some x := by
    cases h with
    | accepted found => exact ⟨_, by rw [Backend.organizationOf?, found]; rfl⟩
    | _ => exact ⟨_, rfl⟩
  have hconfined := h.confined hx
  by_cases hkk : k' = k
  · subst hkk
    have hmo : m.organizationId = x := hconfined.before m hm
    have hmo' : m'.organizationId = x := hconfined.after m' hm'
    rcases h.scope hk' with hsame | ⟨organization, requested, hgrantor, ho, hassign, hset⟩
    · refine absurd ⟨m, hm, ?_⟩ hwithout
      rwa [hsame, hmo', ← hmo] at hin
    · have hcover := hcovered organization hgrantor
      refine ⟨organization, hgrantor, ?_⟩
      cases hx.symm.trans ho
      rw [hset] at hin
      rcases hin with hlisted | ⟨hnil, r', hr', hro⟩
      · obtain ⟨r₁, hr₁, hro₁, -, hscope⟩ := Backend.assignable_iff.mp (hassign l hlisted)
        exact hcover.inScope hr₁ hro₁ hscope
      · refine hcover.inScope hr' (hro.trans hmo') ?_
        simp [getLocationScopeWhere, scopedLocationIds_nil hnil]
  · refine absurd ⟨m, hm, ?_⟩ hwithout
    rw [hconfined.memberships k' hkk] at hm'
    cases hm.symm.trans hm'
    rwa [hconfined.scopes k' hkk] at hin

/-! ## Calls about locations -/

theorem Backend.scopeOf_removeLocation (k l : Id) :
    (db.removeLocation l).scopeOf k = (db.scopeOf k).filter fun l' => l' != l := by
  simp only [Backend.scopeOf, Backend.removeLocation, List.filter_map, List.filter_filter]
  congr 1
  refine List.filter_congr fun row _ => ?_
  exact Bool.and_comm _ _

/-- A location that keeps its organization, or is new, is no gain. -/
theorem no_gain_setLocation {locationId : Id} {l₁ : LocationRecord}
    (h : ∀ l₀, db.locations.lookup locationId = some l₀ → l₁.organizationId = l₀.organizationId)
    (hgain : db.Gains (db.setLocation locationId l₁) k l) : False := by
  obtain ⟨-, hl, hwithout, m, hm, hin⟩ := hgain
  refine hwithout ⟨m, hm, hin.imp_right fun ⟨hnil, r, hr, ho⟩ => ⟨hnil, ?_⟩⟩
  replace hr := (Table.lookup_insert_ite ..).symm.trans hr
  split at hr
  · next he =>
    cases hr
    obtain ⟨l₀, hl₀⟩ := Option.isSome_iff_exists.mp (he ▸ hl)
    exact ⟨l₀, he ▸ hl₀, (h l₀ hl₀).symm.trans ho⟩
  · exact ⟨r, hr, ho⟩

/-- **What is gained by a deletion**: all locations, by who had only the one that is deleted. -/
theorem gain_removeLocation_iff {locationId : Id} :
    db.Gains (db.removeLocation locationId) k l ↔
      ∃ m r, db.memberships.lookup k = some m ∧ db.onlyScope k locationId = true ∧
        db.locations.lookup l = some r ∧ r.organizationId = m.organizationId ∧ l ≠ locationId := by
  simp only [Backend.onlyScope, Bool.and_eq_true, Bool.not_eq_true', List.isEmpty_eq_false_iff,
    List.all_eq_true, beq_iff_eq]
  constructor
  · rintro ⟨-, hl, hwithout, m, hm, hin⟩
    rw [Backend.scopeOf_removeLocation] at hin
    rcases hin with hlisted | ⟨hnil, r, hr, ho⟩
    · exact absurd ⟨m, hm, Or.inl (List.mem_filter.mp hlisted).1⟩ hwithout
    · replace hr := (Table.lookup_erase_ite ..).symm.trans hr
      split at hr
      · cases hr
      · next hne =>
        refine ⟨m, r, hm, ⟨fun hempty => ?_, fun l' hl' => ?_⟩, hr, ho, hne⟩
        · exact hwithout ⟨m, hm, Or.inr ⟨hempty, r, hr, ho⟩⟩
        · simpa using List.filter_eq_nil_iff.mp hnil l' hl'
  · rintro ⟨m, r, hm, ⟨hne, hall⟩, hr, ho, hl⟩
    refine ⟨by rw [hm]; rfl, by rw [hr]; rfl, ?_, m, hm, Or.inr ⟨?_, r, ?_, ho⟩⟩
    · rintro ⟨m', -, hlisted | ⟨hempty, -⟩⟩
      · exact hl (hall l hlisted)
      · exact hne hempty
    · rw [Backend.scopeOf_removeLocation]
      exact List.filter_eq_nil_iff.mpr fun l' hl' => by simp [hall l' hl']
    · exact (AList.lookup_erase_ne hl).trans hr

theorem LocationCall.grants {c : LocationCall} (hleaves : db.LeavesScopes (.location c))
    (hgain : db.Gains (c.exec db).2 k l) : False := by
  rcases h : c.exec db with ⟨e | answer, db'⟩
  · rw [h, LocationCall.exec_error h] at hgain
    exact hgain.without hgain.gained
  · rw [h] at hgain
    have hrun := LocationCall.run_of_exec h
    obtain ⟨env, action⟩ := c
    cases action with
    | createLocation org data =>
      obtain ⟨-, hnew, -, rfl, -⟩ := createLocation_ok hrun
      refine no_gain_setLocation (fun l₀ hl₀ => ?_) hgain
      rw [hnew] at hl₀
      cases hl₀
    | updateLocation org locationId data =>
      obtain ⟨l₁, hl₁, -, -, rfl, -⟩ := updateLocation_ok hrun
      obtain ⟨hlookup, -, -⟩ := Backend.visibleLocation?_eq_some hl₁
      refine no_gain_setLocation (fun l₀ hl₀ => ?_) hgain
      cases hlookup.symm.trans hl₀
      rfl
    | deleteLocation org locationId =>
      obtain ⟨-, -, -, -, rfl, -⟩ := deleteLocation_ok hrun
      obtain ⟨m, r, hm, honly, -⟩ := gain_removeLocation_iff.mp hgain
      have hother := hleaves ⟨k, m⟩ (Table.mem_entries_of_lookup hm)
      exact absurd (honly.symm.trans hother) (by simp)

theorem keepsScopes_of_leavesScopes {c : ScopeCall} (h : db.LeavesScopes c) :
    db.KeepsScopes c := by
  intro k l hgain
  cases c with
  | team c =>
    rcases TeamCall.step_cases c db with hsame | ⟨k', hchange⟩
    · have hsame' : (c.exec db).2 = db := hsame
      refine absurd hgain.gained ?_
      show ¬ (c.exec db).2.InScope k l
      rw [hsame']
      exact hgain.without
    · exact hchange.grants h hgain
  | location c => exact (LocationCall.grants h hgain).elim

end

/-- **Scopes do not widen by accident**: in every run in which nobody's only location is deleted and
nobody grants locations with a token that is wider than their own scope, whatever a membership gains
in a step is given to it by an invitation or a change of its locations, from somebody who has it. -/
theorem scopes_stay (db : Backend) (cs : List ScopeCall)
    (h : teamAndLocations.Meets Backend.LeavesScopes db cs) :
    teamAndLocations.Meets Backend.KeepsScopes db cs :=
  h.imp fun _ _ => keepsScopes_of_leavesScopes

namespace Office

def store : Id := ⟨0, 40⟩

def depot : Id := ⟨0, 41⟩

def location (name : String) : LocationRecord :=
  createdLocation { now := 0, uuid := fun i => ⟨0, i⟩ } { organizationId := organizationId }
    { name := name, type := .store, addressLine1 := "", city := "", countryCode := "CA" }

/-- Two locations, an owner, and a cashier of the locations `scope`. -/
def withLocations (scope : List Id) : Backend :=
  { staffed [(annMember, membership ann .owner, user "ann"),
      (bobMember, membership bob .cashier, user "bob")] with
    locations := (AList.insert store (location "store") ∅).insert depot (location "depot")
    membershipLocations := scope.map fun l => { membershipId := bobMember, locationId := l } }

/-- The owner gives the cashier these locations. -/
def rescoped (scope : List Id) : ScopeCall :=
  .team { env := env 5
          action := .updateMemberLocations (acts annMember .owner) ann bobMember (some scope) }

def closed (locationId : Id) : ScopeCall :=
  .location { env := { now := 6, uuid := fun i => ⟨6, i⟩ }
              action := .deleteLocation { organizationId := organizationId } locationId }

end Office

/-- The cashier of one location gets both, and then loses one of them. -/
theorem scopes_stay_office :
    teamAndLocations.Meets Backend.KeepsScopes (Office.withLocations [Office.store])
      [Office.rescoped [Office.store, Office.depot], Office.closed Office.store] :=
  scopes_stay _ _ (by decide)

/-- The cashier of one location: it is deleted, and the cashier may use the other one. -/
theorem scope_widened :
    ¬ teamAndLocations.Meets Backend.KeepsScopes (Office.withLocations [Office.store])
      [Office.closed Office.store] := by
  rintro ⟨hkeeps, -⟩
  have hdeleted : (teamAndLocations.step (Office.withLocations [Office.store])
      (Office.closed Office.store)) =
      (Office.withLocations [Office.store]).removeLocation Office.store := by
    have hok : ((deleteLocation { organizationId := Office.organizationId } Office.store :
        Work Unit LocationRecord).run (Office.withLocations [Office.store]) ()).1.toOption.isSome =
        true := by decide
    rcases h : (deleteLocation { organizationId := Office.organizationId } Office.store :
        Work Unit LocationRecord).run (Office.withLocations [Office.store]) () with
      ⟨e | ⟨l, db'⟩, u⟩
    · rw [h] at hok
      cases hok
    · obtain ⟨-, -, -, -, rfl, -⟩ := deleteLocation_ok h
      exact congrArg (fun r => r.2.1) (Prog.runAuto_ok.mpr h)
  obtain ⟨organization, hgrantor, -⟩ := hkeeps Office.bobMember Office.depot (by
    rw [hdeleted]
    exact gain_removeLocation_iff.mpr ⟨Office.membership Office.bob .cashier,
      Office.location "depot", by decide, by decide, by decide, rfl, by decide⟩)
  cases hgrantor

end LedgerLight
