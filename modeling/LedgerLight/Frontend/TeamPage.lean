import LedgerLight.Team.Admission

/-!
# The team page

`lib/team-access.ts`, and the controls of `components/team/team-member-sheet.tsx` for a member that
`getMemberDetail` answered. The page decides by a table of its own, on the text of a role that the
session names.
-/

namespace LedgerLight.Frontend

/-! ## Access -/

def roleText : Role → String
  | .owner => "OWNER"
  | .manager => "MANAGER"
  | .cashier => "CASHIER"
  | .support => "SUPPORT"
  | .inventoryClerk => "INVENTORY_CLERK"

def teamAccessRoles : List String := ["OWNER", "MANAGER"]

/-- `ROLE_TIER`, for any text. -/
def roleTier? (role : String) : Option Nat :=
  [("OWNER", 1), ("MANAGER", 2), ("CASHIER", 3), ("SUPPORT", 3), ("INVENTORY_CLERK", 3)].lookup role

/-- `ROLE_TIER[actorRole] < ROLE_TIER[targetRole]`, which is false of a role without a tier. -/
def tierAbove (actorRole : String) (targetRole : Role) : Bool :=
  (roleTier? actorRole).any fun tier => (roleTier? (roleText targetRole)).any fun t => tier < t

/-- A role that is there and not the empty text. -/
def given (role : Option String) : Option String := role.filter (· ≠ "")

def canAccessTeam (role : Option String) : Bool :=
  (given role).any fun role => teamAccessRoles.contains role

def canAssignRole (actorRole : Option String) (targetRole : Role) : Bool :=
  (given actorRole).any fun actorRole => actorRole == "OWNER" || tierAbove actorRole targetRole

def canManageMember (actorRole : Option String) (targetRole : Role) : Bool :=
  (given actorRole).any fun actorRole =>
    if actorRole = "OWNER" then targetRole ≠ .owner else tierAbove actorRole targetRole

def canEditMemberProfile (actorRole : Option String) (actorUserId : Option Id)
    (target : TeamMemberListItem) : Bool :=
  (given actorRole).any fun actorRole =>
    actorUserId == some target.userId || actorRole == "OWNER" || tierAbove actorRole target.role

def canDeactivateMember (actorRole : Option String) (actorUserId : Option Id)
    (target : TeamMemberListItem) : Bool :=
  (given actorRole).any fun actorRole =>
    target.status != .deactivated && actorUserId != some target.userId &&
      (actorRole == "OWNER" || tierAbove actorRole target.role)

/-! ## The sheet of a member -/

/-- Who looks at the page. -/
structure Viewer where
  currentRole : Option String
  currentUserId : Option Id
deriving DecidableEq, Repr

def teamRoleOptions : List Role := [.owner, .manager, .cashier, .support, .inventoryClerk]

namespace Viewer

variable (v : Viewer) (member : TeamMemberListItem)

def isCurrentMember : Bool := v.currentUserId == some member.userId

def canManageCurrentMember : Bool :=
  !v.isCurrentMember member &&
    (canManageMember v.currentRole member.role || v.currentRole == some "OWNER")

def allowedRoleOptions : List Role := teamRoleOptions.filter (canAssignRole v.currentRole)

end Viewer

/-- The member that is shown, and the role that the select has. -/
structure MemberSheet where
  member : TeamMemberListItem
  selectedRole : Role
deriving DecidableEq, Repr

namespace MemberSheet

/-- The effect that runs when the member changes. -/
def shown (member : TeamMemberListItem) : MemberSheet :=
  { member := member, selectedRole := member.role }

/-- The select is disabled, or has the allowed roles. -/
def selectRole (v : Viewer) (sheet : MemberSheet) (role : Role) : MemberSheet :=
  if v.canManageCurrentMember sheet.member && v.allowedRoleOptions.contains role then
    { sheet with selectedRole := role }
  else sheet

/-- The button "Change role" is enabled. -/
def canChangeRole (v : Viewer) (sheet : MemberSheet) : Bool :=
  canAssignRole v.currentRole sheet.selectedRole && !v.isCurrentMember sheet.member &&
    sheet.member.role != sheet.selectedRole

/-- The sheet after some clicks on the select. -/
def after (v : Viewer) (sheet : MemberSheet) (clicks : List Role) : MemberSheet :=
  clicks.foldl (selectRole v) sheet

end MemberSheet

/-- The page has a control that sends the request for the member, at once or after some clicks. -/
def Viewer.Offered (v : Viewer) (member : TeamMemberListItem) (request : ChangeRequest) : Prop :=
  canAccessTeam v.currentRole = true ∧
    match request with
    | .profile _ => canEditMemberProfile v.currentRole v.currentUserId member = true
    | .role newRole => ∃ clicks, ((MemberSheet.shown member).after v clicks).canChangeRole v = true ∧
        ((MemberSheet.shown member).after v clicks).selectedRole = newRole
    | .locations _ => v.canManageCurrentMember member = true
    | .deactivate => canDeactivateMember v.currentRole v.currentUserId member = true
    | .reactivate => member.status = .deactivated
    | .resendInvite => member.status = .invited

/-! ## What the page offers -/

section

variable {v : Viewer} {member : TeamMemberListItem} {sheet : MemberSheet} {role : Role}

theorem MemberSheet.member_after (clicks : List Role) :
    (sheet.after v clicks).member = sheet.member := by
  induction clicks generalizing sheet with
  | nil => rfl
  | cons role clicks ih =>
    show ((sheet.selectRole v role).after v clicks).member = sheet.member
    rw [ih]
    unfold selectRole
    split <;> rfl

/-- What the select has was there from the start, or has been allowed. -/
theorem MemberSheet.selectedRole_after (clicks : List Role) :
    (sheet.after v clicks).selectedRole = sheet.selectedRole ∨
      v.canManageCurrentMember sheet.member = true := by
  induction clicks generalizing sheet with
  | nil => exact Or.inl rfl
  | cons role clicks ih =>
    show ((sheet.selectRole v role).after v clicks).selectedRole = _ ∨ _
    by_cases hselect :
        (v.canManageCurrentMember sheet.member && v.allowedRoleOptions.contains role) = true
    · exact Or.inr (Bool.and_eq_true _ _ ▸ hselect).1
    · have hsame : sheet.selectRole v role = sheet := if_neg hselect
      rw [hsame]
      exact ih

/-- **The roles that can be asked for**: one that the viewer may assign, and not the present one, for
a member that the viewer may manage. -/
theorem offered_role_iff :
    v.Offered member (.role role) ↔ canAccessTeam v.currentRole = true ∧
      v.canManageCurrentMember member = true ∧ canAssignRole v.currentRole role = true ∧
      role ≠ member.role := by
  refine and_congr_right fun _ => ?_
  constructor
  · rintro ⟨clicks, hbutton, rfl⟩
    unfold MemberSheet.canChangeRole at hbutton
    rw [MemberSheet.member_after] at hbutton
    simp only [Bool.and_eq_true, bne_iff_ne] at hbutton
    obtain ⟨⟨hassign, -⟩, hother⟩ := hbutton
    have hkept : ((MemberSheet.shown member).after v clicks).selectedRole = member.role ∨
        v.canManageCurrentMember member = true := MemberSheet.selectedRole_after clicks
    have hmanage := hkept.resolve_left fun h => hother h.symm
    exact ⟨hmanage, hassign, fun h => hother h.symm⟩
  · rintro ⟨hmanage, hassign, hother⟩
    have hallowed : v.allowedRoleOptions.contains role = true := by
      refine List.contains_iff_mem.mpr (List.mem_filter.mpr ⟨?_, hassign⟩)
      cases role <;> decide
    have hselect : (MemberSheet.shown member).after v [role] =
        { member := member, selectedRole := role } :=
      if_pos (Bool.and_eq_true _ _ ▸ ⟨hmanage, hallowed⟩)
    have hself : v.isCurrentMember member = false := by
      unfold Viewer.canManageCurrentMember at hmanage
      rw [Bool.and_eq_true, Bool.not_eq_true'] at hmanage
      exact hmanage.1
    refine ⟨[role], ?_, by rw [hselect]⟩
    rw [hselect]
    simp [MemberSheet.canChangeRole, hassign, hself, Ne.symm hother]

end

end LedgerLight.Frontend
