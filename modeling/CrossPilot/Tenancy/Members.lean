import CrossPilot.Auth.Token
import CrossPilot.Lib.Table
import CrossPilot.Lib.Text

/-!
# Members of a tenant and invitations

A person is invited by mail, accepts with the link and a password, and may be removed again. Removing
a member only stamps the row: lookups pass over stamped rows, the constraint of the database on tenant
and user does not.
-/

namespace CrossPilot

open Table Auth

namespace ServiceError

def invitationExpired : ServiceError := .app 20011 "邀请链接已过期"
def invitationInvalid (message : String) : ServiceError := .app 20012 message
def lastAdminProtected (message : String) : ServiceError := .app 20013 message

end ServiceError

namespace Members

/-! ### Settings -/

/-- `str.lower`. Cleaning up a text a second time changes nothing. -/
structure Lowering where
  lower : String → String
  twice : ∀ s, Text.strip (lower (Text.strip (lower s))) = Text.strip (lower s)

/-- `email.lower().strip()`. -/
def Lowering.normal (l : Lowering) (email : String) : String := Text.strip (l.lower email)

/-- Signed tokens that carry a mail address. What has been signed is read back from the second it was
issued in until the second it ends in. -/
structure MailTokens where
  Token : Type
  sign : RawClaims → String → Token
  decode : Token → Instant → Except JwtError (RawClaims × Option String)
  decode_sign : ∀ claims email now, decode (sign claims email) now =
    if now < atSecond claims.iat then .error .other
    else if atSecond claims.exp ≤ now then .error .expired
    else .ok (claims, some email)
  tokenHash : Token → String

/-- `hash_password` and `verify_password`. -/
structure Passwords where
  hash : String → String
  verify : String → String → Bool

/-- The tests of `str` that the strength of a password rests on. -/
structure CharTests where
  islower : Char → Bool
  isupper : Char → Bool
  isdigit : Char → Bool
  isalnum : Char → Bool

structure Settings where
  tenantId : ℤ
  memberInvitationTtl : Instant
  lowering : Lowering
  tokens : MailTokens
  passwords : Passwords
  charTests : CharTests

/-- Why a password is refused. -/
def passwordStrengthError (t : CharTests) (password : String) : Option String :=
  if password.length < 10 then some "密码至少 10 位"
  else
    let chars := password.toList
    let classes := [chars.any t.islower, chars.any t.isupper, chars.any t.isdigit,
      chars.any fun ch => !t.isalnum ch]
    if classes.count true < 3 then some "密码需包含大写字母、小写字母、数字、符号中的至少三类" else none

/-! ### Tables -/

inductive RoleCode
  | owner | admin | opsManager | opsStaff | purchaser | finance | cs | viewer
  deriving DecidableEq

inductive InvitationStatus
  | pending | accepted | expired | revoked
  deriving DecidableEq

inductive ResourceType
  | shop | warehouse | supplier
  deriving DecidableEq

inductive DataScopeType
  | all | selected | none
  deriving DecidableEq

structure SysUser where
  id : ℕ
  email : String
  passwordHash : String
  displayName : Option String := none
  emailVerifiedAt : Option Instant := none
  deriving DecidableEq

structure TenantUser where
  id : ℕ
  userId : ℕ
  roleCode : RoleCode
  status : TenantUserStatus
  joinedAt : Option Instant := none
  deletedAt : Option Instant := none
  deriving DecidableEq

structure Role where
  code : RoleCode
  isSystem : Bool
  deriving DecidableEq

structure UserDataScope where
  tenantUserId : ℕ
  resourceType : ResourceType
  scopeType : DataScopeType
  shopIds : List ℕ
  deriving DecidableEq

structure MemberInvitation where
  id : ℕ
  email : String
  roleCode : RoleCode
  tokenHash : String
  expiresAt : Instant
  status : InvitationStatus
  acceptedAt : Option Instant := none
  deriving DecidableEq

/-- A link that has been sent, with what its token says. -/
structure OutboxMessage where
  recipient : String
  claims : RawClaims
  deriving DecidableEq

/-- The accounts of all tenants, the tables of this tenant and the mails that were sent. -/
structure State where
  clock : Instant
  nextId : ℕ
  users : List SysUser
  roles : List Role
  members : List TenantUser
  scopes : List UserDataScope := []
  invitations : List MemberInvitation := []
  outbox : List OutboxMessage := []
  deriving DecidableEq

def OutboxMessage.token (t : MailTokens) (m : OutboxMessage) : t.Token := t.sign m.claims m.recipient

/-- How long a request takes from one look at the clock to the next. -/
structure Waits where
  first : ℕ := 0
  second : ℕ := 0
  third : ℕ := 0

namespace Waits

variable (w : Waits) (s : State)

def readFirst : Instant := s.clock + w.first
def readSecond : Instant := w.readFirst s + w.second
def readThird : Instant := w.readSecond s + w.third

end Waits

/-! ### Repositories -/

section

variable (s : State)

/-- `base_select`: rows that are not removed. -/
def live : List TenantUser := s.members.filter fun m => m.deletedAt.isNone

def getByUserId (userId : ℕ) : Option TenantUser := (live s).find? fun m => m.userId = userId

def getMember (id : ℕ) : Option TenantUser := (live s).find? fun m => m.id = id

/-- `count_active_admins`, which looks for two rows at most. -/
def countActiveAdmins : ℕ :=
  (((live s).filter fun m => (m.roleCode = .owner ∨ m.roleCode = .admin) ∧ m.status = .active).take
    2).length

def getPendingByHash (tokenHash : String) (now : Instant) : Option MemberInvitation :=
  s.invitations.find? fun i => i.tokenHash = tokenHash ∧ now < i.expiresAt ∧ i.status = .pending

def addUser (u : SysUser) : Except ServiceError State :=
  if s.users.any (fun v => v.email = u.email) then .error (.integrity "sys_user_email_key")
  else if 254 < u.email.length then .error (.value "value too long for type character varying(254)")
  else .ok { s with users := s.users ++ [u], nextId := s.nextId + 1 }

/-- The constraint is on all rows, removed or not. -/
def addMember (m : TenantUser) : Except ServiceError State :=
  if s.members.any (fun n => n.userId = m.userId) then
    .error (.integrity "uq_tenant_user_tenant_id_user_id")
  else .ok { s with members := s.members ++ [m], nextId := s.nextId + 1 }

def addInvitation (i : MemberInvitation) : Except ServiceError State :=
  if s.invitations.any (fun j => j.tokenHash = i.tokenHash) then
    .error (.integrity "member_invitation_token_hash_key")
  else if 254 < i.email.length then .error (.value "value too long for type character varying(254)")
  else .ok { s with invitations := s.invitations ++ [i], nextId := s.nextId + 1 }

/-- `upsert` of a scope. -/
def upsertScope (scope : UserDataScope) : State :=
  { s with scopes := put (fun sc => (sc.tenantUserId, sc.resourceType)) scope s.scopes }

/-- `revoke_pending_for_email`. -/
def revokePendingForEmail (email : String) (now : Instant) : State :=
  { s with invitations := s.invitations.map fun i =>
      if i.email = email ∧ now < i.expiresAt ∧ i.status = .pending then
        { i with expiresAt := now, status := .revoked }
      else i }

/-- `set_status`. -/
def setStatus (id : ℕ) (status : InvitationStatus) (now : Instant) : State :=
  { s with invitations := alter MemberInvitation.id id (fun i => { i with
      status := status
      acceptedAt := if status = .accepted then some now else i.acceptedAt }) s.invitations }

end

/-! ### The service -/

variable (c : Settings)

/-- An address that is an address still after it is cleaned up. -/
abbrev EmailStr := { email : String // c.lowering.normal email ≠ "" }

/-- What `invite` is asked: everyone but an owner can be invited. -/
structure InviteMemberRequest where
  email : EmailStr c
  roleCode : { r : RoleCode // r ≠ .owner }

def inviteClaims (id : ℕ) (jti : Jti) (now : Instant) : RawClaims where
  sub := id
  tid := some c.tenantId
  purpose := some "member_invite"
  jti := jti
  iat := epochSeconds now
  exp := epochSeconds (now + c.memberInvitationTtl)

/-- An earlier invitation of the address ends, the new one is stored, and its link is sent. -/
def invite (payload : InviteMemberRequest c) (jti : Jti) (w : Waits) (s : State) :
    Except ServiceError State := do
  match s.roles.find? fun r => r.code = payload.roleCode.1 with
  | none => .error (.paramInvalid "角色不存在")
  | some role =>
    if role.isSystem = false then .error (.paramInvalid "角色不存在")
    let email := c.lowering.normal payload.email
    let s₁ := revokePendingForEmail s email (w.readFirst s)
    let message : OutboxMessage := ⟨email, inviteClaims c s.nextId jti (w.readSecond s)⟩
    let s₂ ← addInvitation s₁ {
      id := s.nextId
      email := email
      roleCode := payload.roleCode.1
      tokenHash := c.tokens.tokenHash (message.token c.tokens)
      expiresAt := w.readThird s + c.memberInvitationTtl
      status := .pending }
    return { s₂ with outbox := s₂.outbox ++ [message], clock := w.readThird s }

def revokeInvitation (id : ℕ) (w : Waits) (s : State) : Except ServiceError State :=
  match s.invitations.find? fun i => i.id = id with
  | none => .error .notFound
  | some invitation =>
    if invitation.status ≠ .pending then .error (.conflict "邀请已失效")
    else .ok { setStatus s id .revoked (w.readFirst s) with clock := w.readFirst s }

/-- `decode_purpose_token`, with the errors as `accept` passes them on. -/
def decodeInvite (token : c.tokens.Token) (now : Instant) :
    Except ServiceError (RawClaims × Option String) :=
  match c.tokens.decode token now with
  | .error .expired => .error .invitationExpired
  | .error .other => .error (.invitationInvalid "邀请链接无效")
  | .ok payload =>
    if payload.1.purpose = some "member_invite" then .ok payload
    else .error (.invitationInvalid "邀请链接无效")

/-- The account that accepts: the one with this address, or a new one. -/
def acceptingUser (email password : String) (displayName : Option String) (now : Instant)
    (s : State) : Except ServiceError (State × SysUser) :=
  match s.users.find? fun u => u.email = c.lowering.normal email with
  | none =>
    match passwordStrengthError c.charTests password with
    | some message => .error (.paramInvalid message)
    | none => do
      let user : SysUser :=
        ⟨s.nextId, email, c.passwords.hash password, displayName, some now⟩
      return (← addUser s user, user)
  | some user =>
    if c.passwords.verify password user.passwordHash = false then
      .error (.invitationInvalid "账号密码错误")
    else if user.emailVerifiedAt.isNone then
      .ok ({ s with users := alter SysUser.id user.id (fun u => { u with
        emailVerifiedAt := some now }) s.users }, { user with emailVerifiedAt := some now })
    else .ok (s, user)

/-- `accept`, after the token. Tokens of other tenants find no invitation here. -/
def acceptInvitation (payload : RawClaims) (email : String) (tokenHash password : String)
    (displayName : Option String) (w : Waits) (s : State) : Except ServiceError (State × ℕ) := do
  match getPendingByHash s tokenHash (w.readSecond s) with
  | none => .error (.invitationInvalid "邀请链接无效或已使用")
  | some invitation =>
    if payload.tid ≠ some c.tenantId ∨ (invitation.id : ℤ) ≠ payload.sub then
      .error (.invitationInvalid "邀请链接无效或已使用")
    let (s₁, user) ← acceptingUser c email password displayName (w.readThird s) s
    if (getByUserId s₁ user.id).isSome then .error (.conflict "该用户已是当前租户成员")
    let membership : TenantUser :=
      ⟨s₁.nextId, user.id, invitation.roleCode, .active, some (w.readThird s), none⟩
    let s₂ ← addMember s₁ membership
    let s₃ := upsertScope s₂ ⟨membership.id, .shop, .all, []⟩
    return ({ setStatus s₃ invitation.id .accepted (w.readThird s) with clock := w.readThird s },
      membership.id)

def accept (token : c.tokens.Token) (password : String) (displayName : Option String) (w : Waits)
    (s : State) : Except ServiceError (State × ℕ) := do
  match ← decodeInvite c token (w.readFirst s) with
  | (payload, email) =>
    if payload.tid.isNone ∨ email.getD "" = "" then .error (.invitationInvalid "邀请链接无效")
    acceptInvitation c payload (email.getD "") (c.tokens.tokenHash token) password displayName w s

def protectLastAdmin (s : State) : Except ServiceError Unit :=
  if countActiveAdmins s ≤ 1 then .error (.lastAdminProtected "至少保留一名所有者或管理员")
  else .ok ()

def changeRole (memberId : ℕ) (roleCode : { r : RoleCode // r ≠ .owner }) (s : State) :
    Except ServiceError State := do
  match getMember s memberId with
  | none => .error .notFound
  | some member =>
    if member.roleCode = .owner then
      .error (.lastAdminProtected "所有者角色只能通过所有权转让修改")
    if member.roleCode = .admin ∧ roleCode.1 ≠ .admin then protectLastAdmin s
    match s.roles.find? fun r => r.code = roleCode.1 with
    | none => .error (.paramInvalid "角色不存在")
    | some role =>
      if role.isSystem = false then .error (.paramInvalid "角色不存在")
      return { s with
        members := alter TenantUser.id member.id (fun m => { m with
          roleCode := roleCode.1 }) s.members }

/-- `remove`: the row is stamped, not deleted. -/
def remove (memberId : ℕ) (w : Waits) (s : State) : Except ServiceError State := do
  match getMember s memberId with
  | none => .error .notFound
  | some member =>
    if member.roleCode = .owner then .error (.lastAdminProtected "不能移除租户所有者")
    if member.roleCode = .admin then protectLastAdmin s
    return { s with
      members := alter TenantUser.id member.id (fun m => { m with
        deletedAt := some (w.readFirst s) }) s.members
      clock := w.readFirst s }

/-! ### Runs -/

/-- What may be asked. `signUp` stands for a person who gets an account in another tenant. -/
inductive Request
  | invite (payload : InviteMemberRequest c) (jti : Jti) (w : Waits)
  | revokeInvitation (id : ℕ) (w : Waits)
  | accept (token : c.tokens.Token) (password : String) (displayName : Option String) (w : Waits)
  | changeRole (memberId : ℕ) (roleCode : { r : RoleCode // r ≠ .owner })
  | remove (memberId : ℕ) (w : Waits)
  | signUp (email passwordHash : String)

/-- What a request brings about. -/
def Request.serve (s : State) : Request c → Except ServiceError State
  | .invite payload jti w => Members.invite c payload jti w s
  | .revokeInvitation id w => Members.revokeInvitation id w s
  | .accept token password displayName w =>
    (Members.accept c token password displayName w s).map Prod.fst
  | .changeRole memberId roleCode => Members.changeRole memberId roleCode s
  | .remove memberId w => Members.remove memberId w s
  | .signUp email passwordHash => addUser s ⟨s.nextId, email, passwordHash, none, none⟩

/-- A request that fails leaves everything as it was. -/
def step (s : State) (r : Request c) : State := (r.serve c s).toOption.getD s

def run (s : State) (requests : List (Request c)) : State := requests.foldl (step c) s

/-- A tenant that has just been registered: its owner is its only member. -/
structure Registered (s : State) : Prop where
  ids : Keyed SysUser.id s.users
  emails : Keyed SysUser.email s.users
  users_lt : ∀ u ∈ s.users, u.id < s.nextId
  owner : ∃ u ∈ s.users, ∃ id < s.nextId, ∃ t, s.members = [⟨id, u.id, .owner, .active, t, none⟩]
  scopes_lt : ∀ sc ∈ s.scopes, sc.tenantUserId < s.nextId
  invitations : s.invitations = []
  outbox : s.outbox = []

/-! ### What a state says of a person -/

section

variable (s : State) (email : String)

def userOf : Option SysUser := s.users.find? fun u => u.email = email

/-- The rows of the person with this address that are removed or not. -/
def memberships (removed : Bool) : List TenantUser :=
  s.members.filter fun m =>
    m.deletedAt.isSome = removed ∧ ∃ u ∈ userOf s email, u.id = m.userId

def activeMemberships : List TenantUser := (memberships s email false).filter fun m => m.status = .active

end

end Members

end CrossPilot
