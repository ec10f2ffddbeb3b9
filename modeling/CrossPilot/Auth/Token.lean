import CrossPilot.Database
import CrossPilot.Lib.Interleaving

/-!
# Tokens and the list of used ones

Refresh tokens, confirmation tokens and the state tokens of a shop grant are signed and carry an id
(`jti`). Whoever uses one up reads the list of used ids, goes on with other work, and then writes the
id into the list. The three functions that do so are programs of atomic steps: what happens between
two steps may happen while other requests are at work.
-/

namespace CrossPilot

open Interleaving

namespace ServiceError

def unauthenticated (message : String := "未登录或令牌无效") : ServiceError := .app 20001 message
def tokenExpired : ServiceError := .app 20006 "令牌已过期"
def tenantDisabled (message : String := "租户已停用") : ServiceError := .app 20003 message
def accountLocked : ServiceError := .app 20004 "账号已被锁定，请稍后再试"
def confirmationInvalid (message : String) : ServiceError := .app 10007 message
def grantFailed (message : String) : ServiceError := .app 30002 message

end ServiceError

namespace Auth

/-! ### Tokens -/

/-- The beginning of a second. Ends of tokens are given in seconds. -/
def atSecond (seconds : ℤ) : Instant := seconds * 1000000

/-- `int(time.time())`. -/
def epochSeconds (now : Instant) : ℤ := now / 1000000

/-- The id of a token, `uuid.uuid4().hex`. -/
abbrev Jti := { s : String // s ≠ "" }

/-- What a signed token says. Refresh tokens have a `typ` and a role, tokens for one purpose have a
purpose. -/
structure RawClaims where
  sub : ℤ
  tid : Option ℤ
  role : Option String := none
  typ : Option String := none
  purpose : Option String := none
  action : Option String := none
  jti : Jti
  iat : ℤ
  exp : ℤ
  deriving DecidableEq

inductive JwtError
  | expired | other
  deriving DecidableEq

/-- `jwt.decode` with the secret of the application: a token says the same whenever it is read, and
it is not read after its end. -/
structure Jwt where
  decode : String → Instant → Except JwtError RawClaims
  same : ∀ {token now now' raw raw'}, decode token now = .ok raw → decode token now' = .ok raw' →
    raw = raw'
  unexpired : ∀ {token now raw}, decode token now = .ok raw → now < atSecond raw.exp

/-- What a token of the purpose, or of the type, says (`decode_token`, `decode_purpose_token`). -/
def decodeClaims (jwt : Jwt) (claim : RawClaims → Option String) (expected mismatch token : String)
    (now : Instant) : Except ServiceError RawClaims :=
  match jwt.decode token now with
  | .error .expired => .error .tokenExpired
  | .error .other => .error (.unauthenticated "令牌无效")
  | .ok raw => if claim raw = some expected then .ok raw else .error (.unauthenticated mismatch)

def decodeToken (jwt : Jwt) (token expectedType : String) : Instant → Except ServiceError RawClaims :=
  decodeClaims jwt RawClaims.typ expectedType "令牌类型不匹配" token

def decodePurposeToken (jwt : Jwt) (token expectedPurpose : String) :
    Instant → Except ServiceError RawClaims :=
  decodeClaims jwt RawClaims.purpose expectedPurpose "令牌用途不匹配" token

/-! ### The list of used tokens -/

/-- Until when each id counts as used. -/
abbrev TokenBlacklist := String → Option Instant

def TokenBlacklist.isRevoked (blacklist : TokenBlacklist) (jti : String) (now : Instant) :
    Bool × TokenBlacklist :=
  match blacklist jti with
  | none => (false, blacklist)
  | some expires =>
    if expires ≤ now then (false, Function.update blacklist jti none) else (true, blacklist)

def TokenBlacklist.revoke (blacklist : TokenBlacklist) (jti : String) (ttlSeconds : ℤ)
    (now : Instant) : TokenBlacklist :=
  if jti = "" then blacklist
  else Function.update blacklist jti (some (now + atSecond (max 1 ttlSeconds)))

def remainingTtlSeconds (exp : ℤ) (now : Instant) : ℤ := max 1 (exp - epochSeconds now)

/-! ### Using a token up -/

/-- The steps of a request, each on the list as it is and at a time. -/
abbrev Request (α : Type) := Steps TokenBlacklist Instant ServiceError α

/-- What one of the functions does: it reads the token and looks its id up; then comes other work
that ends in a grant; then the id is put on the list. -/
structure UseUp (Grant : Type) where
  decode : Instant → Except ServiceError RawClaims
  used : ServiceError
  accept : RawClaims → Except ServiceError Unit
  work : RawClaims → Instant → Except ServiceError Grant

/-- Read the token and look its id up. -/
def UseUp.check {Grant : Type} (u : UseUp Grant) (now : Instant) (blacklist : TokenBlacklist) :
    Except ServiceError RawClaims × TokenBlacklist :=
  match u.decode now with
  | .error e => (.error e, blacklist)
  | .ok raw =>
    match blacklist.isRevoked raw.jti now with
    | (true, blacklist) => (.error u.used, blacklist)
    | (false, blacklist) => ((u.accept raw).map fun _ => raw, blacklist)

def UseUp.program {Grant : Type} (u : UseUp Grant) : Request Grant := do
  let raw ← .ofExcept (← .access u.check)
  let grant ← .ofExcept (← .access fun now blacklist => (u.work raw now, blacklist))
  .access fun now blacklist =>
    ((), TokenBlacklist.revoke blacklist raw.jti (remainingTtlSeconds raw.exp now) now)
  return grant

/-! #### Refresh tokens -/

inductive UserStatus
  | active | disabled
  deriving DecidableEq

inductive TenantUserStatus
  | invited | active | disabled
  deriving DecidableEq

inductive TenantStatus
  | active | suspended | disabled
  deriving DecidableEq

structure SysUser where
  status : UserStatus
  lockedUntil : Option Instant := none
  passwordChangedAt : Option Instant := none
  deriving DecidableEq

structure TenantUser where
  status : TenantUserStatus
  tenantId : ℤ
  roleCode : String
  deriving DecidableEq

/-- What a request finds of the user and the tenant that a token names. -/
structure Account where
  user : Option SysUser
  membership : Option TenantUser
  tenant : Option TenantStatus
  deriving DecidableEq

/-- What a request is granted. -/
inductive Grant
  | tokenPair (userId tenantId : ℤ) (roleCode : String)
  | confirmed
  | site (code : String)
  deriving DecidableEq

def isLocked (user : SysUser) (now : Instant) : Bool :=
  match user.lockedUntil with
  | none => false
  | some lockedUntil => now < lockedUntil

/-- `_require_membership`. -/
def requireMembership (membership : Option TenantUser) (tenantId : ℤ) :
    Except ServiceError TenantUser :=
  match membership with
  | none => .error (.unauthenticated "成员关系已失效，请联系管理员")
  | some m =>
    if m.status ≠ .active then .error (.unauthenticated "成员关系已失效，请联系管理员")
    else if m.tenantId ≠ tenantId then .error (.unauthenticated "成员关系与租户不匹配")
    else .ok m

/-- `_require_active_tenant`. -/
def requireActiveTenant (tenant : Option TenantStatus) : Except ServiceError Unit :=
  match tenant with
  | none => .error (.tenantDisabled "租户不存在")
  | some .disabled => .error .tenantDisabled
  | some _ => .ok ()

/-- Whether a token was made before the password was changed. -/
def passwordChangedSince (user : SysUser) (iat : ℤ) : Bool :=
  match user.passwordChangedAt with
  | none => false
  | some changedAt => atSecond iat < changedAt

/-- What `refresh` does between the two uses of the list. -/
def renew (account : Account) (raw : RawClaims) (now : Instant) : Except ServiceError Grant := do
  let tenantId := raw.tid.getD 0
  match account.user with
  | none => throw (.unauthenticated "账号不可用")
  | some user =>
    if user.status ≠ .active then throw (.unauthenticated "账号不可用")
    else if isLocked user now then throw .accountLocked
    else
      let membership ← requireMembership account.membership tenantId
      requireActiveTenant account.tenant
      if passwordChangedSince user raw.iat then throw (.unauthenticated "密码已变更，请重新登录")
      else return .tokenPair raw.sub tenantId membership.roleCode

def refresh (jwt : Jwt) (token : String) (account : Account) : UseUp Grant where
  decode := decodeToken jwt token "refresh"
  used := .unauthenticated "令牌已失效"
  accept raw := if raw.tid = none then .error (.unauthenticated "令牌缺少租户信息") else .ok ()
  work := renew account

/-! #### Tokens for one purpose -/

/-- A token for one purpose, with the same error for one that is not for the request and for one that
is used. -/
def decodeFor (jwt : Jwt) (token purpose : String) (invalid used : ServiceError)
    (fits : RawClaims → Bool) (now : Instant) : Except ServiceError RawClaims :=
  match decodePurposeToken jwt token purpose now with
  | .error _ => .error invalid
  | .ok raw => if fits raw then .ok raw else .error used

def consumeConfirmationToken (jwt : Jwt) (token action : String) (userId tenantId : ℤ) :
    UseUp Grant where
  decode := decodeFor jwt token "confirmation" (.confirmationInvalid "确认令牌无效或已过期")
    (.confirmationInvalid "确认令牌无效或已使用") fun raw =>
      raw.sub = userId ∧ raw.tid = some tenantId ∧ raw.action = some action
  used := .confirmationInvalid "确认令牌无效或已使用"
  accept _ := .ok ()
  work _ _ := .ok .confirmed

/-- `action.split(":", 1)[1]`. -/
def afterColon (action : String) : String :=
  String.ofList ((action.toList.dropWhile (· ≠ ':')).drop 1)

/-- `_consume_state`. -/
def consumeState (jwt : Jwt) (token platform : String) (userId tenantId : ℤ) : UseUp Grant where
  decode := decodeFor jwt token "shop_oauth" (.grantFailed "授权状态无效或已过期")
    (.grantFailed "授权状态无效或已使用") fun raw =>
      raw.sub = userId ∧ raw.tid = some tenantId ∧
        (platform ++ ":").toList.isPrefixOf (raw.action.getD "").toList
  used := .grantFailed "授权状态无效或已使用"
  accept _ := .ok ()
  work raw _ := .ok (.site (afterColon (raw.action.getD "")))

/-- A request that presents a token. -/
inductive TokenRequest
  | refresh (account : Account)
  | confirm (action : String) (userId tenantId : ℤ)
  | bindShop (platform : String) (userId tenantId : ℤ)
  deriving DecidableEq

/-- How a request uses up the token it presents. -/
def TokenRequest.useUp (jwt : Jwt) (token : String) : TokenRequest → UseUp Grant
  | refresh account => Auth.refresh jwt token account
  | confirm action userId tenantId => consumeConfirmationToken jwt token action userId tenantId
  | bindShop platform userId tenantId => consumeState jwt token platform userId tenantId

end Auth

end CrossPilot
