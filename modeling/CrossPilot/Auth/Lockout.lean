import CrossPilot.Auth.Token
import CrossPilot.Lib.Outline
import CrossPilot.Lib.Table
import CrossPilot.Lib.Text

/-!
# Locking an account after failed logins

A login reads the account and checks the password. A failure is counted: the count that was read, plus
one, is written back, together with the end of the lock if the count is large enough, and the failure
is noted in the log and committed. Between reading and writing other logins may commit theirs.

As long as every failure finds the count that it was computed from, no failure is lost
(`locked_of_failures`). Two guesses at once may count as one.
-/

namespace CrossPilot

open Transaction Table

namespace Auth

/-! ### Tables -/

/-- A row of the accounts, with what the login needs besides. -/
structure UserRow extends SysUser where
  id : ℕ
  email : String
  passwordHash : String
  failedLoginCount : ℤ := 0
  deriving DecidableEq

inductive LoginResult
  | success | failure
  deriving DecidableEq

/-- A line of the log of logins. -/
structure LoginLog where
  userId : Option ℕ
  email : String
  result : LoginResult
  failReason : String
  deriving DecidableEq

structure Accounts where
  users : List UserRow
  loginLogs : List LoginLog := []
  deriving DecidableEq

/-- The work of one login. A refused login commits its line of the log before it raises, so its error
is a result here. The session holds the account whose failure is being recorded. -/
abbrev LoginWork : Type → Type := Prog (Option UserRow) Accounts ℕ ServiceError

/-! ### The login -/

/-- `settings`. -/
structure LockoutSettings where
  loginMaxFailures : ℤ := 5
  loginLockMinutes : ℤ := 15

def minutes (n : ℤ) : Instant := n * 60000000

/-- A request, and the clock when the lock is looked at and when the failure is recorded. -/
structure LoginAttempt where
  email : String
  password : String
  now : Instant
  recordedAt : Instant

variable (c : LockoutSettings)

/-- The account with one more failure. -/
def UserRow.failed (read : UserRow) (recordedAt : Instant) (row : UserRow) : UserRow :=
  let count := read.failedLoginCount + 1
  { row with
    failedLoginCount := count
    lockedUntil :=
      if c.loginMaxFailures ≤ count then some (recordedAt + minutes c.loginLockMinutes)
      else row.lockedUntil }

/-- The columns that have changed are written, whatever they are by now. -/
def recordLoginFailure (user : UserRow) (recordedAt : Instant) : LoginWork Unit := do
  .remember fun _ => some user
  .update (fun _ => [user.id])
    (fun _ d => { d with users := alter UserRow.id user.id (user.failed c recordedAt) d.users })
    fun _ _ => ()

/-- `_reject_login`: the line of the log is committed, then the error is raised. -/
def rejectLogin {α : Type} (error : ServiceError) (email failReason : String) (userId : Option ℕ) :
    LoginWork (Except ServiceError α) := do
  .insert fun d => { d with loginLogs := d.loginLogs ++ [⟨userId, email, .failure, failReason⟩] }
  return .error error

def genericAuthFailure : ServiceError := .unauthenticated "邮箱或密码错误"

/-- `login` up to the check of the password. `accept` is how it goes on with an account whose password
was right. -/
def login {α : Type} (verifyPassword : String → String → Bool)
    (accept : UserRow → LoginWork (Except ServiceError α)) (payload : LoginAttempt) :
    LoginWork (Except ServiceError α) := do
  let email := Text.strip (Text.lower payload.email)
  match ← .select fun d => d.users.find? fun u => u.email = email with
  | none => rejectLogin genericAuthFailure email "user_not_found" none
  | some user =>
    if isLocked user.toSysUser payload.now then
      rejectLogin .accountLocked email "account_locked" user.id
    else if user.status ≠ .active then
      rejectLogin genericAuthFailure email "user_disabled" user.id
    else if !verifyPassword payload.password user.passwordHash then
      recordLoginFailure c user payload.recordedAt
      rejectLogin genericAuthFailure email "bad_password" user.id
    else accept user

/-! ### Counting -/

def accountOf (d : Accounts) (userId : ℕ) : Option UserRow := d.users.find? fun u => u.id = userId

/-- How many failures of the account have been noted. -/
def failures (userId : ℕ) (d : Accounts) : ℕ :=
  d.loginLogs.countP fun l => l.userId = some userId ∧ l.failReason = "bad_password"

/-- The failure that is being recorded finds the count that it was computed from, or an account that
is locked at `t` anyway. -/
def FindsRead (t : Instant) (recording : Option UserRow) (d : Accounts) : Prop :=
  ∀ read ∈ recording, ∀ row ∈ accountOf d read.id,
    row.failedLoginCount = read.failedLoginCount ∨ isLocked row.toSysUser t

instance (t : Instant) (recording : Option UserRow) (d : Accounts) :
    Decidable (FindsRead t recording d) :=
  inferInstanceAs (Decidable (∀ read ∈ recording, ∀ row ∈ accountOf d read.id, _ ∨ _))

/-- What no login changes of an account. -/
def UserRow.identity (u : UserRow) : ℕ × String × String := (u.id, u.email, u.passwordHash)

/-- What a recorded failure does to the account: a lock stays, and where there is none there is one more
failure, and a lock if that is enough. -/
def OneMore (t : Instant) (row row' : UserRow) : Prop :=
  (isLocked row.toSysUser t → isLocked row'.toSysUser t) ∧
    (isLocked row.toSysUser t ∨ (row'.failedLoginCount = row.failedLoginCount + 1 ∧
      (c.loginMaxFailures ≤ row'.failedLoginCount → isLocked row'.toSysUser t)))

/-- What logins of the account commit: something else, or a failure, with the account locked. -/
def LoginCommits (t : Instant) (userId : ℕ) (ls : List ℕ) (d d' : Accounts) : Prop :=
  d'.users.map UserRow.identity = d.users.map UserRow.identity ∧
    ((accountOf d' userId = accountOf d userId ∧ failures userId d' = failures userId d) ∨
      (userId ∈ ls ∧ failures userId d' = failures userId d + 1 ∧
        ∃ row row', accountOf d userId = some row ∧ accountOf d' userId = some row' ∧
          OneMore c t row row'))

/-- The account is locked at `t`, or all its failures since `d₀` are counted and are too few. -/
structure Counted (t : Instant) (user : UserRow) (d₀ d : Accounts) : Prop where
  identities : d.users.map UserRow.identity = d₀.users.map UserRow.identity
  failures_le : failures user.id d₀ ≤ failures user.id d
  counted : ∀ row ∈ accountOf d user.id, isLocked row.toSysUser t ∨
    (user.failedLoginCount + (failures user.id d - failures user.id d₀) ≤ row.failedLoginCount ∧
      (failures user.id d = failures user.id d₀ ∨
        (failures user.id d - failures user.id d₀ : ℤ) < c.loginMaxFailures))

section counting

variable {c} {t : Instant} {user : UserRow} {d₀ d d' : Accounts} {ls : List ℕ}

lemma isLocked_iff {u : SysUser} {now : Instant} :
    isLocked u now = true ↔ ∃ lockedUntil ∈ u.lockedUntil, now < lockedUntil := by
  unfold isLocked
  cases u.lockedUntil <;> simp

lemma Counted.account (h : Counted c t user d₀ d) (huser : user ∈ d₀.users) :
    ∃ row, accountOf d user.id = some row := by
  have hmem : user.identity ∈ d.users.map UserRow.identity := by
    rw [h.identities]
    exact List.mem_map_of_mem huser
  obtain ⟨row, hrow, hsame⟩ := List.mem_map.1 hmem
  rw [accountOf, ← Option.isSome_iff_exists, List.find?_isSome]
  exact ⟨row, hrow, decide_eq_true (congrArg Prod.fst hsame)⟩

/-- Commits keep the account locked or its failures counted. -/
lemma Counted.commits (hcount : 0 ≤ user.failedLoginCount) (h : Counted c t user d₀ d)
    (hcommits : LoginCommits c t user.id ls d d') : Counted c t user d₀ d' := by
  obtain ⟨hidentities, ⟨haccount, hfailures⟩ | ⟨-, hfailures, row, row', hrow, hrow', hmore⟩⟩ :=
    hcommits
  · refine ⟨hidentities.trans h.identities, hfailures ▸ h.failures_le, ?_⟩
    rw [haccount, hfailures]
    exact h.counted
  · refine ⟨hidentities.trans h.identities, hfailures ▸ h.failures_le.trans (Nat.le_succ _), ?_⟩
    rw [hrow']
    rintro _ ⟨⟩
    obtain ⟨hstays, hmore⟩ := hmore
    rcases h.counted row hrow with hlocked | ⟨hcounted, hfew⟩
    · exact .inl (hstays hlocked)
    · obtain hlocked | ⟨hnext, henough⟩ := hmore
      · exact .inl (hstays hlocked)
      · by_cases hmany : c.loginMaxFailures ≤ row'.failedLoginCount
        · exact .inl (henough hmany)
        · refine .inr ⟨?_, .inr ?_⟩ <;> rw [hfailures] <;> push_cast <;> omega

/-- Whoever holds the lock of the account finds it as it is. -/
lemma stable_account {I : Accounts → Prop} (hlock : user.id ∈ ls) (row : UserRow) :
    Stable I (LoginCommits c t user.id) ls fun d => accountOf d user.id = some row := by
  rintro d d' ls' - hrow hdisj ⟨-, ⟨haccount, -⟩ | ⟨hmem, -⟩⟩
  · exact haccount.trans hrow
  · exact absurd hmem (hdisj hlock)

/-- One more line in the log. -/
lemma failures_of_append {line : LoginLog} (h : d'.loginLogs = d.loginLogs ++ [line]) :
    failures user.id d' = failures user.id d +
      if line.userId = some user.id ∧ line.failReason = "bad_password" then 1 else 0 := by
  simp [failures, h, List.countP_append, List.countP_cons]

variable {α : Type}

/-- Going away with another error leaves the account as it is. -/
lemma outline_rejectLogin {l : Option UserRow} {error : ServiceError} {email failReason : String}
    {userId : Option ℕ} (hreason : failReason ≠ "bad_password") :
    Outline (Counted c t user d₀) (LoginCommits c t user.id) (FindsRead t)
      (rejectLogin (α := α) error email failReason userId) l id [] fun _ => True := by
  refine Outline.update fun d _ _ => ⟨fun _ => True, trivial, stable_true _, fun d' _ _ _ => ?_⟩
  refine ⟨fun _ => True, trivial, stable_true _, fun d'' _ _ => ⟨rfl, .inl ⟨rfl, ?_⟩⟩⟩
  refine (failures_of_append (d := d'') rfl).trans ?_
  simp [hreason]

/-- The account after the failure, if its count was the one that was read. -/
lemma oneMore_failed {read row : UserRow} {recordedAt : Instant}
    (hexpire : t < recordedAt + minutes c.loginLockMinutes)
    (hfound : row.failedLoginCount = read.failedLoginCount ∨ isLocked row.toSysUser t) :
    OneMore c t row (read.failed c recordedAt row) := by
  have hlock : c.loginMaxFailures ≤ read.failedLoginCount + 1 →
      isLocked (read.failed c recordedAt row).toSysUser t := by
    intro hmany
    rw [isLocked_iff]
    exact ⟨_, by simp [UserRow.failed, hmany], hexpire⟩
  refine ⟨fun hlocked => ?_, hfound.symm.imp_right fun hsame => ⟨?_, hlock⟩⟩
  · by_cases hmany : c.loginMaxFailures ≤ read.failedLoginCount + 1
    · exact hlock hmany
    · have hkept : (read.failed c recordedAt row).lockedUntil = row.lockedUntil := if_neg hmany
      rw [isLocked_iff] at hlocked ⊢
      rwa [hkept]
  · show read.failedLoginCount + 1 = _
    rw [hsame]

/-- The row of the account after the update. -/
lemma accountOf_alter {f : UserRow → UserRow} (hkeyed : Keyed UserRow.id d.users)
    (hf : ∀ r, (f r).id = r.id) {row : UserRow} (hrow : accountOf d user.id = some row) :
    accountOf { d with users := alter UserRow.id user.id f d.users } user.id = some (f row) := by
  obtain ⟨hmem, hid⟩ := (find?_eq_some_iff hkeyed).1 hrow
  refine (find?_eq_some_iff (hkeyed.alter hf)).2 ⟨?_, (hf row).trans hid⟩
  rw [← hid]
  exact mem_alter_self hmem

/-- A failure that is recorded is counted. -/
lemma outline_recorded {l : Option UserRow} {read : UserRow} {recordedAt : Instant} {email : String}
    {error : ServiceError} (hkeyed : Keyed UserRow.id d₀.users) (huser : user ∈ d₀.users)
    (hid : read.id = user.id) (hexpire : t < recordedAt + minutes c.loginLockMinutes) :
    Outline (Counted c t user d₀) (LoginCommits c t user.id) (FindsRead t)
      ((recordLoginFailure c read recordedAt).bind fun _ =>
        rejectLogin (α := α) error email "bad_password" read.id) l id [] fun _ => True := by
  have hkeep : ∀ d, Counted c t user d₀ d → Keyed UserRow.id d.users := by
    intro d hd
    have hids := congrArg (List.map Prod.fst) hd.identities
    simp only [List.map_map] at hids
    have hnodup : (d₀.users.map (Prod.fst ∘ UserRow.identity)).Nodup := hkeyed
    rw [← hids] at hnodup
    exact hnodup
  rw [recordLoginFailure, Prog.bind_eq, Prog.bind_assoc]
  refine Outline.remember ?_
  refine Outline.update fun d _ _ => ⟨fun _ => True, trivial, stable_true _, fun d' hd' _ hfinds => ?_⟩
  -- from here on the row of the account is as it is now
  have hlock : user.id ∈ [read.id] ++ [] := by simp [hid]
  obtain ⟨row, hrow⟩ := hd'.account huser
  have hfound := hfinds read rfl row (by rw [hid]; exact hrow)
  refine ⟨fun d => accountOf d user.id = some row, hrow, stable_account hlock row, ?_⟩
  refine Outline.update fun d₁ _ h₁ => ⟨_, h₁, stable_account hlock row, fun d₂ _ h₂ _ => ?_⟩
  refine ⟨_, h₂, stable_account (by simp [hid]) row, fun d₃ hd₃ h₃ => ?_⟩
  have hidentities : (alter UserRow.id read.id (read.failed c recordedAt) d₃.users).map
      UserRow.identity = d₃.users.map UserRow.identity := by
    exact map_alter (f := read.failed c recordedAt) (g := UserRow.identity) (fun _ => rfl) d₃.users
  refine ⟨hidentities, .inr ⟨by simp [hid], ?_, row, read.failed c recordedAt row, h₃, ?_,
    oneMore_failed hexpire hfound⟩⟩
  · refine (failures_of_append (d := d₃) rfl).trans ?_
    simp [hid]
  · have hafter := accountOf_alter (hkeep d₃ hd₃) (fun _ => rfl : ∀ r, (read.failed c recordedAt r).id = r.id) h₃
    rw [hid]
    exact hafter

/-- A login with a wrong password. -/
lemma outline_login {verifyPassword : String → String → Bool}
    {accept : UserRow → LoginWork (Except ServiceError α)} {payload : LoginAttempt}
    (hkeyed : Keyed UserRow.id d₀.users) (hemails : Keyed UserRow.email d₀.users)
    (huser : user ∈ d₀.users) (hemail : Text.strip (Text.lower payload.email) = user.email)
    (hwrong : verifyPassword payload.password user.passwordHash = false)
    (hexpire : t < payload.recordedAt + minutes c.loginLockMinutes) :
    Outline (Counted c t user d₀) (LoginCommits c t user.id) (FindsRead t)
      (login c verifyPassword accept payload) none id [] fun _ => True := by
  refine Outline.select fun d hd _ => ⟨fun _ => True, trivial, stable_true _, ?_⟩
  simp only [id]
  cases hfind : d.users.find? fun u => u.email = Text.strip (Text.lower payload.email) with
  | none => exact outline_rejectLogin (by decide)
  | some read =>
    have hsame : read.identity = user.identity := by
      have hmem : read.identity ∈ d₀.users.map UserRow.identity := by
        rw [← hd.identities]
        exact List.mem_map_of_mem (List.mem_of_find?_eq_some hfind)
      obtain ⟨other, hother, heq⟩ := List.mem_map.1 hmem
      have hread : read.email = user.email := by
        have hkey := List.find?_some hfind
        rw [decide_eq_true_eq] at hkey
        exact hkey.trans hemail
      have hotherEmail : other.email = user.email := by
        have hpair := congrArg (fun p => p.2.1) heq
        exact hpair.trans hread
      rw [← heq, hemails.eq_of_key_eq hother huser hotherEmail]
    have hid : read.id = user.id := congrArg Prod.fst hsame
    have hhash : read.passwordHash = user.passwordHash := congrArg (fun p => p.2.2) hsame
    simp only [hhash, hwrong, Bool.not_false, if_true]
    split_ifs with hlocked hdisabled
    · exact outline_rejectLogin (by decide)
    · exact outline_rejectLogin (by decide)
    · exact outline_recorded hkeyed huser hid hexpire

end counting

/-! ### Runs -/

variable {ι α : Type}

/-- Logins that have not begun. -/
def logins (verifyPassword : String → String → Bool)
    (accept : UserRow → LoginWork (Except ServiceError α)) (attempts : ι → LoginAttempt)
    (d₀ : Accounts) : World ι (Option UserRow) Accounts ℕ ServiceError (Except ServiceError α) :=
  ⟨d₀, fun i => Tx.start (login c verifyPassword accept (attempts i)) none⟩

/-- Logins of one account with wrong passwords, in any order of steps, while no lock ends: if every
failure finds the count that it was computed from, or a locked account, then the account is locked
once there are as many failures as are allowed. -/
theorem locked_of_failures [Fintype ι] [DecidableEq ι] (verifyPassword : String → String → Bool)
    (accept : UserRow → LoginWork (Except ServiceError α)) (attempts : ι → LoginAttempt)
    (d₀ : Accounts) (user : UserRow) (hkeyed : Keyed UserRow.id d₀.users)
    (hemails : Keyed UserRow.email d₀.users) (huser : user ∈ d₀.users)
    (hcount : 0 ≤ user.failedLoginCount)
    (hemail : ∀ i, Text.strip (Text.lower (attempts i).email) = user.email)
    (hwrong : ∀ i, verifyPassword (attempts i).password user.passwordHash = false) (t : Instant)
    (hexpire : ∀ i, t < (attempts i).recordedAt + minutes c.loginLockMinutes) (sched : List ι)
    (hfinds : World.AllFind (FindsRead t) (logins c verifyPassword accept attempts d₀) sched) :
    let d := ((logins c verifyPassword accept attempts d₀).run sched).committed
    failures user.id d₀ < failures user.id d →
      c.loginMaxFailures ≤ failures user.id d - failures user.id d₀ →
      ∃ row, accountOf d user.id = some row ∧ isLocked row.toSysUser t := by
  have hstart : Counted c t user d₀ d₀ := by
    refine ⟨rfl, le_rfl, fun row hrow => .inr ⟨?_, .inl rfl⟩⟩
    obtain ⟨hmem, hid⟩ := (find?_eq_some_iff hkeyed).1 hrow
    rw [hkeyed.eq_of_key_eq hmem huser hid]
    omega
  intro d hsome hmany
  have hcounted : Counted c t user d₀ d :=
    World.outlined (fun ls d d' hd hcommits => hd.commits hcount hcommits) hstart
      (fun i => outline_login hkeyed hemails huser (hemail i) (hwrong i) (hexpire i)) hfinds
  obtain ⟨row, hrow⟩ := hcounted.account huser
  refine ⟨row, hrow, (hcounted.counted row hrow).resolve_right fun hfew => ?_⟩
  rcases hfew.2 with hnone | hfew
  · exact hsome.ne' hnone
  · exact absurd hmany (not_le.2 hfew)

/-- An account and two guesses of its password. -/
private def alice : UserRow :=
  { status := .active, id := 1, email := "alice@example.com", passwordHash := "h" }

private def guess : Bool → LoginAttempt := fun _ => ⟨"Alice@example.com", "guess", 0, 0⟩

private def noLogin : UserRow → LoginWork (Except ServiceError Unit) := fun _ => Prog.ret (.ok ())

/-- One guess after the other: two failures of two. -/
theorem locked_of_failures_inTurn :
    let d := ((logins { loginMaxFailures := 2 } (fun _ _ => false) noLogin guess ⟨[alice], []⟩).run
      (List.replicate 9 false ++ List.replicate 9 true)).committed
    failures 1 ⟨[alice], []⟩ < failures 1 d →
      (2 : ℤ) ≤ failures 1 d - failures 1 ⟨[alice], []⟩ →
      ∃ row, accountOf d 1 = some row ∧ isLocked row.toSysUser 5 :=
  locked_of_failures { loginMaxFailures := 2 } (fun _ _ => false) noLogin guess ⟨[alice], []⟩ alice
    (by decide) (by decide) (by decide) (by decide) (by decide +kernel) (fun _ => rfl) 5
    (by decide) _ (by decide +kernel)

/-- Both guesses read the account before either failure is written. -/
theorem guesses_count_as_one :
    let d := ((logins { loginMaxFailures := 2 } (fun _ _ => false) noLogin guess ⟨[alice], []⟩).run
      ([false, true] ++ List.replicate 8 false ++ List.replicate 8 true)).committed
    failures 1 d = 2 ∧ (accountOf d 1).map UserRow.failedLoginCount = some 1 ∧
      (accountOf d 1).map (fun row => isLocked row.toSysUser 5) = some false := by
  decide +kernel

end Auth

end CrossPilot
