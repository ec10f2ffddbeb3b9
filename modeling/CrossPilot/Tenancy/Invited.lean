import CrossPilot.Tenancy.Members

/-!
# Who can accept an invitation

As long as an invitation stands, its link is in the outbox and its token leads back to it. A person
who has never been a member can accept until the second that the token ends in. A person whose
membership was removed cannot: the removed row is passed over by the lookup and still counts for the
constraint (`admitted_iff`).
-/

namespace CrossPilot

namespace Members

open Table Auth

variable {c : Settings} {s s' : State}

/-! ### What every state of a tenant satisfies -/

/-- The link that an invitation went out with. -/
structure LinkOf (c : Settings) (clock : Instant) (id : ℕ) (email tokenHash : String)
    (link : OutboxMessage) : Prop where
  recipient : link.recipient = email
  tokenHash : c.tokens.tokenHash (link.token c.tokens) = tokenHash
  sub : link.claims.sub = id
  tid : link.claims.tid = some c.tenantId
  purpose : link.claims.purpose = some "member_invite"
  issued : atSecond link.claims.iat ≤ clock
  normal : c.lowering.normal email = email
  nonempty : email ≠ ""
  length_le : email.length ≤ 254

lemma LinkOf.later {clock clock' : Instant} {id : ℕ} {email tokenHash : String}
    {link : OutboxMessage} (h : LinkOf c clock id email tokenHash link) (hle : clock ≤ clock') :
    LinkOf c clock' id email tokenHash link :=
  { h with issued := h.issued.trans hle }

/-- People have different ids, a person has one row at most, removed or not, and every invitation
has its own token and a link that was sent. -/
structure Sound (c : Settings) (s : State) : Prop where
  ids : Keyed SysUser.id s.users
  users_lt : ∀ u ∈ s.users, u.id < s.nextId
  persons : Keyed TenantUser.userId s.members
  person : ∀ m ∈ s.members, ∃ u ∈ s.users, u.id = m.userId
  active : ∀ m ∈ s.members, m.status = .active
  hashes : Keyed MemberInvitation.tokenHash s.invitations
  linked : ∀ i ∈ s.invitations, ∃ link ∈ s.outbox,
    LinkOf c s.clock i.id i.email i.tokenHash link

lemma Registered.sound (h : Registered s) : Sound c s := by
  obtain ⟨u, hu, id, -, t, hmembers⟩ := h.owner
  refine ⟨h.ids, h.users_lt, ?_, ?_, ?_, ?_, ?_⟩
  · simp [hmembers, Keyed]
  · intro m hm
    obtain rfl : m = _ := by simpa [hmembers] using hm
    exact ⟨u, hu, rfl⟩
  · intro m hm
    obtain rfl : m = _ := by simpa [hmembers] using hm
    rfl
  · simp [h.invitations, Keyed]
  · simp [h.invitations]

namespace Sound

/-! ### One lemma for each kind of write -/

lemma later (h : Sound c s) {t : Instant} (ht : s.clock ≤ t) : Sound c { s with clock := t } :=
  { h with linked := fun i hi => (h.linked i hi).imp fun _ hlink => ⟨hlink.1, hlink.2.later ht⟩ }

lemma mapUsers (h : Sound c s) {f : SysUser → SysUser} (hf : ∀ u, (f u).id = u.id) :
    Sound c { s with users := s.users.map f } := by
  refine ⟨h.ids.map_of fun u _ => hf u, ?_, h.persons, ?_, h.active, h.hashes, h.linked⟩
  · intro u' hu'
    obtain ⟨u, hu, rfl⟩ := List.mem_map.mp hu'
    exact (hf u).trans_lt (h.users_lt u hu)
  · intro m hm
    obtain ⟨u, hu, hid⟩ := h.person m hm
    exact ⟨f u, List.mem_map_of_mem hu, (hf u).trans hid⟩

lemma mapMembers (h : Sound c s) {f : TenantUser → TenantUser}
    (hf : ∀ m, (f m).userId = m.userId ∧ (f m).status = m.status) :
    Sound c { s with members := s.members.map f } := by
  refine ⟨h.ids, h.users_lt, h.persons.map_of fun m _ => (hf m).1, ?_, ?_, h.hashes, h.linked⟩
  · intro m' hm'
    obtain ⟨m, hm, rfl⟩ := List.mem_map.mp hm'
    rw [(hf m).1]
    exact h.person m hm
  · intro m' hm'
    obtain ⟨m, hm, rfl⟩ := List.mem_map.mp hm'
    exact (hf m).2.trans (h.active m hm)

lemma mapInvitations (h : Sound c s) {f : MemberInvitation → MemberInvitation}
    (hf : ∀ i, (f i).id = i.id ∧ (f i).email = i.email ∧ (f i).tokenHash = i.tokenHash) :
    Sound c { s with invitations := s.invitations.map f } := by
  refine { h with hashes := h.hashes.map_of fun i _ => (hf i).2.2, linked := ?_ }
  intro i' hi'
  obtain ⟨i, hi, rfl⟩ := List.mem_map.mp hi'
  obtain ⟨hid, hemail, hhash⟩ := hf i
  rw [hid, hemail, hhash]
  exact h.linked i hi

lemma addUser (h : Sound c s) {u : SysUser} (hu : u.id = s.nextId)
    (hok : Members.addUser s u = .ok s') : Sound c s' := by
  unfold Members.addUser at hok
  split_ifs at hok
  cases hok
  refine ⟨h.ids.append_singleton fun v hv => ?_, ?_, h.persons, ?_, h.active, h.hashes, h.linked⟩
  · exact hu ▸ (h.users_lt v hv).ne
  · intro v hv
    obtain hv | rfl := List.mem_append.mp hv |>.imp_right List.mem_singleton.mp
    · exact (h.users_lt v hv).trans (Nat.lt_succ_self _)
    · exact hu ▸ Nat.lt_succ_self _
  · intro m hm
    obtain ⟨v, hv, hid⟩ := h.person m hm
    exact ⟨v, List.mem_append_left _ hv, hid⟩

lemma addMember (h : Sound c s) {m : TenantUser} (hperson : ∃ u ∈ s.users, u.id = m.userId)
    (hactive : m.status = .active) (hok : Members.addMember s m = .ok s') : Sound c s' := by
  unfold Members.addMember at hok
  split_ifs at hok with hnone
  cases hok
  have hnew : ∀ n ∈ s.members, n.userId ≠ m.userId := by simpa using hnone
  refine ⟨h.ids, fun u hu => (h.users_lt u hu).trans (Nat.lt_succ_self _),
    h.persons.append_singleton hnew, ?_, ?_, h.hashes, h.linked⟩
  · intro n hn
    obtain hn | rfl := List.mem_append.mp hn |>.imp_right List.mem_singleton.mp
    · exact h.person n hn
    · exact hperson
  · intro n hn
    obtain hn | rfl := List.mem_append.mp hn |>.imp_right List.mem_singleton.mp
    · exact h.active n hn
    · exact hactive

/-- An invitation is stored and its link goes out. -/
lemma addInvitation (h : Sound c s) {i : MemberInvitation} {link : OutboxMessage} {t : Instant}
    (ht : s.clock ≤ t)
    (hlink : i.email.length ≤ 254 → LinkOf c t i.id i.email i.tokenHash link)
    (hok : Members.addInvitation s i = .ok s') :
    Sound c { s' with outbox := s'.outbox ++ [link], clock := t } := by
  unfold Members.addInvitation at hok
  split_ifs at hok with hnone hlength
  cases hok
  have hnew : ∀ j ∈ s.invitations, j.tokenHash ≠ i.tokenHash := by simpa using hnone
  refine ⟨h.ids, fun u hu => (h.users_lt u hu).trans (Nat.lt_succ_self _), h.persons, h.person,
    h.active, h.hashes.append_singleton hnew, ?_⟩
  intro j hj
  obtain hj | rfl := List.mem_append.mp hj |>.imp_right List.mem_singleton.mp
  · obtain ⟨l, hl, hlj⟩ := h.linked j hj
    exact ⟨l, List.mem_append_left _ hl, hlj.later ht⟩
  · exact ⟨link, by simp, hlink (not_lt.mp hlength)⟩

lemma setStatus (h : Sound c s) (id : ℕ) (status : InvitationStatus) (now : Instant) :
    Sound c (setStatus s id status now) :=
  h.mapInvitations fun i => by split_ifs <;> exact ⟨rfl, rfl, rfl⟩

end Sound

/-! ### Requests -/

lemma userOf_mapUsers {f : SysUser → SysUser} (hf : ∀ u, (f u).email = u.email) (email : String) :
    userOf { s with users := s.users.map f } email = (userOf s email).map f := by
  rw [userOf, userOf, List.find?_map]
  congr 2
  funext u
  simp [hf u]

lemma addMember_eq_ok {m : TenantUser} : addMember s m = .ok s' ↔
    (∀ n ∈ s.members, n.userId ≠ m.userId) ∧
      s' = { s with members := s.members ++ [m], nextId := s.nextId + 1 } := by
  unfold addMember
  split_ifs with hany
  · obtain ⟨n, hn, hid⟩ := List.any_eq_true.mp hany
    exact ⟨fun h => by simp at h, fun h => absurd (of_decide_eq_true hid) (h.1 n hn)⟩
  · have hnew : ∀ n ∈ s.members, n.userId ≠ m.userId := by simpa using hany
    exact ⟨fun h => ⟨hnew, (Except.ok.inj h).symm⟩, fun h => h.2 ▸ rfl⟩

/-- The account that accepts is the one with the address. A new account has no rows yet. -/
lemma acceptingUser_spec (h : Sound c s) {email password : String} {displayName : Option String}
    {now : Instant} {user : SysUser}
    (hok : acceptingUser c email password displayName now s = .ok (s', user)) :
    Sound c s' ∧ user ∈ s'.users ∧ s' = { s with users := s'.users, nextId := s'.nextId } ∧
      (c.lowering.normal email = email → userOf s' email = some user ∧
        ∀ m ∈ s.members, m.userId = user.id ↔ ∃ u ∈ userOf s email, u.id = m.userId) := by
  unfold acceptingUser at hok
  split at hok
  next hnone =>
    split at hok
    · simp at hok
    next =>
      obtain ⟨s₁, hadd, hpair⟩ := bind_eq_ok.mp hok
      cases hpair
      refine ⟨h.addUser rfl hadd, ?_⟩
      unfold addUser at hadd
      split_ifs at hadd
      cases hadd
      refine ⟨by simp, rfl, fun hnormal => ?_⟩
      rw [hnormal] at hnone
      refine ⟨by simp [userOf, List.find?_append, hnone], fun m hm => ?_⟩
      obtain ⟨u, hu, hid⟩ := h.person m hm
      simpa [userOf, hnone] using (hid ▸ h.users_lt u hu).ne
  next found hfound =>
    have hmem := List.mem_of_find?_eq_some hfound
    have hperson (hnormal : c.lowering.normal email = email) : userOf s email = some found ∧
        ∀ m ∈ s.members, m.userId = found.id ↔ ∃ u ∈ userOf s email, u.id = m.userId := by
      have huser : userOf s email = some found := by rw [userOf, ← hfound, hnormal]
      exact ⟨huser, fun m _ => by simp [huser, eq_comm]⟩
    split_ifs at hok with hverify hunverified
    · cases hok
      refine ⟨h.mapUsers fun u => by split_ifs <;> rfl, mem_alter_self hmem, rfl, fun hnormal => ?_⟩
      refine ⟨?_, (hperson hnormal).2⟩
      rw [alter, userOf_mapUsers fun u => by split_ifs <;> rfl, (hperson hnormal).1]
      simp
    · cases hok
      exact ⟨h, hmem, rfl, hperson⟩

/-- What has to hold for an invitation to be accepted, and what accepting it does. -/
lemma acceptInvitation_eq_ok {payload : RawClaims} {email tokenHash password : String}
    {displayName : Option String} {w : Waits} {memberId : ℕ} :
    acceptInvitation c payload email tokenHash password displayName w s = .ok (s', memberId) ↔
      ∃ invitation s₁ user s₂, getPendingByHash s tokenHash (w.readSecond s) = some invitation ∧
        payload.tid = some c.tenantId ∧ (invitation.id : ℤ) = payload.sub ∧
        acceptingUser c email password displayName (w.readThird s) s = .ok (s₁, user) ∧
        getByUserId s₁ user.id = none ∧
        addMember s₁ ⟨s₁.nextId, user.id, invitation.roleCode, .active, some (w.readThird s),
          none⟩ = .ok s₂ ∧
        memberId = s₁.nextId ∧
        s' = { setStatus (upsertScope s₂ ⟨s₁.nextId, .shop, .all, []⟩) invitation.id .accepted
          (w.readThird s) with clock := w.readThird s } := by
  unfold acceptInvitation
  cases hpending : getPendingByHash s tokenHash (w.readSecond s) with
  | none => simp
  | some invitation =>
    simp only [refused_eq_ok, bind_eq_ok, not_or, not_not, Prod.exists, Bool.not_eq_true,
      Option.isSome_eq_false_iff, Option.isNone_iff_eq_none, Option.some.injEq]
    constructor
    · rintro ⟨⟨htid, hsub⟩, s₁, user, haccepting, hnone, s₂, hadd, hlast⟩
      cases hlast
      exact ⟨_, s₁, user, s₂, rfl, htid, hsub, haccepting, hnone, hadd, rfl, rfl⟩
    · rintro ⟨_, s₁, user, s₂, rfl, htid, hsub, haccepting, hnone, hadd, rfl, rfl⟩
      exact ⟨⟨htid, hsub⟩, s₁, user, haccepting, hnone, s₂, hadd, rfl⟩

lemma Waits.clock_le (w : Waits) (s : State) : s.clock ≤ w.readFirst s ∧
    w.readFirst s ≤ w.readSecond s ∧ w.readSecond s ≤ w.readThird s := by
  simp [readFirst, readSecond, readThird]

/-- The second that an instant lies in has begun. -/
lemma atSecond_epochSeconds_le (t : Instant) : atSecond (epochSeconds t) ≤ t :=
  Int.ediv_mul_le t (by decide)

namespace Sound

lemma invite (h : Sound c s) {payload : InviteMemberRequest c} {jti : Jti} {w : Waits}
    (hok : Members.invite c payload jti w s = .ok s') : Sound c s' := by
  obtain ⟨hfirst, hsecond, hthird⟩ := w.clock_le s
  unfold Members.invite at hok
  split at hok
  · simp at hok
  next role hrole =>
    simp only [refused_eq_ok, bind_eq_ok] at hok
    obtain ⟨-, s₂, hadd, hlast⟩ := hok
    cases hlast
    have hrevoked : Sound c (revokePendingForEmail s (c.lowering.normal payload.email)
        (w.readFirst s)) :=
      h.mapInvitations fun i => by split_ifs <;> exact ⟨rfl, rfl, rfl⟩
    refine hrevoked.addInvitation (hfirst.trans (hsecond.trans hthird)) (fun hlength => ?_) hadd
    exact {
      recipient := rfl
      tokenHash := rfl
      sub := rfl
      tid := rfl
      purpose := rfl
      issued := (atSecond_epochSeconds_le _).trans hthird
      normal := c.lowering.twice _
      nonempty := payload.email.2
      length_le := hlength }

lemma acceptInvitation (h : Sound c s) {payload : RawClaims} {email tokenHash password : String}
    {displayName : Option String} {w : Waits} {memberId : ℕ}
    (hok : Members.acceptInvitation c payload email tokenHash password displayName w s =
      .ok (s', memberId)) : Sound c s' := by
  obtain ⟨hfirst, hsecond, hthird⟩ := w.clock_le s
  obtain ⟨invitation, s₁, user, s₂, -, -, -, haccepting, -, hadd, -, rfl⟩ :=
    acceptInvitation_eq_ok.mp hok
  obtain ⟨hsound, huser, hframe, -⟩ := acceptingUser_spec h haccepting
  have hclock : s₂.clock = s.clock := by
    unfold Members.addMember at hadd
    split_ifs at hadd
    cases hadd
    rw [hframe]
  have hadded : Sound c s₂ := hsound.addMember ⟨user, huser, rfl⟩ rfl hadd
  refine Sound.later ?_ (hclock.trans_le (hfirst.trans (hsecond.trans hthird)))
  have hscoped : Sound c (upsertScope s₂ ⟨s₁.nextId, .shop, .all, []⟩) := { hadded with }
  exact hscoped.setStatus _ _ _

lemma accept (h : Sound c s) {token : c.tokens.Token} {password : String}
    {displayName : Option String} {w : Waits} {memberId : ℕ}
    (hok : Members.accept c token password displayName w s = .ok (s', memberId)) : Sound c s' := by
  obtain ⟨⟨payload, email⟩, -, hok⟩ := bind_eq_ok.mp hok
  simp only [refused_eq_ok] at hok
  exact h.acceptInvitation hok.2

lemma revokeInvitation (h : Sound c s) {id : ℕ} {w : Waits}
    (hok : Members.revokeInvitation id w s = .ok s') : Sound c s' := by
  unfold Members.revokeInvitation at hok
  split at hok
  · simp at hok
  · split_ifs at hok
    cases hok
    exact (h.setStatus _ _ _).later (w.clock_le s).1

lemma changeRole (h : Sound c s) {id : ℕ} {roleCode : { r : RoleCode // r ≠ .owner }}
    (hok : Members.changeRole id roleCode s = .ok s') : Sound c s' := by
  unfold Members.changeRole at hok
  split at hok
  · simp at hok
  next member hmember =>
    have hchanged : Sound c { s with
        members := alter TenantUser.id member.id (fun m => { m with
          roleCode := roleCode.1 }) s.members } :=
      h.mapMembers fun m => by split_ifs <;> exact ⟨rfl, rfl⟩
    rw [refused_eq_ok] at hok
    have hrole := of_checked hok.2
    split at hrole
    · simp at hrole
    · rw [refused_eq_ok] at hrole
      cases hrole.2
      exact hchanged

lemma remove (h : Sound c s) {id : ℕ} {w : Waits} (hok : Members.remove id w s = .ok s') :
    Sound c s' := by
  unfold Members.remove at hok
  split at hok
  · simp at hok
  next member hmember =>
    have hremoved : Sound c { s with
        members := alter TenantUser.id member.id (fun m => { m with
          deletedAt := some (w.readFirst s) }) s.members } :=
      h.mapMembers fun m => by split_ifs <;> exact ⟨rfl, rfl⟩
    rw [refused_eq_ok] at hok
    cases of_checked hok.2
    exact hremoved.later (w.clock_le s).1

/-- Whatever is asked, a sound state stays sound. -/
lemma step (h : Sound c s) (r : Request c) : Sound c (step c s r) := by
  unfold Members.step
  cases hserve : r.serve c s with
  | error e => exact h
  | ok s' =>
    cases r with
    | invite payload jti w => exact h.invite hserve
    | revokeInvitation id w => exact h.revokeInvitation hserve
    | accept token password displayName w =>
      simp only [Request.serve] at hserve
      cases haccept : Members.accept c token password displayName w s with
      | error e => simp [haccept, Except.map] at hserve
      | ok result =>
        simp only [haccept, Except.map, Except.ok.injEq] at hserve
        subst hserve
        exact h.accept haccept
    | changeRole memberId roleCode => exact h.changeRole hserve
    | remove memberId w => exact h.remove hserve
    | signUp email passwordHash => exact h.addUser rfl hserve

lemma run (h : Sound c s) (requests : List (Request c)) : Sound c (run c s requests) := by
  induction requests generalizing s with
  | nil => exact h
  | cons r rest ih => exact ih (h.step r)

end Sound

/-! ### Accepting -/

/-- The password of the account with the address, or a strong one for an account that is new. -/
def ValidPassword (c : Settings) (s : State) (email password : String) : Prop :=
  match userOf s email with
  | some user => c.passwords.verify password user.passwordHash = true
  | none => passwordStrengthError c.charTests password = none

instance (email password : String) : Decidable (ValidPassword c s email password) := by
  unfold ValidPassword
  split <;> infer_instance

/-- The link is accepted, and then the person has one active membership. -/
def Admits (c : Settings) (s : State) (link : OutboxMessage) (password : String)
    (displayName : Option String) (w : Waits) : Prop :=
  ∃ s' memberId, accept c (link.token c.tokens) password displayName w s = .ok (s', memberId) ∧
    (activeMemberships s' link.recipient).length = 1

/-- A link is read until the second that its token ends in. -/
lemma accept_link {id : ℕ} {email tokenHash password : String}
    {displayName : Option String} {link : OutboxMessage} {w : Waits}
    (hlink : LinkOf c s.clock id email tokenHash link) :
    accept c (link.token c.tokens) password displayName w s =
      if w.readFirst s < atSecond link.claims.exp then
        acceptInvitation c link.claims email tokenHash password displayName w s
      else .error .invitationExpired := by
  have hissued : ¬ w.readFirst s < atSecond link.claims.iat :=
    not_lt.mpr (hlink.issued.trans (w.clock_le s).1)
  have hdecode : c.tokens.decode (link.token c.tokens) (w.readFirst s) =
      if atSecond link.claims.exp ≤ w.readFirst s then .error .expired
      else .ok (link.claims, some email) := by
    rw [OutboxMessage.token, c.tokens.decode_sign, if_neg hissued, hlink.recipient]
  by_cases hexp : w.readFirst s < atSecond link.claims.exp
  · rw [if_neg (not_le.mpr hexp)] at hdecode
    simp [accept, decodeInvite, hdecode, hexp, hlink.purpose, hlink.tid, hlink.nonempty,
      hlink.tokenHash, bind, Except.bind]
  · rw [if_pos (not_lt.mp hexp)] at hdecode
    simp [accept, decodeInvite, hdecode, hexp, bind, Except.bind]

/-- A valid password is all that the account needs. -/
lemma exists_acceptingUser {email password : String} (hnormal : c.lowering.normal email = email)
    (hlength : email.length ≤ 254) (hvalid : ValidPassword c s email password)
    (displayName : Option String) (now : Instant) :
    ∃ s₁ user, acceptingUser c email password displayName now s = .ok (s₁, user) := by
  unfold ValidPassword at hvalid
  unfold acceptingUser
  rw [hnormal]
  cases huser : userOf s email with
  | none =>
    simp only [huser] at hvalid
    rw [userOf] at huser
    have hnew : s.users.any (fun v => v.email = email) = false := by
      simpa using List.find?_eq_none.mp huser
    simp [huser, hvalid, addUser, hnew, not_lt.mpr hlength, bind, Except.bind, pure, Except.pure]
  | some user =>
    simp only [huser] at hvalid
    rw [userOf] at huser
    by_cases hunverified : user.emailVerifiedAt.isNone = true <;> simp [huser, hvalid, hunverified]

/-- The invitation is found by the token that was sent for it. -/
lemma Sound.getPendingByHash (h : Sound c s) {i : MemberInvitation} (hi : i ∈ s.invitations)
    (hpending : i.status = .pending) {now : Instant} (hnow : now < i.expiresAt) :
    getPendingByHash s i.tokenHash now = some i :=
  find?_eq_some_of_mem h.hashes hi (by simp [hpending, hnow]) fun j hj => by simp at hj; exact hj.1

/-- Without active memberships the person has removed rows or none. -/
lemma Sound.no_rows_iff (h : Sound c s) {email : String} {user : SysUser}
    (hperson : ∀ m ∈ s.members, m.userId = user.id ↔ ∃ u ∈ userOf s email, u.id = m.userId)
    (hnone : activeMemberships s email = []) :
    (∀ m ∈ s.members, m.userId ≠ user.id) ↔ memberships s email true = [] := by
  have hlive : ∀ m ∈ s.members, m.userId = user.id → m.deletedAt.isSome = true := by
    intro m hm hid
    by_contra hnot
    have hmem : m ∈ activeMemberships s email := by
      simp only [activeMemberships, memberships, List.mem_filter, decide_eq_true_eq]
      exact ⟨⟨hm, by simpa using hnot, (hperson m hm).mp hid⟩, h.active m hm⟩
    simp [hnone] at hmem
  simp only [memberships, List.filter_eq_nil_iff, decide_eq_true_eq, not_and]
  constructor
  · intro hrows m hm _ hu
    exact hrows m hm ((hperson m hm).mpr hu)
  · intro hremoved m hm hid
    exact hremoved m hm (hlive m hm hid) ((hperson m hm).mp hid)

/-- A person without rows has one active membership after one is added. -/
lemma activeMemberships_append {email : String} {user : SysUser} {m : TenantUser}
    (huser : userOf s email = some user) (hrows : ∀ n ∈ s.members, n.userId ≠ user.id)
    (husers : s'.users = s.users) (hmembers : s'.members = s.members ++ [m])
    (hid : m.userId = user.id) (hactive : m.status = .active) (hlive : m.deletedAt = none) :
    activeMemberships s' email = [m] := by
  have huser' : userOf s' email = some user := by rw [userOf, husers, ← huser, userOf]
  have hothers : s.members.filter (fun n => n.deletedAt.isSome = false ∧
      ∃ u ∈ userOf s' email, u.id = n.userId) = [] := by
    simp only [List.filter_eq_nil_iff, huser', decide_eq_true_eq, Option.mem_def,
      Option.some.injEq, exists_eq_left', not_and]
    exact fun n hn _ => (hrows n hn).symm
  rw [activeMemberships, memberships, hmembers, List.filter_append, hothers]
  simp [huser', hid, hactive, hlive]

/-- In every state that requests lead to, an invitation that is pending and has not ended can be
accepted with a valid password, where the person has no active membership, and accepting it leaves one
active membership, exactly if the second that its token ends in has not begun and the person was not
removed before. -/
theorem admitted_iff (hregistered : Registered s) (requests : List (Request c))
    (invitation : MemberInvitation) (hinvitation : invitation ∈ (run c s requests).invitations)
    (hpending : invitation.status = .pending) {w : Waits}
    (hunexpired : w.readSecond (run c s requests) < invitation.expiresAt)
    (hnone : activeMemberships (run c s requests) invitation.email = []) {password : String}
    (hvalid : ValidPassword c (run c s requests) invitation.email password)
    (displayName : Option String) :
    ∃ link ∈ (run c s requests).outbox, link.recipient = invitation.email ∧
      c.tokens.tokenHash (link.token c.tokens) = invitation.tokenHash ∧
      (Admits c (run c s requests) link password displayName w ↔
        w.readFirst (run c s requests) < atSecond link.claims.exp ∧
          memberships (run c s requests) invitation.email true = []) := by
  have h : Sound c (run c s requests) := hregistered.sound.run requests
  generalize run c s requests = s at *
  obtain ⟨link, hmem, hlink⟩ := h.linked invitation hinvitation
  obtain ⟨s₁, user, haccepting⟩ := exists_acceptingUser hlink.normal hlink.length_le hvalid
    displayName (w.readThird s)
  obtain ⟨-, -, hframe, hperson⟩ := acceptingUser_spec h haccepting
  obtain ⟨huser, hperson⟩ := hperson hlink.normal
  have hmembers : s₁.members = s.members := by rw [hframe]
  refine ⟨link, hmem, hlink.recipient, hlink.tokenHash, ?_⟩
  rw [← h.no_rows_iff hperson hnone, Admits, accept_link hlink, hlink.recipient]
  by_cases hexp : w.readFirst s < atSecond link.claims.exp
  swap
  · simp [hexp]
  rw [if_pos hexp]
  constructor
  · rintro ⟨s', memberId, hok, -⟩
    refine ⟨hexp, fun m hm => ?_⟩
    obtain ⟨_, s₁', user', s₂, -, -, -, haccepting', -, hadd, -⟩ := acceptInvitation_eq_ok.mp hok
    cases haccepting.symm.trans haccepting'
    exact (addMember_eq_ok.mp hadd).1 m (hmembers ▸ hm)
  · rintro ⟨-, hrows⟩
    have hrows' : ∀ m ∈ s₁.members, m.userId ≠ user.id := hmembers ▸ hrows
    have hfind : getByUserId s₁ user.id = none :=
      List.find?_eq_none.mpr fun m hm => by simpa using hrows' m (List.mem_of_mem_filter hm)
    refine ⟨_, _, acceptInvitation_eq_ok.mpr ⟨invitation, s₁, user, _,
      h.getPendingByHash hinvitation hpending hunexpired, hlink.tid, hlink.sub.symm, haccepting,
      hfind, addMember_eq_ok.mpr ⟨hrows', rfl⟩, rfl, rfl⟩, ?_⟩
    let membership : TenantUser := ⟨s₁.nextId, user.id, invitation.roleCode, .active,
      some (w.readThird s), none⟩
    rw [activeMemberships_append (m := membership) huser hrows' ?_ ?_ rfl rfl rfl]
    all_goals rfl

/-! ### A person who comes back -/

/-- Tokens that show what they say, and passwords that are kept as they are. -/
private def someSettings : Settings where
  tenantId := 1
  memberInvitationTtl := 259200000000
  lowering := ⟨Text.lower, fun s => by rw [Text.lower_strip_lower, Text.strip_strip]⟩
  tokens := {
    Token := RawClaims × String
    sign := Prod.mk
    decode := fun token now =>
      if now < atSecond token.1.iat then .error .other
      else if atSecond token.1.exp ≤ now then .error .expired
      else .ok (token.1, some token.2)
    decode_sign := fun _ _ _ => rfl
    tokenHash := fun token => token.1.jti }
  passwords := ⟨id, fun password hash => password == hash⟩
  charTests := ⟨Char.isLower, Char.isUpper, Char.isDigit, Char.isAlphanum⟩

private def someTenant : State where
  clock := 0
  nextId := 3
  users := [{ id := 1, email := "owner@shop.com", passwordHash := "Owner-12345" }]
  roles := [⟨.viewer, true⟩]
  members := [⟨2, 1, .owner, .active, none, none⟩]

private lemma someTenant_registered : Registered someTenant :=
  ⟨by decide, by decide, by decide, ⟨_, List.mem_cons_self, 2, by decide, none, rfl⟩, by decide,
    rfl, rfl⟩

private def bob : InviteMemberRequest someSettings :=
  ⟨⟨"Bob@mail.com", by decide +kernel⟩, ⟨.viewer, by decide⟩⟩

/-- Bob is invited. -/
private def once : List (Request someSettings) := [.invite bob ⟨"one", by decide⟩ {}]

/-- Bob is invited, accepts, is removed and is invited again. -/
private def again : List (Request someSettings) :=
  once ++ [.accept (inviteClaims someSettings 3 ⟨"one", by decide⟩ 0, "bob@mail.com") "Secret-word"
    none {}, .remove 5 {}, .invite bob ⟨"two", by decide⟩ {}]

private def bobInvited (id : ℕ) (tokenHash : String) : MemberInvitation :=
  ⟨id, "bob@mail.com", .viewer, tokenHash, 259200000000, .pending, none⟩

/-- Who was never a member can accept. -/
theorem admitted_iff_once :
    ∃ link ∈ (run someSettings someTenant once).outbox, link.recipient = "bob@mail.com" ∧
      someSettings.tokens.tokenHash (link.token someSettings.tokens) = "one" ∧
      (Admits someSettings (run someSettings someTenant once) link "Secret-word" none {} ↔
        (0 : ℤ) < atSecond link.claims.exp ∧
          memberships (run someSettings someTenant once) "bob@mail.com" true = []) :=
  admitted_iff someTenant_registered once (bobInvited 3 "one") (by decide +kernel) rfl
    (w := {}) (by decide +kernel) (by decide +kernel) (by decide +kernel) none

/-- Bob is invited again after he was removed, and no link of his is accepted. -/
theorem removed_not_admitted : ¬ ∀ (c : Settings) (s : State) (_ : Registered s)
    (requests : List (Request c)) (invitation : MemberInvitation) (w : Waits) (password : String)
    (displayName : Option String), invitation ∈ (run c s requests).invitations →
    invitation.status = .pending → w.readSecond (run c s requests) < invitation.expiresAt →
    activeMemberships (run c s requests) invitation.email = [] →
    ValidPassword c (run c s requests) invitation.email password →
    ∃ link ∈ (run c s requests).outbox, Admits c (run c s requests) link password displayName w := by
  intro hall
  obtain ⟨link, hlink, s', memberId, hok, -⟩ := hall someSettings someTenant someTenant_registered
    again (bobInvited 6 "two") {} "Secret-word" none (by decide +kernel) rfl (by decide +kernel)
    (by decide +kernel) (by decide +kernel)
  have hnone : ∀ link ∈ (run someSettings someTenant again).outbox,
      (accept someSettings (link.token someSettings.tokens) "Secret-word" none {}
        (run someSettings someTenant again)).toOption = none := by
    decide +kernel
  exact absurd (hnone link hlink) (by rw [hok]; exact Option.some_ne_none _)

end Members

end CrossPilot
