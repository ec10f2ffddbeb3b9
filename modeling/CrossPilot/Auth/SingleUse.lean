import CrossPilot.Auth.Token

/-!
# How often a token is used

Looking an id up and putting it on the list are two steps of a request. A second request that looks
it up in between finds it unused as well, and is served too. So a token is used at most once exactly
on those schedules on which, once a request that will be served has looked the id up, no other one
looks before somebody has been served (`usedOnce_iff`).
-/

namespace CrossPilot.Auth

open Interleaving

/-! ### One request -/

namespace UseUp

variable {Grant : Type} (u : UseUp Grant) {raw : RawClaims} {grant : Grant} {now : Instant}
  {blacklist : TokenBlacklist}

/-- What the check comes to if the id is not on the list. -/
def passes (now : Instant) : Except ServiceError RawClaims :=
  (u.decode now).bind fun raw => (u.accept raw).map fun _ => raw

/-- The request has turns at these times, and would be served if the token were not used. -/
def serves : List Instant → Bool
  | t₁ :: t₂ :: _ :: _ =>
    match u.passes t₁ with
    | .ok raw => (u.work raw t₂).isOk
    | .error _ => false
  | _ => false

/-- What is left of a request after the id was not found. -/
def checked (raw : RawClaims) : Request Grant := do
  let grant ← .ofExcept (← .access fun now blacklist => (u.work raw now, blacklist))
  .access fun now blacklist =>
    ((), TokenBlacklist.revoke blacklist raw.jti (remainingTtlSeconds raw.exp now) now)
  return grant

/-- What is left after the work is done. -/
def cleared (raw : RawClaims) (grant : Grant) : Request Grant := do
  .access fun now blacklist =>
    ((), TokenBlacklist.revoke blacklist raw.jti (remainingTtlSeconds raw.exp now) now)
  return grant

lemma program_after : u.program.after now blacklist =
    (Steps.ofExcept (u.check now blacklist).1).bind u.checked := rfl

lemma checked_after : (u.checked raw).after now blacklist =
    (Steps.ofExcept (u.work raw now)).bind (cleared raw) := rfl

lemma cleared_effect : (cleared raw grant).effect now blacklist =
    blacklist.revoke raw.jti (remainingTtlSeconds raw.exp now) now := rfl

lemma cleared_after : (cleared raw grant).after now blacklist = .ret grant := rfl

variable {u}

lemma passes_of_check (h : (u.check now blacklist).1 = .ok raw) : u.passes now = .ok raw := by
  unfold check at h
  unfold passes
  cases hd : u.decode now with
  | error e =>
    rw [hd] at h
    cases h
  | ok raw' =>
    rw [hd] at h
    dsimp only at h
    split at h
    · cases h
    · exact h

/-- Where a request is after turns at these times. -/
inductive Stage (u : UseUp Grant) : List Instant → Request Grant → Prop
  | start : Stage u [] u.program
  | failed {ts e} : Stage u ts (.fail e)
  | checked {t₁ raw} : u.passes t₁ = .ok raw → Stage u [t₁] (u.checked raw)
  | cleared {t₁ t₂ raw grant} : u.passes t₁ = .ok raw → u.work raw t₂ = .ok grant →
    Stage u [t₁, t₂] (cleared raw grant)
  | served {ts grant} : u.serves ts → Stage u ts (.ret grant)

lemma serves_append {ts ts' : List Instant} (h : u.serves ts) : u.serves (ts ++ ts') := by
  match ts with
  | [] => cases h
  | [_] => cases h
  | [_, _] => cases h
  | _ :: _ :: _ :: _ => exact h

lemma Stage.after {ts : List Instant} {p : Request Grant} (h : Stage u ts p) :
    Stage u (ts ++ [now]) (p.after now blacklist) := by
  cases h with
  | start =>
    rw [program_after]
    cases hc : (u.check now blacklist).1 with
    | error e => exact .failed
    | ok raw => exact .checked (passes_of_check hc)
  | failed => exact .failed
  | checked ha =>
    rw [checked_after]
    cases hw : u.work _ now with
    | error e => exact .failed
    | ok grant => exact .cleared ha hw
  | cleared ha hw =>
    refine .served ?_
    simp [serves, ha, hw, Except.isOk, Except.toBool]
  | served hs => exact .served (serves_append hs)

lemma Stage.serves_of_ret {ts : List Instant} (h : Stage u ts (.ret grant)) : u.serves ts := by
  cases h with
  | served hs => exact hs

lemma passes_of_serves {t₁ : Instant} {ts : List Instant} (h : u.serves (t₁ :: ts)) :
    ∃ raw, u.passes t₁ = .ok raw := by
  match ts with
  | [] => cases h
  | [_] => cases h
  | _ :: _ :: _ =>
    simp only [serves] at h
    cases ha : u.passes t₁ with
    | error e =>
      rw [ha] at h
      cases h
    | ok raw => exact ⟨raw, rfl⟩

/-- After turns at enough times for it to be served, a request that has passed its check is. -/
lemma follow_checked {t₁ : Instant} {seen : List (Instant × TokenBlacklist)}
    (ha : u.passes t₁ = .ok raw) (h : u.serves (t₁ :: seen.map Prod.fst)) :
    ∃ grant, (u.checked raw).follow seen = .ret grant := by
  match seen with
  | [] => cases h
  | [_] => cases h
  | v₂ :: v₃ :: rest =>
    simp only [serves, List.map_cons, ha] at h
    cases hw : u.work raw v₂.1 with
    | error e =>
      rw [hw] at h
      cases h
    | ok grant =>
      refine ⟨grant, ?_⟩
      rw [Steps.follow_cons, checked_after, hw, Steps.follow_cons, Steps.ofExcept_ok,
        Steps.bind_ret, cleared_after, Steps.follow_ret]

end UseUp

/-! ### The list -/

section blacklist

variable {jwt : Jwt} {token : String} {b : TokenBlacklist} {now : Instant} {raw : RawClaims}

/-- The id of the token is on the list. -/
def Marked (jwt : Jwt) (token : String) (b : TokenBlacklist) : Prop :=
  ∃ now raw, jwt.decode token now = .ok raw ∧ b raw.jti ≠ none

/-- The id of the token stays on the list until the token ends. -/
def Lasting (jwt : Jwt) (token : String) (b : TokenBlacklist) : Prop :=
  ∀ now raw, jwt.decode token now = .ok raw → ∀ expires, b raw.jti = some expires →
    atSecond raw.exp ≤ expires

lemma isRevoked_of_lasting (hb : Lasting jwt token b) (hd : jwt.decode token now = .ok raw) :
    b.isRevoked raw.jti now = ((b raw.jti).isSome, b) := by
  unfold TokenBlacklist.isRevoked
  cases hentry : b raw.jti with
  | none => rfl
  | some expires =>
    have hlive : now < expires := lt_of_lt_of_le (jwt.unexpired hd) (hb now raw hd expires hentry)
    simp [hlive.not_ge]

/-- Putting an id on the list keeps it there until the end of the token. -/
lemma le_revoked (exp : ℤ) (now : Instant) :
    atSecond exp ≤ now + atSecond (max 1 (remainingTtlSeconds exp now)) := by
  have hfloor : epochSeconds now * 1000000 ≤ now := Int.ediv_mul_le now (by decide)
  have httl : exp - epochSeconds now ≤ max 1 (remainingTtlSeconds exp now) :=
    (le_max_right 1 _).trans (le_max_right 1 _)
  show exp * 1000000 ≤ (now + max 1 (remainingTtlSeconds exp now) * 1000000 : ℤ)
  omega

lemma lasting_revoke (hd : jwt.decode token now = .ok raw) (now' : Instant) :
    Lasting jwt token (b.revoke raw.jti (remainingTtlSeconds raw.exp now') now') ∧
      Marked jwt token (b.revoke raw.jti (remainingTtlSeconds raw.exp now') now') := by
  have hself : b.revoke raw.jti (remainingTtlSeconds raw.exp now') now' raw.jti =
      some (now' + atSecond (max 1 (remainingTtlSeconds raw.exp now'))) := by
    simp [TokenBlacklist.revoke, raw.jti.2]
  refine ⟨fun t raw' hd' expires hentry => ?_, now, raw, hd, by simp [hself]⟩
  rw [jwt.same hd' hd, hself, Option.some.injEq] at hentry
  rw [jwt.same hd' hd, ← hentry]
  exact le_revoked _ _

end blacklist

/-! ### All requests -/

section requests

variable {ι : Type} [DecidableEq ι] {jwt : Jwt} {token : String} {b : TokenBlacklist}
  {requests : ι → TokenRequest} {sched : List (ι × Instant)} {i j : ι}

/-- The requests that present the token, and the list they find. -/
def present (jwt : Jwt) (token : String) (requests : ι → TokenRequest) (b : TokenBlacklist) :
    Config ι TokenBlacklist Instant ServiceError Grant :=
  ⟨b, fun i => ((requests i).useUp jwt token).program⟩

/-- Request `i` has turns enough, and would be served if the token were not used. -/
def Served (jwt : Jwt) (token : String) (requests : ι → TokenRequest) (sched : List (ι × Instant))
    (i : ι) : Prop :=
  ((requests i).useUp jwt token).serves (Config.events i sched)

/-- Once a request that will be served has looked the id up, no other one does before somebody has
been served. -/
def Orderly (jwt : Jwt) (token : String) (requests : ι → TokenRequest)
    (sched : List (ι × Instant)) : Prop :=
  ∀ before m after, sched = before ++ m :: after → Served jwt token requests sched m.1 →
    Config.events m.1 before = [] →
    (∃ i, Served jwt token requests sched i ∧ Config.events i before ≠ []) →
    ∃ i, Served jwt token requests before i

/-- What the three functions read is what the token says. -/
lemma decode_of_useUp {r : TokenRequest} {now : Instant} {raw : RawClaims}
    (h : (r.useUp jwt token).decode now = .ok raw) : jwt.decode token now = .ok raw := by
  have hclaims : ∀ {claim expected mismatch},
      decodeClaims jwt claim expected mismatch token now = .ok raw →
        jwt.decode token now = .ok raw := by
    intro claim expected mismatch h
    unfold decodeClaims at h
    split at h
    · cases h
    · cases h
    · rename_i raw' hraw
      split at h
      · cases h
        exact hraw
      · cases h
  have hfor : ∀ {purpose invalid used fits},
      decodeFor jwt token purpose invalid used fits now = .ok raw →
        jwt.decode token now = .ok raw := by
    intro purpose invalid used fits h
    unfold decodeFor at h
    split at h
    · cases h
    · rename_i raw' hraw
      split at h
      · cases h
        exact hclaims hraw
      · cases h
  cases r with
  | refresh account => exact hclaims h
  | confirm action userId tenantId => exact hfor h
  | bindShop platform userId tenantId => exact hfor h

/-- What a request finds depends on whether the id is on the list. -/
lemma check_useUp (r : TokenRequest) (hb : Lasting jwt token b) (now : Instant) :
    ((r.useUp jwt token).check now b).2 = b ∧
      (Marked jwt token b → ∃ e, ((r.useUp jwt token).check now b).1 = .error e) ∧
      (¬ Marked jwt token b →
        ((r.useUp jwt token).check now b).1 = (r.useUp jwt token).passes now) := by
  unfold UseUp.check UseUp.passes
  cases hread : (r.useUp jwt token).decode now with
  | error e => exact ⟨rfl, fun _ => ⟨e, rfl⟩, fun _ => rfl⟩
  | ok raw =>
    have hd := decode_of_useUp hread
    dsimp only
    rw [isRevoked_of_lasting hb hd]
    cases hentry : b raw.jti with
    | none =>
      refine ⟨rfl, ?_, fun _ => rfl⟩
      rintro ⟨t, raw', hd', hmarked⟩
      rw [jwt.same hd' hd] at hmarked
      exact absurd hentry hmarked
    | some expires =>
      refine ⟨rfl, fun _ => ⟨_, rfl⟩, fun hno => absurd ⟨now, raw, hd, ?_⟩ hno⟩
      rw [hentry]
      exact Option.some_ne_none _

lemma decode_of_passes {r : TokenRequest} {now : Instant} {raw : RawClaims}
    (h : (r.useUp jwt token).passes now = .ok raw) : jwt.decode token now = .ok raw := by
  unfold UseUp.passes at h
  cases hread : (r.useUp jwt token).decode now with
  | error e =>
    rw [hread] at h
    cases h
  | ok raw' =>
    rw [hread] at h
    cases ha : (r.useUp jwt token).accept raw' with
    | error e =>
      simp only [Except.bind, ha, Except.map] at h
      cases h
    | ok _ =>
      simp only [Except.bind, ha, Except.map, Except.ok.injEq] at h
      rw [← h]
      exact decode_of_useUp hread

/-- Where everybody is after a schedule, and what the list says. -/
structure Progress (jwt : Jwt) (token : String) (b : TokenBlacklist) (requests : ι → TokenRequest)
    (sched : List (ι × Instant)) (c : Config ι TokenBlacklist Instant ServiceError Grant) :
    Prop where
  lasting : Lasting jwt token c.shared
  stage : ∀ i, UseUp.Stage ((requests i).useUp jwt token) (Config.events i sched) (c.party i)
  marked : Marked jwt token c.shared →
    Marked jwt token b ∨ ∃ i, Served jwt token requests sched i
  granted : ∀ i grant, c.party i = .ret grant → Marked jwt token c.shared

lemma served_append {sched' : List (ι × Instant)} (h : Served jwt token requests sched i) :
    Served jwt token requests (sched ++ sched') i := by
  unfold Served
  rw [Config.events_append]
  exact UseUp.serves_append h

/-- What a step does to the list: nothing, or it puts the id of a request that is now served on
it. -/
lemma effect_cases {u : UseUp Grant} {ts : List Instant} {p : Request Grant} {c : TokenBlacklist}
    (now : Instant) (hu : ∃ r, u = TokenRequest.useUp jwt token r) (hst : UseUp.Stage u ts p)
    (hc : Lasting jwt token c) :
    p.effect now c = c ∨ Lasting jwt token (p.effect now c) ∧
      Marked jwt token (p.effect now c) ∧ u.serves (ts ++ [now]) := by
  obtain ⟨r, rfl⟩ := hu
  cases hst with
  | start => exact .inl (check_useUp r hc now).1
  | failed => exact .inl rfl
  | checked ha => exact .inl rfl
  | cleared ha hw =>
    rw [UseUp.cleared_effect]
    obtain ⟨hlast, hmarked⟩ := lasting_revoke (decode_of_passes ha) now
    refine .inr ⟨hlast, hmarked, ?_⟩
    simp [UseUp.serves, ha, hw, Except.isOk, Except.toBool]
  | served hs => exact .inl rfl

/-- Who is served has just put the id on the list, or was served before. -/
lemma marked_of_after {u : UseUp Grant} {ts : List Instant} {p : Request Grant} {c : TokenBlacklist}
    {now : Instant} {grant : Grant} (hu : ∃ r, u = TokenRequest.useUp jwt token r)
    (hst : UseUp.Stage u ts p) (h : p.after now c = .ret grant) :
    p = .ret grant ∨ Marked jwt token (p.effect now c) := by
  obtain ⟨r, rfl⟩ := hu
  cases hst with
  | start =>
    rw [UseUp.program_after] at h
    cases hc : ((r.useUp jwt token).check now c).1 <;> rw [hc] at h <;> cases h
  | failed => cases h
  | @checked t₁ raw ha =>
    rw [UseUp.checked_after] at h
    cases hw : (r.useUp jwt token).work raw now <;> rw [hw] at h <;> cases h
  | cleared ha hw => exact .inr (lasting_revoke (decode_of_passes ha) now).2
  | served hs => exact .inl h

lemma progress_run (requests : ι → TokenRequest) (hb : Lasting jwt token b)
    (sched : List (ι × Instant)) :
    Progress jwt token b requests sched ((present jwt token requests b).run sched) := by
  refine Config.run_induction ⟨hb, fun i => .start, .inl, fun i grant h => by cases h⟩ ?_ sched
  intro sched m ih
  obtain ⟨i, now⟩ := m
  have hself : Config.events i (sched ++ [(i, now)]) = Config.events i sched ++ [now] := by
    simp [Config.events_append]
  have hstage : ∀ j, UseUp.Stage ((requests j).useUp jwt token)
      (Config.events j (sched ++ [(i, now)]))
      ((((present jwt token requests b).run sched).move (i, now)).party j) := by
    intro j
    by_cases hj : j = i
    · subst hj
      rw [hself, Config.party_move_self]
      exact (ih.stage j).after
    · rw [Config.party_move_of_ne _ hj, Config.events_append, Config.events_cons_of_ne hj,
        Config.events_nil, List.append_nil]
      exact ih.stage j
  rcases effect_cases now ⟨_, rfl⟩ (ih.stage i) ih.lasting with hsame | ⟨hlast, hnow, hserves⟩
  · refine ⟨?_, hstage, fun hmarked => ?_, fun j grant hret => ?_⟩
    · rw [Config.shared_move, hsame]
      exact ih.lasting
    · rw [Config.shared_move, hsame] at hmarked
      rcases ih.marked hmarked with h | ⟨k, hk⟩
      · exact .inl h
      · exact .inr ⟨k, served_append hk⟩
    · by_cases hj : j = i
      · subst hj
        rw [Config.party_move_self] at hret
        rcases marked_of_after ⟨_, rfl⟩ (ih.stage j) hret with hold | hmarked
        · rw [Config.shared_move, hsame]
          exact ih.granted j grant hold
        · exact hmarked
      · rw [Config.party_move_of_ne _ hj] at hret
        rw [Config.shared_move, hsame]
        exact ih.granted j grant hret
  · refine ⟨hlast, hstage, fun _ => .inr ⟨i, ?_⟩, fun _ _ _ => hnow⟩
    rw [Served, hself]
    exact hserves

/-- An id that is on the list stays there. -/
lemma marked_run (hb : Lasting jwt token b) {before : List (ι × Instant)}
    (hm : Marked jwt token ((present jwt token requests b).run before).shared)
    (after : List (ι × Instant)) :
    Marked jwt token ((present jwt token requests b).run (before ++ after)).shared := by
  induction after using List.reverseRecOn with
  | nil => rwa [List.append_nil]
  | append_singleton after m ih =>
    rw [← List.append_assoc, Config.run_concat, Config.shared_move]
    have hprog := progress_run requests hb (before ++ after)
    rcases effect_cases m.2 ⟨_, rfl⟩ (hprog.stage m.1) hprog.lasting with hsame | ⟨-, hmarked, -⟩
    · rw [hsame]
      exact ih
    · exact hmarked

/-- A request that looks the id up before it is on the list is served. -/
lemma served_of_not_marked (hb : Lasting jwt token b) {before after : List (ι × Instant)}
    {now : Instant} (hserved : Served jwt token requests (before ++ (i, now) :: after) i)
    (hfirst : Config.events i before = [])
    (hm : ¬ Marked jwt token ((present jwt token requests b).run before).shared) :
    ∃ grant, ((present jwt token requests b).run (before ++ (i, now) :: after)).party i =
      .ret grant := by
  set c := (present jwt token requests b).run before with hc
  have hprog := progress_run requests hb before
  obtain ⟨-, -, hpasses⟩ := check_useUp (requests i) hprog.lasting now
  have hparty : c.party i = ((requests i).useUp jwt token).program :=
    Config.party_run_of_events_nil _ hfirst
  have hevents : Config.events i (before ++ (i, now) :: after) = now :: Config.events i after := by
    rw [Config.events_append, hfirst, List.nil_append, Config.events_cons_self]
  rw [Served, hevents] at hserved
  rw [Config.run_append, ← hc, Config.run_cons, Config.party_run, Config.party_move_self, hparty,
    UseUp.program_after, hpasses hm]
  obtain ⟨raw, ha⟩ := UseUp.passes_of_serves hserved
  rw [ha]
  refine UseUp.follow_checked ha ?_
  rwa [Config.map_fst_views]

/-- A request that finds the id on the list is not served. -/
lemma not_served_of_marked (hb : Lasting jwt token b) {before after : List (ι × Instant)}
    {now : Instant} (hfirst : Config.events i before = [])
    (hm : Marked jwt token ((present jwt token requests b).run before).shared) (grant : Grant) :
    ((present jwt token requests b).run (before ++ (i, now) :: after)).party i ≠ .ret grant := by
  set c := (present jwt token requests b).run before with hc
  have hprog := progress_run requests hb before
  obtain ⟨-, hfound, -⟩ := check_useUp (requests i) hprog.lasting now
  have hparty : c.party i = ((requests i).useUp jwt token).program :=
    Config.party_run_of_events_nil _ hfirst
  obtain ⟨e, he⟩ := hfound hm
  rw [Config.run_append, ← hc, Config.run_cons, Config.party_run, Config.party_move_self, hparty,
    UseUp.program_after, he, Steps.ofExcept_error, Steps.bind_fail, Steps.follow_fail]
  simp

/-- Only a request that would be served if the token were not used is. -/
lemma served_of_ret (hb : Lasting jwt token b) {grant : Grant}
    (h : ((present jwt token requests b).run sched).party i = .ret grant) :
    Served jwt token requests sched i := by
  have hst := (progress_run requests hb sched).stage i
  rw [h] at hst
  exact hst.serves_of_ret

/-- A request that is served has looked the id up. -/
lemma Served.first_turn (h : Served jwt token requests sched i) :
    ∃ before now after, sched = before ++ (i, now) :: after ∧ Config.events i before = [] := by
  have hhad : Config.events i sched ≠ [] := by
    intro hnil
    rw [Served, hnil] at h
    cases h
  obtain ⟨now, rest, hevents⟩ := List.exists_cons_of_ne_nil hhad
  obtain ⟨before, after, hsched, hfirst, -⟩ := Config.exists_first_turn hevents
  exact ⟨before, now, after, hsched, hfirst⟩

/-- A request that would have been served if the token were not used leaves the id on the list. -/
lemma marked_of_served (hb : Lasting jwt token b) (h : Served jwt token requests sched i) :
    Marked jwt token ((present jwt token requests b).run sched).shared := by
  have hprog := progress_run requests hb sched
  obtain ⟨before, now, after, rfl, hfirst⟩ := h.first_turn
  by_cases hm : Marked jwt token ((present jwt token requests b).run before).shared
  · exact marked_run hb hm _
  · obtain ⟨grant, hret⟩ := served_of_not_marked hb h hfirst hm
    exact hprog.granted i grant hret

/-- On an orderly schedule, who looks the id up after another request that will be served is not. -/
lemma Orderly.not_served (h : Orderly jwt token requests sched) (hb : Lasting jwt token b)
    (hi : Served jwt token requests sched i) {before after : List (ι × Instant)} {now : Instant}
    (hsched : sched = before ++ (j, now) :: after) (hfirst : Config.events j before = [])
    (hhad : Config.events i before ≠ []) (grant : Grant) :
    ((present jwt token requests b).run sched).party j ≠ .ret grant := by
  intro hret
  have hj := served_of_ret hb hret
  obtain ⟨k, hk⟩ := h before (j, now) after hsched hj hfirst ⟨i, hi, hhad⟩
  rw [hsched] at hret
  exact not_served_of_marked hb hfirst (marked_of_served hb hk) grant hret

/-- Among any requests that present one token, on any schedule, at most one is served if and only if
the token was used before, or the schedule is orderly. -/
theorem usedOnce_iff (hb : Lasting jwt token b) :
    (∀ i j gi gj, ((present jwt token requests b).run sched).party i = .ret gi →
        ((present jwt token requests b).run sched).party j = .ret gj → i = j) ↔
      Marked jwt token b ∨ Orderly jwt token requests sched := by
  constructor
  · intro honce
    by_contra hno
    obtain ⟨hunused, hraced⟩ := not_or.mp hno
    apply hraced
    rintro before ⟨j, now⟩ after rfl hj hfirst ⟨i, hi, hhad⟩
    by_contra hnobody
    -- nobody has put the id on the list by the time `j` looks it up
    have hm : ¬ Marked jwt token ((present jwt token requests b).run before).shared := fun hm =>
      ((progress_run requests hb before).marked hm).elim hunused hnobody
    obtain ⟨gj, hretj⟩ := served_of_not_marked hb hj hfirst hm
    obtain ⟨t, rest, hevents⟩ := List.exists_cons_of_ne_nil hhad
    obtain ⟨early, late, rfl, hearly, -⟩ := Config.exists_first_turn hevents
    have hmi : ¬ Marked jwt token ((present jwt token requests b).run early).shared := fun h =>
      hm (marked_run hb h _)
    rw [List.append_assoc, List.cons_append] at hi
    obtain ⟨gi, hreti⟩ := served_of_not_marked hb hi hearly hmi
    rw [List.append_assoc, List.cons_append] at honce hretj
    have hij := honce i j gi gj hreti hretj
    subst hij
    exact hhad hfirst
  · rintro (hused | horderly) i j gi gj hreti hretj
    · have hi := served_of_ret hb hreti
      obtain ⟨before, now, after, rfl, hfirst⟩ := hi.first_turn
      have hstart : Marked jwt token ((present jwt token requests b).run []).shared := hused
      exact absurd hreti
        (not_served_of_marked hb hfirst (marked_run hb hstart before) gi)
    · have hi := served_of_ret hb hreti
      have hj := served_of_ret hb hretj
      obtain ⟨before, t, after, hsched, hfirst⟩ := hi.first_turn
      obtain ⟨before', t', after', hsched', hfirst'⟩ := hj.first_turn
      by_contra hne
      -- one of the two looks the id up first
      rcases List.append_eq_append_iff.mp (hsched.symm.trans hsched') with
        ⟨mid, hmid, hrest⟩ | ⟨mid, hmid, hrest⟩
      · cases mid with
        | nil => exact hne (congrArg Prod.fst (List.cons.inj hrest).1)
        | cons m mid =>
          refine horderly.not_served hb hi hsched' hfirst' ?_ gj hretj
          rw [hmid, ← (List.cons.inj hrest).1, Config.events_append, Config.events_cons_self]
          simp
      · cases mid with
        | nil => exact hne (congrArg Prod.fst (List.cons.inj hrest).1).symm
        | cons m mid =>
          refine horderly.not_served hb hj hsched hfirst ?_ gi hreti
          rw [hmid, ← (List.cons.inj hrest).1, Config.events_append, Config.events_cons_self]
          simp

end requests

/-- A confirmation token for the action "export" and a refresh token, both valid for a minute. -/
def someClaims : List (String × RawClaims) :=
  [("confirm", { sub := 1, tid := some 2, purpose := some "confirmation", action := some "export"
                 jti := ⟨"c0", by decide⟩, iat := 0, exp := 60 }),
   ("refresh", { sub := 1, tid := some 2, role := some "OWNER", typ := some "refresh"
                 jti := ⟨"a9", by decide⟩, iat := 0, exp := 60 })]

def someJwt : Jwt where
  decode token now :=
    match someClaims.lookup token with
    | none => .error .other
    | some raw => if atSecond raw.exp ≤ now then .error .expired else .ok raw
  same := by
    intro token now now' raw raw' h h'
    cases hl : someClaims.lookup token with
    | none => simp [hl] at h
    | some claims =>
      simp only [hl] at h h'
      split at h
      · cases h
      split at h'
      · cases h'
      cases h
      cases h'
      rfl
  unexpired := by
    intro token now raw h
    cases hl : someClaims.lookup token with
    | none => simp [hl] at h
    | some claims =>
      simp only [hl] at h
      split at h
      · cases h
      · rename_i hlive
        cases h
        exact not_le.mp hlive

/-- Both requests look the id up before one of them goes on. -/
def raceSchedule : List (Bool × Instant) :=
  [(false, 1), (true, 2), (false, 3), (false, 4), (true, 5), (true, 6)]

def confirmTwice : Bool → TokenRequest := fun _ => .confirm "export" 1 2

theorem usedOnce_iff_raceSchedule : ¬ Orderly someJwt "confirm" confirmTwice raceSchedule := by
  intro horderly
  have hb : Lasting someJwt "confirm" fun _ => none := fun _ _ _ _ h => by cases h
  have honce := (usedOnce_iff hb).mpr (.inr horderly)
  exact absurd (honce false true .confirmed .confirmed rfl rfl) (by decide)

def someAccount : Account := ⟨some { status := .active }, some ⟨.active, 2, "OWNER"⟩, some .active⟩

def refreshTwice : Bool → TokenRequest := fun _ => .refresh someAccount

/-- Both requests are served. -/
theorem not_usedOnce_raceSchedule :
    (∀ i, ((present someJwt "confirm" confirmTwice fun _ => none).run raceSchedule).party i =
      .ret .confirmed) ∧
    ∀ i, ((present someJwt "refresh" refreshTwice fun _ => none).run raceSchedule).party i =
      .ret (.tokenPair 1 2 "OWNER") := by
  refine ⟨fun i => ?_, fun i => ?_⟩
  · cases i <;> rfl
  · cases i <;> rfl

end CrossPilot.Auth
