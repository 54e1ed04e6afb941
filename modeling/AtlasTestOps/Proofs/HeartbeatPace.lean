import AtlasTestOps.Proofs.LeaseFencing

/-! A Worker that heartbeats when its handle tells it to. The interval comes from the ttl of the
lease and the new expiry from the ttl of the heartbeat, so the lease is kept as long as each
heartbeat asks for a ttl that outlasts the interval and does not end before the one it renews. -/

namespace Atlas.Proofs

open Atlas Atlas.Identity Atlas.Store Atlas.Service Txn

/-- What the Worker has: the platform after its last answer, the lease that it was answered and when. -/
structure Answered where
  db : LeaseDb
  lease : AccountLease
  answeredAt : Instant

/-- The lease of the Worker is the current one of its account. -/
structure Holds (leaseId : Uuid) (token : ℕ) (db : LeaseDb) (lease : AccountLease) : Prop where
  stored : db.getLease leaseId = some lease
  active : lease.status = .active
  fence : lease.fencingToken = token
  epoch : db.accountEpoch lease.accountId = some token

/-- The handle tells the Worker to come back in time. -/
structure InGoodTime (lease : AccountLease) (now : Instant) : Prop where
  within : lease.expiresAt ≤ lease.maxExpiresAt
  lasts : lease.expiresAt < lease.maxExpiresAt → 1 ≤ lease.toHandle.heartbeatAfterSeconds ∧
    now + seconds lease.toHandle.heartbeatAfterSeconds < lease.expiresAt

/-- Other clients have left the lease and the epoch of its account alone. -/
structure Undisturbed (leaseId : Uuid) (lease : AccountLease) (db db' : LeaseDb) : Prop where
  row : db'.getLease leaseId = db.getLease leaseId
  epoch : db'.accountEpoch lease.accountId = db.accountEpoch lease.accountId

def AdmittedTtl (ttlSeconds : Option ℕ) : Prop := ∀ t, ttlSeconds = some t → 300 ≤ t ∧ t ≤ 7200

section Pace

variable {actor : ActorContext} {leaseId : Uuid} {token : ℕ} {ttlSeconds : Option ℕ}
  {v v' : Answered} {lease : AccountLease} {db db' : LeaseDb} {now : Instant}

/-- A heartbeat sent when the handle told, and before the lease reaches its absolute end. -/
structure Beat (actor : ActorContext) (leaseId : Uuid) (token : ℕ) (ttlSeconds : Option ℕ) (v v' : Answered) :
    Prop where
  admitted : AdmittedTtl ttlSeconds
  told : v'.answeredAt = v.answeredAt + seconds v.lease.toHandle.heartbeatAfterSeconds
  inTime : v'.answeredAt < v.lease.maxExpiresAt
  sent : ∃ db kind, Undisturbed leaseId v.lease v.db db ∧
    Commits (heartbeatLease actor leaseId ⟨token, ttlSeconds⟩ v'.answeredAt) db ⟨kind, some v'.lease⟩ v'.db

/-- The heartbeat does not shorten the lease, and its ttl outlasts the interval or reaches the end. -/
structure KeepsPace (lease : AccountLease) (ttlSeconds : Option ℕ) (now : Instant) : Prop where
  notShorter : lease.expiresAt ≤ now + seconds (ttlSeconds.getD lease.ttlSeconds)
  outlasts : lease.maxExpiresAt ≤ now + seconds (ttlSeconds.getD lease.ttlSeconds) ∨
    lease.toHandle.heartbeatAfterSeconds < ttlSeconds.getD lease.ttlSeconds

/-- The heartbeats of a Worker, each of which keeps pace. -/
def PacedRun (actor : ActorContext) (leaseId : Uuid) (token : ℕ) : Answered → Answered → Prop :=
  Relation.ReflTransGen fun v v' => ∃ ttlSeconds, Beat actor leaseId token ttlSeconds v v' ∧
    KeepsPace v.lease ttlSeconds v'.answeredAt

theorem one_le_interval (lease : AccountLease) : 1 ≤ lease.toHandle.heartbeatAfterSeconds :=
  (show 1 ≤ 60 by decide).trans (le_max_left _ _)

theorem interval_lt {t : ℕ} (h : 300 ≤ t) : max 60 (t / 3) < t := by omega

theorem seconds_lt {m n : ℕ} (h : m < n) : seconds m < seconds n :=
  Nat.mul_lt_mul_of_pos_right h (by decide)

/-- A lease that is told in good time is not lapsed when it is renewed. -/
theorem InGoodTime.live (h : InGoodTime lease now) {next : Instant}
    (htold : next = now + seconds lease.toHandle.heartbeatAfterSeconds) (hend : next < lease.maxExpiresAt) :
    leaseIsExpired lease next = false := by
  have hexpires : next < lease.expiresAt := by
    rcases Nat.lt_or_ge lease.expiresAt lease.maxExpiresAt with hlt | hge
    · rw [htold]
      exact (h.lasts hlt).2
    · exact hend.trans_le hge
  simp [leaseIsExpired, Nat.not_le.2 hexpires, Nat.not_le.2 hend]

/-- The renewed lease of a heartbeat. -/
def renewed (lease : AccountLease) (ttlSeconds : Option ℕ) (now : Instant) : AccountLease :=
  extendLease now (min (now + seconds (ttlSeconds.getD lease.ttlSeconds)) lease.maxExpiresAt) lease

/-- A heartbeat on a current lease that has not lapsed is accepted. -/
theorem heartbeat_updates (hheld : Holds leaseId token db lease) (hlive : leaseIsExpired lease now = false)
    (hend : now < lease.maxExpiresAt) (httl : 0 < ttlSeconds.getD lease.ttlSeconds)
    {result : LeaseMutationResult} :
    Commits (heartbeat leaseId ⟨token, ttlSeconds⟩ now) db result db' ↔
      result = ⟨.updated, some (renewed lease ttlSeconds now)⟩ ∧
        db' = db.modifyActiveLease leaseId (extendLease now
          (min (now + seconds (ttlSeconds.getD lease.ttlSeconds)) lease.maxExpiresAt)) := by
  have hid : lease.id = leaseId := by simpa using List.find?_some hheld.stored
  have hlater : ¬ min (now + seconds (ttlSeconds.getD lease.ttlSeconds)) lease.maxExpiresAt ≤ now := by
    have hpos := seconds_lt httl
    rw [Nat.not_le, lt_min_iff]
    exact ⟨Nat.lt_add_of_pos_right ((Nat.zero_le _).trans_lt hpos), hend⟩
  have hfence : (leaseFenceMatches lease token token) = true := by simp [leaseFenceMatches, hheld.fence]
  unfold heartbeat withCurrentLease
  rw [commits_read_bind]
  simp only [hheld.stored]
  rw [if_neg (by simp [hheld.fence]), if_neg (by simp [hheld.active]), if_neg (by simp [hlive]),
    commits_read_bind]
  simp only [hheld.epoch, Option.any_some, hfence, Bool.not_true, Bool.false_eq_true, if_false]
  rw [if_neg hlater]
  simp only [commits_bind, commits_update, commits_pure, hid, renewed]
  constructor
  · rintro ⟨_, _, rfl, rfl, rfl⟩
    exact ⟨rfl, rfl⟩
  · rintro ⟨rfl, rfl⟩
    exact ⟨(), _, rfl, rfl, rfl⟩

theorem Holds.undisturbed (hheld : Holds leaseId token db lease) (h : Undisturbed leaseId lease db db') :
    Holds leaseId token db' lease :=
  ⟨h.row.trans hheld.stored, hheld.active, hheld.fence, h.epoch.trans hheld.epoch⟩

/-- The row of a lease after an update of it. -/
theorem getLease_modifyActiveLease {f : AccountLease → AccountLease} (hf : ∀ l, (f l).id = l.id) (db : LeaseDb) :
    (db.modifyActiveLease leaseId f).getLease leaseId =
      (db.getLease leaseId).map fun l => if l.status = .active then f l else l := by
  simp only [LeaseDb.getLease, LeaseDb.modifyActiveLease]
  induction db.leases with
  | nil => rfl
  | cons l leases ih =>
    rw [List.map_cons]
    by_cases hid : l.id = leaseId
    · by_cases hactive : l.status = .active
      · simp [hid, hf, hactive]
      · simp [hid, hactive]
    · rw [if_neg fun h => hid h.1, List.find?_cons_of_neg (by simp [hid]), List.find?_cons_of_neg (by simp [hid]), ih]

/-- The renewed lease is stored and still the current one. -/
theorem Holds.renewed (hheld : Holds leaseId token db lease) :
    Holds leaseId token (db.modifyActiveLease leaseId (extendLease now
      (min (now + seconds (ttlSeconds.getD lease.ttlSeconds)) lease.maxExpiresAt)))
      (renewed lease ttlSeconds now) where
  stored := by
    rw [getLease_modifyActiveLease (by exact fun l => rfl), hheld.stored, Option.map_some, if_pos hheld.active]
    rfl
  active := hheld.active
  fence := hheld.fence
  epoch := hheld.epoch

theorem commits_heartbeatLease (haccess : actor.canOperateProject lease.projectId = true)
    (hstored : db.getLease leaseId = some lease) {command : HeartbeatAccountLease} {result : LeaseMutationResult} :
    Commits (heartbeatLease actor leaseId command now) db result db' ↔
      (result.kind ≠ .fenced ∧ result.kind ≠ .terminal ∧ result.kind ≠ .notFound) ∧
        Commits (heartbeat leaseId command now) db result db' := by
  simp only [heartbeatLease, requireLeaseAccess, commits_bind, commits_read, commits_demand, commits_raiseIf,
    commits_pure, hstored]
  constructor
  · rintro ⟨_, _, ⟨_, _, ⟨rfl, rfl⟩, _, _, ⟨hlease, rfl⟩, -, rfl⟩, outcome, m, hbeat, _, _, ⟨hkind, rfl⟩, _, _,
      ⟨hfound, rfl⟩, rfl, rfl⟩
    exact ⟨⟨fun h => hkind (Or.inl h), fun h => hkind (Or.inr h), hfound⟩, hbeat⟩
  · rintro ⟨⟨hfenced, hterminal, hfound⟩, hbeat⟩
    exact ⟨(), db, ⟨some lease, db, ⟨rfl, rfl⟩, lease, db, ⟨rfl, rfl⟩, by simp [haccess], rfl⟩, result, db', hbeat,
      (), db', ⟨by simp [hfenced, hterminal], rfl⟩, (), db', ⟨hfound, rfl⟩, rfl, rfl⟩

/-- What the Worker has, and that its handle tells it in good time. -/
structure Paced (actor : ActorContext) (leaseId : Uuid) (token : ℕ) (v : Answered) : Prop where
  access : actor.canOperateProject v.lease.projectId = true
  held : Holds leaseId token v.db v.lease
  time : InGoodTime v.lease v.answeredAt
  ttl : 300 ≤ v.lease.ttlSeconds

theorem getD_pos (hadmitted : AdmittedTtl ttlSeconds) (httl : 300 ≤ lease.ttlSeconds) :
    0 < ttlSeconds.getD lease.ttlSeconds := by
  cases ttlSeconds with
  | none => exact (show 0 < 300 by decide).trans_le httl
  | some t => exact (show 0 < 300 by decide).trans_le (hadmitted t rfl).1

/-- A heartbeat that is sent as told is accepted, and the lease is the renewed one. -/
theorem Paced.accepted (h : Paced actor leaseId token v) (hadmitted : AdmittedTtl ttlSeconds)
    (hundisturbed : Undisturbed leaseId v.lease v.db db)
    (htold : now = v.answeredAt + seconds v.lease.toHandle.heartbeatAfterSeconds)
    (hend : now < v.lease.maxExpiresAt) {result : LeaseMutationResult} :
    Commits (heartbeatLease actor leaseId ⟨token, ttlSeconds⟩ now) db result db' ↔
      result = ⟨.updated, some (renewed v.lease ttlSeconds now)⟩ ∧
        db' = db.modifyActiveLease leaseId (extendLease now
          (min (now + seconds (ttlSeconds.getD v.lease.ttlSeconds)) v.lease.maxExpiresAt)) := by
  have hheld := h.held.undisturbed hundisturbed
  rw [commits_heartbeatLease h.access hheld.stored,
    heartbeat_updates hheld (h.time.live htold hend) hend (getD_pos hadmitted h.ttl)]
  constructor
  · rintro ⟨-, hresult⟩
    exact hresult
  · rintro ⟨rfl, hdb⟩
    exact ⟨⟨by simp, by simp, by simp⟩, rfl, hdb⟩

/-- An expiry that is a ttl from now, clipped at the absolute end, is told in good time. -/
theorem inGoodTime_of_clipped {t : ℕ} (hclip : lease.expiresAt = min (now + seconds t) lease.maxExpiresAt)
    (houtlasts : lease.maxExpiresAt ≤ now + seconds t ∨ lease.toHandle.heartbeatAfterSeconds < t) :
    InGoodTime lease now where
  within := hclip ▸ min_le_right _ _
  lasts := by
    intro hbefore
    refine ⟨one_le_interval _, ?_⟩
    have hunclipped : now + seconds t < lease.maxExpiresAt := by
      by_contra hge
      rw [hclip, min_eq_right (Nat.le_of_not_lt hge)] at hbefore
      exact absurd hbefore (Nat.lt_irrefl _)
    rw [hclip, min_eq_left hunclipped.le]
    exact Nat.add_lt_add_left (seconds_lt (houtlasts.resolve_left (Nat.not_le.2 hunclipped))) now

/-- What one heartbeat that keeps pace preserves. -/
theorem Paced.beat (h : Paced actor leaseId token v) (hbeat : Beat actor leaseId token ttlSeconds v v')
    (hpace : KeepsPace v.lease ttlSeconds v'.answeredAt) :
    Paced actor leaseId token v' ∧ v.lease.expiresAt ≤ v'.lease.expiresAt ∧
      v'.lease.maxExpiresAt = v.lease.maxExpiresAt := by
  obtain ⟨db, kind, hundisturbed, hsent⟩ := hbeat.sent
  obtain ⟨hresult, hdb⟩ := (h.accepted hbeat.admitted hundisturbed hbeat.told hbeat.inTime).1 hsent
  obtain ⟨-, hlease⟩ := LeaseMutationResult.mk.inj hresult
  have hlease := Option.some.inj hlease
  refine ⟨⟨?_, ?_, ?_, ?_⟩, ?_, ?_⟩
  · rw [hlease]
    exact h.access
  · rw [hlease, hdb]
    exact (h.held.undisturbed hundisturbed).renewed
  · rw [hlease]
    exact inGoodTime_of_clipped rfl hpace.outlasts
  · rw [hlease]
    exact h.ttl
  · rw [hlease]
    exact le_min hpace.notShorter h.time.within
  · rw [hlease]
    rfl

theorem Paced.run (h : Paced actor leaseId token v) (hrun : PacedRun actor leaseId token v v') :
    Paced actor leaseId token v' ∧ v.lease.expiresAt ≤ v'.lease.expiresAt := by
  induction hrun with
  | refl => exact ⟨h, le_rfl⟩
  | tail _ hbeat ih =>
    obtain ⟨ttlSeconds, hbeat, hpace⟩ := hbeat
    obtain ⟨hpaced, hlater, -⟩ := ih.1.beat hbeat hpace
    exact ⟨hpaced, ih.2.trans hlater⟩

theorem mem_candidate_pools {command : AcquireAccountLease} {role : TestRole} {slot : AccountSlot}
    {account : TestAccount} {pool : AccountPool} (h : (slot, account, pool) ∈ db.candidates command role now) :
    pool ∈ db.pools := by
  unfold LeaseDb.candidates at h
  rw [(List.perm_insertionSort _ _).mem_iff, List.mem_filter] at h
  obtain ⟨s, -, h⟩ := List.mem_flatMap.mp h.1
  obtain ⟨a, -, h⟩ := List.mem_flatMap.mp h
  obtain ⟨p, hp, h⟩ := List.mem_map.mp h
  simp only [Prod.mk.injEq] at h
  exact h.2.2 ▸ hp

/-- A lease that has just been acquired is told in good time. -/
theorem acquired_paced {role : TestRole} {command : AcquireAccountLease} {accountHandle : String}
    (hids : (db.accounts.map TestAccount.id).Nodup) (hpools : ∀ p ∈ db.pools, 300 ≤ p.defaultTtlSeconds)
    (hadmitted : AdmittedTtl command.ttlSeconds) (hfresh : leaseId ∉ db.leases.map AccountLease.id)
    (haccess : actor.canOperateProject role.projectId = true)
    (h : Commits (acquire leaseId accountHandle role command now) db (some lease) db') :
    Paced actor leaseId lease.fencingToken ⟨db', lease, now⟩ := by
  unfold Store.acquire at h
  rw [commits_read_bind, commits_read_bind] at h
  cases hc : db.candidates command role now with
  | nil => simp [hc] at h
  | cons row rows =>
    obtain ⟨slot, account, pool⟩ := row
    have hrow : (slot, account, pool) ∈ db.candidates command role now := hc ▸ List.mem_cons_self
    have haccount := mem_candidates hrow
    have hpool := mem_candidate_pools hrow
    simp only [hc, commits_ite, commits_bind, commits_read, commits_update, commits_raiseIf, commits_pure,
      existsAndEq, true_and, Option.some.injEq, reduceCtorEq, false_and, and_false, false_or] at h
    obtain ⟨-, -, -, -, -, _, rfl, rfl⟩ := h
    have httl : 300 ≤ command.ttlSeconds.getD pool.defaultTtlSeconds := by
      cases httl : command.ttlSeconds with
      | none => exact hpools pool hpool
      | some t => exact (hadmitted t httl).1
    refine ⟨haccess, ⟨?_, rfl, rfl, ?_⟩, inGoodTime_of_clipped rfl (Or.inr ?_), httl⟩
    · have hnone : db.leases.find? (fun l => l.id = leaseId) = none := by
        refine List.find?_eq_none.2 fun l hl hid => hfresh ?_
        exact List.mem_map.2 ⟨l, hl, by simpa using hid⟩
      simp [LeaseDb.getLease, List.find?_append, hnone]
    · have hfound := Table.find?_of_mem hids haccount
      simp only [LeaseDb.accountEpoch, LeaseDb.getAccount]
      rw [Table.find?_modify (by exact fun a => rfl), hfound]
      rfl
    · exact interval_lt httl

end Pace

/-- A Worker that acquires a lease and heartbeats when it is told keeps the lease up to its absolute end, in every
run whose heartbeats keep pace: every next heartbeat is accepted, each handle tells the Worker to come back before
the lease runs out, and the expiry never moves back or beyond the end. -/
theorem heartbeats_as_told_keep_lease {actor : ActorContext} {db : LeaseDb} {v v' : Answered} {leaseId : Uuid}
    {accountHandle : String} {role : TestRole} {command : AcquireAccountLease}
    (hids : (db.accounts.map TestAccount.id).Nodup) (hpools : ∀ p ∈ db.pools, 300 ≤ p.defaultTtlSeconds)
    (hadmitted : AdmittedTtl command.ttlSeconds) (hfresh : leaseId ∉ db.leases.map AccountLease.id)
    (haccess : actor.canOperateProject role.projectId = true)
    (hacquired : Commits (acquire leaseId accountHandle role command v.answeredAt) db (some v.lease) v.db)
    (hrun : PacedRun actor leaseId v.lease.fencingToken v v') :
    (∀ ttlSeconds, AdmittedTtl ttlSeconds → ∀ db, Undisturbed leaseId v'.lease v'.db db → ∀ now,
      now = v'.answeredAt + seconds v'.lease.toHandle.heartbeatAfterSeconds → now < v'.lease.maxExpiresAt →
        ∃ lease' db', Commits (heartbeatLease actor leaseId ⟨v.lease.fencingToken, ttlSeconds⟩ now) db
          ⟨.updated, some lease'⟩ db') ∧
    (v'.lease.expiresAt < v'.lease.maxExpiresAt → 1 ≤ v'.lease.toHandle.heartbeatAfterSeconds ∧
      v'.answeredAt + seconds v'.lease.toHandle.heartbeatAfterSeconds < v'.lease.expiresAt) ∧
    v'.lease.expiresAt ≤ v'.lease.maxExpiresAt ∧ v.lease.expiresAt ≤ v'.lease.expiresAt ∧
    ∀ w, PacedRun actor leaseId v.lease.fencingToken v' w → v'.lease.expiresAt ≤ w.lease.expiresAt := by
  have hstart := acquired_paced hids hpools hadmitted hfresh haccess hacquired
  obtain ⟨hpaced, hlater⟩ := hstart.run hrun
  refine ⟨?_, hpaced.time.lasts, hpaced.time.within, hlater, fun w hw => (hpaced.run hw).2⟩
  intro ttlSeconds httl db' hundisturbed now htold hend
  exact ⟨_, _, (hpaced.accepted httl hundisturbed htold hend).2 ⟨rfl, rfl⟩⟩

/-- A lease of two hours, heartbeats of which are to come every forty minutes. -/
def acquireLong : AcquireAccountLease :=
  ⟨"execution", "w1", 20, "buyer", ⟨[], [], []⟩, some 7200, seconds 86400⟩

def longPool : LeaseDb :=
  { twoSlots with pools := [⟨40, 30, 20, .active, true, 600, 0⟩] }

def longLease : AccountLease where
  id := 100
  projectId := 10
  environmentId := 20
  poolId := 40
  accountId := 60
  slotId := 70
  executionId := "execution"
  workerId := "w1"
  accountHandle := "ah_1"
  fencingToken := 1
  ttlSeconds := 7200
  status := .active
  acquiredAt := 0
  heartbeatAt := 0
  expiresAt := seconds 7200
  maxExpiresAt := seconds 86400
  releasedAt := none
  releaseReason := none
  revision := 1

def longAcquired : Answered :=
  ⟨after (acquire 100 "ah_1" ⟨30, 10, "buyer", [], .active⟩ acquireLong 0) longPool, longLease, 0⟩

def beaten (ttlSeconds : Option ℕ) : Answered :=
  ⟨after (heartbeatLease operator 100 ⟨1, ttlSeconds⟩ (seconds 2400)) longAcquired.db,
    renewed longLease ttlSeconds (seconds 2400), seconds 2400⟩

theorem longAcquired_commits : Commits (acquire 100 "ah_1" ⟨30, 10, "buyer", [], .active⟩ acquireLong 0) longPool
    (some longLease) longAcquired.db := by
  unfold Commits
  decide +kernel

theorem undisturbed_refl (leaseId : Uuid) (lease : AccountLease) (db : LeaseDb) : Undisturbed leaseId lease db db :=
  ⟨rfl, rfl⟩

/-- After a heartbeat with the ttl of the lease the next one is accepted as well. -/
theorem steady_heartbeats_accepted : ∃ lease' db', Commits (heartbeatLease operator 100 ⟨1, some 300⟩ (seconds 4800))
    (beaten none).db ⟨.updated, some lease'⟩ db' := by
  have hbeat : Beat operator 100 1 none longAcquired (beaten none) :=
    ⟨fun _ h => absurd h (by simp), rfl, by decide, _, .updated, undisturbed_refl _ _ _, rfl⟩
  have hpace : KeepsPace longLease none (seconds 2400) := ⟨by decide, Or.inr (by decide)⟩
  have hrun : PacedRun operator 100 1 longAcquired (beaten none) := .single ⟨none, hbeat, hpace⟩
  have hkeeps := @heartbeats_as_told_keep_lease operator longPool longAcquired (beaten none) 100 "ah_1"
    ⟨30, 10, "buyer", [], .active⟩ acquireLong (by decide) (by decide) (fun t h => by cases h; decide) (by decide)
    (by decide) longAcquired_commits hrun
  exact hkeeps.1 (some 300) (fun t h => by cases h; decide) _ (undisturbed_refl _ _ _) _ rfl (by decide)

/-- A heartbeat that asks for five minutes is accepted and moves the expiry back; the Worker is told to come back in
forty minutes and finds the lease expired. -/
theorem short_heartbeat_loses_lease : Beat operator 100 1 (some 300) longAcquired (beaten (some 300)) ∧
    (beaten (some 300)).lease.expiresAt < longAcquired.lease.expiresAt ∧
    (beaten (some 300)).lease.expiresAt < (beaten (some 300)).lease.maxExpiresAt ∧
    ¬ (beaten (some 300)).answeredAt + seconds (beaten (some 300)).lease.toHandle.heartbeatAfterSeconds <
      (beaten (some 300)).lease.expiresAt ∧
    ∃ lease' db', Commits (heartbeatLease operator 100 ⟨1, none⟩ (seconds 4800)) (beaten (some 300)).db
      ⟨.expired, some lease'⟩ db' := by
  have hexpired : Commits (heartbeatLease operator 100 ⟨1, none⟩ (seconds 4800)) (beaten (some 300)).db
      ⟨.expired, some (endLease .expired .ttlExpired (seconds 4800) (beaten (some 300)).lease)⟩
      (after (heartbeatLease operator 100 ⟨1, none⟩ (seconds 4800)) (beaten (some 300)).db) := by
    rfl
  have hbeat : Beat operator 100 1 (some 300) longAcquired (beaten (some 300)) :=
    ⟨fun t h => by cases h; decide, rfl, by decide, _, .updated, undisturbed_refl _ _ _, rfl⟩
  have hback : (beaten (some 300)).lease.expiresAt < longAcquired.lease.expiresAt := by decide
  have hend : (beaten (some 300)).lease.expiresAt < (beaten (some 300)).lease.maxExpiresAt := by decide
  have hlate : ¬ (beaten (some 300)).answeredAt + seconds (beaten (some 300)).lease.toHandle.heartbeatAfterSeconds <
      (beaten (some 300)).lease.expiresAt := by decide
  exact ⟨hbeat, hback, hend, hlate, _, _, hexpired⟩

end Atlas.Proofs
