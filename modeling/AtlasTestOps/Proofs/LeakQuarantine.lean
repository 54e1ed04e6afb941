import AtlasTestOps.Proofs.LeaseFencing
import AtlasTestOps.Store.Fixtures

/-! What the end of a leaking FixtureRun does to the accounts bound to it. The quarantine
rides on the release of the lease, so it reaches an account only through a lease that is
still ACTIVE and has not run out. -/

namespace Atlas.Proofs

open Atlas Atlas.Identity Atlas.Fixture Atlas.Store Atlas.Service Txn

def Quarantined (account : TestAccount) : Prop :=
  account.healthStatus = .quarantined ∨ account.operationalStatus = .cleanupFailed

instance : DecidablePred Quarantined := fun _ => inferInstanceAs (Decidable (_ ∨ _))

/-- A quarantined account stands behind no slot that can be acquired. -/
theorem quarantined_not_candidate {db : LeaseDb} {command : AcquireAccountLease} {role : TestRole}
    {now : Instant} {slot : AccountSlot} {account : TestAccount} {pool : AccountPool}
    (h : Quarantined account) : (slot, account, pool) ∉ db.candidates command role now := by
  intro hmem
  unfold LeaseDb.candidates at hmem
  rw [(List.perm_insertionSort _ _).mem_iff, List.mem_filter] at hmem
  have heligible := hmem.2
  simp only [LeaseDb.eligible, Bool.and_eq_true, decide_eq_true_eq] at heligible
  rcases h with h | h <;> simp [h] at heligible

/-- The binding names a lease of the account, with the epoch the account is at. -/
structure Binds (leases : List AccountLease) (binding : FixtureActorBinding) (lease : AccountLease)
    (account : TestAccount) : Prop where
  mem : lease ∈ leases
  id : lease.id = binding.accountLeaseId
  accountId : lease.accountId = account.id
  epoch : account.leaseEpoch = binding.fencingToken

/-- The bindings of a run as they are written: each names a lease and its token, and no two
name one lease. -/
structure BindingsHold (db : FixtureDb) (runId : Uuid) : Prop where
  lease : ∀ b ∈ db.bindingsOf runId, ∃ l ∈ db.leaseDb.leases, l.id = b.accountLeaseId ∧
    l.fencingToken = b.fencingToken
  distinct : ((db.bindingsOf runId).map FixtureActorBinding.accountLeaseId).Nodup

/-- Every bound account still at the epoch of its binding is quarantined, so that no slot of it can
be acquired, and every account that has moved on is as it was. -/
structure LeakQuarantines (db db' : FixtureDb) (runId : Uuid) : Prop where
  quarantined : ∀ b ∈ db.bindingsOf runId, ∀ l a, a ∈ db.leaseDb.accounts →
    Binds db.leaseDb.leases b l a → ∃ a' ∈ db'.leaseDb.accounts, a'.id = a.id ∧ Quarantined a' ∧
      ∀ command role now slot pool, (slot, a', pool) ∉ db'.leaseDb.candidates command role now
  kept : ∀ a ∈ db.leaseDb.accounts,
    (∀ b ∈ db.bindingsOf runId, ∀ l, ¬ Binds db.leaseDb.leases b l a) → a ∈ db'.leaseDb.accounts

/-- A bound lease is ACTIVE and has not run out, or it has ended and left its account
quarantined. -/
def LeasesStillHeld (db : FixtureDb) (runId : Uuid) (now : Instant) : Prop :=
  ∀ b ∈ db.bindingsOf runId, ∀ l a, a ∈ db.leaseDb.accounts → Binds db.leaseDb.leases b l a →
    (l.status = .active ∧ leaseIsExpired l now = false) ∨ (l.status ≠ .active ∧ Quarantined a)

/-! ### One release -/

theorem getLease_of_mem {db : LeaseDb} (hi : LeaseInv db) {l : AccountLease} (hl : l ∈ db.leases) :
    db.getLease l.id = some l :=
  Table.find?_of_mem hi.leaseIds hl

theorem accountEpoch_of_mem {db : LeaseDb} (hi : LeaseInv db) {a : TestAccount}
    (ha : a ∈ db.accounts) : db.accountEpoch a.id = some a.leaseEpoch := by
  unfold LeaseDb.accountEpoch LeaseDb.getAccount
  rw [Table.find?_of_mem hi.accountIds ha, Option.map_some]

theorem mem_modifyAccountAt {db : LeaseDb} {a : TestAccount} (ha : a ∈ db.accounts)
    (f : TestAccount → TestAccount) :
    f a ∈ (db.modifyAccountAt a.id a.leaseEpoch f).accounts := by
  unfold LeaseDb.modifyAccountAt
  exact List.mem_map.mpr ⟨a, ha, if_pos ⟨rfl, rfl⟩⟩

theorem mem_modifyAccountAt_of_ne {db : LeaseDb} {a : TestAccount} (ha : a ∈ db.accounts)
    {id : Uuid} {epoch : ℕ} (hne : ¬ (a.id = id ∧ a.leaseEpoch = epoch))
    (f : TestAccount → TestAccount) : a ∈ (db.modifyAccountAt id epoch f).accounts := by
  unfold LeaseDb.modifyAccountAt
  exact List.mem_map.mpr ⟨a, ha, if_neg hne⟩

theorem mem_modifyActiveLease_of_ne {db : LeaseDb} {l : AccountLease} (hl : l ∈ db.leases)
    {id : Uuid} (hne : l.id ≠ id) (f : AccountLease → AccountLease) :
    l ∈ (db.modifyActiveLease id f).leases := by
  unfold LeaseDb.modifyActiveLease
  exact List.mem_map.mpr ⟨l, hl, if_neg fun h => hne h.1⟩

/-- A lease that has ended is left alone. -/
theorem release_of_ended {db db' : LeaseDb} {l : AccountLease} {command : ReleaseAccountLease}
    {now : Instant} {result : LeaseMutationResult} (hget : db.getLease l.id = some l)
    (hended : l.status ≠ .active) (h : Commits (release l.id command now) db result db') :
    db' = db := by
  rcases withCurrentLease_commits h with ⟨heq, -⟩ | ⟨m, hm, hid, hactive, -⟩ | ⟨m, hm, hid, hactive, -⟩
  · exact heq
  all_goals
    unfold release withCurrentLease at h
    rw [commits_read_bind, hget] at h
    simp only [commits_ite, commits_pure, hended, not_false_eq_true, ne_eq, not_true_eq_false,
      false_and, or_false, true_and] at h
    rcases h with ⟨-, -, heq⟩ | ⟨-, -, heq⟩ <;> exact heq

/-- An ACTIVE lease that has run out leaves its account to be verified. -/
theorem release_of_lapsed {db db' : LeaseDb} {l : AccountLease} {command : ReleaseAccountLease}
    {now : Instant} {result : LeaseMutationResult} (hget : db.getLease l.id = some l)
    (htoken : l.fencingToken = command.fencingToken) (hactive : l.status = .active)
    (hexpired : leaseIsExpired l now = true)
    (h : Commits (release l.id command now) db result db') :
    db'.accounts = (db.modifyAccountAt l.accountId l.fencingToken fun a =>
      { a with healthStatus := .degraded, operationalStatus := .verifying, cooldownUntil := none
               revision := a.revision + 1 }).accounts := by
  unfold release withCurrentLease at h
  rw [commits_read_bind, hget] at h
  simp only [htoken, hactive, hexpired, ne_eq, not_true_eq_false, if_false, if_true, expireLocked,
    markAccountForReverification, commits_bind, commits_update, commits_pure, existsAndEq,
    true_and] at h
  obtain ⟨-, -, -, rfl⟩ := h
  rfl

/-- A lease that is held quarantines its account when the reason is a failed cleanup. -/
theorem release_of_held {db db' : LeaseDb} {l : AccountLease} {token : ℕ}
    {now : Instant} {result : LeaseMutationResult} (hget : db.getLease l.id = some l)
    (htoken : l.fencingToken = token) (hactive : l.status = .active)
    (hlive : leaseIsExpired l now = false) (hepoch : db.accountEpoch l.accountId = some token)
    (h : Commits (release l.id ⟨token, .cleanupFailed⟩ now) db result db') :
    db'.accounts = (db.modifyAccountAt l.accountId l.fencingToken fun a =>
      { a with healthStatus := .quarantined, operationalStatus := .cleanupFailed
               cooldownUntil := none, revision := a.revision + 1 }).accounts := by
  unfold release withCurrentLease at h
  rw [commits_read_bind, hget] at h
  simp only [htoken, hactive, hlive, ne_eq, not_true_eq_false, Bool.false_eq_true, if_false] at h
  rw [commits_read_bind, hepoch] at h
  simp only [leaseFenceMatches, htoken, Option.any_some, decide_true, Bool.and_self, Bool.not_true,
    Bool.false_eq_true, if_false, if_true, applyReleaseAccountState, commits_bind, commits_update,
    commits_pure, existsAndEq, true_and] at h
  obtain ⟨-, -, -, rfl⟩ := h
  rfl

/-- An account is touched by the release of its own current lease only. -/
theorem release_keeps_account {db db' : LeaseDb} {leaseId : Uuid} {command : ReleaseAccountLease}
    {now : Instant} {result : LeaseMutationResult}
    (h : Commits (release leaseId command now) db result db') {a : TestAccount}
    (ha : a ∈ db.accounts)
    (hother : ∀ l ∈ db.leases, l.id = leaseId →
      ¬ (l.accountId = a.id ∧ a.leaseEpoch = command.fencingToken)) : a ∈ db'.accounts := by
  rcases withCurrentLease_commits h with ⟨rfl, -⟩ | hlapse | hheld
  · exact ha
  · obtain ⟨l, hl, hid, -, -, -, -, rfl⟩ := hlapse
    have hne : ¬ (a.id = l.accountId ∧ a.leaseEpoch = command.fencingToken) :=
      fun heq => hother l hl hid ⟨heq.1.symm, heq.2⟩
    exact @mem_modifyAccountAt_of_ne (db.modifyActiveLease leaseId _) a ha _ _ hne _
  · obtain ⟨l, hl, hid, -, htoken, -, -, huse⟩ := hheld
    have hne : ¬ (a.id = l.accountId ∧ a.leaseEpoch = l.fencingToken) :=
      fun heq => hother l hl hid ⟨heq.1.symm, heq.2.trans htoken⟩
    rw [commits_bind] at huse
    obtain ⟨_, m, hend, huse⟩ := huse
    rw [commits_update] at hend
    subst hend
    rw [commits_bind] at huse
    obtain ⟨_, m', happly, huse⟩ := huse
    obtain ⟨-, rfl⟩ := commits_pure.mp huse
    unfold applyReleaseAccountState at happly
    simp only [commits_ite, commits_bind, commits_read, commits_update] at happly
    rcases happly with ⟨-, rfl⟩ | ⟨-, pool, _, ⟨-, rfl⟩, ⟨-, rfl⟩ | ⟨-, rfl⟩⟩
    all_goals exact @mem_modifyAccountAt_of_ne (db.modifyActiveLease l.id _) a ha _ _ hne _

/-- Another lease is not touched. -/
theorem release_keeps_lease {db db' : LeaseDb} {leaseId : Uuid} {command : ReleaseAccountLease}
    {now : Instant} {result : LeaseMutationResult}
    (h : Commits (release leaseId command now) db result db') {l : AccountLease}
    (hl : l ∈ db.leases) (hne : l.id ≠ leaseId) : l ∈ db'.leases := by
  rcases withCurrentLease_commits h with ⟨rfl, -⟩ | hlapse | hheld
  · exact hl
  · obtain ⟨-, -, -, -, -, -, -, rfl⟩ := hlapse
    exact mem_modifyActiveLease_of_ne hl hne _
  · obtain ⟨m, -, hid, -, -, -, -, huse⟩ := hheld
    rw [commits_bind] at huse
    obtain ⟨_, m₁, hend, huse⟩ := huse
    rw [commits_update] at hend
    subst hend
    rw [commits_bind] at huse
    obtain ⟨_, m₂, happly, huse⟩ := huse
    obtain ⟨-, rfl⟩ := commits_pure.mp huse
    unfold applyReleaseAccountState at happly
    simp only [commits_ite, commits_bind, commits_read, commits_update] at happly
    rcases happly with ⟨-, rfl⟩ | ⟨-, pool, _, ⟨-, rfl⟩, ⟨-, rfl⟩ | ⟨-, rfl⟩⟩
    all_goals exact mem_modifyActiveLease_of_ne hl (hid ▸ hne) _

/-! ### All releases of a run -/

theorem kept_of_release {db db' : LeaseDb} {leaseId : Uuid} {command : ReleaseAccountLease}
    {now : Instant} {result : LeaseMutationResult}
    (h : Commits (release leaseId command now) db result db') : Kept db db' :=
  within_release _ _ _ _ _ _ h

theorem kept_of_releaseEach {reason : LeaseReleaseReason} {now : Instant} {db db' : LeaseDb}
    {bindings : List FixtureActorBinding}
    (h : Commits (releaseEach reason now bindings) db () db') : Kept db db' := by
  induction bindings generalizing db with
  | nil =>
    obtain ⟨-, rfl⟩ := commits_pure.mp h
    exact Kept.refl _
  | cons b bindings ih =>
    obtain ⟨result, m, hrelease, hrest⟩ := commits_bind.mp h
    exact (kept_of_release hrelease).trans (ih hrest)

theorem Binds.back {db db' : LeaseDb} (h : Kept db db') {b : FixtureActorBinding} {l' : AccountLease}
    {a : TestAccount} (hb : Binds db'.leases b l' a) : ∃ l, Binds db.leases b l a := by
  obtain ⟨l, hl, hmove⟩ := Table.exists_left_of_forall₂ h.leases hb.mem
  exact ⟨l, hl, hmove.id.symm.trans hb.id, hmove.accountId.symm.trans hb.accountId, hb.epoch⟩

theorem releaseEach_keeps_account {reason : LeaseReleaseReason} {now : Instant} {db db' : LeaseDb}
    {bindings : List FixtureActorBinding}
    (h : Commits (releaseEach reason now bindings) db () db') {a : TestAccount}
    (ha : a ∈ db.accounts) (hother : ∀ b ∈ bindings, ∀ l, ¬ Binds db.leases b l a) :
    a ∈ db'.accounts := by
  induction bindings generalizing db with
  | nil =>
    obtain ⟨-, rfl⟩ := commits_pure.mp h
    exact ha
  | cons b bindings ih =>
    obtain ⟨result, m, hrelease, hrest⟩ := commits_bind.mp h
    refine ih hrest (release_keeps_account hrelease ha ?_) ?_
    · intro l hl hid heq
      exact hother b (by simp) l ⟨hl, hid, heq.1, heq.2⟩
    · intro b' hb' l' hbinds
      obtain ⟨l, hl⟩ := hbinds.back (kept_of_release hrelease)
      exact hother b' (by simp [hb']) l hl

/-- What a release does to the account of its lease. -/
theorem release_reaches {now : Instant} {db db' : LeaseDb} (hi : LeaseInv db) {l : AccountLease}
    {a : TestAccount} (hl : l ∈ db.leases) (ha : a ∈ db.accounts) (hacc : l.accountId = a.id)
    (hepoch : a.leaseEpoch = l.fencingToken) {result : LeaseMutationResult}
    (h : Commits (release l.id ⟨l.fencingToken, .cleanupFailed⟩ now) db result db') :
    ∃ a' ∈ db'.accounts, a'.id = a.id ∧ a'.leaseEpoch = a.leaseEpoch ∧
      (Quarantined a' ↔ (l.status = .active ∧ leaseIsExpired l now = false) ∨
        (l.status ≠ .active ∧ Quarantined a)) := by
  have hget := getLease_of_mem hi hl
  by_cases hactive : l.status = .active
  · cases hexpired : leaseIsExpired l now with
    | true =>
      have haccounts := release_of_lapsed hget rfl hactive hexpired h
      rw [haccounts, hacc, ← hepoch]
      refine ⟨_, mem_modifyAccountAt ha _, rfl, rfl, ?_⟩
      simp [Quarantined, hactive]
    | false =>
      have hcurrent : db.accountEpoch l.accountId = some l.fencingToken := by
        rw [hacc, ← hepoch]
        exact accountEpoch_of_mem hi ha
      have haccounts := release_of_held hget rfl hactive hexpired hcurrent h
      rw [haccounts, hacc, ← hepoch]
      refine ⟨_, mem_modifyAccountAt ha _, rfl, rfl, ?_⟩
      simp [Quarantined, hactive]
  · obtain rfl := release_of_ended hget hactive h
    exact ⟨a, ha, rfl, rfl, by simp [hactive]⟩

/-- Two bindings with one current lease are one binding. -/
theorem binding_unique {db : LeaseDb} (hi : LeaseInv db) {bindings : List FixtureActorBinding}
    (htokens : ∀ b ∈ bindings, ∃ l ∈ db.leases, l.id = b.accountLeaseId ∧
      l.fencingToken = b.fencingToken)
    {b b' : FixtureActorBinding} (hb : b ∈ bindings) (hb' : b' ∈ bindings) {l l' : AccountLease}
    {a : TestAccount} (hbinds : Binds db.leases b l a) (hbinds' : Binds db.leases b' l' a) :
    b'.accountLeaseId = b.accountLeaseId := by
  have htoken : ∀ c ∈ bindings, ∀ m, Binds db.leases c m a → m.fencingToken = a.leaseEpoch := by
    intro c hc m hm
    obtain ⟨m', hm', hid, htoken⟩ := htokens c hc
    obtain rfl := Table.eq_of_key hi.leaseIds hm.mem hm' (hm.id.trans hid.symm)
    exact htoken.trans hm.epoch.symm
  have hsame := hi.eq_of_token hbinds.mem hbinds'.mem
    (hbinds.accountId.trans hbinds'.accountId.symm)
    ((htoken b hb l hbinds).trans (htoken b' hb' l' hbinds').symm)
  rw [← hbinds.id, ← hbinds'.id, hsame]

/-- The one binding of a run that can reach an account reaches it as if it were alone. -/
theorem releaseEach_reaches {now : Instant} {db db' : LeaseDb} (hi : LeaseInv db)
    {bindings : List FixtureActorBinding}
    (htokens : ∀ b ∈ bindings, ∃ l ∈ db.leases, l.id = b.accountLeaseId ∧
      l.fencingToken = b.fencingToken)
    (hdistinct : (bindings.map FixtureActorBinding.accountLeaseId).Nodup)
    {b : FixtureActorBinding} (hb : b ∈ bindings) {l : AccountLease} {a : TestAccount}
    (ha : a ∈ db.accounts) (hbinds : Binds db.leases b l a)
    (h : Commits (releaseEach .cleanupFailed now bindings) db () db') :
    ∃ a' ∈ db'.accounts, a'.id = a.id ∧
      (Quarantined a' ↔ (l.status = .active ∧ leaseIsExpired l now = false) ∨
        (l.status ≠ .active ∧ Quarantined a)) := by
  induction bindings generalizing db with
  | nil => simp at hb
  | cons b₀ bindings ih =>
    obtain ⟨result, m, hrelease, hrest⟩ := commits_bind.mp h
    rw [List.map_cons, List.nodup_cons] at hdistinct
    have hkept := kept_of_release hrelease
    have hother : ∀ b' ∈ b₀ :: bindings, b'.accountLeaseId ≠ b.accountLeaseId →
        ∀ l', ¬ Binds db.leases b' l' a :=
      fun b' hb' hne l' hbinds' => hne (binding_unique hi htokens hb hb' hbinds hbinds')
    rcases List.mem_cons.mp hb with rfl | hmem
    · obtain ⟨m', hm', hid, htoken⟩ := htokens b (by simp)
      obtain rfl := Table.eq_of_key hi.leaseIds hbinds.mem hm' (hbinds.id.trans hid.symm)
      rw [← hid, ← htoken] at hrelease
      obtain ⟨a', ha', haid, haepoch, hiff⟩ := release_reaches hi hm' ha hbinds.accountId
        (hbinds.epoch.trans htoken.symm) hrelease
      refine ⟨a', releaseEach_keeps_account hrest ha' ?_, haid, hiff⟩
      -- the later bindings name other leases, which are not current
      intro b' hb' l' hbinds'
      have hne : b'.accountLeaseId ≠ b.accountLeaseId :=
        fun heq => hdistinct.1 (heq ▸ List.mem_map_of_mem hb')
      have hbinds'' : Binds m.leases b' l' a :=
        ⟨hbinds'.mem, hbinds'.id, hbinds'.accountId.trans haid, haepoch.symm.trans hbinds'.epoch⟩
      obtain ⟨l₀, hl₀⟩ := hbinds''.back hkept
      exact hother b' (by simp [hb']) hne l₀ hl₀
    · have hne : b₀.accountLeaseId ≠ b.accountLeaseId :=
        fun heq => hdistinct.1 (heq ▸ List.mem_map_of_mem hmem)
      have ham : a ∈ m.accounts := by
        refine release_keeps_account hrelease ha fun l' hl' hid heq => ?_
        exact hother b₀ (by simp) hne l' ⟨hl', hid, heq.1, heq.2⟩
      have hlm : l ∈ m.leases :=
        release_keeps_lease hrelease hbinds.mem fun heq => hne (heq.symm.trans hbinds.id)
      refine ih (hi.kept hkept) ?_ hdistinct.2 hmem ham
        ⟨hlm, hbinds.id, hbinds.accountId, hbinds.epoch⟩ hrest
      intro c hc
      obtain ⟨lc, hlc, hid, htoken⟩ := htokens c (by simp [hc])
      obtain ⟨lc', hlc', hmove⟩ := Table.exists_right_of_forall₂ hkept.leases hlc
      exact ⟨lc', hlc', hmove.id.trans hid, hmove.fencingToken.trans htoken⟩

/-! ### The end of a leaking run -/

/-- A run that ends LEAKED has released its leases with the reason CLEANUP_FAILED. -/
theorem finalizeRelease_leaked {db db' : FixtureDb} {run final : FixtureRun} {now : Instant}
    (h : Commits (finalizeRelease run now) db (some final) db') (hleaked : final.cleanupState = .leaked) :
    Commits (releaseEach .cleanupFailed now (db.bindingsOf run.id)) db.leaseDb () db'.leaseDb := by
  unfold finalizeRelease at h
  rw [commits_read_bind, commits_ite] at h
  generalize db.cleanupCounts run.id = counts at h
  rcases h with ⟨-, h⟩ | ⟨-, h⟩
  · -- something is left to clean: the run only waits
    simp only [commits_bind, GuardedTable.commits_guarded, commits_pure] at h
    obtain ⟨rows, _, ⟨-, rfl, -⟩, hfinal, -⟩ := h
    obtain ⟨r, -, rfl⟩ := List.mem_map.mp (List.mem_of_head? hfinal.symm)
    simp at hleaked
  · simp only [releaseBoundLeases, commits_bind, commits_demand, commits_read, onLeases,
      commits_onPart, GuardedTable.commits_guarded, commits_pure] at h
    obtain ⟨intent, _, ⟨hintent, rfl⟩, _, _, ⟨_, _, ⟨rfl, rfl⟩, part, hrelease, rfl⟩, rows, _,
      ⟨-, rfl, rfl⟩, hfinal, rfl⟩ := h
    obtain ⟨r, -, rfl⟩ := List.mem_map.mp (List.mem_of_head? hfinal.symm)
    have hlost : counts.leaked ≠ 0 := by
      intro hzero
      simp only [finishCleanup, finalCleanupState, hzero, ne_eq, not_true_eq_false, if_false] at hleaked
      split at hleaked <;> simp at hleaked
    rw [if_pos hlost] at hrelease
    exact hrelease

/-- A leaking run leaves every account that it still holds by epoch quarantined exactly when
each of its leases is ACTIVE and has not run out, or has ended with the account quarantined. -/
theorem leak_quarantines_iff {db₀ : LeaseDb} {db db' : FixtureDb} {run final : FixtureRun}
    {now : Instant} (hempty : db₀.leases = []) (hids : (db₀.accounts.map TestAccount.id).Nodup)
    (hrun : LeaseRun db₀ db.leaseDb) (hbound : BindingsHold db run.id)
    (h : Commits (finalizeRelease run now) db (some final) db')
    (hleaked : final.cleanupState = .leaked) :
    LeakQuarantines db db' run.id ↔ LeasesStillHeld db run.id now := by
  have hi : LeaseInv db.leaseDb := (leaseInv_of_fresh hempty hids).run hrun
  have hrelease := finalizeRelease_leaked h hleaked
  have hreach : ∀ b ∈ db.bindingsOf run.id, ∀ l a, a ∈ db.leaseDb.accounts →
      Binds db.leaseDb.leases b l a → ∃ a' ∈ db'.leaseDb.accounts, a'.id = a.id ∧
        (Quarantined a' ↔ (l.status = .active ∧ leaseIsExpired l now = false) ∨
          (l.status ≠ .active ∧ Quarantined a)) :=
    fun b hb l a ha hbinds => releaseEach_reaches hi hbound.lease hbound.distinct hb ha hbinds hrelease
  have hi' : LeaseInv db'.leaseDb := hi.kept (kept_of_releaseEach hrelease)
  refine ⟨fun hq b hb l a ha hbinds => ?_, fun hheld => ⟨fun b hb l a ha hbinds => ?_, ?_⟩⟩
  · obtain ⟨a', ha', hid, hiff⟩ := hreach b hb l a ha hbinds
    obtain ⟨a'', ha'', hid', hquarantined, -⟩ := hq.quarantined b hb l a ha hbinds
    obtain rfl := Table.eq_of_key hi'.accountIds ha' ha'' (hid.trans hid'.symm)
    exact hiff.mp hquarantined
  · obtain ⟨a', ha', hid, hiff⟩ := hreach b hb l a ha hbinds
    have hquarantined := hiff.mpr (hheld b hb l a ha hbinds)
    exact ⟨a', ha', hid, hquarantined, fun _ _ _ _ _ => quarantined_not_candidate hquarantined⟩
  · intro a ha hfree
    exact releaseEach_keeps_account hrelease ha hfree

/-! ### A run that leaks -/

def leakedRun : FixtureRun where
  id := 1
  projectId := 10
  runKind := .execution
  compiledPlan := ⟨[], [], []⟩
  status := .cleaning
  cleanupState := .running
  terminalIntent := some .released
  failure := none
  executionDeadline := seconds 120
  requestedAt := 0
  cancelRequestedAt := none
  cancelRequestedBy := none
  cleanupGeneration := 1
  startedAt := some 0
  readyAt := some 0
  finishedAt := some 0
  releasedAt := none
  revision := 5
  updatedAt := 0

def leakedResource : ResourceRecord where
  id := 2
  fixtureRunId := 1
  dataNodeRunId := 3
  dataNodeAttemptId := 4
  connectorInstallationId := 50
  resourceHandle := "fr_order"
  resourceType := "shop.order"
  ownership := .created
  opaqueRef := "order-1"
  status := .leaked
  expiresAt := seconds 3600
  cleanupOperationKey := some "shop.delete-order"
  cleanupOperationVersion := some "1.0.0"
  cleanupGeneration := 1
  nextCleanupAt := none
  createdAt := 0
  cleanedAt := none
  revision := 4

/-- A run with one leaked resource that holds slot 0 of the account. -/
def leakedDb : FixtureDb where
  leaseDb := firstLeased
  atoms := []
  runs := [leakedRun]
  bindings := [⟨1, "buyer", 100, 1, 50⟩]
  nodes := []
  attempts := []
  reconcileAttempts := []
  resources := [leakedResource]
  dependencies := []
  cleanupAttempts := []
  nextId := 200

theorem firstLeased_run : LeaseRun twoSlots firstLeased :=
  .single (LeaseStep.acquire twoSlots operator (acquireBuyer "w1") "a" 1 0)

theorem leakedDb_bindings : BindingsHold leakedDb 1 := ⟨by decide, by decide⟩

/-- Where the run ends before its lease has run out, the account is quarantined. -/
theorem leaked_in_time_quarantines :
    LeakQuarantines leakedDb (after (finalizeRelease leakedRun (seconds 30)) leakedDb) 1 ↔
      LeasesStillHeld leakedDb 1 (seconds 30) := by
  have hids : (twoSlots.accounts.map TestAccount.id).Nodup := by decide
  have hcommits : Commits (finalizeRelease leakedRun (seconds 30)) leakedDb
      (some (finishCleanup .released 1 leakedRun (seconds 30) leakedRun))
      (after (finalizeRelease leakedRun (seconds 30)) leakedDb) := by
    unfold Commits
    decide
  exact leak_quarantines_iff rfl hids firstLeased_run leakedDb_bindings hcommits rfl

/-- The cleanup took longer than the lease: the account of the leaking run goes back to be
verified. -/
theorem leaked_late_not_quarantined :
    LeaseRun twoSlots leakedDb.leaseDb ∧ BindingsHold leakedDb 1 ∧
      Commits (finalizeRelease leakedRun (seconds 360)) leakedDb
        (some (finishCleanup .released 1 leakedRun (seconds 360) leakedRun))
        (after (finalizeRelease leakedRun (seconds 360)) leakedDb) ∧
      (finishCleanup .released 1 leakedRun (seconds 360) leakedRun).cleanupState = .leaked ∧
      ¬ LeakQuarantines leakedDb (after (finalizeRelease leakedRun (seconds 360)) leakedDb) 1 := by
  refine ⟨firstLeased_run, leakedDb_bindings, by unfold Commits; decide, rfl, fun hq => ?_⟩
  have hheld : ∃ b ∈ leakedDb.bindingsOf 1, ∃ l ∈ leakedDb.leaseDb.leases,
      ∃ a ∈ leakedDb.leaseDb.accounts, l.id = b.accountLeaseId ∧ l.accountId = a.id ∧
        a.leaseEpoch = b.fencingToken := by decide
  have hfree : ∀ a ∈ (after (finalizeRelease leakedRun (seconds 360)) leakedDb).leaseDb.accounts,
      ¬ Quarantined a := by decide
  obtain ⟨b, hb, l, hl, a, ha, hid, hacc, hepoch⟩ := hheld
  obtain ⟨a', ha', -, hquarantined, -⟩ := hq.quarantined b hb l a ha ⟨hl, hid, hacc, hepoch⟩
  exact hfree a' ha' hquarantined

end Atlas.Proofs
