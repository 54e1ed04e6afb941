import AtlasTestOps.Lib.Growth
import AtlasTestOps.Service.Leases

/-! Lease fencing over all runs. Every command either issues one lease under the next
epoch of its account, or moves ACTIVE leases on while epochs only grow. -/

namespace Atlas.Proofs

open Atlas Atlas.Identity Atlas.Store Atlas.Service Txn

/-- What may happen to a lease row: a terminal one stays as it is. -/
structure LeaseMove (a b : AccountLease) : Prop where
  id : b.id = a.id
  accountId : b.accountId = a.accountId
  slotId : b.slotId = a.slotId
  fencingToken : b.fencingToken = a.fencingToken
  terminal : a.status ≠ .active → b = a

structure AccountMove (a b : TestAccount) : Prop where
  id : b.id = a.id
  leaseEpoch : a.leaseEpoch ≤ b.leaseEpoch

theorem LeaseMove.refl (a : AccountLease) : LeaseMove a a := ⟨rfl, rfl, rfl, rfl, fun _ => rfl⟩

theorem LeaseMove.trans {a b c : AccountLease} (h₁ : LeaseMove a b) (h₂ : LeaseMove b c) :
    LeaseMove a c := by
  refine ⟨h₂.id.trans h₁.id, h₂.accountId.trans h₁.accountId, h₂.slotId.trans h₁.slotId,
    h₂.fencingToken.trans h₁.fencingToken, fun h => ?_⟩
  have hb := h₁.terminal h
  subst hb
  exact h₂.terminal h

theorem AccountMove.refl (a : TestAccount) : AccountMove a a := ⟨rfl, le_rfl⟩

theorem AccountMove.trans {a b c : TestAccount} (h₁ : AccountMove a b) (h₂ : AccountMove b c) :
    AccountMove a c :=
  ⟨h₂.id.trans h₁.id, h₁.leaseEpoch.trans h₂.leaseEpoch⟩

/-- No lease was issued. -/
structure Kept (db db' : LeaseDb) : Prop where
  leases : List.Forall₂ LeaseMove db.leases db'.leases
  accounts : List.Forall₂ AccountMove db.accounts db'.accounts

theorem Kept.refl (db : LeaseDb) : Kept db db :=
  ⟨List.forall₂_same.2 fun a _ => LeaseMove.refl a, List.forall₂_same.2 fun a _ => AccountMove.refl a⟩

instance : Std.Refl Kept := ⟨Kept.refl⟩

theorem Kept.trans {a b c : LeaseDb} (h₁ : Kept a b) (h₂ : Kept b c) : Kept a c :=
  ⟨Growth.forall₂_trans (fun _ _ _ => LeaseMove.trans) h₁.leases h₂.leases,
    Growth.forall₂_trans (fun _ _ _ => AccountMove.trans) h₁.accounts h₂.accounts⟩

instance : IsTrans LeaseDb Kept := ⟨fun _ _ _ => Kept.trans⟩

/-- One lease was issued, on a free slot and under the next epoch. -/
structure Issued (lease : AccountLease) (db db' : LeaseDb) : Prop where
  active : lease.status = .active
  fresh : ∀ l ∈ db.leases, l.id ≠ lease.id
  slotFree : ∀ l ∈ db.leases, l.slotId = lease.slotId → l.status ≠ .active
  account : ∃ account ∈ db.accounts, account.id = lease.accountId ∧
    lease.fencingToken = account.leaseEpoch + 1
  leases : db'.leases = db.leases ++ [lease]
  accounts : ∃ now, db'.accounts = Table.modify TestAccount.id lease.accountId (raiseEpoch now) db.accounts

/-- An account joined the platform. -/
structure Registered (account : TestAccount) (db db' : LeaseDb) : Prop where
  fresh : ∀ a ∈ db.accounts, a.id ≠ account.id
  leases : db'.leases = db.leases
  accounts : db'.accounts = db.accounts ++ [account]

def LeaseChange (db db' : LeaseDb) : Prop :=
  Kept db db' ∨ (∃ lease, Issued lease db db') ∨ ∃ account, Registered account db db'

def LeaseChanges : LeaseDb → LeaseDb → Prop := Relation.ReflTransGen LeaseChange

instance : Std.Refl LeaseChanges := ⟨fun _ => Relation.ReflTransGen.refl⟩

instance : IsTrans LeaseDb LeaseChanges := ⟨fun _ _ _ => Relation.ReflTransGen.trans⟩

theorem Kept.changes {db db' : LeaseDb} (h : Kept db db') : LeaseChanges db db' :=
  Relation.ReflTransGen.single (Or.inl h)

/-! ### Every command is a chain of changes -/

theorem kept_of_accounts {db db' : LeaseDb} (hleases : db'.leases = db.leases)
    {f : TestAccount → TestAccount} (haccounts : db'.accounts = db.accounts.map f)
    (hf : ∀ a, AccountMove a (f a)) : Kept db db' := by
  refine ⟨?_, ?_⟩
  · rw [hleases]
    exact List.forall₂_same.2 fun a _ => LeaseMove.refl a
  · rw [haccounts]
    exact List.forall₂_map_right_iff.2 (List.forall₂_same.2 fun a _ => hf a)

theorem kept_of_same {db db' : LeaseDb} (hleases : db'.leases = db.leases)
    (haccounts : db'.accounts = db.accounts) : Kept db db' :=
  kept_of_accounts hleases (f := id) (by simpa using haccounts) AccountMove.refl

theorem kept_modifyAccountAt (db : LeaseDb) (id : Uuid) (epoch : ℕ)
    {f : TestAccount → TestAccount} (hf : ∀ a, AccountMove a (f a)) :
    Kept db (db.modifyAccountAt id epoch f) := by
  refine kept_of_accounts rfl rfl fun a => ?_
  split
  · exact hf a
  · exact AccountMove.refl a

theorem kept_modifyActiveLease (db : LeaseDb) (id : Uuid) {f : AccountLease → AccountLease}
    (hf : ∀ a, (f a).id = a.id ∧ (f a).accountId = a.accountId ∧ (f a).slotId = a.slotId ∧
      (f a).fencingToken = a.fencingToken) : Kept db (db.modifyActiveLease id f) := by
  refine ⟨?_, List.forall₂_same.2 fun a _ => AccountMove.refl a⟩
  refine List.forall₂_map_right_iff.2 (List.forall₂_same.2 fun a _ => ?_)
  split
  · next h => exact ⟨(hf a).1, (hf a).2.1, (hf a).2.2.1, (hf a).2.2.2, fun ht => absurd h.2 ht⟩
  · exact LeaseMove.refl a

theorem endLease_identity (status : AccountLeaseStatus) (reason : LeaseReleaseReason)
    (now : Instant) (a : AccountLease) :
    (endLease status reason now a).id = a.id ∧ (endLease status reason now a).accountId = a.accountId ∧
      (endLease status reason now a).slotId = a.slotId ∧
      (endLease status reason now a).fencingToken = a.fencingToken :=
  ⟨rfl, rfl, rfl, rfl⟩

theorem within_update_of_kept {f : LeaseDb → LeaseDb} (h : ∀ db, Kept db (f db)) :
    Within Kept (update f : LeaseOp Unit) :=
  Within.update h

theorem within_markAccount (lease : AccountLease) :
    Within Kept (markAccountForReverification lease) := by
  apply within_update_of_kept
  intro db
  exact kept_modifyAccountAt db _ _ fun _ => ⟨rfl, le_rfl⟩

theorem within_endLease (id : Uuid) (status : AccountLeaseStatus) (reason : LeaseReleaseReason)
    (now : Instant) : Within Kept
      (update fun db => db.modifyActiveLease id (endLease status reason now) : LeaseOp Unit) := by
  apply within_update_of_kept
  intro db
  exact kept_modifyActiveLease db _ (endLease_identity _ _ _)

theorem within_expireLocked (lease : AccountLease) (now : Instant) :
    Within Kept (expireLocked lease now) :=
  Within.bind (within_endLease _ _ _ _) fun _ =>
    Within.bind (within_markAccount _) fun _ => Within.pure _

theorem within_applyRelease (lease : AccountLease) (reason : LeaseReleaseReason) (now : Instant) :
    Within Kept (applyReleaseAccountState lease reason now) := by
  unfold applyReleaseAccountState
  apply Within.ite
  · apply within_update_of_kept
    intro db
    exact kept_modifyAccountAt db _ _ fun _ => ⟨rfl, le_rfl⟩
  · refine Within.bind (Within.read _) fun pool => ?_
    apply Within.ite <;> apply within_update_of_kept <;> intro db
    · exact kept_modifyAccountAt db _ _ fun _ => ⟨rfl, le_rfl⟩
    · exact kept_modifyAccountAt db _ _ fun _ => ⟨rfl, le_rfl⟩

theorem within_withCurrentLease (leaseId : Uuid) (token : ℕ) (now : Instant)
    {use : AccountLease → LeaseOp LeaseMutationResult}
    (huse : ∀ lease, Within Kept (use lease)) :
    Within Kept (withCurrentLease leaseId token now use) := by
  unfold withCurrentLease
  refine Within.bind (Within.read fun db : LeaseDb => db.getLease leaseId) fun found => ?_
  cases found with
  | none => exact Within.pure _
  | some lease =>
    refine Within.ite (Within.pure _) (Within.ite (Within.pure _) (Within.ite ?_ ?_))
    · exact Within.bind (within_expireLocked lease now) fun _ => Within.pure _
    · exact Within.bind (Within.read _) fun _ => Within.ite (Within.pure _) (huse lease)

theorem within_authorize (leaseId : Uuid) (token : ℕ) (now : Instant) :
    Within Kept (authorizeSensitiveUse leaseId token now) :=
  within_withCurrentLease _ _ _ fun _ => Within.pure _

theorem within_heartbeat (leaseId : Uuid) (command : HeartbeatAccountLease) (now : Instant) :
    Within Kept (heartbeat leaseId command now) := by
  apply within_withCurrentLease
  intro lease
  apply Within.ite
  · exact Within.bind (within_expireLocked lease now) fun _ => Within.pure _
  · refine Within.bind ?_ fun _ => Within.pure _
    apply within_update_of_kept
    intro db
    exact kept_modifyActiveLease db _ fun _ => ⟨rfl, rfl, rfl, rfl⟩

theorem within_release (leaseId : Uuid) (command : ReleaseAccountLease) (now : Instant) :
    Within Kept (Store.release leaseId command now) := by
  apply within_withCurrentLease
  intro lease
  exact Within.bind (within_endLease _ _ _ _) fun _ =>
    Within.bind (within_applyRelease _ _ _) fun _ => Within.pure _

theorem within_endEach {finish : AccountLease → LeaseOp Unit}
    (hfinish : ∀ lease, Within Kept (finish lease)) (leases : List AccountLease) :
    Within Kept (endEach finish leases) := by
  induction leases with
  | nil => exact Within.pure _
  | cons lease leases ih => exact Within.bind (hfinish lease) fun _ => ih

theorem within_restoreElapsedCooldowns (now : Instant) (environmentId : Option Uuid) :
    Within Kept (restoreElapsedCooldowns now environmentId) := by
  apply within_update_of_kept
  intro db
  refine kept_of_accounts rfl rfl fun a => ?_
  split
  · exact ⟨rfl, le_rfl⟩
  · exact AccountMove.refl a

theorem within_reapExpired (now : Instant) (limit : ℕ) (environmentId : Option Uuid) :
    Within Kept (reapExpired now limit environmentId) := by
  refine Within.bind (Within.read _) fun _ => Within.bind (within_endEach ?_ _) fun _ =>
    Within.pure _
  intro lease
  exact Within.bind (within_expireLocked lease now) fun _ => Within.pure _

theorem within_revokeActive (scope : RevocationScope) (reason : LeaseReleaseReason) (now : Instant) :
    Within Kept (revokeActive scope reason now) := by
  refine Within.bind (Within.read _) fun active => Within.bind (within_endEach ?_ _)
    fun _ => Within.pure _
  intro lease
  refine Within.bind (within_endLease _ _ _ _) fun _ => ?_
  apply within_update_of_kept
  intro db
  refine kept_modifyAccountAt db _ _ fun a => ⟨rfl, ?_⟩
  exact Nat.le_succ a.leaseEpoch

theorem within_newLeaseId : Within Kept newLeaseId := by
  refine Within.bind (Within.read _) fun id => Within.bind ?_ fun _ => Within.pure _
  apply within_update_of_kept
  intro db
  exact kept_of_same rfl rfl

/-- The candidate stands on a free slot of its account. -/
theorem mem_candidates {db : LeaseDb} {command : AcquireAccountLease} {role : TestRole}
    {now : Instant} {slot : AccountSlot} {account : TestAccount} {pool : AccountPool}
    (h : (slot, account, pool) ∈ db.candidates command role now) : account ∈ db.accounts := by
  unfold LeaseDb.candidates at h
  rw [(List.perm_insertionSort _ _).mem_iff, List.mem_filter] at h
  obtain ⟨s, -, h⟩ := List.mem_flatMap.mp h.1
  obtain ⟨a, ha, h⟩ := List.mem_flatMap.mp h
  obtain ⟨p, -, h⟩ := List.mem_map.mp h
  simp only [Prod.mk.injEq] at h
  exact h.2.1 ▸ ha

theorem slot_free_of_not_leased {db : LeaseDb} {slotId : Uuid} (h : db.slotLeased slotId = false) :
    ∀ l ∈ db.leases, l.slotId = slotId → l.status ≠ .active := by
  intro l hl hslot hactive
  simp only [LeaseDb.slotLeased, List.any_eq_false, Bool.and_eq_true, decide_eq_true_eq, not_and] at h
  exact h l hl hslot hactive

theorem within_acquire (leaseId : Uuid) (accountHandle : String) (role : TestRole)
    (command : AcquireAccountLease) (now : Instant) :
    Within LeaseChanges (Store.acquire leaseId accountHandle role command now) := by
  intro db answer db' h
  unfold Store.acquire at h
  rw [commits_read_bind, commits_read_bind] at h
  cases hc : db.candidates command role now with
  | nil =>
    simp only [hc, commits_pure] at h
    obtain ⟨-, rfl⟩ := h
    exact Relation.ReflTransGen.refl
  | cons row rows =>
    obtain ⟨slot, account, pool⟩ := row
    simp only [hc, commits_ite, commits_bind, commits_read, commits_update, commits_raiseIf,
      commits_pure, existsAndEq, true_and] at h
    rcases h with ⟨-, -, rfl⟩ | ⟨-, h⟩
    · exact Relation.ReflTransGen.refl
    rcases h with ⟨-, -, rfl⟩ | ⟨hfree, h⟩
    · exact Relation.ReflTransGen.refl
    obtain ⟨-, -, ⟨hfresh, -⟩, -, -, rfl⟩ := h
    refine Relation.ReflTransGen.single (Or.inr (Or.inl ⟨_, rfl, ?_, ?_, ?_, rfl, now, rfl⟩))
    · simpa using hfresh
    · exact slot_free_of_not_leased (Bool.eq_false_iff.mpr hfree)
    · exact ⟨account, mem_candidates (hc ▸ List.mem_cons_self), rfl, rfl⟩

theorem within_requireEnvironment (actor : ActorContext) (environmentId : Uuid) :
    Within Kept (requireEnvironment actor environmentId) := by
  refine Within.bind (Within.read _) fun _ => Within.bind (Within.demand _ _) fun _ => ?_
  refine Within.bind (Within.raiseIf _ _) fun _ => Within.bind (Within.raiseIf _ _) fun _ => ?_
  exact Within.bind (Within.raiseIf _ _) fun _ => Within.pure _

theorem within_reserveAcquire (key : String × String) (requestHash : Digest) (now : Instant) :
    Within Kept (reserveAcquire key requestHash now) := by
  unfold reserveAcquire
  refine Within.bind (within_update_of_kept fun db => kept_of_same rfl rfl) fun _ => ?_
  refine Within.bind (Within.read _) fun found => ?_
  cases found with
  | none =>
    exact Within.bind (within_update_of_kept fun db => kept_of_same rfl rfl) fun _ => Within.pure _
  | some record =>
    exact Within.bind (Within.raiseIf _ _) fun _ =>
      Within.bind (Within.demand _ _) fun _ => Within.pure _

/-- A transaction that issues no lease is a chain of changes. -/
theorem changes_of_kept {α : Type} {t : LeaseOp α} (h : Within Kept t) : Within LeaseChanges t :=
  fun _ _ _ hc => (h _ _ _ hc).changes

theorem within_acquireLease (actor : ActorContext) (command : AcquireAccountLease) (key : String)
    (requestHash : Digest) (now : Instant) :
    Within LeaseChanges (acquireLease actor command key requestHash now) := by
  unfold acquireLease
  refine Within.bind (Within.raiseIf _ _) fun _ => ?_
  refine Within.bind (changes_of_kept (within_requireEnvironment _ _)) fun environment => ?_
  refine Within.bind (changes_of_kept (within_reserveAcquire _ _ _)) fun cached => ?_
  cases cached with
  | some handle => exact Within.pure _
  | none =>
    refine Within.bind (Within.raiseIf _ _) fun _ => Within.bind (Within.read _) fun _ => ?_
    refine Within.bind (Within.demand _ _) fun role => Within.bind (Within.raiseIf _ _) fun _ => ?_
    refine Within.bind (Within.raiseIf _ _) fun _ => ?_
    refine Within.bind (changes_of_kept (within_restoreElapsedCooldowns _ _)) fun _ => ?_
    refine Within.bind (changes_of_kept (within_reapExpired _ _ _)) fun _ => ?_
    refine Within.bind (changes_of_kept within_newLeaseId) fun _ => ?_
    refine Within.bind (changes_of_kept within_newLeaseId) fun _ => ?_
    refine Within.bind (within_acquire _ _ _ _ _) fun lease => ?_
    apply changes_of_kept
    cases lease with
    | none =>
      exact Within.bind (within_update_of_kept fun db => kept_of_same rfl rfl) fun _ => Within.pure _
    | some lease =>
      exact Within.bind (within_update_of_kept fun db => kept_of_same rfl rfl) fun _ => Within.pure _

theorem within_requireLeaseAccess (actor : ActorContext) (leaseId : Uuid) :
    Within Kept (requireLeaseAccess actor leaseId) :=
  Within.bind (Within.read _) fun _ => Within.bind (Within.demand _ _) fun _ => Within.raiseIf _ _

theorem within_heartbeatLease (actor : ActorContext) (leaseId : Uuid)
    (command : HeartbeatAccountLease) (now : Instant) :
    Within Kept (heartbeatLease actor leaseId command now) := by
  refine Within.bind (within_requireLeaseAccess _ _) fun _ => ?_
  refine Within.bind (within_heartbeat _ _ _) fun _ => Within.bind (Within.raiseIf _ _) fun _ => ?_
  exact Within.bind (Within.raiseIf _ _) fun _ => Within.pure _

theorem within_releaseLease (actor : ActorContext) (leaseId : Uuid)
    (command : ReleaseAccountLease) (now : Instant) :
    Within Kept (releaseLease actor leaseId command now) := by
  refine Within.bind (within_requireLeaseAccess _ _) fun _ => ?_
  refine Within.bind (within_release _ _ _) fun _ => Within.bind (Within.raiseIf _ _) fun _ => ?_
  exact Within.bind (Within.raiseIf _ _) fun _ =>
    Within.bind (Within.raiseIf _ _) fun _ => Within.pure _

theorem within_reapLeases (actor : ActorContext) (limit : ℕ) (now : Instant) :
    Within Kept (reapLeases actor limit now) :=
  Within.bind (Within.raiseIf _ _) fun _ =>
    Within.bind (within_restoreElapsedCooldowns _ _) fun _ => within_reapExpired _ _ _

theorem changes_after {α : Type} {t : LeaseOp α} (h : Within LeaseChanges t) (db : LeaseDb) :
    LeaseChanges db (after t db) := by
  rcases after_eq t db with heq | ⟨a, hc⟩
  · rw [heq]
    exact Relation.ReflTransGen.refl
  · exact h _ _ _ hc

theorem changes_of_step {db db' : LeaseDb} (h : LeaseStep db db') : LeaseChanges db db' := by
  cases h with
  | acquire actor command key requestHash now => exact changes_after (within_acquireLease _ _ _ _ _) _
  | heartbeat actor leaseId command now => exact changes_after (changes_of_kept (within_heartbeatLease _ _ _ _)) _
  | release actor leaseId command now => exact changes_after (changes_of_kept (within_releaseLease _ _ _ _)) _
  | releaseBound leaseId command now => exact changes_after (changes_of_kept (within_release _ _ _)) _
  | reap actor limit now => exact changes_after (changes_of_kept (within_reapLeases _ _ _)) _
  | revoke scope reason now => exact changes_after (changes_of_kept (within_revokeActive _ _ _)) _
  | authorize leaseId token now => exact changes_after (changes_of_kept (within_authorize _ _ _)) _
  | register account h =>
    exact Relation.ReflTransGen.single (Or.inr (Or.inr ⟨account, h, rfl, rfl⟩))
  | administer db' h =>
    refine (Kept.mk ?_ (h.accounts.imp fun a b hab => ⟨hab.1, hab.2.ge⟩)).changes
    rw [h.leases]
    exact List.forall₂_same.2 fun a _ => LeaseMove.refl a

theorem changes_of_run {db db' : LeaseDb} (h : LeaseRun db db') : LeaseChanges db db' := by
  induction h with
  | refl => exact Relation.ReflTransGen.refl
  | tail _ hstep ih => exact ih.trans (changes_of_step hstep)

/-! ### The invariant -/

structure LeaseInv (db : LeaseDb) : Prop where
  accountIds : (db.accounts.map TestAccount.id).Nodup
  leaseIds : (db.leases.map AccountLease.id).Nodup
  slots : ∀ l ∈ db.leases, ∀ m ∈ db.leases, l.status = .active → m.status = .active →
    l.slotId = m.slotId → l.id = m.id
  tokens : db.leases.Pairwise fun a b => a.accountId = b.accountId → a.fencingToken < b.fencingToken
  bounded : ∀ l ∈ db.leases, ∃ account ∈ db.accounts, account.id = l.accountId ∧
    l.fencingToken ≤ account.leaseEpoch

theorem LeaseMove.active {a b : AccountLease} (h : LeaseMove a b) (hb : b.status = .active) :
    a.status = .active := by
  by_contra ha
  rw [h.terminal ha] at hb
  exact ha hb

theorem LeaseInv.kept {db db' : LeaseDb} (h : Kept db db') (hi : LeaseInv db) : LeaseInv db' := by
  refine ⟨?_, ?_, ?_, ?_, ?_⟩
  · rw [Table.map_eq_of_forall₂ (fun _ _ hab => AccountMove.id hab) h.accounts]
    exact hi.accountIds
  · rw [Table.map_eq_of_forall₂ (fun _ _ hab => LeaseMove.id hab) h.leases]
    exact hi.leaseIds
  · intro l' hl' m' hm' hl hm hslot
    obtain ⟨l, hlm, hll⟩ := Table.exists_left_of_forall₂ h.leases hl'
    obtain ⟨m, hmm, hml⟩ := Table.exists_left_of_forall₂ h.leases hm'
    rw [hll.id, hml.id]
    exact hi.slots l hlm m hmm (hll.active hl) (hml.active hm)
      (hll.slotId.symm.trans (hslot.trans hml.slotId))
  · have hmap : db'.leases.map (fun l => (l.accountId, l.fencingToken)) =
        db.leases.map fun l => (l.accountId, l.fencingToken) :=
      Table.map_eq_of_forall₂ (fun _ _ hab => by rw [LeaseMove.accountId hab, hab.fencingToken])
        h.leases
    have htokens : (db.leases.map fun l => (l.accountId, l.fencingToken)).Pairwise
        fun a b => a.1 = b.1 → a.2 < b.2 := List.pairwise_map.mpr hi.tokens
    rw [← hmap] at htokens
    exact List.pairwise_map.mp htokens
  · intro l' hl'
    obtain ⟨l, hlm, hll⟩ := Table.exists_left_of_forall₂ h.leases hl'
    obtain ⟨account, ha, hid, hle⟩ := hi.bounded l hlm
    obtain ⟨account', ha', hmove⟩ := Table.exists_right_of_forall₂ h.accounts ha
    refine ⟨account', ha', ?_, ?_⟩
    · rw [hmove.id, hid, hll.accountId]
    · rw [hll.fencingToken]
      exact hle.trans hmove.leaseEpoch

theorem LeaseInv.issued {db db' : LeaseDb} {lease : AccountLease} (h : Issued lease db db')
    (hi : LeaseInv db) : LeaseInv db' := by
  obtain ⟨account, ha, hid, htoken⟩ := h.account
  obtain ⟨now, haccounts⟩ := h.accounts
  have hmoves : List.Forall₂ AccountMove db.accounts db'.accounts := by
    rw [haccounts]
    exact Table.forall₂_modify (fun a _ => AccountMove.refl a)
      fun a _ _ => ⟨rfl, Nat.le_succ a.leaseEpoch⟩
  have hbelow : ∀ l ∈ db.leases, l.accountId = lease.accountId → l.fencingToken < lease.fencingToken := by
    intro l hl hacc
    obtain ⟨owner, ho, hoid, hle⟩ := hi.bounded l hl
    have hsame := Table.eq_of_key hi.accountIds ho ha (hoid.trans (hacc.trans hid.symm))
    subst hsame
    omega
  refine ⟨?_, ?_, ?_, ?_, ?_⟩
  · rw [Table.map_eq_of_forall₂ (fun _ _ hab => AccountMove.id hab) hmoves]
    exact hi.accountIds
  · rw [h.leases, List.map_append, List.nodup_append]
    refine ⟨hi.leaseIds, by simp, ?_⟩
    intro a ha b hb heq
    obtain ⟨l, hl, rfl⟩ := List.mem_map.mp ha
    simp only [List.map_cons, List.map_nil, List.mem_singleton] at hb
    exact h.fresh l hl (heq.trans hb)
  · intro l hl m hm hla hma hslot
    rw [h.leases, List.mem_append, List.mem_singleton] at hl hm
    rcases hl with hl | rfl <;> rcases hm with hm | rfl
    · exact hi.slots l hl m hm hla hma hslot
    · exact absurd hla (h.slotFree l hl hslot)
    · exact absurd hma (h.slotFree m hm hslot.symm)
    · rfl
  · rw [h.leases, List.pairwise_append]
    refine ⟨hi.tokens, by simp, ?_⟩
    intro l hl m hm hacc
    obtain rfl := List.mem_singleton.mp hm
    exact hbelow l hl hacc
  · intro l hl
    rw [h.leases, List.mem_append, List.mem_singleton] at hl
    rcases hl with hl | rfl
    · obtain ⟨owner, ho, hoid, hle⟩ := hi.bounded l hl
      obtain ⟨owner', ho', hmove⟩ := Table.exists_right_of_forall₂ hmoves ho
      exact ⟨owner', ho', hmove.id.trans hoid, hle.trans hmove.leaseEpoch⟩
    · refine ⟨raiseEpoch now account, ?_, hid, htoken.le⟩
      rw [haccounts, Table.mem_modify]
      exact ⟨account, ha, by rw [if_pos hid]⟩

theorem LeaseInv.registered {db db' : LeaseDb} {account : TestAccount}
    (h : Registered account db db') (hi : LeaseInv db) : LeaseInv db' := by
  refine ⟨?_, ?_, ?_, ?_, ?_⟩
  · rw [h.accounts, List.map_append, List.nodup_append]
    refine ⟨hi.accountIds, by simp, ?_⟩
    intro id hid b hb heq
    obtain ⟨a, ha, rfl⟩ := List.mem_map.mp hid
    simp only [List.map_cons, List.map_nil, List.mem_singleton] at hb
    exact h.fresh a ha (heq.trans hb)
  · rw [h.leases]
    exact hi.leaseIds
  · rw [h.leases]
    exact hi.slots
  · rw [h.leases]
    exact hi.tokens
  · rw [h.leases, h.accounts]
    intro l hl
    obtain ⟨owner, ho, hid, hle⟩ := hi.bounded l hl
    exact ⟨owner, List.mem_append_left _ ho, hid, hle⟩

theorem LeaseInv.change {db db' : LeaseDb} (h : LeaseChange db db') (hi : LeaseInv db) :
    LeaseInv db' := by
  rcases h with h | ⟨lease, h⟩ | ⟨account, h⟩
  · exact hi.kept h
  · exact hi.issued h
  · exact hi.registered h

theorem LeaseInv.run {db db' : LeaseDb} (h : LeaseRun db db') (hi : LeaseInv db) : LeaseInv db' := by
  have hstep : ∀ a b, LeaseChange a b → LeaseInv a → LeaseInv b := fun _ _ => LeaseInv.change
  exact run_keeps hstep (changes_of_run h) hi

theorem leaseInv_of_fresh {db : LeaseDb} (hempty : db.leases = [])
    (hids : (db.accounts.map TestAccount.id).Nodup) : LeaseInv db :=
  ⟨hids, by simp [hempty], by simp [hempty], by simp [hempty], by simp [hempty]⟩

/-! ### Terminal leases and later tokens -/

theorem terminal_kept_of_change {db db' : LeaseDb} (h : LeaseChange db db') {l : AccountLease}
    (hl : l ∈ db.leases) (hterminal : l.status ≠ .active) : l ∈ db'.leases := by
  rcases h with h | ⟨lease, h⟩ | ⟨account, h⟩
  · obtain ⟨l', hl', hmove⟩ := Table.exists_right_of_forall₂ h.leases hl
    rwa [← hmove.terminal hterminal]
  · rw [h.leases]
    exact List.mem_append_left _ hl
  · rwa [h.leases]

theorem terminal_kept {db db' : LeaseDb} (h : LeaseRun db db') {l : AccountLease}
    (hl : l ∈ db.leases) (hterminal : l.status ≠ .active) : l ∈ db'.leases := by
  have hstep : ∀ a b, LeaseChange a b → l ∈ a.leases → l ∈ b.leases :=
    fun _ _ hc hm => terminal_kept_of_change hc hm hterminal
  exact run_keeps hstep (changes_of_run h) hl

/-- The columns that no statement writes. -/
def leaseIdentity (l : AccountLease) : Uuid × Uuid × ℕ := (l.id, l.accountId, l.fencingToken)

theorem identities_prefix_of_change {db db' : LeaseDb} (h : LeaseChange db db') :
    db.leases.map leaseIdentity <+: db'.leases.map leaseIdentity := by
  rcases h with h | ⟨lease, h⟩ | ⟨account, h⟩
  · have hmap : db'.leases.map leaseIdentity = db.leases.map leaseIdentity :=
      Table.map_eq_of_forall₂
        (fun _ _ hab => by simp only [leaseIdentity, LeaseMove.id hab, hab.accountId, hab.fencingToken])
        h.leases
    rw [hmap]
  · rw [h.leases, List.map_append]
    exact List.prefix_append _ _
  · rw [h.leases]

theorem identities_prefix {db db' : LeaseDb} (h : LeaseRun db db') :
    db.leases.map leaseIdentity <+: db'.leases.map leaseIdentity := by
  have hstep : ∀ a b, LeaseChange a b → db.leases.map leaseIdentity <+: a.leases.map leaseIdentity →
      db.leases.map leaseIdentity <+: b.leases.map leaseIdentity :=
    fun _ _ hc hp => hp.trans (identities_prefix_of_change hc)
  exact run_keeps hstep (changes_of_run h) (List.prefix_refl _)

/-- A lease issued later carries a larger token than every lease of its account before. -/
theorem later_token_larger {db db' : LeaseDb} (h : LeaseRun db db') (hi : LeaseInv db')
    {l l' : AccountLease} (hl : l ∈ db.leases) (hl' : l' ∈ db'.leases)
    (hnew : ∀ m ∈ db.leases, m.id ≠ l'.id) (hacc : l'.accountId = l.accountId) :
    l.fencingToken < l'.fencingToken := by
  obtain ⟨tail, htail⟩ := identities_prefix h
  have htokens : (db'.leases.map leaseIdentity).Pairwise
      fun a b => a.2.1 = b.2.1 → a.2.2 < b.2.2 := List.pairwise_map.mpr hi.tokens
  rw [← htail, List.pairwise_append] at htokens
  have hmem : leaseIdentity l' ∈ db.leases.map leaseIdentity ++ tail := by
    rw [htail]
    exact List.mem_map_of_mem hl'
  rcases List.mem_append.mp hmem with hold | hlate
  · obtain ⟨m, hm, heq⟩ := List.mem_map.mp hold
    exact absurd (congrArg Prod.fst heq) (hnew m hm)
  · exact htokens.2.2 _ (List.mem_map_of_mem hl) _ hlate hacc.symm

/-! ### What heartbeat, release and sensitive use require -/

/-- The caller names an ACTIVE lease, and its token is the latest epoch of the account. -/
def HoldsCurrent (db : LeaseDb) (leaseId : Uuid) (fencingToken : ℕ) : Prop :=
  ∃ l ∈ db.leases, l.id = leaseId ∧ l.status = .active ∧ l.fencingToken = fencingToken ∧
    db.accountEpoch l.accountId = some fencingToken

/-- The caller names an ACTIVE lease that has run out and is superseded; all that changes is
that the lease is recorded as EXPIRED. -/
def LapseRecorded (db db' : LeaseDb) (leaseId : Uuid) (fencingToken : ℕ) (now : Instant) : Prop :=
  (∃ l ∈ db.leases, l.id = leaseId ∧ l.fencingToken = fencingToken ∧ leaseIsExpired l now) ∧
    db' = db.modifyActiveLease leaseId (endLease .expired .ttlExpired now)

theorem modifyAccountAt_of_epoch_ne {db : LeaseDb} (hids : (db.accounts.map TestAccount.id).Nodup)
    {id : Uuid} {epoch : ℕ} (hne : db.accountEpoch id ≠ some epoch) (f : TestAccount → TestAccount) :
    db.modifyAccountAt id epoch f = db := by
  have hmap : (db.accounts.map fun a => if a.id = id ∧ a.leaseEpoch = epoch then f a else a) =
      db.accounts := by
    refine (List.map_congr_left fun a ha => ?_).trans (List.map_id _)
    refine if_neg fun h => hne ?_
    unfold LeaseDb.accountEpoch LeaseDb.getAccount
    rw [← h.1, Table.find?_of_mem hids ha, Option.map_some, h.2]
  unfold LeaseDb.modifyAccountAt
  rw [hmap]

/-- Where the shared checks lead: to the continuation on a current lease, to the record of
a lapse, or to no change. -/
theorem withCurrentLease_commits {db db' : LeaseDb} {leaseId : Uuid} {token : ℕ} {now : Instant}
    {use : AccountLease → LeaseOp LeaseMutationResult} {result : LeaseMutationResult}
    (h : Commits (withCurrentLease leaseId token now use) db result db') :
    (db' = db ∧ result.kind ≠ .authorized) ∨
    (∃ l ∈ db.leases, l.id = leaseId ∧ l.status = .active ∧ l.fencingToken = token ∧
      leaseIsExpired l now = true ∧ result.kind = .expired ∧
      db' = (db.modifyActiveLease leaseId (endLease .expired .ttlExpired now)).modifyAccountAt
        l.accountId token fun a => { a with healthStatus := .degraded, operationalStatus := .verifying
                                            cooldownUntil := none, revision := a.revision + 1 }) ∨
    (∃ l ∈ db.leases, l.id = leaseId ∧ l.status = .active ∧ l.fencingToken = token ∧
      leaseIsExpired l now = false ∧ db.accountEpoch l.accountId = some token ∧
      Commits (use l) db result db') := by
  unfold withCurrentLease at h
  rw [commits_read_bind] at h
  cases hfound : db.getLease leaseId with
  | none =>
    simp only [hfound, commits_pure] at h
    obtain ⟨rfl, rfl⟩ := h
    exact Or.inl ⟨rfl, by simp⟩
  | some lease =>
    have hmem : lease ∈ db.leases := List.mem_of_find?_eq_some hfound
    have hid : lease.id = leaseId := by simpa using List.find?_some hfound
    simp only [hfound, commits_ite, commits_pure] at h
    rcases h with ⟨-, rfl, rfl⟩ | ⟨htoken, h⟩
    · exact Or.inl ⟨rfl, by simp⟩
    rcases h with ⟨-, rfl, rfl⟩ | ⟨hactive, h⟩
    · exact Or.inl ⟨rfl, by simp⟩
    rw [ne_eq, not_not] at htoken hactive
    rcases h with ⟨hexpired, h⟩ | ⟨hlive, h⟩
    · refine Or.inr (Or.inl ⟨lease, hmem, hid, hactive, htoken, hexpired, ?_⟩)
      simp only [expireLocked, markAccountForReverification, commits_bind, commits_update,
        commits_pure, existsAndEq, true_and] at h
      obtain ⟨-, -, rfl, rfl⟩ := h
      subst htoken hid
      exact ⟨rfl, rfl⟩
    · rw [commits_read_bind, commits_ite] at h
      rcases h with ⟨-, h⟩ | ⟨hfence, h⟩
      · obtain ⟨rfl, rfl⟩ := commits_pure.mp h
        exact Or.inl ⟨rfl, by simp⟩
      · refine Or.inr (Or.inr ⟨lease, hmem, hid, hactive, htoken, Bool.eq_false_iff.mpr hlive, ?_, h⟩)
        cases hepoch : db.accountEpoch lease.accountId with
        | none => simp [hepoch] at hfence
        | some epoch => simp_all [leaseFenceMatches]

/-- Heartbeat and release write for the current holder, or record a lapse. -/
theorem change_needs_holder {db db' : LeaseDb} (hids : (db.accounts.map TestAccount.id).Nodup)
    {leaseId : Uuid} {token : ℕ} {now : Instant} {use : AccountLease → LeaseOp LeaseMutationResult}
    {result : LeaseMutationResult} (h : Commits (withCurrentLease leaseId token now use) db result db')
    (hchange : db' ≠ db) :
    HoldsCurrent db leaseId token ∨ LapseRecorded db db' leaseId token now := by
  rcases withCurrentLease_commits h with ⟨heq, -⟩ | hlapse | hheld
  · exact absurd heq hchange
  · obtain ⟨l, hl, hid, hactive, htoken, hexpired, -, hdb⟩ := hlapse
    by_cases hepoch : db.accountEpoch l.accountId = some token
    · exact Or.inl ⟨l, hl, hid, hactive, htoken, hepoch⟩
    · refine Or.inr ⟨⟨l, hl, hid, htoken, hexpired⟩, ?_⟩
      rw [hdb]
      exact @modifyAccountAt_of_epoch_ne
        (db.modifyActiveLease leaseId (endLease .expired .ttlExpired now)) hids _ _ hepoch _
  · obtain ⟨l, hl, hid, hactive, htoken, -, hepoch, -⟩ := hheld
    exact Or.inl ⟨l, hl, hid, hactive, htoken, hepoch⟩

/-- The service around heartbeat only checks and raises. -/
theorem heartbeatLease_commits {db db' : LeaseDb} {actor : ActorContext} {leaseId : Uuid}
    {command : HeartbeatAccountLease} {now : Instant} {answer : LeaseMutationResult}
    (h : Commits (heartbeatLease actor leaseId command now) db answer db') :
    Commits (Store.heartbeat leaseId command now) db answer db' := by
  simp only [heartbeatLease, requireLeaseAccess, commits_bind, commits_read, commits_demand,
    commits_raiseIf, commits_pure] at h
  obtain ⟨_, _, ⟨_, _, ⟨-, rfl⟩, _, _, ⟨-, rfl⟩, -, rfl⟩, outcome, m, hbeat, _, _, ⟨-, rfl⟩, _, _,
    ⟨-, rfl⟩, rfl, rfl⟩ := h
  exact hbeat

theorem releaseLease_commits {db db' : LeaseDb} {actor : ActorContext} {leaseId : Uuid}
    {command : ReleaseAccountLease} {now : Instant} {answer : LeaseMutationResult}
    (h : Commits (releaseLease actor leaseId command now) db answer db') :
    Commits (Store.release leaseId command now) db answer db' := by
  simp only [releaseLease, requireLeaseAccess, commits_bind, commits_read, commits_demand,
    commits_raiseIf, commits_pure] at h
  obtain ⟨_, _, ⟨_, _, ⟨-, rfl⟩, _, _, ⟨-, rfl⟩, -, rfl⟩, outcome, m, hrelease, _, _, ⟨-, rfl⟩,
    _, _, ⟨-, rfl⟩, _, _, ⟨-, rfl⟩, rfl, rfl⟩ := h
  exact hrelease

theorem commits_of_changed {α : Type} {t : LeaseOp α} {db : LeaseDb} (h : after t db ≠ db) :
    ∃ a, Commits t db a (after t db) := by
  rcases after_eq t db with heq | hc
  · exact absurd heq h
  · exact hc

/-- AUTHORIZED names an ACTIVE lease that has not run out and carries the latest epoch. -/
theorem authorized_is_current {db db' : LeaseDb} {leaseId : Uuid} {token : ℕ} {now : Instant}
    {answer : Option AccountLease}
    (h : Commits (authorizeSensitiveUse leaseId token now) db ⟨.authorized, answer⟩ db') :
    db' = db ∧ ∃ l ∈ db.leases, answer = some l ∧ l.id = leaseId ∧ l.status = .active ∧
      leaseIsExpired l now = false ∧ l.fencingToken = token ∧
      db.accountEpoch l.accountId = some token := by
  rcases withCurrentLease_commits h with ⟨-, hkind⟩ | ⟨l, -, -, -, -, -, hkind, -⟩ | hheld
  · exact absurd rfl hkind
  · exact absurd hkind (by simp)
  · obtain ⟨l, hl, hid, hactive, htoken, hlive, hepoch, huse⟩ := hheld
    simp only [commits_pure, LeaseMutationResult.mk.injEq, true_and] at huse
    exact ⟨huse.2, l, hl, huse.1, hid, hactive, hlive, htoken, hepoch⟩

/-- Two leases of one account that carry its epoch are one lease. -/
theorem LeaseInv.eq_of_token {db : LeaseDb} (hi : LeaseInv db) {l m : AccountLease}
    (hl : l ∈ db.leases) (hm : m ∈ db.leases) (hacc : l.accountId = m.accountId)
    (htoken : l.fencingToken = m.fencingToken) : l = m := by
  obtain ⟨i, hi', rfl⟩ := List.mem_iff_getElem.mp hl
  obtain ⟨j, hj', rfl⟩ := List.mem_iff_getElem.mp hm
  have htokens := List.pairwise_iff_getElem.mp hi.tokens
  rcases Nat.lt_trichotomy i j with hij | rfl | hji
  · exact absurd htoken (htokens i j hi' hj' hij hacc).ne
  · rfl
  · exact absurd htoken (htokens j i hj' hi' hji hacc.symm).ne'

/-! ### What heartbeat and release leave alone -/

/-- Only this lease and this account may change. -/
structure Touches (leaseId accountId : Uuid) (db db' : LeaseDb) : Prop where
  leases : ∀ l, l.id ≠ leaseId → (l ∈ db'.leases ↔ l ∈ db.leases)
  accounts : ∀ a, a.id ≠ accountId → (a ∈ db'.accounts ↔ a ∈ db.accounts)
  rest : db' = { db with leases := db'.leases, accounts := db'.accounts }

section Touches

variable {leaseId accountId : Uuid}

instance : Std.Refl (Touches leaseId accountId) := ⟨fun _ => ⟨fun _ _ => Iff.rfl, fun _ _ => Iff.rfl, rfl⟩⟩

instance : IsTrans LeaseDb (Touches leaseId accountId) := ⟨fun _ _ _ h h' =>
  ⟨fun l hl => (h'.leases l hl).trans (h.leases l hl),
    fun a ha => (h'.accounts a ha).trans (h.accounts a ha), by rw [h'.rest, h.rest]⟩⟩

/-- The rows that an update by key may not reach. -/
theorem mem_map_ite {α : Type} {key : α → Uuid} {k : Uuid} {c : α → Prop} [DecidablePred c]
    {f : α → α} (hc : ∀ a, c a → key a = k) (hf : ∀ a, key (f a) = key a) {rows : List α} {a : α}
    (ha : key a ≠ k) : a ∈ (rows.map fun b => if c b then f b else b) ↔ a ∈ rows := by
  rw [List.mem_map]
  constructor
  · rintro ⟨b, hb, rfl⟩
    by_cases h : c b
    · rw [if_pos h] at ha
      exact absurd ((hf b).trans (hc b h)) ha
    · rwa [if_neg h]
  · exact fun hmem => ⟨a, hmem, if_neg fun h => ha (hc a h)⟩

theorem touches_modifyActiveLease {f : AccountLease → AccountLease} (hf : ∀ l, (f l).id = l.id) :
    Within (Touches leaseId accountId)
      (update fun db => db.modifyActiveLease leaseId f : LeaseOp Unit) :=
  Within.update fun _ => ⟨fun _ hl => mem_map_ite (fun _ h => h.1) hf hl, fun _ _ => Iff.rfl, rfl⟩

theorem touches_modifyAccountAt {epoch : ℕ} {f : TestAccount → TestAccount}
    (hf : ∀ a, (f a).id = a.id) : Within (Touches leaseId accountId)
      (update fun db => db.modifyAccountAt accountId epoch f : LeaseOp Unit) :=
  Within.update fun _ => ⟨fun _ _ => Iff.rfl, fun _ ha => mem_map_ite (fun _ h => h.1) hf ha, rfl⟩

theorem touches_expireLocked (lease : AccountLease) (now : Instant) :
    Within (Touches lease.id lease.accountId) (expireLocked lease now) :=
  Within.bind (touches_modifyActiveLease fun _ => rfl) fun _ =>
    Within.bind (touches_modifyAccountAt fun _ => rfl) fun _ => Within.pure _

theorem touches_applyRelease (lease : AccountLease) (reason : LeaseReleaseReason) (now : Instant) :
    Within (Touches lease.id lease.accountId) (applyReleaseAccountState lease reason now) := by
  unfold applyReleaseAccountState
  refine Within.ite (touches_modifyAccountAt fun _ => rfl) (Within.bind (Within.read _) fun _ => ?_)
  exact Within.ite (touches_modifyAccountAt fun _ => rfl) (touches_modifyAccountAt fun _ => rfl)

/-- What the shared checks lead to touches the named lease and its account. -/
theorem withCurrentLease_touches {db db' : LeaseDb} {leaseId : Uuid} {token : ℕ} {now : Instant}
    {use : AccountLease → LeaseOp LeaseMutationResult} {result : LeaseMutationResult}
    (huse : ∀ l, Within (Touches l.id l.accountId) (use l))
    (h : Commits (withCurrentLease leaseId token now use) db result db') :
    db' = db ∨ ∃ l ∈ db.leases, l.id = leaseId ∧ Touches leaseId l.accountId db db' := by
  unfold withCurrentLease at h
  rw [commits_read_bind] at h
  cases hfound : db.getLease leaseId with
  | none =>
    simp only [hfound, commits_pure] at h
    exact Or.inl h.2
  | some lease =>
    have hmem : lease ∈ db.leases := List.mem_of_find?_eq_some hfound
    have hid : lease.id = leaseId := by simpa using List.find?_some hfound
    rw [hfound] at h
    refine Or.inr ⟨lease, hmem, hid, ?_⟩
    have hwithin : Within (Touches lease.id lease.accountId)
        (if lease.fencingToken ≠ token then pure ⟨.fenced, some lease⟩
        else if lease.status ≠ .active then pure ⟨.terminal, some lease⟩
        else if leaseIsExpired lease now then do
          let expired ← expireLocked lease now
          pure ⟨.expired, some expired⟩
        else do
          let epoch ← read (·.accountEpoch lease.accountId)
          if !epoch.any fun e => leaseFenceMatches lease token e then pure ⟨.fenced, some lease⟩
          else use lease : LeaseOp LeaseMutationResult) :=
      Within.ite (Within.pure _) (Within.ite (Within.pure _) (Within.ite
        (Within.bind (touches_expireLocked lease now) fun _ => Within.pure _)
        (Within.bind (Within.read _) fun _ => Within.ite (Within.pure _) (huse lease))))
    rw [← hid]
    exact hwithin db result db' h

theorem heartbeat_touches {db db' : LeaseDb} {leaseId : Uuid} {command : HeartbeatAccountLease}
    {now : Instant} {result : LeaseMutationResult}
    (h : Commits (Store.heartbeat leaseId command now) db result db') :
    db' = db ∨ ∃ l ∈ db.leases, l.id = leaseId ∧ Touches leaseId l.accountId db db' := by
  refine withCurrentLease_touches (fun lease => ?_) h
  exact Within.ite (Within.bind (touches_expireLocked lease now) fun _ => Within.pure _)
    (Within.bind (touches_modifyActiveLease fun _ => rfl) fun _ => Within.pure _)

theorem release_touches {db db' : LeaseDb} {leaseId : Uuid} {command : ReleaseAccountLease}
    {now : Instant} {result : LeaseMutationResult}
    (h : Commits (Store.release leaseId command now) db result db') :
    db' = db ∨ ∃ l ∈ db.leases, l.id = leaseId ∧ Touches leaseId l.accountId db db' := by
  refine withCurrentLease_touches (fun lease => ?_) h
  exact Within.bind (touches_modifyActiveLease fun _ => rfl) fun _ =>
    Within.bind (touches_applyRelease (endLease .released command.reason now lease) _ now)
      fun _ => Within.pure _

end Touches

/-- Lease fencing in one state and from it on. -/
structure Fenced (db : LeaseDb) : Prop where
  slots : ∀ l ∈ db.leases, ∀ m ∈ db.leases, l.status = .active → m.status = .active →
    l.slotId = m.slotId → l = m
  tokens : db.leases.Pairwise fun a b => a.accountId = b.accountId → a.fencingToken < b.fencingToken
  later : ∀ db', LeaseRun db db' → ∀ l ∈ db.leases, ∀ l' ∈ db'.leases,
    (∀ m ∈ db.leases, m.id ≠ l'.id) → l'.accountId = l.accountId → l.fencingToken < l'.fencingToken
  terminal : ∀ db', LeaseRun db db' → ∀ l ∈ db.leases, l.status ≠ .active →
    db'.getLease l.id = some l
  heartbeat : ∀ actor leaseId command now,
    after (heartbeatLease actor leaseId command now) db ≠ db →
    HoldsCurrent db leaseId command.fencingToken ∨
      LapseRecorded db (after (heartbeatLease actor leaseId command now) db) leaseId
        command.fencingToken now
  release : ∀ actor leaseId command now, after (releaseLease actor leaseId command now) db ≠ db →
    HoldsCurrent db leaseId command.fencingToken ∨
      LapseRecorded db (after (releaseLease actor leaseId command now) db) leaseId
        command.fencingToken now
  releaseBound : ∀ leaseId command now, after (Store.release leaseId command now) db ≠ db →
    HoldsCurrent db leaseId command.fencingToken ∨
      LapseRecorded db (after (Store.release leaseId command now) db) leaseId
        command.fencingToken now
  /-- Heartbeat and release leave every other lease and account alone. -/
  heartbeatFrame : ∀ actor leaseId command now,
    after (heartbeatLease actor leaseId command now) db = db ∨ ∃ l ∈ db.leases, l.id = leaseId ∧
      Touches leaseId l.accountId db (after (heartbeatLease actor leaseId command now) db)
  releaseFrame : ∀ actor leaseId command now,
    after (releaseLease actor leaseId command now) db = db ∨ ∃ l ∈ db.leases, l.id = leaseId ∧
      Touches leaseId l.accountId db (after (releaseLease actor leaseId command now) db)
  authorized : ∀ leaseId token now answer db',
    Commits (authorizeSensitiveUse leaseId token now) db ⟨.authorized, answer⟩ db' →
    db' = db ∧ ∃ l ∈ db.leases, answer = some l ∧ l.id = leaseId ∧ l.status = .active ∧
      leaseIsExpired l now = false ∧ l.fencingToken = token ∧ db.accountEpoch l.accountId = some token
  authorizedOnce : ∀ leaseId token now l db₁ leaseId' token' now' l' db₂,
    Commits (authorizeSensitiveUse leaseId token now) db ⟨.authorized, some l⟩ db₁ →
    Commits (authorizeSensitiveUse leaseId' token' now') db ⟨.authorized, some l'⟩ db₂ →
    l.accountId = l'.accountId → l = l'

theorem LeaseInv.authorized_once {db db₁ db₂ : LeaseDb} (hi : LeaseInv db) {leaseId leaseId' : Uuid}
    {token token' : ℕ} {now now' : Instant} {l l' : AccountLease}
    (h : Commits (authorizeSensitiveUse leaseId token now) db ⟨.authorized, some l⟩ db₁)
    (h' : Commits (authorizeSensitiveUse leaseId' token' now') db ⟨.authorized, some l'⟩ db₂)
    (hacc : l.accountId = l'.accountId) : l = l' := by
  obtain ⟨-, a, ha, hla, -, -, -, htoken, hepoch⟩ := authorized_is_current h
  obtain ⟨-, b, hb, hlb, -, -, -, htoken', hepoch'⟩ := authorized_is_current h'
  obtain rfl := Option.some.inj hla
  obtain rfl := Option.some.inj hlb
  rw [hacc, hepoch'] at hepoch
  apply hi.eq_of_token ha hb hacc
  rw [htoken, htoken']
  exact (Option.some.inj hepoch).symm

/-- Account leases are fenced in every state that any clients reach from a platform
without leases, but for superseded leases that a heartbeat or a release records as EXPIRED. -/
theorem leases_are_fenced {db₀ db : LeaseDb} (hempty : db₀.leases = [])
    (hids : (db₀.accounts.map TestAccount.id).Nodup) (hrun : LeaseRun db₀ db) : Fenced db := by
  have hi := (leaseInv_of_fresh hempty hids).run hrun
  refine ⟨?_, hi.tokens, ?_, ?_, ?_, ?_, ?_, ?_, ?_, ?_, ?_⟩
  · intro l hl m hm hla hma hslot
    exact Table.eq_of_key hi.leaseIds hl hm (hi.slots l hl m hm hla hma hslot)
  · intro db' hrun' l hl l' hl' hnew hacc
    exact later_token_larger hrun' (hi.run hrun') hl hl' hnew hacc
  · intro db' hrun' l hl hterminal
    exact Table.find?_of_mem (hi.run hrun').leaseIds (terminal_kept hrun' hl hterminal)
  · intro actor leaseId command now hchange
    obtain ⟨answer, hc⟩ := commits_of_changed hchange
    exact change_needs_holder hi.accountIds (heartbeatLease_commits hc) hchange
  · intro actor leaseId command now hchange
    obtain ⟨answer, hc⟩ := commits_of_changed hchange
    exact change_needs_holder hi.accountIds (releaseLease_commits hc) hchange
  · intro leaseId command now hchange
    obtain ⟨answer, hc⟩ := commits_of_changed hchange
    exact change_needs_holder hi.accountIds hc hchange
  · intro actor leaseId command now
    rcases after_eq (heartbeatLease actor leaseId command now) db with hsame | ⟨answer, hc⟩
    · exact Or.inl hsame
    · exact heartbeat_touches (heartbeatLease_commits hc)
  · intro actor leaseId command now
    rcases after_eq (releaseLease actor leaseId command now) db with hsame | ⟨answer, hc⟩
    · exact Or.inl hsame
    · exact release_touches (releaseLease_commits hc)
  · intro leaseId token now answer db' hc
    exact authorized_is_current hc
  · intro leaseId token now l db₁ leaseId' token' now' l' db₂ hc hc' hacc
    exact hi.authorized_once hc hc' hacc

def operator : ActorContext := ⟨1, some 2, [⟨.runOperator, some 10⟩], false⟩

/-- One account with two slots, and no lease yet. -/
def twoSlots : LeaseDb where
  environments := [⟨20, 10, .nonProduction, .active⟩]
  roles := [⟨30, 10, "buyer", [], .active⟩]
  pools := [⟨40, 30, 20, .active, true, 300, 0⟩]
  connectors := [⟨50, 20, .active⟩]
  credentials := [⟨60, "PASSWORD", .active, none⟩]
  slots := [⟨70, 60, 0, .active⟩, ⟨71, 60, 1, .active⟩]
  accounts := [⟨60, 20, 40, 50, .active, .healthy, .ready, .inSync, none, 0, [], none, 1⟩]
  leases := []
  idempotency := []
  nextId := 100

def acquireBuyer (worker : String) : AcquireAccountLease :=
  ⟨"execution", worker, 20, "buyer", ⟨[], [], []⟩, none, seconds 600⟩

def firstLeased : LeaseDb := after (acquireLease operator (acquireBuyer "w1") "a" 1 0) twoSlots

def bothLeased : LeaseDb := after (acquireLease operator (acquireBuyer "w2") "b" 2 0) firstLeased

theorem bothLeased_run : LeaseRun twoSlots bothLeased :=
  .tail (.single (LeaseStep.acquire twoSlots operator (acquireBuyer "w1") "a" 1 0))
    (LeaseStep.acquire firstLeased operator (acquireBuyer "w2") "b" 2 0)

theorem two_slots_fenced :
    bothLeased.leases.map AccountLease.fencingToken = [1, 2] ∧ Fenced bothLeased :=
  ⟨by decide, leases_are_fenced rfl (by decide) bothLeased_run⟩

/-- The holder of slot 0 has lost the latest epoch to slot 1. Its late heartbeat still
writes: the lease is recorded as EXPIRED. -/
theorem superseded_heartbeat_changes_state :
    LeaseRun twoSlots bothLeased ∧ ¬ HoldsCurrent bothLeased 100 1 ∧
      after (heartbeatLease operator 100 ⟨1, none⟩ (seconds 360)) bothLeased ≠ bothLeased := by
  refine ⟨bothLeased_run, ?_, by decide⟩
  rintro ⟨l, hl, hid, -, -, hepoch⟩
  have hall : ∀ l ∈ bothLeased.leases, bothLeased.accountEpoch l.accountId = some 2 := by
    decide
  rw [hall l hl] at hepoch
  exact absurd (Option.some.inj hepoch) (by decide)

end Atlas.Proofs
