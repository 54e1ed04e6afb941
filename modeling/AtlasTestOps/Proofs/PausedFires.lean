import AtlasTestOps.Lib.Table
import AtlasTestOps.Proofs.ScheduleRows

/-! When a paused schedule fires. A fire is skipped when its Workflow started after the
`updated_at` of the paused row. The pause sets that column to the start of its transaction, which
lies before its commit, and every sync outcome of the paused revision that is stored later moves
it on. -/

namespace Atlas.Proofs.Schedules

open Atlas Atlas.Task Atlas.Store Atlas.Service Atlas.Orchestration Txn

/-! ### One TaskRun for a trigger -/

/-- A trigger has one run, and the response kept under a key is the run of its trigger. -/
structure LaunchInv (db : ScheduleDb) : Prop where
  unique : ∀ x ∈ db.runs, ∀ y ∈ db.runs, x.tenantId = y.tenantId →
    x.triggerFingerprint = y.triggerFingerprint → x = y
  responses : ∀ record ∈ db.launchKeys, ∀ run, record.response = some run →
    run ∈ db.runs ∧ run.tenantId = record.key.tenantId ∧
      run.triggerFingerprint = taskRunTriggerFingerprint record.requestHash.trigger

/-- The run that a trigger answers with: the stored one, if there is one. -/
structure TriggerAnswer (tenantId : Uuid) (command : TriggerTaskPlanVersionRun)
    (answer : TriggeredRun × Bool) (db db' : ScheduleDb) : Prop where
  tenant : answer.1.tenantId = tenantId
  fingerprint : answer.1.triggerFingerprint = taskRunTriggerFingerprint command.trigger
  stored : answer.1 ∈ db'.runs
  grows : db.runs ⊆ db'.runs
  replayed : ∀ x ∈ db.runs, x.tenantId = tenantId →
    x.triggerFingerprint = taskRunTriggerFingerprint command.trigger → answer.2 = true
  inv : LaunchInv db'

theorem LaunchInv.of_fewer {db : ScheduleDb} (h : LaunchInv db)
    {rows : List (IdempotencyRecord LaunchKey TriggerTaskPlanVersionRun TriggeredRun)}
    (hrows : ∀ x ∈ rows, x.response ≠ none → x ∈ db.launchKeys) :
    LaunchInv { db with launchKeys := rows } := by
  refine ⟨h.unique, fun record hr run hrun => h.responses record (hrows record hr ?_) run hrun⟩
  rw [hrun]
  simp

theorem createTriggeredRun_answer {version : PlanVersion} {command : TriggerTaskPlanVersionRun}
    {digest : Digest} {answer : TriggeredRun × Bool} {db db' : ScheduleDb} (hi : LaunchInv db)
    (h : Commits (createTriggeredRun version command.trigger digest) db answer db') :
    TriggerAnswer version.tenantId command answer db db' ∧ db'.launchKeys = db.launchKeys := by
  unfold createTriggeredRun at h
  rw [commits_read_bind] at h
  cases hfind : db.runs.find? fun r => r.tenantId = version.tenantId ∧
      r.triggerFingerprint = taskRunTriggerFingerprint command.trigger with
  | some run =>
    simp only [hfind] at h
    obtain ⟨rfl, rfl⟩ := commits_pure.1 (commits_raiseIf_bind.1 h).2
    have hkey := List.find?_some hfind
    simp only [decide_eq_true_eq] at hkey
    exact ⟨⟨hkey.1, hkey.2, List.mem_of_find?_eq_some hfind, fun _ hx => hx, fun _ _ _ _ => rfl, hi⟩,
      rfl⟩
  | none =>
    simp only [hfind] at h
    obtain ⟨id, m, hid, hinsert⟩ := commits_bind.1 h
    obtain ⟨rfl, rfl⟩ := commits_newScheduleId.1 hid
    obtain ⟨_, m', hm, hanswer⟩ := commits_bind.1 hinsert
    obtain rfl := commits_update.1 hm
    obtain ⟨rfl, rfl⟩ := commits_pure.1 hanswer
    have hnone : ∀ x ∈ db.runs, x.tenantId = version.tenantId →
        x.triggerFingerprint ≠ taskRunTriggerFingerprint command.trigger := by
      simpa using hfind
    refine ⟨⟨rfl, rfl, by simp, List.subset_append_left _ _, ?_, ?_, ?_⟩, rfl⟩
    · exact fun x hx htenant hfp => absurd hfp (hnone x hx htenant)
    · intro x hx y hy htenant hfp
      rcases List.mem_append.1 hx with hx | hx <;> rcases List.mem_append.1 hy with hy | hy
      · exact hi.unique x hx y hy htenant hfp
      · obtain rfl := List.mem_singleton.1 hy
        exact absurd hfp (hnone x hx htenant)
      · obtain rfl := List.mem_singleton.1 hx
        exact absurd hfp.symm (hnone y hy htenant.symm)
      · rw [List.mem_singleton.1 hx, List.mem_singleton.1 hy]
    · intro record hr run hrun
      obtain ⟨hmem, hkey⟩ := hi.responses record hr run hrun
      exact ⟨List.mem_append_left _ hmem, hkey⟩

theorem triggerRun_answer {actor : ActorContext} {command : TriggerTaskPlanVersionRun}
    {key : ClientMutationId} {admission : Except Fault Digest} {now : Instant}
    {answer : TriggeredRun × Bool} {db db' : ScheduleDb} (hi : LaunchInv db)
    (h : Commits (triggerRun actor command key admission now) db answer db') :
    TriggerAnswer actor.tenantId command answer db db' := by
  have hkey := (commits_raiseIf_bind.1 h).2
  rw [commits_read_bind] at hkey
  obtain ⟨version, -, hfound⟩ := commits_demand_bind.1 hkey
  obtain ⟨hvisible, hoperate⟩ := commits_raiseIf_bind.1 hfound
  have htenant : version.tenantId = actor.tenantId := by
    by_contra hne
    exact hvisible (Or.inl hne)
  have honce := (commits_raiseIf_bind.1 hoperate).2
  rcases IdempotencyTable.commits_once honce with ⟨hreplayed, rfl, record, hr, hk, hhash, hresponse⟩ |
      ⟨hnone, m, hbody, rfl⟩
  · obtain ⟨hmem, ht, hfp⟩ := hi.responses record hr _ hresponse
    refine ⟨by rw [ht, hk], by rw [hfp, hhash], hmem, fun _ hx => hx, fun _ _ _ _ => hreplayed, ?_⟩
    exact hi.of_fewer fun x hx _ => List.mem_of_mem_filter hx
  · cases admission with
    | error fault => exact absurd hbody commits_raise
    | ok digest =>
      have hcreate := (commits_raiseIf_bind.1 hbody).2
      have hreserved : LaunchInv (launches.store db (IdempotencyTable.fresh
          ⟨actor.tenantId, version.id, command.trigger.source, key⟩ now (launches.records db) ++
            [⟨⟨actor.tenantId, version.id, command.trigger.source, key⟩, command,
              now + taskLaunchIdempotencyTtl, none⟩])) := by
        refine hi.of_fewer fun x hx hresponse => ?_
        rcases List.mem_append.1 hx with hx | hx
        · exact List.mem_of_mem_filter hx
        · rw [List.mem_singleton.1 hx] at hresponse
          exact absurd rfl hresponse
      obtain ⟨hanswer, hkeys⟩ := createTriggeredRun_answer hreserved hcreate
      rw [htenant] at hanswer
      refine ⟨hanswer.tenant, hanswer.fingerprint, hanswer.stored, hanswer.grows,
        hanswer.replayed, hanswer.inv.unique, fun record hr run hrun => ?_⟩
      obtain ⟨old, hold, rfl⟩ := List.mem_map.1 hr
      by_cases hk : old.key = ⟨actor.tenantId, version.id, command.trigger.source, key⟩
      · -- the record of this request, whose response is the answer
        rw [if_pos hk] at hrun ⊢
        obtain rfl := Option.some.inj hrun
        have hhash : old.requestHash = command := by
          have hold' : old ∈ m.launchKeys := hold
          rw [hkeys] at hold'
          rcases List.mem_append.1 hold' with hfresh | hnew
          · exact absurd hk (hnone old hfresh)
          · rw [List.mem_singleton.1 hnew]
        exact ⟨hanswer.stored, by rw [hanswer.tenant, hk], by rw [hanswer.fingerprint, hhash]⟩
      · rw [if_neg hk] at hrun ⊢
        exact hanswer.inv.responses old hold run hrun

def SameLaunches (db db' : ScheduleDb) : Prop :=
  db'.runs = db.runs ∧ db'.launchKeys = db.launchKeys

instance : Std.Refl SameLaunches := ⟨fun _ => ⟨rfl, rfl⟩⟩

instance : IsTrans ScheduleDb SameLaunches :=
  ⟨fun _ _ _ h h' => ⟨h'.1.trans h.1, h'.2.trans h.2⟩⟩

/-- Events keep the runs there are, and one run for each trigger. -/
theorem launchInv_event {e : ScheduleEvent} {db db' : ScheduleDb} (hi : LaunchInv db)
    (h : Commits e.transaction db () db') : LaunchInv db' ∧ db.runs ⊆ db'.runs := by
  by_cases he : Launches e
  · cases e with
    | trigger actor command key admission now =>
      obtain ⟨answer, hc⟩ := commits_discard.1 h
      have hanswer := triggerRun_answer hi hc
      exact ⟨hanswer.inv, hanswer.grows⟩
    | launch pending admission now =>
      obtain ⟨answer, hc⟩ := commits_discard.1 h
      obtain ⟨found, m, htrigger, hpure⟩ := commits_bind.1 hc
      obtain ⟨-, rfl⟩ := commits_pure.1 hpure
      have hanswer := triggerRun_answer hi htrigger
      exact ⟨hanswer.inv, hanswer.grows⟩
    | _ => exact absurd he (by simp [Launches])
  · have hsame : SameLaunches db db' := by
      refine within_event e ⟨?_, ?_, ?_, ?_, ?_⟩ (fun _ _ _ => ⟨rfl, rfl⟩) (fun hl => absurd hl he)
        _ _ _ h
      all_goals intros; exact ⟨rfl, rfl⟩
    obtain ⟨hruns, hkeys⟩ := hsame
    refine ⟨⟨by rw [hruns]; exact hi.unique, by rw [hruns, hkeys]; exact hi.responses⟩, ?_⟩
    rw [hruns]
    exact fun _ hx => hx

theorem launchInv_apply {e : ScheduleEvent} {s : ScheduleSystem} (hi : LaunchInv s.db) :
    LaunchInv (e.apply s).db ∧ s.db.runs ⊆ (e.apply s).db.runs := by
  rw [ScheduleEvent.apply_db]
  rcases after_eq e.transaction s.db with heq | ⟨u, hc⟩
  · rw [heq]
    exact ⟨hi, fun _ hx => hx⟩
  · exact launchInv_event hi hc

theorem launchInv_run {s s' : ScheduleSystem} {events : List ScheduleEvent}
    (hrun : ScheduleRun s events s') (hi : LaunchInv s.db) :
    LaunchInv s'.db ∧ s.db.runs ⊆ s'.db.runs := by
  refine hrun.keeps (I := fun t => LaunchInv t.db ∧ s.db.runs ⊆ t.db.runs) ?_
    ⟨hi, fun _ hx => hx⟩
  intro e t _ _ ⟨ht, hsub⟩
  obtain ⟨ht', hgrows⟩ := launchInv_apply (e := e) ht
  exact ⟨ht', fun _ hx => hgrows (hsub hx)⟩

/-- The run is the only one of its trigger, and the launch that made it replays it. -/
structure LaunchedAs (s : ScheduleSystem) (pending : ScheduleLaunch) (run : TriggeredRun) : Prop where
  stored : run ∈ s.db.runs
  fingerprint : run.triggerFingerprint = taskRunTriggerFingerprint pending.command.trigger
  only : ∀ x ∈ s.db.runs, x.tenantId = run.tenantId →
    x.triggerFingerprint = run.triggerFingerprint → x = run
  again : ∀ admission now answer db', Commits (runLaunch pending admission now) s.db answer db' →
    answer = (.replayed, run)

/-- Once a launch has committed, in all that follows there is one run for it. -/
def LaunchedOnce (s : ScheduleSystem) (pending : ScheduleLaunch) : Prop :=
  ∀ events s', ScheduleRun s events s' → ∀ admission now answer db',
    Commits (runLaunch pending admission now) s'.db answer db' →
    ∀ events' s'', ScheduleRun ((ScheduleEvent.launch pending admission now).apply s') events' s'' →
      LaunchedAs s'' pending answer.2

theorem runLaunch_answer {pending : ScheduleLaunch} {admission : Except Fault Digest}
    {now : Instant} {answer : TaskScheduleFireStatus × TriggeredRun} {db db' : ScheduleDb}
    (hi : LaunchInv db) (h : Commits (runLaunch pending admission now) db answer db') :
    ∃ replayed, answer.1 = (if replayed then .replayed else .created) ∧
      TriggerAnswer pending.actor.tenantId pending.command (answer.2, replayed) db db' := by
  obtain ⟨found, m, htrigger, hpure⟩ := commits_bind.1 h
  obtain ⟨rfl, rfl⟩ := commits_pure.1 hpure
  exact ⟨found.2, rfl, triggerRun_answer hi htrigger⟩

theorem launchedOnce {s : ScheduleSystem} (hi : LaunchInv s.db) (pending : ScheduleLaunch) :
    LaunchedOnce s pending := by
  intro events s' hrun admission now answer db' h events' s'' hrun'
  obtain ⟨replayed, -, hanswer⟩ := runLaunch_answer (launchInv_run hrun hi).1 h
  have hdb : ((ScheduleEvent.launch pending admission now).apply s').db = db' := by
    have hc : Commits (ScheduleEvent.launch pending admission now).transaction s'.db () db' :=
      commits_discard.2 ⟨answer, h⟩
    exact after_of_commits hc
  obtain ⟨hinv, hgrows⟩ := launchInv_run hrun' (by rw [hdb]; exact hanswer.inv)
  have hstored : answer.2 ∈ s''.db.runs := hgrows (by rw [hdb]; exact hanswer.stored)
  refine ⟨hstored, hanswer.fingerprint, fun x hx => hinv.unique x hx _ hstored, ?_⟩
  intro admission' now' answer' db'' h'
  obtain ⟨replayed', hstatus, hagain⟩ := runLaunch_answer hinv h'
  have hreplayed : replayed' = true := hagain.replayed _ hstored hanswer.tenant hanswer.fingerprint
  have hsame : answer'.2 = answer.2 :=
    hagain.inv.unique _ hagain.stored _ (hagain.grows hstored) (hagain.tenant.trans hanswer.tenant.symm)
      (hagain.fingerprint.trans hanswer.fingerprint.symm)
  rw [hreplayed, if_pos rfl] at hstatus
  exact Prod.ext hstatus hsame

/-! ### The row of a schedule over a run -/

/-- Identities are distinct and below the next one; no row is ahead of the clock. -/
structure ScheduleRowsInv (s : ScheduleSystem) : Prop where
  ids : (s.db.schedules.map TaskSchedule.id).Nodup
  below : ∀ r ∈ s.db.schedules, r.id < s.db.nextId
  clock : ∀ r ∈ s.db.schedules, r.updatedAt ≤ s.clock

theorem storesOutcome_of_raises {e : ScheduleEvent} {db : ScheduleDb} {fault : Fault}
    (h : e.transaction db = .error fault) (r : TaskSchedule) : storesOutcome e db r = false := by
  cases e with
  | settle worker now =>
    simp only [storesOutcome]
    cases hs : settleSync worker now db with
    | error fault' => rfl
    | ok answer =>
      have hc : Commits (ScheduleEvent.settle worker now).transaction db () answer.2 :=
        commits_discard.2 ⟨answer.1, hs⟩
      rw [Commits, h] at hc
      cases hc
  | _ => rfl

theorem rowsAfter_apply (e : ScheduleEvent) (s : ScheduleSystem) :
    RowsAfter e s.db (e.apply s).db ∧ IntentsKept s.db (e.apply s).db := by
  rw [ScheduleEvent.apply_db]
  cases h : e.transaction s.db with
  | error fault =>
    rw [after_of_raises h]
    exact ⟨rowsAfter_of_same (storesOutcome_of_raises h) rfl, Std.Refl.refl _⟩
  | ok answer =>
    have hc : Commits e.transaction s.db () answer.2 := h
    rw [after_of_commits hc]
    exact ⟨rows_event hc, intentsKept_event hc⟩

theorem RowMove.updatedAt_le {e : ScheduleEvent} {s : ScheduleSystem} {r r' : TaskSchedule}
    (h : RowMove e s.db r r') (hr : r.updatedAt ≤ s.clock) : r'.updatedAt ≤ (e.apply s).clock := by
  have hclock : (e.apply s).clock = max s.clock (e.time.getD 0) := rfl
  cases h with
  | kept => exact hclock ▸ hr.trans (le_max_left _ _)
  | moved status reason updatedBy time hstatus htime =>
    show time ≤ _
    rcases htime with rfl | rfl
    · exact hclock ▸ le_max_right _ _
    · exact hclock ▸ max_le_max hr (le_refl _)
  | recorded h worker now f he hf =>
    subst he
    exact max_le_max hr (le_refl _)

theorem ScheduleRowsInv.step {s : ScheduleSystem} (hi : ScheduleRowsInv s) (e : ScheduleEvent) :
    ScheduleRowsInv (e.apply s) := by
  obtain ⟨⟨rows, added, hrows, hmoves, hadded⟩, hkept⟩ := rowsAfter_apply e s
  have hids : rows.map TaskSchedule.id = s.db.schedules.map TaskSchedule.id :=
    Table.map_eq_of_forall₂ (fun _ _ h => h.id.1) hmoves
  have hold : ∀ r' ∈ rows, ∃ r ∈ s.db.schedules, RowMove e s.db r r' := fun r' hr' =>
    Table.exists_left_of_forall₂ hmoves hr'
  have hclock : ∀ r' ∈ rows, r'.updatedAt ≤ (e.apply s).clock := fun r' hr' => by
    obtain ⟨r, hr, hmove⟩ := hold r' hr'
    exact hmove.updatedAt_le (hi.clock r hr)
  have hbelow : ∀ r' ∈ rows, r'.id < (e.apply s).db.nextId := fun r' hr' => by
    obtain ⟨r, hr, hmove⟩ := hold r' hr'
    rw [hmove.id.1]
    exact Nat.lt_of_lt_of_le (hi.below r hr) hkept.nextId
  rcases hadded with rfl | ⟨new, rfl, hnew, hlt⟩
  · rw [List.append_nil] at hrows
    exact ⟨by rw [hrows, hids]; exact hi.ids, by rw [hrows]; exact hbelow, by rw [hrows]; exact hclock⟩
  · refine ⟨?_, ?_, ?_⟩
    · rw [hrows, List.map_append, hids, List.nodup_append]
      refine ⟨hi.ids, by simp, fun a ha b hb => ?_⟩
      obtain ⟨r, hr, rfl⟩ := List.mem_map.1 ha
      obtain ⟨x, hx, rfl⟩ := List.mem_map.1 hb
      rw [List.mem_singleton.1 hx, hnew.id]
      exact Nat.ne_of_lt (hi.below r hr)
    · rw [hrows]
      intro r hr
      rcases List.mem_append.1 hr with hr | hr
      · exact hbelow r hr
      · rw [List.mem_singleton.1 hr, hnew.id]
        exact hlt
    · rw [hrows]
      intro r hr
      rcases List.mem_append.1 hr with hr | hr
      · exact hclock r hr
      · rw [List.mem_singleton.1 hr, hnew.updatedAt]
        exact le_max_right _ _

theorem scheduleRowsInv_run {s s' : ScheduleSystem} {events : List ScheduleEvent}
    (hrun : ScheduleRun s events s') (hi : ScheduleRowsInv s) : ScheduleRowsInv s' :=
  hrun.keeps (fun e _ _ _ h => h.step e) hi

theorem scheduleRowsInv_of_fresh {s : ScheduleSystem} (h : s.Fresh) : ScheduleRowsInv s := by
  constructor <;> simp [h.schedules]

/-- The row under an identity moves as rows do. -/
theorem getSchedule_apply {s : ScheduleSystem} (hi : ScheduleRowsInv s) (e : ScheduleEvent)
    {k : Uuid} {r : TaskSchedule} (h : s.db.getSchedule k = some r) :
    ∃ r', (e.apply s).db.getSchedule k = some r' ∧ RowMove e s.db r r' := by
  have hr := List.mem_of_find?_eq_some h
  have hk : r.id = k := by simpa using List.find?_some h
  obtain ⟨⟨rows, added, hrows, hmoves, -⟩, -⟩ := rowsAfter_apply e s
  obtain ⟨r', hr', hmove⟩ := Table.exists_right_of_forall₂ hmoves hr
  refine ⟨r', ?_, hmove⟩
  have hmem : r' ∈ (e.apply s).db.schedules := by
    rw [hrows]
    exact List.mem_append_left _ hr'
  have hfind := Table.find?_of_mem (hi.step e).ids hmem
  rwa [hmove.id.1, hk] at hfind

/-! ### A pause and what follows it -/

/-- When outcomes of the schedule's revision are stored along a run. -/
def outcomeTimes (k : Uuid) : List ScheduleEvent → ScheduleSystem → List Instant
  | [], _ => []
  | e :: events, s =>
    if (s.db.getSchedule k).any (storesOutcome e s.db) then
      e.time.getD 0 :: outcomeTimes k events (e.apply s)
    else outcomeTimes k events (e.apply s)

/-- The latest of some times. -/
def latest (p : Instant) : List Instant → Instant
  | [] => p
  | m :: times => latest (max p m) times

theorem latest_lt {t : Instant} {times : List Instant} {p : Instant} :
    latest p times < t ↔ p < t ∧ ∀ m ∈ times, m < t := by
  induction times generalizing p with
  | nil => simp [latest]
  | cons m times ih =>
    simp only [latest, ih, max_lt_iff, List.forall_mem_cons]
    tauto

/-- At one revision the row keeps its status, and its `updated_at` follows the outcomes. -/
theorem row_run {s s' : ScheduleSystem} {events : List ScheduleEvent}
    (hrun : ScheduleRun s events s') (hi : ScheduleRowsInv s) {k : Uuid} {r : TaskSchedule}
    (hr : s.db.getSchedule k = some r) :
    ∃ r', s'.db.getSchedule k = some r' ∧ r.revision ≤ r'.revision ∧
      (r'.revision = r.revision → r'.status = r.status ∧
        r'.updatedAt = latest r.updatedAt (outcomeTimes k events s)) := by
  induction hrun generalizing r with
  | refl => exact ⟨r, hr, Nat.le_refl _, fun _ => ⟨rfl, rfl⟩⟩
  | @head s s' e events henabled hrest ih =>
    obtain ⟨m, hm, hmove⟩ := getSchedule_apply hi e hr
    obtain ⟨r', hr', hle, hsame⟩ := ih (hi.step e) hm
    simp only [outcomeTimes, hr, Option.any_some]
    cases hmove with
    | kept h =>
      simp only [h, Bool.false_eq_true, if_false]
      exact ⟨r', hr', hle, hsame⟩
    | moved status reason updatedBy time hstatus htime =>
      have hrev : r.revision + 1 ≤ r'.revision := hle
      exact ⟨r', hr', by omega, fun h => absurd h (by omega)⟩
    | recorded h worker now f he hf =>
      have hsaved : (f r).revision = r.revision ∧ (f r).status = r.status := by
        cases hf <;> exact ⟨rfl, rfl⟩
      simp only [h, if_true]
      refine ⟨r', hr', hsaved.1 ▸ hle, fun hrev => ?_⟩
      obtain ⟨hstatus, htime⟩ := hsame (hrev.trans hsaved.1.symm)
      refine ⟨hstatus.trans hsaved.2, ?_⟩
      rw [htime, he]
      rfl

/-- The schedule was paused, with `updated_at` set to `u`, has been since, and is now `r`. The pause
committed at `p`: no transaction that committed by then began later. -/
structure PausedSince (k : Uuid) (p u : Instant) (events : List ScheduleEvent)
    (paused s : ScheduleSystem) (r : TaskSchedule) : Prop where
  history : ∃ s₀ before s₁ e r₁ r₂, ScheduleSystem.Fresh s₀ ∧ ScheduleRun s₀ before s₁ ∧
    ScheduleEvent.Enabled s₁ e ∧ paused = e.apply s₁ ∧
    s₁.db.getSchedule k = some r₁ ∧ r₁.status = .active ∧
    paused.db.getSchedule k = some r₂ ∧ r₂.status = .paused ∧ r₂.updatedAt = u ∧
    r.revision = r₂.revision
  committed : paused.clock ≤ p
  since : ScheduleRun paused events s
  row : s.db.getSchedule k = some r

theorem PausedSince.updatedAt {k : Uuid} {p u : Instant} {events : List ScheduleEvent}
    {paused s : ScheduleSystem} {r : TaskSchedule} (h : PausedSince k p u events paused s r) :
    u ≤ p ∧ r.status = .paused ∧ r.updatedAt = latest u (outcomeTimes k events paused) := by
  obtain ⟨s₀, before, s₁, e, r₁, r₂, hfresh, hbefore, -, rfl, -, -, hr₂, hpaused, rfl, hrev⟩ := h.history
  have hi := (scheduleRowsInv_run hbefore (scheduleRowsInv_of_fresh hfresh)).step e
  obtain ⟨r', hr', -, hsame⟩ := row_run h.since hi hr₂
  obtain rfl := Option.some.inj (h.row.symm.trans hr')
  obtain ⟨hstatus, hupdated⟩ := hsame hrev
  exact ⟨(hi.clock r₂ (List.mem_of_find?_eq_some hr₂)).trans h.committed, hstatus.trans hpaused, hupdated⟩

/-! ### Fires of a paused schedule -/

/-- The request is of this schedule. -/
structure FireOf (r : TaskSchedule) (request : TaskScheduleFireRequest) : Prop where
  tenantId : request.tenantId = r.tenantId
  projectId : request.projectId = r.projectId
  taskScheduleId : request.taskScheduleId = r.id
  contentDigest : request.contentDigest = r.contentDigest

/-- A fire that started after the pause is skipped and leaves nothing to launch; one that did
not is launched, once. -/
structure HonoursPause (p : Instant) (s : ScheduleSystem) (r : TaskSchedule)
    (request : TaskScheduleFireRequest) : Prop where
  later : p < request.workflowStartedAtUtc →
    Commits (fireDecision request) s.db .skippedPaused s.db ∧
      ∀ now, ((ScheduleEvent.fire request now).apply s).db = s.db ∧
        ((ScheduleEvent.fire request now).apply s).fires = s.fires
  earlier : request.workflowStartedAtUtc ≤ p →
    Commits (fireDecision request) s.db (.launch (fireLaunch r request.scheduledFireTimeUtc)) s.db ∧
      LaunchedOnce s (fireLaunch r request.scheduledFireTimeUtc)

/-- The decision of a fire, by the status and the `updated_at` of the row. -/
theorem commits_fireDecision {db : ScheduleDb} {r : TaskSchedule} {request : TaskScheduleFireRequest}
    (hr : db.getSchedule request.taskScheduleId = some r) (hmatch : FireOf r request) :
    Commits (fireDecision request) db
      (if r.status = .paused ∧ r.updatedAt < request.workflowStartedAtUtc then .skippedPaused
        else .launch (fireLaunch r request.scheduledFireTimeUtc)) db := by
  unfold fireDecision
  rw [commits_read_bind, commits_demand_bind]
  refine ⟨r, hr, commits_raiseIf_bind.2 ⟨?_, ?_⟩⟩
  · simp [hmatch.tenantId, hmatch.projectId, hmatch.contentDigest]
  · split <;> exact commits_pure.2 ⟨rfl, rfl⟩

theorem PausedSince.launchInv {k : Uuid} {p u : Instant} {events : List ScheduleEvent}
    {paused s : ScheduleSystem} {r : TaskSchedule} (h : PausedSince k p u events paused s r) :
    LaunchInv s.db := by
  obtain ⟨s₀, before, s₁, e, r₁, r₂, hfresh, hbefore, -, rfl, -⟩ := h.history
  have hstart : LaunchInv s₀.db := by
    constructor <;> simp [hfresh.runs, hfresh.launchKeys]
  exact (launchInv_run h.since (launchInv_apply (launchInv_run hbefore hstart).1).1).1

/-- A skipped fire leaves nothing to launch. -/
theorem fire_apply_of_skipped {s : ScheduleSystem} {request : TaskScheduleFireRequest}
    (h : Commits (fireDecision request) s.db .skippedPaused s.db) (now : Instant) :
    ((ScheduleEvent.fire request now).apply s).db = s.db ∧
      ((ScheduleEvent.fire request now).apply s).fires = s.fires := by
  refine ⟨?_, ?_⟩
  · have hc : Commits (ScheduleEvent.fire request now).transaction s.db () s.db :=
      commits_discard.2 ⟨_, h⟩
    exact after_of_commits hc
  · show ((ScheduleEvent.fire request now).outside s).fires = s.fires
    simp only [ScheduleEvent.outside, show fireDecision request s.db = _ from h]

/-- The pause is honoured by exactly the fires that started after its commit and after the start of
every outcome stored since, and by those that started before its commit but not after its own start
and that of every such outcome. -/
theorem pause_honoured_iff {k : Uuid} {p u : Instant} {events : List ScheduleEvent}
    {paused s : ScheduleSystem} {r : TaskSchedule} (h : PausedSince k p u events paused s r)
    {request : TaskScheduleFireRequest} (hmatch : FireOf r request) :
    HonoursPause p s r request ↔
      (p < request.workflowStartedAtUtc ∧
        ∀ m ∈ outcomeTimes k events paused, m < request.workflowStartedAtUtc) ∨
      (request.workflowStartedAtUtc ≤ p ∧ (request.workflowStartedAtUtc ≤ u ∨
        ∃ m ∈ outcomeTimes k events paused, request.workflowStartedAtUtc ≤ m)) := by
  obtain ⟨hup, hstatus, hupdated⟩ := h.updatedAt
  have hk : r.id = k := by simpa using List.find?_some h.row
  have hdecision := commits_fireDecision (by rw [hmatch.taskScheduleId, hk]; exact h.row) hmatch
  simp only [hstatus, hupdated, true_and, latest_lt] at hdecision
  -- What the code compares: the start of the pause and of every outcome.
  have hskips : (u < request.workflowStartedAtUtc ∧
      ∀ m ∈ outcomeTimes k events paused, m < request.workflowStartedAtUtc) ↔
      ¬ (request.workflowStartedAtUtc ≤ u ∨
        ∃ m ∈ outcomeTimes k events paused, request.workflowStartedAtUtc ≤ m) := by
    simp only [not_or, not_le, not_exists, not_and]
  rcases lt_or_ge p request.workflowStartedAtUtc with hlate | hearly
  · have hu : u < request.workflowStartedAtUtc := hup.trans_lt hlate
    simp only [hlate, true_and, not_le.2 hlate, false_and, or_false]
    constructor
    · intro hhonours
      by_contra hstored
      rw [if_neg fun hboth => hstored hboth.2] at hdecision
      cases ((hhonours.later hlate).1.unique hdecision).1
    · intro hstored
      rw [if_pos ⟨hu, hstored⟩] at hdecision
      exact ⟨fun _ => ⟨hdecision, fire_apply_of_skipped hdecision⟩, fun hle => absurd hlate (not_lt.2 hle)⟩
  · simp only [hearly, true_and, not_lt.2 hearly, false_and, false_or]
    constructor
    · intro hhonours
      by_contra hafter
      rw [if_pos (hskips.2 hafter)] at hdecision
      cases ((hhonours.earlier hearly).1.unique hdecision).1
    · intro hbefore
      rw [if_neg fun hboth => hskips.1 hboth hbefore] at hdecision
      exact ⟨fun hlt => absurd hlt (not_lt.2 hearly), fun _ => ⟨hdecision, launchedOnce h.launchInv _⟩⟩

/-! ### A nightly schedule whose pause is synchronized -/

def nightlyService : ScheduleService where
  temporalNamespace := "atlas"
  contentDigest _ _ _ := 7
  nextFireTimes _ _ now := .ok [now + seconds 60]

def nightlyCommand : CreateTaskSchedule where
  scheduleKey := "nightly"
  calendar := ⟨[0], [2], [], [], []⟩
  timeZoneName := "UTC"
  overlapPolicy := .skip
  catchupPolicy := .skip
  catchupWindowSeconds := 60
  jitterSeconds := 0
  iterationId := none
  retryPolicy := 3
  clientMutationId := "create"

def nightlyOperator : ActorContext := ⟨1, some 2, [⟨.runOperator, some 10⟩], false⟩

def nightlyDispatcher : SyncConsumer where
  dispatcherId := "d1"
  temporalNamespace := "atlas"
  batchSize := 10
  leaseSeconds := 30
  retryPolicy := ⟨8, 5000, 300000, 2⟩
  rpcAttempts := 3

def noSchedules : ScheduleSystem where
  db :=
    { versions := [⟨20, 1, 10, [30], some 3, true⟩], environments := [⟨30, 1, 10, .nonProduction⟩]
      schedules := [], intents := [], runs := [], commandKeys := [], launchKeys := [], nextId := 100 }
  temporal := []
  workers := []
  calls := []
  fires := []
  nextCall := 0
  clock := 0

theorem noSchedules_fresh : noSchedules.Fresh := by constructor <;> rfl

def createNightly : ScheduleEvent :=
  .create nightlyService nightlyOperator 20 nightlyCommand "create" 0

/-- Schedule 100 with the intent 101 of its first revision. -/
def nightlyCreated : ScheduleSystem := createNightly.apply noSchedules

def pauseNightly : ScheduleEvent := .pause nightlyOperator 100 ⟨"holiday", "pause"⟩ 1 "pause" 10

def nightlyPaused : ScheduleSystem := pauseNightly.apply nightlyCreated

def nightlyClaimed : ScheduleSystem := (ScheduleEvent.claim nightlyDispatcher 20).apply nightlyPaused

def nightlyWorker : SyncWorker :=
  { consumer := nightlyDispatcher
    claim := (nightlyClaimed.db.claimedIntent 102).get (by decide)
    attempt := 0, phase := .starting }

/-- The dispatcher's later phases. -/
def nightlyWorkerIn (phase : SyncPhase) : SyncWorker := { nightlyWorker with phase := phase }

def nightlyFires : List Instant := [60, 120, 180, 240, 300]

/-- The pause is delivered at 30: the Temporal Schedule is created paused. -/
def deliverPause : List ScheduleEvent :=
  [.claim nightlyDispatcher 20, .sendCreate nightlyWorker, .execute (createCall 0 nightlyWorker.claim),
    .answered (nightlyWorkerIn (.creating 0)), .describe (nightlyWorkerIn .holding) nightlyFires,
    .compare (nightlyWorkerIn (.described true nightlyFires)),
    .settle (nightlyWorkerIn (.applied nightlyFires)) 30]

def nightlyDelivered : ScheduleSystem := runAll deliverPause nightlyPaused

/-- A fire whose Workflow started at the time. -/
def nightlyFire (startedAt : Instant) : TaskScheduleFireRequest := ⟨1, 10, 100, 7, 15, startedAt⟩

theorem nightlyCreated_run : ScheduleRun noSchedules [createNightly] nightlyCreated :=
  .head trivial (.refl _)

theorem deliverPause_run : ScheduleRun nightlyPaused deliverPause nightlyDelivered :=
  .of_enabled (by decide)

/-- The row of the nightly schedule in a system. -/
def nightlyRow (s : ScheduleSystem) (h : (s.db.getSchedule 100).isSome) : TaskSchedule :=
  (s.db.getSchedule 100).get h

/-- The pause began at 10 and committed at 12. -/
theorem nightly_paused_since {events : List ScheduleEvent} {s : ScheduleSystem}
    (hrun : ScheduleRun nightlyPaused events s) (h : (s.db.getSchedule 100).isSome)
    (hrev : (nightlyRow s h).revision = 2) :
    PausedSince 100 12 10 events nightlyPaused s (nightlyRow s h) where
  history :=
    ⟨noSchedules, [createNightly], nightlyCreated, pauseNightly,
      nightlyRow nightlyCreated (by decide), nightlyRow nightlyPaused (by decide),
      noSchedules_fresh, nightlyCreated_run, trivial, rfl, by decide,
      by decide, by decide, by decide, by decide, hrev.trans (by decide)⟩
  committed := by decide
  since := hrun
  row := by simp [nightlyRow]

theorem nightlyPaused_some : (nightlyPaused.db.getSchedule 100).isSome := by decide

theorem nightlyDelivered_some : (nightlyDelivered.db.getSchedule 100).isSome := by decide

theorem nightlyFire_of {r : TaskSchedule} (h : FireOf r (nightlyFire 0)) (startedAt : Instant) :
    FireOf r (nightlyFire startedAt) :=
  ⟨h.tenantId, h.projectId, h.taskScheduleId, h.contentDigest⟩

theorem nightlyFire_of_paused (startedAt : Instant) :
    FireOf (nightlyRow nightlyPaused nightlyPaused_some) (nightlyFire startedAt) :=
  nightlyFire_of ⟨by decide, by decide, by decide, by decide⟩ startedAt

theorem nightlyFire_of_delivered (startedAt : Instant) :
    FireOf (nightlyRow nightlyDelivered nightlyDelivered_some) (nightlyFire startedAt) :=
  nightlyFire_of ⟨by decide, by decide, by decide, by decide⟩ startedAt

/-- A fire that starts at 25, after the pause has committed at 12, is launched: the outcome of
delivering the pause was stored at 30. One that starts at 11, before that commit, is skipped: the
pause had begun at 10. -/
theorem fire_after_pause_launched :
    (∃ k p u events paused s r request, PausedSince k p u events paused s r ∧ FireOf r request ∧
      p < request.workflowStartedAtUtc ∧
      Commits (fireDecision request) s.db (.launch (fireLaunch r request.scheduledFireTimeUtc)) s.db ∧
      ¬ HonoursPause p s r request) ∧
    ∃ k p u paused r request, PausedSince k p u [] paused paused r ∧ FireOf r request ∧
      request.workflowStartedAtUtc ≤ p ∧
      Commits (fireDecision request) paused.db .skippedPaused paused.db ∧
      ¬ HonoursPause p paused r request := by
  constructor
  · have hpaused := nightly_paused_since deliverPause_run nightlyDelivered_some (by decide)
    have hlaunch := commits_fireDecision hpaused.row (nightlyFire_of_delivered 25)
    rw [if_neg (by decide)] at hlaunch
    refine ⟨100, 12, 10, deliverPause, nightlyPaused, nightlyDelivered, _, nightlyFire 25, hpaused,
      nightlyFire_of_delivered 25, by decide, hlaunch, fun hhonours => ?_⟩
    cases ((hhonours.later (by decide)).1.unique hlaunch).1
  · have hpaused := nightly_paused_since (.refl nightlyPaused) nightlyPaused_some (by decide)
    have hskipped := commits_fireDecision hpaused.row (nightlyFire_of_paused 11)
    rw [if_pos (by decide)] at hskipped
    refine ⟨100, 12, 10, nightlyPaused, _, nightlyFire 11, hpaused, nightlyFire_of_paused 11,
      by decide, hskipped, fun hhonours => ?_⟩
    cases ((hhonours.earlier (by decide)).1.unique hskipped).1

/-- A fire that starts before the pause began is launched; one that starts after the pause was
delivered is skipped. -/
theorem nightly_pause_honoured :
    HonoursPause 12 nightlyPaused (nightlyRow nightlyPaused nightlyPaused_some) (nightlyFire 9) ∧
      HonoursPause 12 nightlyDelivered (nightlyRow nightlyDelivered nightlyDelivered_some)
        (nightlyFire 40) := by
  have hpaused := nightly_paused_since (.refl nightlyPaused) nightlyPaused_some (by decide)
  have hdelivered := nightly_paused_since deliverPause_run nightlyDelivered_some (by decide)
  exact ⟨(pause_honoured_iff hpaused (nightlyFire_of_paused 9)).2 (.inr (by decide)),
    (pause_honoured_iff hdelivered (nightlyFire_of_delivered 40)).2 (.inl (by decide))⟩

end Atlas.Proofs.Schedules
