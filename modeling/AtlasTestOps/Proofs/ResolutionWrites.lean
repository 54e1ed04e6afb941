import AtlasTestOps.Service.Projection

/-! What a committed call of `resolve_unit` or `close_without_seal` has done: every source
of a resolution is a stored terminal fact of a closed Attempt of the Unit. -/

namespace Atlas.Proofs

open Atlas Atlas.Task Atlas.Result Atlas.Store Atlas.Service Txn

variable {H : ResultHashes} {db db' : Db} {unit : ExecutionUnit} {attempt : UnitAttempt}
  {createdAt : Instant}

/-- The source repeats one stored terminal fact of its Attempt. -/
inductive FactOf (seals : List AttemptSeal) (closures : List AttemptClosureNotice)
    (source : ResolutionSource) : Prop
  | attemptSeal (fact : AttemptSeal) (stored : fact ∈ seals)
      (scope : fact.toUnitScope = source.attempt.toUnitScope)
      (names : fact.unitAttemptId = source.attempt.id)
      (kind : source.factKind = .attemptSeal) (id : source.factId = fact.sealId)
      (axes : source.toResultAxes = fact.toResultAxes)
      (verdict : source.effectiveVerdict = effectiveVerdict fact)
  | closureNotice (notice : AttemptClosureNotice) (stored : notice ∈ closures)
      (scope : notice.toUnitScope = source.attempt.toUnitScope)
      (names : notice.unitAttemptId = source.attempt.id)
      (kind : source.factKind = .closureNotice) (id : source.factId = notice.id)
      (axes : source.toResultAxes = notice.toResultAxes)
      (verdict : source.effectiveVerdict = notice.verdict)

theorem FactOf.mono {seals seals' : List AttemptSeal} {closures closures' : List AttemptClosureNotice}
    {source : ResolutionSource} (h : FactOf seals closures source) (hs : seals ⊆ seals')
    (hc : closures ⊆ closures') : FactOf seals' closures' source := by
  cases h with
  | attemptSeal fact stored scope names kind id axes verdict =>
    exact .attemptSeal fact (hs stored) scope names kind id axes verdict
  | closureNotice notice stored scope names kind id axes verdict =>
    exact .closureNotice notice (hc stored) scope names kind id axes verdict

theorem sourceFromSeal_commits {fact : AttemptSeal} {source : ResolutionSource}
    (h : Commits (sourceFromSeal attempt fact) db source db') {seals : List AttemptSeal}
    {closures : List AttemptClosureNotice} (hstored : fact ∈ seals) :
    FactOf seals closures source ∧ source.attempt = attempt ∧ db' = db := by
  simp only [sourceFromSeal, commits_bind, commits_raiseIf, commits_pure, not_or, not_not] at h
  obtain ⟨_, _, ⟨⟨hscope, hnames⟩, rfl⟩, rfl, rfl⟩ := h
  exact ⟨.attemptSeal fact hstored hscope hnames rfl rfl rfl rfl, rfl, rfl⟩

theorem requireExactClosure_commits {notice : AttemptClosureNotice}
    {sourceStatus : AttemptClosureSourceStatus} {closureReason : String} {u : Unit}
    (h : Commits (requireExactClosure notice attempt sourceStatus closureReason) db u db') :
    notice.toUnitScope = attempt.toUnitScope ∧ notice.unitAttemptId = attempt.id ∧ db' = db := by
  simp only [requireExactClosure, requireClosureSource, commits_bind, commits_raiseIf, not_or,
    not_not] at h
  obtain ⟨_, _, ⟨-, rfl⟩, ⟨hscope, hnames, -⟩, rfl⟩ := h
  exact ⟨hscope, hnames, rfl⟩

theorem sourceFromClosure_commits {notice : AttemptClosureNotice} {source : ResolutionSource}
    (h : Commits (sourceFromClosure attempt notice) db source db') {seals : List AttemptSeal}
    {closures : List AttemptClosureNotice} (hstored : notice ∈ closures) :
    FactOf seals closures source ∧ source.attempt = attempt ∧ db' = db := by
  simp only [sourceFromClosure, commits_bind, commits_pure] at h
  obtain ⟨_, _, hexact, rfl, rfl⟩ := h
  obtain ⟨hscope, hnames, rfl⟩ := requireExactClosure_commits hexact
  exact ⟨.closureNotice notice hstored hscope hnames rfl rfl rfl rfl, rfl, rfl⟩

theorem terminalSource_commits {seals : List AttemptSeal} {closures : List AttemptClosureNotice}
    {source : ResolutionSource}
    (h : Commits (terminalSource seals closures attempt) db source db') :
    FactOf seals closures source ∧ source.attempt = attempt ∧ db' = db := by
  cases hseal : seals.find? fun s => decide (s.unitAttemptId = attempt.id) with
  | some fact =>
    cases hclosure : closures.find? fun n => decide (n.unitAttemptId = attempt.id) with
    | some notice => simp [terminalSource, hseal, hclosure] at h
    | none =>
      simp only [terminalSource, hseal, hclosure] at h
      exact sourceFromSeal_commits h (List.mem_of_find?_eq_some hseal)
  | none =>
    cases hclosure : closures.find? fun n => decide (n.unitAttemptId = attempt.id) with
    | some notice =>
      simp only [terminalSource, hseal, hclosure] at h
      exact sourceFromClosure_commits h (List.mem_of_find?_eq_some hclosure)
    | none => simp [terminalSource, hseal, hclosure] at h

/-- The sources of a Unit are its closed Attempts in order, each with a terminal fact. -/
theorem collectSources_commits {seals : List AttemptSeal} {closures : List AttemptClosureNotice}
    {attempts : List UnitAttempt} {sources : List ResolutionSource}
    (h : Commits (collectSources unit seals closures attempts) db sources db') :
    (sources.map fun s => s.attempt) = attempts.filter (fun a => a.lifecycle = .closed) ∧
      (∀ s ∈ sources, FactOf seals closures s ∧ s.attempt.toUnitScope = unit.toUnitScope) ∧
      db' = db := by
  induction attempts generalizing sources db db' with
  | nil =>
    simp only [collectSources, commits_pure] at h
    obtain ⟨rfl, rfl⟩ := h
    simp
  | cons attempt attempts ih =>
    simp only [collectSources, requireAttemptScope, commits_bind, commits_raiseIf, commits_ite,
      commits_pure, not_not] at h
    obtain ⟨_, _, ⟨hscope, rfl⟩, ⟨hopen, h⟩ | ⟨hclosed, source, _, hsource, rest, _, hrest, rfl,
      rfl⟩⟩ := h
    · obtain ⟨hattempts, hfacts, rfl⟩ := ih h
      exact ⟨by simpa [hopen] using hattempts, hfacts, rfl⟩
    · obtain ⟨hfact, rfl, rfl⟩ := terminalSource_commits hsource
      obtain ⟨hattempts, hfacts, rfl⟩ := ih hrest
      refine ⟨by simpa [hclosed] using hattempts, ?_, rfl⟩
      rintro s (_ | ⟨_, hs⟩)
      · exact ⟨hfact, hscope⟩
      · exact hfacts s hs

/-- The closed Attempts of a Unit with the facts that a resolution reads. -/
structure UnitSources (unit : ExecutionUnit) (db : Db) (sources : List ResolutionSource) :
    Prop where
  attempts : (sources.map fun s => s.attempt) =
    (db.listAttempts unit.id).filter fun a => a.lifecycle = .closed
  facts : ∀ s ∈ sources, FactOf db.seals db.closures s ∧ s.attempt.toUnitScope = unit.toUnitScope

/-- A new revision of the resolution of a Unit, over the facts stored for it. -/
structure ResolutionAppended (H : ResultHashes) (unit : ExecutionUnit) (db : Db)
    (r : UnitResolutionRevision) (db' : Db) : Prop where
  content : ∃ sources decisive id resolutionId createdAt, UnitSources unit db sources ∧
    sources.getLast? = some decisive ∧
    r.toUnitResolutionRevisionContent = resolutionContent H unit (db.getLatestResolution unit.id)
      sources decisive id resolutionId createdAt
  state : ∃ nextId, db' = { db with resolutions := db.resolutions ++ [r], nextId := nextId }

theorem appendResolution_commits {sources : List ResolutionSource} {decisive : ResolutionSource}
    {r : UnitResolutionRevision} (hsources : UnitSources unit db sources)
    (hdecisive : sources.getLast? = some decisive)
    (h : Commits (appendResolution H unit (db.getLatestResolution unit.id) sources decisive
      createdAt) db r db') :
    ResolutionAppended H unit db r db' := by
  simp only [appendResolution, commits_bind, commits_newEntityId, commits_validated,
    commits_insertResolution, commits_pure] at h
  obtain ⟨id, _, ⟨-, rfl⟩, resolutionId, _, hresolutionId, hvalid, m, rfl, -, _,
    ⟨-, -, -, rfl⟩, rfl, rfl⟩ := h
  have hm : ∃ nextId, m = { db with nextId := nextId } := by
    cases hlatest : db.getLatestResolution unit.id with
    | some latest =>
      simp only [hlatest, resolutionChainId, commits_pure] at hresolutionId
      exact ⟨_, hresolutionId.2⟩
    | none =>
      simp only [hlatest, resolutionChainId, commits_newEntityId] at hresolutionId
      exact ⟨_, hresolutionId.2⟩
  obtain ⟨nextId, rfl⟩ := hm
  exact ⟨⟨sources, decisive, id, resolutionId, createdAt, hsources, hdecisive, rfl⟩, ⟨_, rfl⟩⟩

/-- `resolve_unit` answers the latest resolution, or appends one. -/
theorem resolveUnit_commits {r : UnitResolutionRevision}
    (h : Commits (resolveUnit H unit createdAt) db r db') :
    (db.getLatestResolution unit.id = some r ∧ db' = db) ∨ ResolutionAppended H unit db r db' := by
  simp only [resolveUnit, commits_bind, commits_read, commits_demand] at h
  obtain ⟨_, _, ⟨rfl, rfl⟩, _, _, ⟨rfl, rfl⟩, _, _, ⟨rfl, rfl⟩, sources, _, hcollect, decisive, _,
    ⟨hdecisive, rfl⟩, _, m, ⟨rfl, rfl⟩, h⟩ := h
  obtain ⟨hattempts, hfacts, rfl⟩ := collectSources_commits hcollect
  have hsources : UnitSources unit m sources := by
    refine ⟨hattempts, fun s hs => ⟨(hfacts s hs).1.mono ?_ ?_, (hfacts s hs).2⟩⟩
    · exact List.filter_subset_self _
    · exact List.filter_subset_self _
  cases hlatest : m.getLatestResolution unit.id with
  | none =>
    simp only [hlatest] at h
    exact .inr (appendResolution_commits hsources hdecisive (hlatest ▸ h))
  | some latest =>
    simp only [hlatest, commits_ite, commits_pure] at h
    rcases h with ⟨-, rfl, rfl⟩ | ⟨-, h⟩
    · exact .inl ⟨rfl, rfl⟩
    · exact .inr (appendResolution_commits hsources hdecisive (hlatest ▸ h))

/-- The closure notice of an Attempt is in place: it was there, or is written now. -/
inductive ClosureInPlace (attempt : UnitAttempt) (db : Db) : Db → Prop
  | stored (notice : AttemptClosureNotice)
      (found : db.getClosureByAttempt attempt.id = some notice) : ClosureInPlace attempt db db
  | written (notice : AttemptClosureNotice) (nextId : Uuid)
      (first : db.getClosureByAttempt attempt.id = none)
      (names : notice.unitAttemptId = attempt.id) :
      ClosureInPlace attempt db
        { db with closures := db.closures ++ [notice], nextId := nextId }

theorem buildClosureNotice_commits {sourceStatus : AttemptClosureSourceStatus}
    {closureReason : String} {notice : AttemptClosureNotice}
    (h : Commits (buildClosureNotice H attempt sourceStatus closureReason createdAt) db notice db') :
    notice.unitAttemptId = attempt.id ∧ ∃ nextId, db' = { db with nextId := nextId } := by
  simp only [buildClosureNotice, commits_bind, commits_demand, commits_newEntityId,
    commits_validated, commits_pure] at h
  obtain ⟨_, _, ⟨-, rfl⟩, _, _, ⟨-, rfl⟩, _, _, rfl, rfl, rfl⟩ := h
  exact ⟨rfl, _, rfl⟩

/-- `close_without_seal` puts the notice of a closed, unsealed Attempt in place and then
resolves its Unit. -/
theorem closeWithoutSeal_commits {sourceStatus : AttemptClosureSourceStatus}
    {closureReason : String} {r : UnitResolutionRevision}
    (h : Commits (closeWithoutSeal H unit attempt sourceStatus closureReason createdAt) db r db') :
    attempt.toUnitScope = unit.toUnitScope ∧ attempt.lifecycle = .closed ∧
      sourceStatus ∈ closureSources attempt.quality ∧ db.getSealByAttempt attempt.id = none ∧
      ∃ m, ClosureInPlace attempt db m ∧ Commits (resolveUnit H unit createdAt) m r db' := by
  simp only [closeWithoutSeal, requireAttemptScope, requireClosureSource, commits_bind,
    commits_raiseIf, commits_read, not_or, not_not] at h
  obtain ⟨_, _, ⟨hscope, rfl⟩, _, _, ⟨⟨hclosed, -⟩, rfl⟩, _, _, ⟨hsource, rfl⟩, _, _, ⟨rfl, rfl⟩,
    _, _, ⟨hfact, rfl⟩, _, db, ⟨rfl, rfl⟩, _, m, hplace, hresolve⟩ := h
  refine ⟨hscope, hclosed, hsource, hfact, m, ?_, hresolve⟩
  cases hexisting : db.getClosureByAttempt attempt.id with
  | none =>
    simp only [hexisting, recordClosure, commits_bind, commits_insertClosure] at hplace
    obtain ⟨notice, _, hbuild, -, -, rfl⟩ := hplace
    obtain ⟨hnames, nextId, rfl⟩ := buildClosureNotice_commits hbuild
    exact .written notice nextId hexisting hnames
  | some notice =>
    simp only [hexisting, recordClosure] at hplace
    obtain ⟨-, -, rfl⟩ := requireExactClosure_commits hplace
    exact .stored notice hexisting

end Atlas.Proofs
