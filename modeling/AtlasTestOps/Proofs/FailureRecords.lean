import AtlasTestOps.Service.FailureRecords

/-! Which failures of a provider can be recorded. The sanitizer keeps codes of one or two characters
and codes with letters or digits outside ASCII, and it looks neither at the detail nor at the
identity of the provider's request; the pattern and the checks refuse them, and the recording rolls
back. -/

namespace Atlas.Proofs.FailureRecords

open Atlas Atlas.Fixture Atlas.Store Atlas.Service Txn

/-! ### The sanitizer -/

section Sanitizer

variable {unicode : UnicodeTables} {code : List Char}

theorem normalizedCode_not_lower {value : List Char} {c : Char}
    (h : c ∈ normalizedCode unicode value) : c.isLower = false := by
  obtain ⟨d, hd, rfl⟩ := List.mem_map.1 h
  obtain ⟨source, -, hupper⟩ := List.mem_flatMap.1 hd
  split
  · rfl
  · exact unicode.upper_not_lower source d hupper

theorem normalizedCode_upper {value : List Char} {c : Char}
    (h : c ∈ normalizedCode unicode value) : unicode.upper c = [c] := by
  obtain ⟨d, hd, rfl⟩ := List.mem_map.1 h
  obtain ⟨source, -, hupper⟩ := List.mem_flatMap.1 hd
  split
  · exact unicode.upper_ascii '_' (by decide)
  · exact unicode.upper_upper source d hupper

theorem normalizedCode_marks {value : List Char} {c : Char}
    (h : c ∈ normalizedCode unicode value) : ¬ (c = '-' ∨ c = '.') := by
  obtain ⟨d, -, rfl⟩ := List.mem_map.1 h
  split
  · decide
  · assumption

theorem keepsCode_iff : keepsCode unicode code = true ↔
    code ≠ [] ∧ code.length ≤ 80 ∧ (code.filter fun c => c ≠ '_') ≠ [] ∧
      (∀ c ∈ code.filter fun c => c ≠ '_', unicode.isAlnum c = true) ∧
      code.head?.any unicode.isAlpha = true := by
  rw [keepsCode, decide_eq_true_eq]

theorem keepsCode_alnum (h : keepsCode unicode code = true) {c : Char} (hc : c ∈ code) :
    c = '_' ∨ unicode.isAlnum c = true := by
  by_cases hmark : c = '_'
  · exact Or.inl hmark
  · exact Or.inr ((keepsCode_iff.1 h).2.2.2.1 c (List.mem_filter.2 ⟨hc, by simpa using hmark⟩))

theorem isCodeChar_of_ascii {c : Char} (hascii : c.toNat < 128) (hlower : c.isLower = false)
    (h : c = '_' ∨ unicode.isAlnum c = true) : isCodeChar c = true := by
  rcases h with rfl | h
  · rfl
  · rw [unicode.alnum_ascii c hascii] at h
    simp only [Char.isAlphanum, Char.isAlpha, hlower, Bool.or_false, Bool.or_eq_true] at h
    unfold isCodeChar
    rcases h with h | h <;> simp [h]

theorem isUpper_lt {c : Char} (h : c.isUpper = true) : c.toNat < 128 := by
  simp only [Char.isUpper, decide_eq_true_eq] at h
  have := UInt32.le_iff_toNat_le.1 h.2
  exact Nat.lt_of_le_of_lt this (by decide)

theorem isDigit_lt {c : Char} (h : c.isDigit = true) : c.toNat < 128 := by
  simp only [Char.isDigit, Bool.and_eq_true, decide_eq_true_eq] at h
  have := UInt32.le_iff_toNat_le.1 h.2
  exact Nat.lt_of_le_of_lt this (by decide)

theorem isCodeChar_lt {c : Char} (h : isCodeChar c = true) : c.toNat < 128 := by
  simp only [isCodeChar, Bool.or_eq_true, beq_iff_eq] at h
  rcases h with (h | h) | rfl
  · exact isUpper_lt h
  · exact isDigit_lt h
  · decide

/-- A kept code is refused by the pattern unless it is in ASCII and has three characters. -/
theorem pattern_of_kept {value : List Char} (hcode : code = normalizedCode unicode value)
    (hkept : keepsCode unicode code = true) :
    safeErrorCodePattern (String.ofList code) = true ↔
      3 ≤ code.length ∧ ∀ c ∈ code, c.toNat < 128 := by
  obtain ⟨hne, hlength, -, -, halpha⟩ := keepsCode_iff.1 hkept
  have hlower : ∀ c ∈ code, c.isLower = false := fun c hc => normalizedCode_not_lower (hcode ▸ hc)
  have halnum : ∀ c ∈ code, c = '_' ∨ unicode.isAlnum c = true := fun c => keepsCode_alnum hkept
  cases code with
  | nil => exact absurd rfl hne
  | cons first rest =>
    rw [safeErrorCodePattern, matchesCode, String.toList_ofList]
    simp only [Bool.and_eq_true, decide_eq_true_eq, List.all_eq_true, List.length_cons]
    simp only [List.length_cons] at hlength
    simp only [List.head?_cons, Option.any_some] at halpha
    constructor
    · rintro ⟨⟨hupper, hleast, -⟩, hrest⟩
      refine ⟨by omega, List.forall_mem_cons.2 ⟨isUpper_lt hupper, fun c hc => ?_⟩⟩
      exact isCodeChar_lt (hrest c hc)
    · rintro ⟨hleast, hascii⟩
      obtain ⟨hfirst, hrest⟩ := List.forall_mem_cons.1 hascii
      refine ⟨⟨?_, by omega, by omega⟩, fun c hc => ?_⟩
      · rw [unicode.alpha_ascii first hfirst, Char.isAlpha, hlower first List.mem_cons_self,
          Bool.or_false] at halpha
        exact halpha
      · exact isCodeChar_of_ascii (hrest c hc) (hlower c (List.mem_cons_of_mem _ hc))
          (halnum c (List.mem_cons_of_mem _ hc))

/-- The code can be recorded. -/
def CodeFits (unicode : UnicodeTables) (value : String) : Prop :=
  keepsCode unicode (normalizedCode unicode value.toList) = true →
    3 ≤ (normalizedCode unicode value.toList).length ∧
      ∀ c ∈ normalizedCode unicode value.toList, c.toNat < 128

theorem safeFailureCode_pattern {value : String} :
    safeErrorCodePattern (safeFailureCode unicode value) = true ↔ CodeFits unicode value := by
  unfold safeFailureCode CodeFits
  dsimp only
  split
  · rename_i hkept
    rw [pattern_of_kept rfl hkept]
    exact ⟨fun h _ => h, fun h => h hkept⟩
  · rename_i hrefused
    exact ⟨fun _ h => absurd h hrefused, fun _ => by decide⟩

theorem strip_self (h : ∀ c ∈ code, Text.isSpace c = false) : Text.strip code = code := by
  have hlstrip : ∀ l : List Char, (∀ c ∈ l, Text.isSpace c = false) → Text.lstrip l = l := by
    intro l hl
    cases l with
    | nil => rfl
    | cons c l =>
      rw [Text.lstrip, List.dropWhile_cons_of_neg]
      rw [hl c List.mem_cons_self]
      exact Bool.false_ne_true
  unfold Text.strip
  rw [hlstrip code h, hlstrip _ fun c hc => h c (List.mem_reverse.1 hc), List.reverse_reverse]

theorem normalizedCode_self (hspace : ∀ c ∈ code, Text.isSpace c = false)
    (hupper : ∀ c ∈ code, unicode.upper c = [c]) (hmarks : ∀ c ∈ code, ¬ (c = '-' ∨ c = '.')) :
    normalizedCode unicode code = code := by
  have hflat : ∀ l : List Char, (∀ c ∈ l, unicode.upper c = [c]) → l.flatMap unicode.upper = l := by
    intro l hl
    induction l with
    | nil => rfl
    | cons c l ih =>
      rw [List.flatMap_cons, hl c List.mem_cons_self,
        ih fun d hd => hl d (List.mem_cons_of_mem _ hd)]
      rfl
  unfold normalizedCode
  rw [strip_self hspace, hflat code hupper]
  exact (List.map_congr_left fun c hc => if_neg (hmarks c hc)).trans (List.map_id _)

/-- A code that was made safe stays as it is. -/
theorem safeFailureCode_safe (value : String) :
    safeFailureCode unicode (safeFailureCode unicode value) = safeFailureCode unicode value := by
  by_cases hkept : keepsCode unicode (normalizedCode unicode value.toList) = true
  · have hself : normalizedCode unicode (normalizedCode unicode value.toList) =
        normalizedCode unicode value.toList := by
      refine normalizedCode_self (fun c hc => ?_) (fun c => normalizedCode_upper)
        fun c => normalizedCode_marks
      rcases keepsCode_alnum hkept hc with rfl | h
      · rfl
      · exact unicode.alnum_not_space c h
    have hsafe : safeFailureCode unicode value =
        String.ofList (normalizedCode unicode value.toList) := if_pos hkept
    rw [hsafe, safeFailureCode, String.toList_ofList, hself]
    exact if_pos hkept
  · have hsafe : safeFailureCode unicode value = "FIXTURE_OPERATION_FAILED" := if_neg hkept
    have hascii : ∀ c ∈ "FIXTURE_OPERATION_FAILED".toList, c.toNat < 128 ∧ c.toUpper = c ∧
        Text.isSpace c = false ∧ ¬ (c = '-' ∨ c = '.') := by
      have hall : ("FIXTURE_OPERATION_FAILED".toList.all fun c => c.toNat < 128 ∧ c.toUpper = c ∧
          Text.isSpace c = false ∧ ¬ (c = '-' ∨ c = '.')) = true := by decide
      exact fun c hc => of_decide_eq_true (List.all_eq_true.1 hall c hc)
    have hself : normalizedCode unicode "FIXTURE_OPERATION_FAILED".toList =
        "FIXTURE_OPERATION_FAILED".toList := by
      refine normalizedCode_self (fun c hc => (hascii c hc).2.2.1) (fun c hc => ?_)
        fun c hc => (hascii c hc).2.2.2
      rw [unicode.upper_ascii c (hascii c hc).1, (hascii c hc).2.1]
    rw [hsafe, safeFailureCode, hself]
    split
    · decide
    · rfl

end Sanitizer

/-! ### The detail -/

/-- What is left of the detail holds more than blanks, and no NUL. -/
def DetailFits (detail : String) : Prop :=
  (∃ c ∈ detail.toList.take 500, c ≠ ' ') ∧ Char.ofNat 0 ∉ detail.toList.take 500

theorem utf8_le (l : List Char) : (l.map Char.utf8Size).sum ≤ 4 * l.length := by
  induction l with
  | nil => simp
  | cons c l ih =>
    have := Char.utf8Size_le_four c
    simp only [List.map_cons, List.sum_cons, List.length_cons]
    omega

/-- Five hundred characters never take more than 2000 octets. -/
theorem detailStorable_iff {detail : String} : detailStorable detail = true ↔
    detail.toList.length ≤ 500 ∧ (∃ c ∈ detail.toList, c ≠ ' ') ∧
      Char.ofNat 0 ∉ detail.toList := by
  have hoctets := utf8_le detail.toList
  rw [detailStorable, decide_eq_true_eq]
  exact ⟨fun h => ⟨h.1, h.2.1, h.2.2.2⟩, fun h => ⟨h.1, h.2.1, by omega, h.2.2⟩⟩

theorem cutDetail_storable {detail : String} :
    detailStorable (cutDetail detail) = true ↔ DetailFits detail := by
  rw [detailStorable_iff, cutDetail, String.toList_ofList]
  exact and_iff_right (List.length_take_le _ _)

/-- The failure can be recorded. -/
def Recordable (unicode : UnicodeTables) (error : FixtureFailure) : Prop :=
  CodeFits unicode error.code ∧ DetailFits error.detail

theorem safeFailure_storable {unicode : UnicodeTables} {error : FixtureFailure} :
    failureStorable (safeFailure unicode error) = true ↔ Recordable unicode error := by
  rw [failureStorable, Bool.and_eq_true]
  exact and_congr safeFailureCode_pattern cutDetail_storable

theorem recorded_failure_storable {unicode : UnicodeTables} {error : FixtureFailure}
    (recording : FailureRecording) :
    failureStorable (recording.failure unicode error) = true ↔ Recordable unicode error := by
  have htwice : safeFailure unicode { error with code := safeFailureCode unicode error.code } =
      safeFailure unicode error := by
    unfold safeFailure
    rw [safeFailureCode_safe]
  cases recording with
  | execute => exact safeFailure_storable
  | reconciled => exact safeFailure_storable
  | lookup => exact (congrArg (failureStorable · = true) htwice).to_iff.trans safeFailure_storable
  | cleanup => exact (congrArg (failureStorable · = true) htwice).to_iff.trans safeFailure_storable

/-! ### The recordings -/

section Recordings

variable {α β : Type} {db db' : FixtureDb} {failure : FixtureFailure} {requestId : Option String}

/-- Each row of the table has kept its value or got the new one. -/
def Marked (get : α → Option β) (new : Option β) (rows rows' : List α) : Prop :=
  ∃ g : α → α, rows' = rows.map g ∧ ∀ a, get (g a) = get a ∨ get (g a) = new

theorem Marked.refl (get : α → Option β) (new : Option β) (rows : List α) :
    Marked get new rows rows :=
  ⟨id, (List.map_id rows).symm, fun _ => Or.inl rfl⟩

theorem Marked.mem {get : α → Option β} {new : Option β} {rows rows' : List α}
    (h : Marked get new rows rows') {b : β} (hb : b ∈ rows'.filterMap get) :
    b ∈ rows.filterMap get ∨ new = some b := by
  obtain ⟨g, rfl, hg⟩ := h
  obtain ⟨_, hmem, hget⟩ := List.mem_filterMap.1 hb
  obtain ⟨a, ha, rfl⟩ := List.mem_map.1 hmem
  rcases hg a with h | h
  · exact Or.inl (List.mem_filterMap.2 ⟨a, ha, h.symm.trans hget⟩)
  · exact Or.inr (h.symm.trans hget)

theorem marked_update {get : α → Option β} {new : Option β} {rows : List α} {p : α → Prop}
    [DecidablePred p] {f : α → α} (hf : ∀ a, get (f a) = new) :
    Marked get new rows (rows.map fun a => if p a then f a else a) := by
  refine ⟨_, rfl, fun a => ?_⟩
  split
  · exact Or.inr (hf a)
  · exact Or.inl rfl

/-- The tables of failures before and after a recording. -/
structure MarksFailure (failure : FixtureFailure) (db db' : FixtureDb) : Prop where
  runs : db'.runs = db.runs
  nodes : Marked DataNodeRun.failure (some failure) db.nodes db'.nodes
  attempts : Marked DataNodeAttempt.failure (some failure) db.attempts db'.attempts
  lookups : Marked DataNodeReconcileAttempt.failure (some failure) db.reconcileAttempts
    db'.reconcileAttempts
  cleanups : Marked ResourceCleanupAttempt.failure (some failure) db.cleanupAttempts
    db'.cleanupAttempts

theorem mem_recordedFailures {f : FixtureFailure} : f ∈ recordedFailures db ↔
    f ∈ db.runs.filterMap FixtureRun.failure ∨ f ∈ db.nodes.filterMap DataNodeRun.failure ∨
      f ∈ db.attempts.filterMap DataNodeAttempt.failure ∨
      f ∈ db.reconcileAttempts.filterMap DataNodeReconcileAttempt.failure ∨
      f ∈ db.cleanupAttempts.filterMap ResourceCleanupAttempt.failure := by
  simp only [recordedFailures, List.mem_append, or_assoc]

theorem mem_recordedRequestIds {s : String} : s ∈ recordedRequestIds db ↔
    s ∈ db.attempts.filterMap DataNodeAttempt.providerRequestId ∨
      s ∈ db.reconcileAttempts.filterMap DataNodeReconcileAttempt.providerRequestId ∨
      s ∈ db.cleanupAttempts.filterMap ResourceCleanupAttempt.providerRequestId := by
  simp only [recordedRequestIds, List.mem_append, or_assoc]

theorem MarksFailure.mem (h : MarksFailure failure db db') {f : FixtureFailure}
    (hf : f ∈ recordedFailures db') : f ∈ recordedFailures db ∨ some failure = some f := by
  rw [mem_recordedFailures] at hf ⊢
  rcases hf with hf | hf | hf | hf | hf
  · exact Or.inl (Or.inl (h.runs ▸ hf))
  · exact (h.nodes.mem hf).imp_left fun hf => Or.inr (Or.inl hf)
  · exact (h.attempts.mem hf).imp_left fun hf => Or.inr (Or.inr (Or.inl hf))
  · exact (h.lookups.mem hf).imp_left fun hf => Or.inr (Or.inr (Or.inr (Or.inl hf)))
  · exact (h.cleanups.mem hf).imp_left fun hf => Or.inr (Or.inr (Or.inr (Or.inr hf)))

/-- What a recording adds to a list of the tables. -/
structure Gains (new : Option β) (rows rows' : List β) : Prop where
  mem : ∀ b ∈ rows', b ∈ rows ∨ new = some b
  present : ∀ b, new = some b → b ∈ rows'

theorem Gains.refl (rows : List β) : Gains none rows rows :=
  ⟨fun _ hb => Or.inl hb, fun _ h => nomatch h⟩

theorem Gains.all_iff {new : Option β} {rows rows' : List β} {p : β → Bool}
    (h : Gains new rows rows') (hrows : ∀ b ∈ rows, p b = true) :
    (∀ b ∈ rows', p b = true) ↔ ∀ b, new = some b → p b = true := by
  refine ⟨fun hall b hb => hall b (h.present b hb), fun hnew b hb => ?_⟩
  rcases h.mem b hb with hold | hb
  · exact hrows b hold
  · exact hnew b hb

/-- A recording that writes a failure and the identity of a request. -/
structure Writes (failure : FixtureFailure) (requestId : Option String) (db db' : FixtureDb) :
    Prop where
  failures : Gains (some failure) (recordedFailures db) (recordedFailures db')
  requestIds : Gains requestId (recordedRequestIds db) (recordedRequestIds db')

/-- A row that the update meets carries the new value. -/
theorem mem_of_update {get : α → Option β} {rows : List α} {p : α → Prop} [DecidablePred p]
    {f : α → α} {a : α} {b : β} (ha : a ∈ rows) (hp : p a) (hf : get (f a) = some b) :
    b ∈ (rows.map fun a => if p a then f a else a).filterMap get :=
  List.mem_filterMap.2 ⟨f a, List.mem_map.2 ⟨a, ha, if_pos hp⟩, hf⟩

/-- A node update that answers with a row has written the failure to it. -/
theorem present_updateNode {p : DataNodeRun → Bool} {f : DataNodeRun → DataNodeRun}
    (hf : ∀ n, (f n).failure = some failure) {out : List DataNodeRun} {m : DataNodeRun}
    (h : Commits (nodeTable.update p f) db out db') (hout : out.head? = some m) :
    failure ∈ recordedFailures db' := by
  obtain ⟨-, rfl, rfl⟩ := (nodeTable.commits_guarded p f).1 h
  have hmem : m ∈ (db.nodes.filter p).map f := List.mem_of_head? hout
  obtain ⟨n, hn, rfl⟩ := List.mem_map.1 hmem
  obtain ⟨hn, hp⟩ := List.mem_filter.1 hn
  refine mem_recordedFailures.2 (Or.inr (Or.inl (List.mem_filterMap.2 ⟨f n, ?_, hf n⟩)))
  exact List.mem_map.2 ⟨n, hn, if_pos hp⟩

theorem MarksFailure.gains (h : MarksFailure failure db db')
    (hpresent : failure ∈ recordedFailures db') :
    Gains (some failure) (recordedFailures db) (recordedFailures db') :=
  ⟨fun _ => h.mem, fun _ hf => Option.some.inj hf ▸ hpresent⟩

theorem execute_cases {claim : NodeExecutionClaim} {uncertain : Bool}
    {providerRequestId : Option String} {finishedAt : Instant} {out : FixtureNodeActivityResult}
    (h : Commits (failClaim claim uncertain failure providerRequestId finishedAt) db out db') :
    ∃ n, db.getNodeRecord claim.run.id claim.node.nodeId = some n ∧
      (n.status ∈ [.failed, .outcomeUncertain] ∧ db' = db ∨
        n.status ∉ [.failed, .outcomeUncertain] ∧ Writes failure providerRequestId db db') := by
  unfold failClaim at h
  rw [commits_read_bind] at h
  obtain ⟨n, hn, h⟩ := commits_demand_bind.1 h
  refine ⟨n, hn, ?_⟩
  by_cases hclosed : n.status ∈ [.failed, .outcomeUncertain]
  · rw [if_pos hclosed] at h
    exact Or.inl ⟨hclosed, (commits_pure.1 h).2⟩
  refine Or.inr ⟨hclosed, ?_⟩
  rw [if_neg hclosed, commits_read_bind] at h
  obtain ⟨a, ha, h⟩ := commits_demand_bind.1 h
  obtain ⟨updated, _, hfail, h⟩ := commits_bind.1 h
  obtain ⟨m, rfl, h⟩ := commits_demand_bind.1 h
  obtain ⟨-, rfl⟩ := commits_pure.1 h
  unfold completeNodeFailure closeAttempt at hfail
  simp only [commits_bind, commits_update, commits_pure] at hfail
  obtain ⟨-, _, rfl, rows, _, hrows, hm, rfl⟩ := hfail
  have hpresent := present_updateNode (fun _ => rfl) hrows hm.symm
  obtain ⟨-, -, rfl⟩ := (nodeTable.commits_guarded _ _).1 hrows
  have hrequest : ∀ status, Marked DataNodeAttempt.providerRequestId providerRequestId db.attempts
      (db.attempts.map (closedAttempt a.id status (some failure) providerRequestId finishedAt)) :=
    fun _ => marked_update fun _ => rfl
  refine ⟨MarksFailure.gains ⟨rfl, marked_update fun _ => rfl, marked_update fun _ => rfl,
    .refl _ _ _, .refl _ _ _⟩ hpresent, fun s hs => ?_, fun s hs => ?_⟩
  · rw [mem_recordedRequestIds] at hs ⊢
    rcases hs with hs | hs
    · exact ((hrequest _).mem hs).imp_left Or.inl
    · exact Or.inl (Or.inr hs)
  · -- The running attempt of the node takes the identity.
    obtain ⟨hattempt, -, hrunning⟩ := mem_of_getRunningAttempt ha
    exact mem_recordedRequestIds.2 (Or.inl (mem_of_update hattempt ⟨rfl, hrunning⟩ hs))

/-- The lookup of the claim is still open. -/
def OpenLookup (claim : NodeReconcileClaim) (db : FixtureDb) : Prop :=
  ∃ a ∈ db.reconcileAttempts, a.id = claim.reconcileAttempt.id ∧ a.status = .running

theorem lookup_cases {worker : FixtureWorker} {claim : NodeReconcileClaim}
    {status : DataNodeReconcileAttemptStatus} {retryable : Bool} {retryAfter : Option ℕ}
    {providerRequestId : Option String} {finishedAt : Instant} {out : FixtureNodeActivityResult}
    (h : Commits (finishReconcileInconclusive worker claim status failure providerRequestId retryable
      retryAfter finishedAt) db out db') :
    ∃ n, db.getNodeRecord claim.run.id claim.node.nodeId = some n ∧
      (n.reconcileState ≠ .running ∧ db' = db ∨
        n.reconcileState = .running ∧
        Gains (some (if (nextLookup worker claim.reconcileAttempt.attemptNumber retryable retryAfter
          finishedAt).isSome then failure else reconcileExhausted failure.category))
          (recordedFailures db) (recordedFailures db') ∧
        (OpenLookup claim db →
          Gains providerRequestId (recordedRequestIds db) (recordedRequestIds db')) ∧
        (¬ OpenLookup claim db → recordedRequestIds db' = recordedRequestIds db)) := by
  unfold finishReconcileInconclusive at h
  rw [commits_read_bind] at h
  obtain ⟨n, hn, h⟩ := commits_demand_bind.1 h
  refine ⟨n, hn, ?_⟩
  by_cases hclosed : n.reconcileState ≠ .running
  · rw [if_pos hclosed] at h
    exact Or.inl ⟨hclosed, (commits_pure.1 h).2⟩
  refine Or.inr ⟨not_not.1 hclosed, ?_⟩
  rw [if_neg hclosed] at h
  obtain ⟨updated, _, hdone, h⟩ := commits_bind.1 h
  obtain ⟨m, rfl, h⟩ := commits_demand_bind.1 h
  obtain ⟨-, rfl⟩ := commits_pure.1 h
  unfold completeReconcileInconclusive closeReconcileAttempt at hdone
  simp only [commits_bind, commits_update, commits_pure] at hdone
  obtain ⟨-, _, rfl, rows, _, hrows, hm, rfl⟩ := hdone
  have hpresent := present_updateNode (fun _ => rfl) hrows hm.symm
  obtain ⟨-, -, rfl⟩ := (nodeTable.commits_guarded _ _).1 hrows
  refine ⟨MarksFailure.gains ⟨rfl, marked_update fun _ => rfl, .refl _ _ _,
    marked_update fun _ => rfl, .refl _ _ _⟩ hpresent,
    fun hopen => ⟨fun s hs => ?_, fun s hs => ?_⟩, fun hopen => ?_⟩
  · have hrequest : ∀ failure, Marked DataNodeReconcileAttempt.providerRequestId providerRequestId
        db.reconcileAttempts (db.reconcileAttempts.map (closedReconcileAttempt
          claim.reconcileAttempt.id status failure providerRequestId finishedAt)) :=
      fun _ => marked_update fun _ => rfl
    rw [mem_recordedRequestIds] at hs ⊢
    rcases hs with hs | hs | hs
    · exact Or.inl (Or.inl hs)
    · exact ((hrequest _).mem hs).imp_left fun hs => Or.inr (Or.inl hs)
    · exact Or.inl (Or.inr (Or.inr hs))
  · obtain ⟨a, ha, hattempt⟩ := hopen
    exact mem_recordedRequestIds.2 (Or.inr (Or.inl (mem_of_update ha hattempt hs)))
  · have hsame : db.reconcileAttempts.map (closedReconcileAttempt claim.reconcileAttempt.id status
        (some (if (nextLookup worker claim.reconcileAttempt.attemptNumber retryable retryAfter
          finishedAt).isSome then failure else reconcileExhausted failure.category))
        providerRequestId finishedAt) = db.reconcileAttempts :=
      (List.map_congr_left fun a ha => if_neg fun hattempt => hopen ⟨a, ha, hattempt⟩).trans
        (List.map_id _)
    exact congrArg (fun rows => db.attempts.filterMap DataNodeAttempt.providerRequestId ++
      rows.filterMap DataNodeReconcileAttempt.providerRequestId ++
      db.cleanupAttempts.filterMap ResourceCleanupAttempt.providerRequestId) hsame

theorem reconciled_cases {claim : NodeReconcileClaim} {finishedAt : Instant}
    {out : FixtureNodeActivityResult}
    (h : Commits (failReconciledClaim claim failure finishedAt) db out db') :
    ∃ n, db.getNodeRecord claim.run.id claim.node.nodeId = some n ∧
      (n.status = .failed ∧ db' = db ∨
        n.status ≠ .failed ∧ Writes failure none db db') := by
  unfold failReconciledClaim at h
  rw [commits_read_bind] at h
  obtain ⟨n, hn, h⟩ := commits_demand_bind.1 h
  refine ⟨n, hn, ?_⟩
  by_cases hclosed : n.status = .failed
  · rw [if_pos hclosed] at h
    exact Or.inl ⟨hclosed, (commits_pure.1 h).2⟩
  refine Or.inr ⟨hclosed, ?_⟩
  rw [if_neg hclosed] at h
  obtain ⟨updated, _, hfail, h⟩ := commits_bind.1 h
  obtain ⟨m, rfl, h⟩ := commits_demand_bind.1 h
  obtain ⟨-, rfl⟩ := commits_pure.1 h
  unfold failReconciledNode at hfail
  simp only [commits_bind, commits_pure] at hfail
  obtain ⟨rows, _, hrows, hm, rfl⟩ := hfail
  have hpresent := present_updateNode (fun _ => rfl) hrows hm.symm
  obtain ⟨-, -, rfl⟩ := (nodeTable.commits_guarded _ _).1 hrows
  exact ⟨MarksFailure.gains ⟨rfl, marked_update fun _ => rfl, .refl _ _ _, .refl _ _ _,
    .refl _ _ _⟩ hpresent, Gains.refl _⟩

/-- The attempt of the claim is still open. -/
def OpenCleanup (claim : CleanupClaim) (db : FixtureDb) : Prop :=
  ∃ a ∈ db.cleanupAttempts, a.id = claim.attempt.id ∧ a.status = .running

theorem cleanup_cases {worker : FixtureWorker} {claim : CleanupClaim}
    {status : ResourceCleanupAttemptStatus} {retryable : Bool} {retryAfter : Option ℕ}
    {providerRequestId : Option String} {finishedAt : Instant} {out : ResourceRecord}
    (h : Commits (finishCleanupFailure worker claim status failure providerRequestId retryable
      retryAfter finishedAt) db out db') :
    (OpenCleanup claim db → Writes failure providerRequestId db db') ∧
      (¬ OpenCleanup claim db → recordedFailures db' = recordedFailures db ∧
        recordedRequestIds db' = recordedRequestIds db) := by
  unfold finishCleanupFailure at h
  obtain ⟨updated, _, hfail, h⟩ := commits_bind.1 h
  obtain ⟨-, rfl⟩ := commits_demand.1 h
  unfold failResourceCleanup closeCleanupAttempt at hfail
  simp only [commits_bind, commits_update, commits_pure] at hfail
  obtain ⟨-, _, rfl, rows, _, hrows, -, rfl⟩ := hfail
  obtain ⟨-, -, rfl⟩ := (resourceTable.commits_guarded _ _).1 hrows
  constructor
  · rintro ⟨a, ha, hattempt⟩
    refine ⟨MarksFailure.gains ⟨rfl, .refl _ _ _, .refl _ _ _, .refl _ _ _,
      marked_update fun _ => rfl⟩ ?_, fun s hs => ?_, fun s hs => ?_⟩
    · refine mem_recordedFailures.2 (Or.inr (Or.inr (Or.inr (Or.inr ?_))))
      exact mem_of_update ha hattempt rfl
    · have hrequest : Marked ResourceCleanupAttempt.providerRequestId providerRequestId
          db.cleanupAttempts (db.cleanupAttempts.map fun a =>
            if a.id = claim.attempt.id ∧ a.status = .running then
              { a with status := status, failure := some failure
                       providerRequestId := providerRequestId, finishedAt := some finishedAt }
            else a) :=
        marked_update fun _ => rfl
      rw [mem_recordedRequestIds] at hs ⊢
      rcases hs with hs | hs | hs
      · exact Or.inl (Or.inl hs)
      · exact Or.inl (Or.inr (Or.inl hs))
      · exact (hrequest.mem hs).imp_left fun hs => Or.inr (Or.inr hs)
    · exact mem_recordedRequestIds.2 (Or.inr (Or.inr (mem_of_update ha hattempt hs)))
  · intro hopen
    have hsame : (db.cleanupAttempts.map fun a =>
        if a.id = claim.attempt.id ∧ a.status = .running then
          { a with status := status, failure := some failure
                   providerRequestId := providerRequestId, finishedAt := some finishedAt }
        else a) = db.cleanupAttempts :=
      (List.map_congr_left fun a ha => if_neg fun hattempt => hopen ⟨a, ha, hattempt⟩).trans
        (List.map_id _)
    constructor
    · exact congrArg (fun rows => db.runs.filterMap FixtureRun.failure ++
        db.nodes.filterMap DataNodeRun.failure ++ db.attempts.filterMap DataNodeAttempt.failure ++
        db.reconcileAttempts.filterMap DataNodeReconcileAttempt.failure ++
        rows.filterMap ResourceCleanupAttempt.failure) hsame
    · exact congrArg (fun rows => db.attempts.filterMap DataNodeAttempt.providerRequestId ++
        db.reconcileAttempts.filterMap DataNodeReconcileAttempt.providerRequestId ++
        rows.filterMap ResourceCleanupAttempt.providerRequestId) hsame

/-- Every failure and every identity of a request in the tables has passed the checks. -/
structure RecordsStorable (db : FixtureDb) : Prop where
  failures : ∀ f ∈ recordedFailures db, failureStorable f = true
  requestIds : ∀ s ∈ recordedRequestIds db, requestIdStorable s = true

theorem commits_withFailureChecks {op : FixtureOp α} {answer : α} :
    Commits (withFailureChecks op) db answer db' ↔
      Commits op db answer db' ∧ RecordsStorable db' := by
  unfold withFailureChecks
  rw [commits_bind]
  constructor
  · rintro ⟨a, mid, hop, h⟩
    rw [commits_read_bind] at h
    obtain ⟨hfailures, h⟩ := commits_raiseIf_bind.1 h
    rw [commits_read_bind] at h
    obtain ⟨hrequests, h⟩ := commits_raiseIf_bind.1 h
    obtain ⟨rfl, rfl⟩ := commits_pure.1 h
    exact ⟨hop, by simpa using hfailures, by simpa using hrequests⟩
  · rintro ⟨hop, hfailures, hrequests⟩
    refine ⟨answer, db', hop, ?_⟩
    rw [commits_read_bind]
    refine commits_raiseIf_bind.2 ⟨by simpa using hfailures, ?_⟩
    rw [commits_read_bind]
    exact commits_raiseIf_bind.2 ⟨by simpa using hrequests, commits_pure.2 ⟨rfl, rfl⟩⟩

theorem reconcileExhausted_storable (category : FixtureFailureCategory) :
    failureStorable (reconcileExhausted category) = true := by
  rw [failureStorable, Bool.and_eq_true, detailStorable_iff]
  have hcode : safeErrorCodePattern "RECONCILE_EXHAUSTED" = true := by decide
  refine ⟨hcode, ?_⟩
  simp [reconcileExhausted]

/-- What the tables hold after a recording that nothing else stops: the failures. -/
theorem recorded_failures_iff {worker : FixtureWorker} {recording : FailureRecording}
    {providerRequestId : Option String} {finishedAt : Instant}
    (hdb : ∀ f ∈ recordedFailures db, failureStorable f = true)
    (h : Commits (recording.transaction worker failure providerRequestId finishedAt) db () db') :
    (∀ f ∈ recordedFailures db', failureStorable f = true) ↔
      (recording.writes worker finishedAt db = true → failureStorable failure = true) := by
  cases recording with
  | execute claim uncertain =>
    obtain ⟨out, h⟩ := commits_discard.1 h
    obtain ⟨n, hn, ⟨hclosed, rfl⟩ | ⟨hopen, hgains⟩⟩ := execute_cases h
    · refine iff_of_true hdb fun hwrites => absurd hwrites ?_
      simpa [FailureRecording.writes, hn, or_iff_not_imp_left] using hclosed
    · have hwrites : FailureRecording.writes worker finishedAt db (.execute claim uncertain) =
          true := by
        simpa [FailureRecording.writes, hn] using hopen
      simp [hwrites, hgains.failures.all_iff hdb]
  | lookup claim status retryable retryAfter =>
    obtain ⟨out, h⟩ := commits_discard.1 h
    obtain ⟨n, hn, ⟨hclosed, rfl⟩ | ⟨hopen, hgains, -⟩⟩ := lookup_cases h
    · refine iff_of_true hdb fun hwrites => absurd hwrites ?_
      simp [FailureRecording.writes, hn, hclosed]
    · rw [hgains.all_iff hdb]
      by_cases hagain : (nextLookup worker claim.reconcileAttempt.attemptNumber retryable retryAfter
          finishedAt).isSome = true
      · simp [FailureRecording.writes, hn, hopen, hagain]
      · -- Without another try it is RECONCILE_EXHAUSTED that the rows get.
        simp [FailureRecording.writes, hn, hagain, reconcileExhausted_storable]
  | reconciled claim =>
    obtain ⟨out, h⟩ := commits_discard.1 h
    obtain ⟨n, hn, ⟨hclosed, rfl⟩ | ⟨hopen, hgains⟩⟩ := reconciled_cases h
    · refine iff_of_true hdb fun hwrites => absurd hwrites ?_
      simp [FailureRecording.writes, hn, hclosed]
    · simp [FailureRecording.writes, hn, hopen, hgains.failures.all_iff hdb]
  | cleanup claim status retryable retryAfter =>
    obtain ⟨out, h⟩ := commits_discard.1 h
    have hwrites : FailureRecording.writes worker finishedAt db
        (.cleanup claim status retryable retryAfter) = true ↔ OpenCleanup claim db := by
      simp only [FailureRecording.writes, List.any_eq_true, decide_eq_true_eq, OpenCleanup]
    rw [hwrites]
    by_cases hopen : OpenCleanup claim db
    · simp [hopen, ((cleanup_cases h).1 hopen).failures.all_iff hdb]
    · simpa [hopen, ((cleanup_cases h).2 hopen).1] using hdb

/-- What the tables hold after a recording that nothing else stops: the identities of requests. -/
theorem recorded_requestIds_iff {worker : FixtureWorker} {recording : FailureRecording}
    {providerRequestId : Option String} {finishedAt : Instant}
    (hdb : ∀ s ∈ recordedRequestIds db, requestIdStorable s = true)
    (h : Commits (recording.transaction worker failure providerRequestId finishedAt) db () db') :
    (∀ s ∈ recordedRequestIds db', requestIdStorable s = true) ↔
      (recording.writesRequestId db = true → ∀ s, providerRequestId = some s →
        requestIdStorable s = true) := by
  cases recording with
  | execute claim uncertain =>
    obtain ⟨out, h⟩ := commits_discard.1 h
    obtain ⟨n, hn, ⟨hclosed, rfl⟩ | ⟨hopen, hgains⟩⟩ := execute_cases h
    · refine iff_of_true hdb fun hwrites => absurd hwrites ?_
      simpa [FailureRecording.writesRequestId, hn, or_iff_not_imp_left] using hclosed
    · have hwrites : FailureRecording.writesRequestId db (.execute claim uncertain) = true := by
        simpa [FailureRecording.writesRequestId, hn] using hopen
      simp [hwrites, hgains.requestIds.all_iff hdb]
  | lookup claim status retryable retryAfter =>
    obtain ⟨out, h⟩ := commits_discard.1 h
    obtain ⟨n, hn, ⟨hclosed, rfl⟩ | ⟨hopen, -, hgains, hkept⟩⟩ := lookup_cases h
    · refine iff_of_true hdb fun hwrites => absurd hwrites ?_
      simp [FailureRecording.writesRequestId, hn, hclosed]
    · have hwrites : FailureRecording.writesRequestId db
          (.lookup claim status retryable retryAfter) = true ↔ OpenLookup claim db := by
        simp [FailureRecording.writesRequestId, hn, hopen, OpenLookup]
      rw [hwrites]
      by_cases hlookup : OpenLookup claim db
      · simp [hlookup, (hgains hlookup).all_iff hdb]
      · simpa [hlookup, hkept hlookup] using hdb
  | reconciled claim =>
    obtain ⟨out, h⟩ := commits_discard.1 h
    obtain ⟨n, hn, ⟨hclosed, rfl⟩ | ⟨hopen, hwrites⟩⟩ := reconciled_cases h
    · simpa [FailureRecording.writesRequestId] using hdb
    · simp [FailureRecording.writesRequestId, hwrites.requestIds.all_iff hdb]
  | cleanup claim status retryable retryAfter =>
    obtain ⟨out, h⟩ := commits_discard.1 h
    have hwrites : FailureRecording.writesRequestId db
        (.cleanup claim status retryable retryAfter) = true ↔ OpenCleanup claim db := by
      simp only [FailureRecording.writesRequestId, List.any_eq_true, decide_eq_true_eq, OpenCleanup]
    rw [hwrites]
    by_cases hopen : OpenCleanup claim db
    · simp [hopen, ((cleanup_cases h).1 hopen).requestIds.all_iff hdb]
    · simpa [hopen, ((cleanup_cases h).2 hopen).2] using hdb

end Recordings

/-- The recording of a provider's failure commits if and only if the failure and the identity of the
request can be recorded, or are not what the recording writes. -/
theorem failure_recorded_iff {unicode : UnicodeTables} {worker : FixtureWorker} {db db' : FixtureDb}
    {error : FixtureFailure} {recording : FailureRecording} {providerRequestId : Option String}
    {finishedAt : Instant} (hdb : RecordsStorable db)
    (h : Commits (recording.transaction worker (recording.failure unicode error) providerRequestId
      finishedAt) db () db') :
    Commits (withFailureChecks (recording.transaction worker (recording.failure unicode error)
        providerRequestId finishedAt)) db () db' ↔
      (recording.writes worker finishedAt db = true → Recordable unicode error) ∧
      (recording.writesRequestId db = true → ∀ s, providerRequestId = some s →
        requestIdStorable s = true) := by
  rw [commits_withFailureChecks, and_iff_right h, ← recorded_failure_storable recording,
    ← recorded_failures_iff hdb.failures h, ← recorded_requestIds_iff hdb.requestIds h]
  exact ⟨fun hall => ⟨hall.failures, hall.requestIds⟩, fun hall => ⟨hall.1, hall.2⟩⟩

/-! ### A cleanup that fails -/

theorem ascii_cases (P : Char → Prop) (h : ∀ n < 128, P (Char.ofNat n)) {c : Char}
    (hc : c.toNat < 128) : P c := by
  have := h c.toNat hc
  rwa [Char.ofNat_toNat] at this

/-- Tables that know the letters and digits of ASCII only. -/
def asciiTables : UnicodeTables where
  upper c := if c.toNat < 128 then [c.toUpper] else [c]
  isAlpha c := c.isAlpha
  isAlnum c := c.isAlphanum
  upper_ascii c hc := if_pos hc
  upper_upper c d hd := by
    split at hd
    · rename_i hc
      have hall : c.toUpper.toNat < 128 ∧ c.toUpper.toUpper = c.toUpper :=
        ascii_cases (fun c => c.toUpper.toNat < 128 ∧ c.toUpper.toUpper = c.toUpper)
          (by decide) hc
      rw [List.mem_singleton.1 hd, if_pos hall.1, hall.2]
    · rename_i hc
      rw [List.mem_singleton.1 hd, if_neg hc]
  upper_not_lower c d hd := by
    split at hd
    · rename_i hc
      rw [List.mem_singleton.1 hd]
      exact ascii_cases (fun c => c.toUpper.isLower = false) (by decide) hc
    · rename_i hc
      rw [List.mem_singleton.1 hd]
      by_contra hlower
      simp only [Bool.not_eq_false, Char.isLower, Bool.and_eq_true, decide_eq_true_eq] at hlower
      have := UInt32.le_iff_toNat_le.1 hlower.2
      exact hc (Nat.lt_of_le_of_lt this (by decide))
  alpha_ascii _ _ := rfl
  alnum_ascii _ _ := rfl
  alnum_not_space c hc := by
    by_cases hascii : c.toNat < 128
    · exact ascii_cases (fun c => c.isAlphanum = true → Text.isSpace c = false) (by decide)
        hascii hc
    · simp only [Char.isAlphanum, Char.isAlpha, Char.isUpper, Char.isLower, Char.isDigit,
        Bool.or_eq_true, Bool.and_eq_true, decide_eq_true_eq] at hc
      refine absurd ?_ hascii
      rcases hc with (⟨-, h⟩ | ⟨-, h⟩) | ⟨-, h⟩ <;>
        exact Nat.lt_of_le_of_lt (UInt32.le_iff_toNat_le.1 h) (by decide)

def cleanupWorker : FixtureWorker where
  cleanupGrace := seconds 10
  cleanupMaxAttempts := 5
  reconcileMaxAttempts := 5
  recoveryClaimTtl := seconds 5
  retryInitial := seconds 2
  retryMaximum := seconds 30
  registered _ _ := true
  resolveInputs _ _ _ := .ok []
  inputsValid _ _ := true
  cleanupAttempts := by decide
  reconcileAttempts := by decide
  retryBounds := by decide

def cleaningOrder : ResourceRecord where
  id := 2
  fixtureRunId := 1
  dataNodeRunId := 3
  dataNodeAttemptId := 4
  connectorInstallationId := 50
  resourceHandle := "fr_order"
  resourceType := "shop.order"
  ownership := .created
  opaqueRef := "order-1"
  status := .cleaning
  expiresAt := seconds 3600
  cleanupOperationKey := some "shop.delete-order"
  cleanupOperationVersion := some "1.0.0"
  cleanupGeneration := 1
  nextCleanupAt := none
  createdAt := 0
  cleanedAt := none
  revision := 4

def orderCleanup : CleanupClaim :=
  ⟨cleaningOrder, ⟨7, 2, 1, .running, "cleaner", none, none, seconds 20, none⟩⟩

/-- One resource whose cleanup is claimed. -/
def cleaningDb : FixtureDb where
  leaseDb := ⟨[], [], [], [], [], [], [], [], [], 0⟩
  atoms := []
  runs := []
  bindings := []
  nodes := []
  attempts := []
  reconcileAttempts := []
  resources := [cleaningOrder]
  dependencies := []
  cleanupAttempts := [orderCleanup.attempt]
  nextId := 8

/-- The recording of a failed cleanup of the order, to be tried again. -/
def orderRecording : FailureRecording := .cleanup orderCleanup .failed true none

def recordOrder (error : FixtureFailure) (providerRequestId : Option String) : FixtureOp Unit :=
  orderRecording.transaction cleanupWorker (orderRecording.failure asciiTables error)
    providerRequestId (seconds 21)

def timeout : FixtureFailure := ⟨.transient, "shop.timeout", "The shop did not answer."⟩

def shortCode : FixtureFailure := ⟨.transient, "E1", "The shop did not answer."⟩

theorem cleaningDb_storable : RecordsStorable cleaningDb := by
  constructor
  · intro f hf
    simp [recordedFailures, cleaningDb, orderCleanup] at hf
  · intro s hs
    simp [recordedRequestIds, cleaningDb, orderCleanup] at hs

theorem order_commits (failure : FixtureFailure) (providerRequestId : Option String) :
    ∃ db', Commits (orderRecording.transaction cleanupWorker failure providerRequestId (seconds 21))
      cleaningDb () db' :=
  ⟨_, rfl⟩

theorem timeout_recordable : Recordable asciiTables timeout := by
  have hcode : normalizedCode asciiTables timeout.code.toList = "SHOP_TIMEOUT".toList := by
    decide
  have hascii : ("SHOP_TIMEOUT".toList.all fun c => c.toNat < 128) = true := by decide
  refine ⟨fun _ => ?_, ⟨'T', by decide, by decide⟩, by decide⟩
  rw [hcode]
  exact ⟨by decide, fun c hc => of_decide_eq_true (List.all_eq_true.1 hascii c hc)⟩

theorem timeout_recorded :
    ∃ db', Commits (withFailureChecks (recordOrder timeout (some "req-1"))) cleaningDb () db' := by
  obtain ⟨db', h⟩ := order_commits (orderRecording.failure asciiTables timeout) (some "req-1")
  refine ⟨db', (failure_recorded_iff cleaningDb_storable h).2 ⟨fun _ => timeout_recordable,
    fun _ s hs => ?_⟩⟩
  obtain rfl := Option.some.inj hs
  rw [requestIdStorable, decide_eq_true_eq]
  exact ⟨⟨'r', by decide, by decide⟩, by decide, by decide⟩

/-- The sanitizer keeps `E1`, and the pattern asks for three characters; a blank identity is refused
by its column: in both cases the attempt stays RUNNING and the resource CLEANING. -/
theorem short_code_not_recorded :
    RecordsStorable cleaningDb ∧
      (∃ db', Commits (recordOrder shortCode none) cleaningDb () db') ∧
      (¬ ∃ db', Commits (withFailureChecks (recordOrder shortCode none)) cleaningDb () db') ∧
      (∃ db', Commits (recordOrder timeout (some " ")) cleaningDb () db') ∧
      ¬ ∃ db', Commits (withFailureChecks (recordOrder timeout (some " "))) cleaningDb () db' := by
  refine ⟨cleaningDb_storable, order_commits _ _, ?_, order_commits _ _, ?_⟩
  · rintro ⟨db', h⟩
    obtain ⟨hcommits, hstorable⟩ := commits_withFailureChecks.1 h
    have hfailure :=
      (recorded_failures_iff cleaningDb_storable.failures hcommits).1 hstorable.failures rfl
    obtain ⟨hcode, -⟩ := (recorded_failure_storable orderRecording).1 hfailure
    have hnormalized : normalizedCode asciiTables shortCode.code.toList = ['E', '1'] := by
      decide
    have hkept : keepsCode asciiTables ['E', '1'] = true := by
      rw [keepsCode_iff]
      refine ⟨by decide, by decide, by decide, ?_, rfl⟩
      exact List.forall_mem_cons.2 ⟨rfl, List.forall_mem_cons.2 ⟨rfl, by simp⟩⟩
    rw [CodeFits, hnormalized] at hcode
    exact absurd (hcode hkept).1 (by decide)
  · rintro ⟨db', h⟩
    obtain ⟨hcommits, hstorable⟩ := commits_withFailureChecks.1 h
    have hblank := (recorded_requestIds_iff cleaningDb_storable.requestIds hcommits).1
      hstorable.requestIds rfl " " rfl
    rw [requestIdStorable, decide_eq_true_eq] at hblank
    obtain ⟨⟨c, hc, hblank⟩, -⟩ := hblank
    exact hblank (List.mem_singleton.1 hc)

end Atlas.Proofs.FailureRecords
