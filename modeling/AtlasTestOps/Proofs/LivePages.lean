import AtlasTestOps.Proofs.LiveRecovery

/-! One action at a time, on the page it was approved for. The page is compared when a grant is
issued and never again, so this holds where grants are asked for one after the other. A reading is
the start of a transaction, which may lie before that of one that has committed already. -/

namespace Atlas.Proofs

open Atlas Atlas.Identity Atlas.Task Atlas.Runtime Atlas.Store Atlas.Service Txn

/-- The grant can still be consumed, or its action is in flight. -/
def outstanding (now : Instant) (g : LiveActionGrant) : Bool :=
  g.state = .consumed || g.state = .issued && now < g.expiresAt

/-- The rows with the readings at which grants for new actions were asked for. -/
structure AskedState where
  db : LiveDb
  asked : List Instant

def AskedState.call (s : AskedState) (c : LiveCall) (now : Instant) : AskedState where
  db := after (c.run now) s.db
  asked := match c with
    | .issue request _ =>
      if s.db.getActionGrantByAction request.actionId = none then now :: s.asked else s.asked
    | _ => s.asked

/-- A grant for a new action is only asked for while none is outstanding, and none is consumed at a
reading before that of a grant asked for earlier. -/
def AsksInOrder (s : AskedState) (now : Instant) : LiveCall → Prop
  | .issue request _ => s.db.getActionGrantByAction request.actionId = none →
      ∀ g ∈ s.db.grants, outstanding now g = false
  | .consume _ _ => ∀ t ∈ s.asked, t ≤ now
  | _ => True

/-- At most one grant is outstanding, and its page is the current one. -/
structure OnPage (now : Instant) (db : LiveDb) : Prop where
  one : Rows.AtMostOne (outstanding now) db.grants
  page : ∀ session, db.session = some session → ∀ g ∈ db.grants, outstanding now g = true →
    g.pageRevision = session.browserRevision

/-! ### Outstanding grants -/

theorem outstanding_of_consumed {now : Instant} {g : LiveActionGrant} (h : g.state = .consumed) :
    outstanding now g = true := by
  simp [outstanding, h]

theorem outstanding_of_consumable {now : Instant} {db : LiveDb} {g : LiveActionGrant}
    (h : db.consumable g now = true) : outstanding now g = true := by
  obtain ⟨hissued, hlicensed⟩ := licensed_of_consumable h
  simp [outstanding, hissued, hlicensed.unexpired]

/-- Time only takes grants away. -/
theorem outstanding_anti {now later : Instant} (hle : now ≤ later) {g : LiveActionGrant}
    (h : outstanding later g = true) : outstanding now g = true := by
  simp only [outstanding, Bool.or_eq_true, Bool.and_eq_true, decide_eq_true_eq] at h ⊢
  rcases h with h | ⟨h, hlt⟩
  · exact Or.inl h
  · exact Or.inr ⟨h, hle.trans_lt hlt⟩

theorem outstanding_of_revokeGrant {now : Instant} {g : LiveActionGrant}
    (h : outstanding now (revokeGrant g) = true) : outstanding now g = true := by
  unfold revokeGrant at h
  split at h
  · simp [outstanding] at h
  · exact h

theorem outstanding_of_completeRow {now : Instant} {grant g : LiveActionGrant}
    {request : CompleteLiveActionGrant} (h : outstanding now (completeRow grant request g) = true) :
    outstanding now g = true := by
  unfold completeRow at h
  split at h
  · simp [outstanding] at h
  · exact h

@[simp] theorem revokeGrant_page (g : LiveActionGrant) : (revokeGrant g).pageRevision = g.pageRevision := by
  unfold revokeGrant
  split <;> rfl

@[simp] theorem consumeRow_page (db : LiveDb) (grantId : Uuid) (now : Instant) (g : LiveActionGrant) :
    (consumeRow db grantId now g).pageRevision = g.pageRevision := by
  unfold consumeRow
  split <;> rfl

namespace OnPage

variable {now : Instant} {db db' : LiveDb}

theorem of_idle (h : ∀ g ∈ db.grants, outstanding now g = false) : OnPage now db := by
  have hnone : ∀ g ∈ db.grants, ¬ outstanding now g = true := fun g hg => by simp [h g hg]
  refine ⟨?_, fun s _ g hg hout => absurd hout (hnone g hg)⟩
  exact List.Pairwise.imp_of_mem (R := fun _ _ => True)
    (fun ha _ _ hab => hnone _ ha hab.1) (List.pairwise_of_forall fun _ _ => trivial)

/-- The grants are rewritten under a page that stays. -/
theorem rewrite {early : Instant} {f : LiveActionGrant → LiveActionGrant} (h : OnPage early db)
    (hout : ∀ g, outstanding now (f g) = true → outstanding early g = true)
    (hpage : ∀ g, (f g).pageRevision = g.pageRevision) (hgrants : db'.grants = db.grants.map f)
    (hsession : ∀ s', db'.session = some s' →
      ∃ s, db.session = some s ∧ s'.browserRevision = s.browserRevision) : OnPage now db' := by
  refine ⟨?_, fun s' hs' g hg hout' => ?_⟩
  · rw [hgrants]
    exact h.one.map hout
  · obtain ⟨s, hs, hrevision⟩ := hsession s' hs'
    rw [hgrants] at hg
    obtain ⟨g, hmem, rfl⟩ := List.mem_map.1 hg
    rw [hpage, hrevision]
    exact h.page s hs g hmem (hout g hout')

theorem same (h : OnPage now db) (hgrants : db'.grants = db.grants)
    (hsession : ∀ s', db'.session = some s' →
      ∃ s, db.session = some s ∧ s'.browserRevision = s.browserRevision) : OnPage now db' :=
  h.rewrite (f := id) (fun _ => id) (fun _ => rfl) (by rw [hgrants, List.map_id]) hsession

/-- A page only advances while the one outstanding action gives its receipt. -/
theorem completed {request : CompleteLiveActionGrant} {session : LiveSession} {g : LiveActionGrant}
    (h : OnPage now db) (hm : LiveCompleted request session g db db') :
    OnPage now db' := by
  have hg : g ∈ db.grants := List.mem_of_find?_eq_some hm.found
  refine of_idle fun a ha => ?_
  rw [hm.grants_eq] at ha
  obtain ⟨a, hmem, rfl⟩ := List.mem_map.1 ha
  by_contra hout
  rw [Bool.not_eq_false] at hout
  obtain rfl := h.one.unique hmem hg (outstanding_of_completeRow hout) (outstanding_of_consumed hm.consumed)
  simp [completeRow, hm.consumed, outstanding] at hout

/-- A safe point is reached with no grant outstanding. -/
theorem acknowledged {reading : Instant} {request : AcknowledgeLiveControl} {session : LiveSession}
    {command : LiveControlCommand} (hinv : LiveInv db)
    (hm : LiveAcknowledged reading request session command db db') : OnPage now db' := by
  have hcommand : command ∈ db.commands := List.mem_of_find?_eq_some hm.found
  have hrequested := (hinv.pending session hm.held command hcommand hm.pending).1
  have hfree : ¬ Controlled session := by
    rw [Controlled, hrequested]
    cases command.commandType <;> simp [requestedState]
  refine of_idle fun g hg => ?_
  rw [hm.grants_eq] at hg
  have hissued := hinv.revoked session hm.held hfree g hg
  have hconsumed := List.any_eq_false.1 hm.safe g hg
  simp only [decide_eq_true_eq] at hconsumed
  simp [outstanding, hissued, hconsumed]

theorem issued {reading : Instant} {session : LiveSession} {lease : ControlLease} {g : LiveActionGrant}
    (halone : ∀ a ∈ db.grants, outstanding now a = false)
    (hm : LiveIssued reading session lease g db db') : OnPage now db' := by
  refine ⟨?_, fun s hs a ha hout => ?_⟩
  · rw [hm.grants_eq]
    exact Rows.AtMostOne.append halone
  · rw [hm.session_eq] at hs
    obtain rfl := Option.some.inj hs
    rw [hm.grants_eq] at ha
    rcases List.mem_append.1 ha with ha | ha
    · rw [halone a ha] at hout
      simp at hout
    · obtain rfl := List.mem_singleton.1 ha
      exact hm.page

/-- A grant is consumed: what is outstanding at a reading was so at the earlier of the two. -/
theorem consumed {reading : Instant} {grant : LiveActionGrant} (h : OnPage (min now reading) db)
    (hm : LiveConsumed reading grant db db') : OnPage now db' := by
  refine h.rewrite (f := consumeRow db grant.grantId reading) (fun g hout => ?_)
    (consumeRow_page db _ reading) hm.grants_eq fun s' hs' => ⟨s', hm.session_eq ▸ hs', rfl⟩
  unfold consumeRow at hout
  split at hout
  · next hsel => exact outstanding_anti (min_le_right _ _) (outstanding_of_consumable hsel.2)
  · exact outstanding_anti (min_le_left _ _) hout

end OnPage

/-- What holds of the page at every reading from the last call for a grant on. -/
def Serial (s : AskedState) : Prop := ∀ now, (∀ t ∈ s.asked, t ≤ now) → OnPage now s.db

theorem Serial.move {s : AskedState} {db' : LiveDb} {c : LiveCall} {reading : Instant} (h : Serial s)
    (hinv : LiveInv s.db) (hm : LiveMove c reading s.db db') (horder : AsksInOrder s reading c)
    (now : Instant) (hasked : ∀ t ∈ s.asked, t ≤ now)
    (hnew : ∀ request worker, c = .issue request worker →
      s.db.getActionGrantByAction request.actionId = none → reading ≤ now) : OnPage now db' := by
  have hpage := h now hasked
  have held : db'.session = s.db.session → ∀ s', db'.session = some s' →
      ∃ session, s.db.session = some session ∧ s'.browserRevision = session.browserRevision :=
    fun heq s' hs' => ⟨s', heq ▸ hs', rfl⟩
  cases hm with
  | untouched hm => exact hpage.same hm.grants_eq (held hm.session_eq)
  | initialized hm =>
    refine .of_idle fun g hg => ?_
    rw [hm.grants_eq, (hinv.absent hm.absent).2.2] at hg
    simp at hg
  | renewed hm => exact hpage.same hm.grants_eq (held hm.session_eq)
  | @expired session lease hm =>
    refine hpage.rewrite (fun _ => outstanding_of_revokeGrant) revokeGrant_page hm.grants_eq
      fun s' hs' => ?_
    rw [hm.session_eq] at hs'
    exact ⟨session, hm.held, (Option.some.inj hs') ▸ rfl⟩
  | @requested commandType session command hm =>
    have hsession : ∀ s', db'.session = some s' →
        ∃ old, s.db.session = some old ∧ s'.browserRevision = old.browserRevision := fun s' hs' => by
      rw [hm.session_eq] at hs'
      exact ⟨session, hm.held, (Option.some.inj hs') ▸ rfl⟩
    have hgrants := hm.grants_eq
    split at hgrants
    · exact hpage.same hgrants hsession
    · exact hpage.rewrite (fun _ => outstanding_of_revokeGrant) revokeGrant_page hgrants hsession
  | acknowledged hm => exact .acknowledged hinv hm
  | @issued session lease grant hm request worker hcall hfresh =>
    subst hcall
    refine .issued (fun g hg => ?_) hm
    have halone := horder hfresh g hg
    rw [Bool.eq_false_iff] at halone ⊢
    exact fun hout => halone (outstanding_anti (hnew request worker rfl hfresh) hout)
  | @consumed grant hm request hcall =>
    subst hcall
    exact .consumed (h _ fun t ht => le_min (hasked t ht) (horder t ht)) hm
  | completed hm => exact hpage.completed hm

end Atlas.Proofs
