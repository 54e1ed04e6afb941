import AtlasTestOps.Lib.Transaction

/-! Idempotency keys: a table of requests with their stored responses, kept in the state of
the transaction that answers the request. A key answers one request; a repeated request gets
the stored response until the record expires. -/

namespace Txn

structure IdempotencyRecord (κ η ρ : Type) where
  key : κ
  requestHash : η
  expiresAt : ℕ
  response : Option ρ
deriving DecidableEq, Repr

/-- Where a state keeps its idempotency records, and what a refused key raises. -/
structure IdempotencyTable (σ ε κ η ρ : Type) where
  records : σ → List (IdempotencyRecord κ η ρ)
  store : σ → List (IdempotencyRecord κ η ρ) → σ
  records_store : ∀ s rows, records (store s rows) = rows
  otherRequest : ε
  unfinished : ε

namespace IdempotencyTable

variable {σ ε κ η ρ : Type} [DecidableEq κ] [DecidableEq η]
variable (t : IdempotencyTable σ ε κ η ρ) (key : κ) (requestHash : η) (now ttl : ℕ)

/-- The records that are still good for a request under the key. -/
def fresh (rows : List (IdempotencyRecord κ η ρ)) : List (IdempotencyRecord κ η ρ) :=
  rows.filter fun r => ¬ (r.key = key ∧ r.expiresAt ≤ now)

/-- The cached response, or none when the request has been reserved. -/
def reserve : Tx σ ε (Option ρ) := do
  update fun s => t.store s (fresh key now (t.records s))
  match ← read fun s => (t.records s).find? fun r => r.key = key with
  | none => do
    update fun s => t.store s (t.records s ++ [⟨key, requestHash, now + ttl, none⟩])
    pure none
  | some record => do
    raiseIf (record.requestHash ≠ requestHash) t.otherRequest
    let response ← demand record.response t.unfinished
    pure (some response)

def complete (response : ρ) : Tx σ ε Unit :=
  update fun s => t.store s ((t.records s).map fun r =>
    if r.key = key then { r with response := some response } else r)

/-- Answer a request once: the stored response, or the body's, which is then stored. -/
def once (body : Tx σ ε (ρ × Bool)) : Tx σ ε (ρ × Bool) := do
  match ← t.reserve key requestHash now ttl with
  | some response => pure (response, true)
  | none => do
    let (response, replayed) ← body
    t.complete key response
    pure (response, replayed)

variable {t key requestHash now ttl} {s s' : σ}

/-- A request is answered from a record of the same request, or by the body. -/
theorem commits_once {body : Tx σ ε (ρ × Bool)} {answer : ρ × Bool}
    (h : Commits (t.once key requestHash now ttl body) s answer s') :
    (answer.2 = true ∧ s' = t.store s (fresh key now (t.records s)) ∧
      ∃ r ∈ t.records s, r.key = key ∧ r.requestHash = requestHash ∧ r.response = some answer.1) ∨
    (∀ r ∈ fresh key now (t.records s), r.key ≠ key) ∧
      ∃ m, Commits body (t.store (t.store s (fresh key now (t.records s)))
        (fresh key now (t.records s) ++ [⟨key, requestHash, now + ttl, none⟩])) answer m ∧
      s' = t.store m ((t.records m).map fun r =>
        if r.key = key then { r with response := some answer.1 } else r) := by
  simp only [once, commits_bind] at h
  obtain ⟨cached, m, hreserve, hrest⟩ := h
  simp only [reserve, commits_bind, commits_update, commits_read] at hreserve
  obtain ⟨-, s₁, rfl, found, s₂, ⟨hfound, rfl⟩, hbranch⟩ := hreserve
  rw [t.records_store] at hfound
  cases found with
  | none =>
    simp only [commits_bind, commits_update, commits_pure, t.records_store] at hbranch
    obtain ⟨-, s₃, rfl, rfl, rfl⟩ := hbranch
    simp only [complete, commits_bind, commits_update, commits_pure] at hrest
    obtain ⟨a, m', hbody, -, m'', rfl, rfl, rfl⟩ := hrest
    have hnone := List.find?_eq_none.1 hfound.symm
    exact Or.inr ⟨fun r hr => by simpa using hnone r hr, m', hbody, rfl⟩
  | some record =>
    simp only [commits_bind, commits_raiseIf, commits_demand, commits_pure, not_not] at hbranch
    obtain ⟨-, s₃, ⟨hhash, rfl⟩, response, s₄, ⟨hresponse, rfl⟩, rfl, rfl⟩ := hbranch
    obtain ⟨rfl, rfl⟩ := commits_pure.1 hrest
    have hmem := List.mem_of_find?_eq_some hfound.symm
    have hkey : record.key = key := by simpa using List.find?_some hfound.symm
    exact Or.inl ⟨rfl, rfl, record, List.mem_of_mem_filter hmem, hkey, hhash, hresponse⟩

/-- What the body keeps, answering a request keeps: records come and go around it. -/
theorem within_once {R : σ → σ → Prop} [IsTrans σ R] {body : Tx σ ε (ρ × Bool)}
    (hstore : ∀ s rows, R s (t.store s rows)) (hbody : Within R body) :
    Within R (t.once key requestHash now ttl body) := by
  intro s answer s' h
  rcases commits_once h with ⟨-, rfl, -⟩ | ⟨-, m, hm, rfl⟩
  · exact hstore _ _
  · refine IsTrans.trans _ _ _ ?_ (hstore _ _)
    refine IsTrans.trans _ _ _ ?_ (hbody _ _ _ hm)
    exact IsTrans.trans _ _ _ (hstore _ _) (hstore _ _)

end IdempotencyTable

end Txn
