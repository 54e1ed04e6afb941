import AtlasTestOps.Lib.Transaction

/-! Transactions that run statement by statement on shared tables, at the isolation level READ
COMMITTED. A statement sees what is committed when it runs, under what its own transaction has
changed; a row lock is held until the transaction ends, and a statement that wants a lock of
another transaction waits. The rule for proofs follows the statements of one transaction: between
two of them the others may do whatever the locks that it holds leave them. -/

namespace ReadCommitted

/-- The statements of a transaction, each with what follows on its result. -/
inductive Body (Db Lock Fault α : Type)
  | done (answer : α)
  | raise (fault : Fault)
  /-- `select` -/
  | read (next : Db → Body Db Lock Fault α)
  /-- `select … for update`, or the entry of a unique index -/
  | lock (row : Lock) (next : Db → Body Db Lock Fault α)
  /-- `select … limit … for update skip locked` -/
  | lockFree (rows : Db → List Lock) (limit : ℕ) (next : List Lock → Db → Body Db Lock Fault α)
  | write (change : Db → Db) (next : Body Db Lock Fault α)

variable {Call Db Lock Fault α β : Type}

namespace Body

def bind : Body Db Lock Fault α → (α → Body Db Lock Fault β) → Body Db Lock Fault β
  | .done answer, f => f answer
  | .raise fault, _ => .raise fault
  | .read next, f => .read fun db => (next db).bind f
  | .lock row next, f => .lock row fun db => (next db).bind f
  | .lockFree rows limit next, f => .lockFree rows limit fun free db => (next free db).bind f
  | .write change next, f => .write change (next.bind f)

instance : Monad (Body Db Lock Fault) where
  pure := .done
  bind := bind

end Body

def select (f : Db → α) : Body Db Lock Fault α := .read fun db => .done (f db)

def selectForUpdate (row : Lock) (f : Db → α) : Body Db Lock Fault α :=
  .lock row fun db => .done (f db)

/-- The rows that the statement has locked, and what it reads of them. -/
def selectSkipLocked (rows : Db → List Lock) (limit : ℕ) (f : List Lock → Db → α) :
    Body Db Lock Fault α :=
  .lockFree rows limit fun free db => .done (f free db)

def change (f : Db → Db) : Body Db Lock Fault Unit := .write f (.done ())

def raiseIf (c : Prop) [Decidable c] (fault : Fault) : Body Db Lock Fault Unit :=
  if c then .raise fault else .done ()

def demand (o : Option α) (fault : Fault) : Body Db Lock Fault α :=
  match o with
  | none => .raise fault
  | some a => .done a

/-! ### Sessions -/

/-- The tables as a transaction with these changes sees them. -/
def view (changes : List (Db → Db)) (db : Db) : Db := changes.foldl (fun db change => change db) db

@[simp] theorem view_nil (db : Db) : view [] db = db := rfl

@[simp] theorem view_append (changes : List (Db → Db)) (change : Db → Db) (db : Db) :
    view (changes ++ [change]) db = change (view changes db) := by
  simp [view]

/-- A transaction that has begun. -/
structure Session (Call Db Lock Fault α : Type) where
  call : Call
  locks : List Lock
  changes : List (Db → Db)
  rest : Body Db Lock Fault α

/-- The next statement, where `held` are the locks of the others; none while it waits, and when
there is none left. -/
def Session.statement [DecidableEq Lock] (held : Lock → Bool) (db : Db)
    (s : Session Call Db Lock Fault α) : Option (Session Call Db Lock Fault α) :=
  match s.rest with
  | .done _ | .raise _ => none
  | .read next => some { s with rest := next (view s.changes db) }
  | .lock row next =>
    if held row then none
    else some { s with locks := row :: s.locks, rest := next (view s.changes db) }
  | .lockFree rows limit next =>
    let free := ((rows (view s.changes db)).filter fun row => ¬ held row).take limit
    some { s with locks := free ++ s.locks, rest := next free (view s.changes db) }
  | .write change next => some { s with changes := s.changes ++ [change], rest := next }

/-- The committed tables, and the transactions that have begun and not ended. -/
structure System (Call Db Lock Fault α : Type) where
  db : Db
  count : ℕ
  sessions : ℕ → Option (Session Call Db Lock Fault α)

def System.initial (db : Db) : System Call Db Lock Fault α := ⟨db, 0, fun _ => none⟩

def System.setSession (sys : System Call Db Lock Fault α) (n : ℕ)
    (s : Option (Session Call Db Lock Fault α)) : System Call Db Lock Fault α :=
  { sys with sessions := fun m => if m = n then s else sys.sessions m }

/-- Some transaction other than the `n`-th holds the lock. -/
def System.held [DecidableEq Lock] (sys : System Call Db Lock Fault α) (n : ℕ) (row : Lock) :
    Bool :=
  (List.range sys.count).any fun m =>
    m ≠ n && (sys.sessions m).any fun s => row ∈ s.locks

/-- What may happen next; a rollback stands for every error and every crash. -/
inductive Event (Call : Type)
  | start (call : Call)
  | statement (n : ℕ)
  | commit (n : ℕ)
  | rollback (n : ℕ)

def System.start (body : Call → Body Db Lock Fault α) (sys : System Call Db Lock Fault α)
    (call : Call) : System Call Db Lock Fault α :=
  { sys with count := sys.count + 1 }.setSession sys.count (some ⟨call, [], [], body call⟩)

def System.statement [DecidableEq Lock] (sys : System Call Db Lock Fault α) (n : ℕ) :
    System Call Db Lock Fault α :=
  match (sys.sessions n).bind (Session.statement (sys.held n) sys.db) with
  | none => sys
  | some s => sys.setSession n (some s)

def System.commit (sys : System Call Db Lock Fault α) (n : ℕ) : System Call Db Lock Fault α :=
  match sys.sessions n with
  | some ⟨_, _, changes, .done _⟩ => { sys.setSession n none with db := view changes sys.db }
  | _ => sys

def System.apply [DecidableEq Lock] (body : Call → Body Db Lock Fault α)
    (sys : System Call Db Lock Fault α) : Event Call → System Call Db Lock Fault α
  | .start call => sys.start body call
  | .statement n => sys.statement n
  | .commit n => sys.commit n
  | .rollback n => sys.setSession n none

theorem System.statement_cases [DecidableEq Lock] (sys : System Call Db Lock Fault α) (n : ℕ) :
    sys.statement n = sys ∨ ∃ s s', sys.sessions n = some s ∧
      s.statement (sys.held n) sys.db = some s' ∧ sys.statement n = sys.setSession n (some s') := by
  unfold System.statement
  cases hs : sys.sessions n with
  | none => exact Or.inl rfl
  | some s =>
    cases hnext : s.statement (sys.held n) sys.db with
    | none => exact Or.inl (by rw [Option.bind_some, hnext])
    | some s' => exact Or.inr ⟨s, s', rfl, hnext, by rw [Option.bind_some, hnext]⟩

theorem System.commit_cases (sys : System Call Db Lock Fault α) (n : ℕ) :
    sys.commit n = sys ∨ ∃ s answer, sys.sessions n = some s ∧ s.rest = .done answer ∧
      sys.commit n = { sys.setSession n none with db := view s.changes sys.db } := by
  unfold System.commit
  split
  · rename_i call locks changes answer hs
    exact Or.inr ⟨⟨call, locks, changes, .done answer⟩, answer, hs, rfl, rfl⟩
  · exact Or.inl rfl

/-- Reached by any interleaving of any transactions. -/
inductive Reached [DecidableEq Lock] (body : Call → Body Db Lock Fault α) (db : Db) :
    System Call Db Lock Fault α → Prop
  | initial : Reached body db (.initial db)
  | step {sys : System Call Db Lock Fault α} (e : Event Call) :
    Reached body db sys → Reached body db (sys.apply body e)

/-! ### Without others -/

/-- What the statements do when nothing is locked and nothing else commits. -/
def Body.alone : Body Db Lock Fault α → Txn.Tx Db Fault α
  | .done answer => fun db => .ok (answer, db)
  | .raise fault => fun _ => .error fault
  | .read next => fun db => (next db).alone db
  | .lock _ next => fun db => (next db).alone db
  | .lockFree rows limit next => fun db => (next ((rows db).take limit) db).alone db
  | .write change next => fun db => next.alone (change db)

section Alone

variable {db db' : Db} {body : Body Db Lock Fault β} {g : β → Body Db Lock Fault α}
  {t : Txn.Tx Db Fault β} {u : β → Txn.Tx Db Fault α}

theorem alone_bind (h : body.alone db = t db') (hrest : ∀ b db, (g b).alone db = u b db) :
    (body >>= g).alone db = (t >>= u) db' := by
  have hbind : (body >>= g).alone db =
      (body.alone db).bind fun result => (g result.1).alone result.2 := by
    clear h hrest
    induction body generalizing db with
    | done => rfl
    | raise => rfl
    | read _ ih => exact ih db
    | lock _ _ ih => exact ih db
    | lockFree _ _ _ ih => exact ih _ db
    | write _ _ ih => exact ih
  rw [hbind, h]
  show (t db').bind _ = (t db').bind _
  congr 1
  exact funext fun result => hrest result.1 result.2

theorem alone_discard (h : body.alone db = t db') : (discard body).alone db = discard t db' :=
  alone_bind h fun _ _ => rfl

theorem alone_select {γ : Type} {f : Db → β} {f' : Db → γ} {u : γ → Txn.Tx Db Fault α}
    (h : (g (f db)).alone db = u (f' db') db') :
    (select f >>= g).alone db = (Txn.read f' >>= u) db' := h

theorem alone_selectForUpdate {γ : Type} {row : Lock} {f : Db → β} {f' : Db → γ}
    {u : γ → Txn.Tx Db Fault α} (h : (g (f db)).alone db = u (f' db') db') :
    (selectForUpdate row f >>= g).alone db = (Txn.read f' >>= u) db' := h

/-- A change whose counterpart comes later. -/
theorem alone_change_left {f : Db → Db} {g : Unit → Body Db Lock Fault α} {t : Txn.Tx Db Fault α}
    (h : (g ()).alone (f db) = t db') : (change f >>= g).alone db = t db' := h

theorem alone_change {f f' : Db → Db} {g : Unit → Body Db Lock Fault α}
    {u : Unit → Txn.Tx Db Fault α} (h : (g ()).alone (f db) = u () (f' db')) :
    (change f >>= g).alone db = (Txn.update f' >>= u) db' := h

theorem alone_raiseIf {c : Prop} [Decidable c] {fault : Fault} {g : Unit → Body Db Lock Fault α}
    {u : Unit → Txn.Tx Db Fault α} (h : ¬ c → (g ()).alone db = u () db') :
    (raiseIf c fault >>= g).alone db = (Txn.raiseIf c fault >>= u) db' := by
  by_cases hc : c
  · simp only [raiseIf, if_pos hc, bind, StateT.bind, Except.bind, Txn.raiseIf]
    rfl
  · have hu : (Txn.raiseIf c fault >>= u) db' = u () db' := by
      simp only [bind, StateT.bind, Except.bind, Txn.raiseIf, if_neg hc]
    rw [hu, raiseIf, if_neg hc]
    exact h hc

theorem alone_ite {c : Prop} [Decidable c] {x y : Body Db Lock Fault α}
    {t u : Txn.Tx Db Fault α} (hx : c → x.alone db = t db') (hy : ¬ c → y.alone db = u db') :
    (if c then x else y).alone db = (if c then t else u) db' := by
  by_cases hc : c
  · rw [if_pos hc, if_pos hc]
    exact hx hc
  · rw [if_neg hc, if_neg hc]
    exact hy hc

theorem alone_demand {o : Option β} {fault : Fault}
    (h : ∀ b, o = some b → (g b).alone db = u b db') :
    (demand o fault >>= g).alone db = (Txn.demand o fault >>= u) db' := by
  cases o with
  | none => rfl
  | some b => exact h b rfl

end Alone

/-! ### The rule for one transaction -/

/-- What the committed tables satisfy, and what of them the others leave as it is while a
transaction holds some locks. -/
structure Discipline (Db Lock : Type) where
  Inv : Db → Prop
  Keeps : List Lock → Db → Db → Prop
  refl (locks : List Lock) (db : Db) : Keeps locks db db
  trans {locks : List Lock} {db₁ db₂ db₃ : Db} :
    Keeps locks db₁ db₂ → Keeps locks db₂ db₃ → Keeps locks db₁ db₃

namespace Discipline

variable (D : Discipline Db Lock)

/-- The tables as a transaction with these locks may find them later. -/
def Later (locks : List Lock) (db db' : Db) : Prop := D.Keeps locks db db' ∧ D.Inv db'

/-- However the statements interleave with those of others, a transaction that gets to its end
commits with `post`. -/
def Safe (post : α → List Lock → List (Db → Db) → Db → Prop) :
    Body Db Lock Fault α → List Lock → List (Db → Db) → Db → Prop
  | .done answer, locks, changes, db =>
    ∀ db', D.Later locks db db' → post answer locks changes db'
  | .raise _, _, _, _ => True
  | .read next, locks, changes, db =>
    ∀ db', D.Later locks db db' → Safe post (next (view changes db')) locks changes db'
  | .lock row next, locks, changes, db =>
    ∀ db', D.Later locks db db' → Safe post (next (view changes db')) (row :: locks) changes db'
  | .lockFree rows _ next, locks, changes, db =>
    ∀ db' free, D.Later locks db db' → (∀ row ∈ free, row ∈ rows (view changes db')) →
      Safe post (next free (view changes db')) (free ++ locks) changes db'
  | .write change next, locks, changes, db => Safe post next locks (changes ++ [change]) db

variable {D} {post : α → List Lock → List (Db → Db) → Db → Prop} {locks : List Lock}
  {changes : List (Db → Db)} {db db' : Db}

theorem Later.trans {db'' : Db} (h : D.Later locks db db') (h' : D.Later locks db' db'') :
    D.Later locks db db'' := ⟨D.trans h.1 h'.1, h'.2⟩

/-- The others may go on. -/
theorem Safe.later {body : Body Db Lock Fault α} (h : D.Safe post body locks changes db)
    (hlater : D.Later locks db db') : D.Safe post body locks changes db' := by
  induction body generalizing locks changes db db' with
  | done => exact fun _ hnext => h _ (hlater.trans hnext)
  | raise => trivial
  | read => exact fun _ hnext => h _ (hlater.trans hnext)
  | lock => exact fun _ hnext => h _ (hlater.trans hnext)
  | lockFree => exact fun _ _ hnext => h _ _ (hlater.trans hnext)
  | write _ _ ih => exact ih h hlater

/-- A part of a transaction is followed by the rest. -/
theorem Safe.bind {f : β → Body Db Lock Fault α} {body : Body Db Lock Fault β} (hinv : D.Inv db)
    (h : D.Safe (fun b locks changes db => D.Safe post (f b) locks changes db) body locks changes
      db) : D.Safe post (body >>= f) locks changes db := by
  induction body generalizing locks changes db with
  | done => exact h db ⟨D.refl _ _, hinv⟩
  | raise => trivial
  | read _ ih => exact fun db' hnext => ih _ hnext.2 (h db' hnext)
  | lock _ _ ih => exact fun db' hnext => ih _ hnext.2 (h db' hnext)
  | lockFree _ _ _ ih => exact fun db' free hnext hfree => ih _ _ hnext.2 (h db' free hnext hfree)
  | write _ _ ih => exact ih hinv h

theorem Safe.discard {post : Unit → List Lock → List (Db → Db) → Db → Prop}
    {body : Body Db Lock Fault β} (h : D.Safe (fun _ => post ()) body locks changes db) :
    D.Safe post (discard body) locks changes db := by
  induction body generalizing locks changes db with
  | done => exact h
  | raise => trivial
  | read _ ih => exact fun db' hnext => ih _ (h db' hnext)
  | lock _ _ ih => exact fun db' hnext => ih _ (h db' hnext)
  | lockFree _ _ _ ih => exact fun db' free hnext hfree => ih _ _ (h db' free hnext hfree)
  | write _ _ ih => exact ih h

section Rules

variable {g : β → Body Db Lock Fault α}

theorem safe_select {f : Db → β} :
    D.Safe post (select f >>= g) locks changes db ↔
      ∀ db', D.Later locks db db' → D.Safe post (g (f (view changes db'))) locks changes db' :=
  Iff.rfl

theorem safe_selectForUpdate {row : Lock} {f : Db → β} :
    D.Safe post (selectForUpdate row f >>= g) locks changes db ↔
      ∀ db', D.Later locks db db' →
        D.Safe post (g (f (view changes db'))) (row :: locks) changes db' :=
  Iff.rfl

theorem safe_selectSkipLocked {rows : Db → List Lock} {limit : ℕ} {f : List Lock → Db → β} :
    D.Safe post (selectSkipLocked rows limit f >>= g) locks changes db ↔
      ∀ db' free, D.Later locks db db' → (∀ row ∈ free, row ∈ rows (view changes db')) →
        D.Safe post (g (f free (view changes db'))) (free ++ locks) changes db' :=
  Iff.rfl

theorem safe_change {f : Db → Db} {g : Unit → Body Db Lock Fault α} :
    D.Safe post (change f >>= g) locks changes db ↔
      D.Safe post (g ()) locks (changes ++ [f]) db :=
  Iff.rfl

theorem safe_raiseIf {c : Prop} [Decidable c] {fault : Fault} {g : Unit → Body Db Lock Fault α}
    (h : ¬ c → D.Safe post (g ()) locks changes db) :
    D.Safe post (raiseIf c fault >>= g) locks changes db := by
  unfold raiseIf
  by_cases hc : c
  · rw [if_pos hc]
    trivial
  · rw [if_neg hc]
    exact h hc

theorem safe_demand {o : Option β} {fault : Fault}
    (h : ∀ b, o = some b → D.Safe post (g b) locks changes db) :
    D.Safe post (demand o fault >>= g) locks changes db := by
  cases o with
  | none => trivial
  | some b => exact h b rfl

end Rules

/-! ### Every interleaving -/

section Interleaving

variable {body : Call → Body Db Lock Fault α}
  {effect : Call → List Lock → Db → Db → Prop}

variable (D body effect) in
/-- Alone with its locks every transaction has its effect, which keeps the tables as they have to
be and what the locks of others cover. -/
structure Respects : Prop where
  safe (call : Call) (db : Db) : D.Inv db →
    D.Safe (fun _ locks changes db => effect call locks db (view changes db)) (body call) [] [] db
  inv {call : Call} {locks : List Lock} {db db' : Db} :
    D.Inv db → effect call locks db db' → D.Inv db'
  keeps {call : Call} {locks others : List Lock} {db db' : Db} :
    D.Inv db → effect call locks db db' → (∀ row ∈ others, row ∉ locks) → D.Keeps others db db'

variable (D effect) in
structure Holds (sys : System Call Db Lock Fault α) : Prop where
  inv : D.Inv sys.db
  started : ∀ n s, sys.sessions n = some s → n < sys.count
  /-- No lock is held twice. -/
  apart : ∀ m n s t, m ≠ n → sys.sessions m = some s → sys.sessions n = some t →
    ∀ row ∈ s.locks, row ∉ t.locks
  safe : ∀ n s, sys.sessions n = some s →
    D.Safe (fun _ locks changes db => effect s.call locks db (view changes db)) s.rest s.locks
      s.changes sys.db

variable {sys : System Call Db Lock Fault α} {n : ℕ}

theorem Holds.free_of_not_held [DecidableEq Lock] (h : D.Holds effect sys) {row : Lock}
    (hfree : sys.held n row = false) {m : ℕ} (hne : m ≠ n) {s : Session Call Db Lock Fault α}
    (hs : sys.sessions m = some s) : row ∉ s.locks := by
  intro hrow
  have hheld : sys.held n row = true := by
    unfold System.held
    rw [List.any_eq_true]
    exact ⟨m, List.mem_range.2 (h.started m s hs), by simp [hne, hs, hrow]⟩
  rw [hheld] at hfree
  cases hfree

/-- The locks that a statement adds were free, and what is left of the transaction is safe. -/
theorem Safe.statement [DecidableEq Lock] {held : Lock → Bool} {s s' : Session Call Db Lock Fault α}
    {post : α → List Lock → List (Db → Db) → Db → Prop} (hinv : D.Inv db)
    (hsafe : D.Safe post s.rest s.locks s.changes db) (h : s.statement held db = some s') :
    s'.call = s.call ∧ (∀ row ∈ s'.locks, row ∈ s.locks ∨ held row = false) ∧
      D.Safe post s'.rest s'.locks s'.changes db := by
  obtain ⟨call, locks, changes, rest⟩ := s
  have hnow : D.Later locks db db := ⟨D.refl _ _, hinv⟩
  cases rest with
  | done => cases h
  | raise => cases h
  | read next =>
    obtain rfl := Option.some.inj h
    exact ⟨rfl, fun _ hrow => Or.inl hrow, hsafe db hnow⟩
  | lock row next =>
    obtain ⟨hfree, hs'⟩ := Option.ite_none_left_eq_some.1 h
    obtain rfl := Option.some.inj hs'
    refine ⟨rfl, fun r hr => ?_, hsafe db hnow⟩
    rcases List.mem_cons.1 hr with rfl | hr
    · exact Or.inr (Bool.eq_false_iff.2 hfree)
    · exact Or.inl hr
  | lockFree rows limit next =>
    obtain rfl := Option.some.inj h
    refine ⟨rfl, fun r hr => ?_, hsafe db _ hnow fun r hr => ?_⟩
    · rcases List.mem_append.1 hr with hr | hr
      · have := (List.mem_filter.1 (List.mem_of_mem_take hr)).2
        exact Or.inr (by simpa using this)
      · exact Or.inl hr
    · exact List.mem_of_mem_filter (List.mem_of_mem_take hr)
  | write change next =>
    obtain rfl := Option.some.inj h
    exact ⟨rfl, fun _ hrow => Or.inl hrow, hsafe⟩

/-- What a commit does to the tables. -/
theorem Holds.commit (h : D.Holds effect sys) {s : Session Call Db Lock Fault α}
    (hs : sys.sessions n = some s) {answer : α} (hdone : s.rest = .done answer) :
    effect s.call s.locks sys.db (view s.changes sys.db) := by
  have hsafe := h.safe n s hs
  rw [hdone] at hsafe
  exact hsafe sys.db ⟨D.refl _ _, h.inv⟩

theorem Holds.setSession (h : D.Holds effect sys) {s : Option (Session Call Db Lock Fault α)}
    (hstarted : ∀ t ∈ s, n < sys.count)
    (hapart : ∀ t ∈ s, ∀ m u, m ≠ n → sys.sessions m = some u → ∀ row ∈ t.locks, row ∉ u.locks)
    (hsafe : ∀ t ∈ s, D.Safe (fun _ locks changes db => effect t.call locks db (view changes db))
      t.rest t.locks t.changes sys.db) : D.Holds effect (sys.setSession n s) := by
  refine ⟨h.inv, fun m t ht => ?_, fun m₁ m₂ t₁ t₂ hne h₁ h₂ => ?_, fun m t ht => ?_⟩
  all_goals simp only [System.setSession] at *
  · by_cases hm : m = n
    · rw [if_pos hm] at ht
      exact hm ▸ hstarted t ht
    · rw [if_neg hm] at ht
      exact h.started m t ht
  · by_cases hm₁ : m₁ = n <;> by_cases hm₂ : m₂ = n
    · exact absurd (hm₁.trans hm₂.symm) hne
    · rw [if_pos hm₁] at h₁
      rw [if_neg hm₂] at h₂
      exact hapart t₁ h₁ m₂ t₂ hm₂ h₂
    · rw [if_neg hm₁] at h₁
      rw [if_pos hm₂] at h₂
      exact fun row hrow hmem => hapart t₂ h₂ m₁ t₁ hm₁ h₁ row hmem hrow
    · rw [if_neg hm₁] at h₁
      rw [if_neg hm₂] at h₂
      exact h.apart m₁ m₂ t₁ t₂ hne h₁ h₂
  · by_cases hm : m = n
    · rw [if_pos hm] at ht
      exact hsafe t ht
    · rw [if_neg hm] at ht
      exact h.safe m t ht

theorem Holds.rollback (h : D.Holds effect sys) (n : ℕ) :
    D.Holds effect (sys.setSession n none) := by
  refine h.setSession (fun t ht => ?_) (fun t ht => ?_) fun t ht => ?_ <;> cases ht

/-- The others go on after a commit. -/
theorem Holds.committed (hbody : D.Respects body effect) (h : D.Holds effect sys)
    {s : Session Call Db Lock Fault α} (hs : sys.sessions n = some s) {answer : α}
    (hdone : s.rest = .done answer) :
    D.Holds effect { sys.setSession n none with db := view s.changes sys.db } := by
  have heffect := h.commit hs hdone
  have hended := h.rollback n
  refine ⟨hbody.inv h.inv heffect, hended.started, hended.apart, fun m t ht => ?_⟩
  refine (hended.safe m t ht).later ⟨hbody.keeps h.inv heffect fun row hrow hmem => ?_,
    hbody.inv h.inv heffect⟩
  obtain ⟨hm, ht⟩ := Option.ite_none_left_eq_some.1 ht
  exact h.apart m n t s hm ht hs row hrow hmem

theorem Holds.step [DecidableEq Lock] (hbody : D.Respects body effect) (h : D.Holds effect sys)
    (e : Event Call) : D.Holds effect (sys.apply body e) := by
  cases e with
  | start call =>
    have hcount : D.Holds effect { sys with count := sys.count + 1 } :=
      ⟨h.inv, fun n s hs => Nat.lt_succ_of_lt (h.started n s hs), h.apart, h.safe⟩
    refine hcount.setSession (fun _ _ => Nat.lt_succ_self _) (fun t ht => ?_) fun t ht => ?_
    · obtain rfl := Option.some.inj ht
      exact fun _ _ _ _ row hrow => absurd hrow List.not_mem_nil
    · obtain rfl := Option.some.inj ht
      exact hbody.safe call sys.db h.inv
  | statement n =>
    change D.Holds effect (sys.statement n)
    rcases sys.statement_cases n with hsame | ⟨s, s', hs, hnext, hsys⟩
    · rwa [hsame]
    · obtain ⟨hcall, hlocks, hsafe⟩ := Safe.statement h.inv (h.safe n s hs) hnext
      rw [hsys]
      refine h.setSession (fun _ _ => h.started n s hs) (fun t ht m u hm hu row hrow => ?_)
        fun t ht => ?_
      · obtain rfl := Option.some.inj ht
        rcases hlocks row hrow with hold | hfree
        · exact h.apart n m s u (Ne.symm hm) hs hu row hold
        · exact h.free_of_not_held hfree hm hu
      · obtain rfl := Option.some.inj ht
        rwa [hcall]
  | commit n =>
    change D.Holds effect (sys.commit n)
    rcases sys.commit_cases n with hsame | ⟨s, answer, hs, hdone, hsys⟩
    · rwa [hsame]
    · rw [hsys]
      exact h.committed hbody hs hdone
  | rollback n => exact h.rollback n

end Interleaving

end Discipline

theorem Reached.holds [DecidableEq Lock] {D : Discipline Db Lock}
    {body : Call → Body Db Lock Fault α} {effect : Call → List Lock → Db → Db → Prop}
    (hbody : D.Respects body effect) {db : Db} (hinv : D.Inv db)
    {sys : System Call Db Lock Fault α} (h : Reached body db sys) : D.Holds effect sys := by
  induction h with
  | initial =>
    refine ⟨hinv, fun n s hs => ?_, fun m n s t _ hs => ?_, fun n s hs => ?_⟩ <;> cases hs
  | step e _ ih => exact ih.step hbody e

/-- Only a commit changes the committed tables. -/
theorem System.apply_db [DecidableEq Lock] (body : Call → Body Db Lock Fault α)
    (sys : System Call Db Lock Fault α) (e : Event Call) :
    (sys.apply body e).db = sys.db ∨
      ∃ n s answer, e = .commit n ∧ sys.sessions n = some s ∧ s.rest = .done answer ∧
        (sys.apply body e).db = view s.changes sys.db := by
  cases e with
  | start => exact Or.inl rfl
  | statement n =>
    refine Or.inl ?_
    change (sys.statement n).db = sys.db
    rcases sys.statement_cases n with hsame | ⟨s, s', -, -, hsys⟩
    · rw [hsame]
    · rw [hsys]
      rfl
  | commit n =>
    change (sys.commit n).db = sys.db ∨ _
    rcases sys.commit_cases n with hsame | ⟨s, answer, hs, hdone, hsys⟩
    · exact Or.inl (by rw [hsame])
    · exact Or.inr ⟨n, s, answer, rfl, hs, hdone, congrArg System.db hsys⟩
  | rollback => exact Or.inl rfl

end ReadCommitted
