import Mathlib.Tactic.TypeStar

/-!
# Scripts of database statements

A script is what a call sends to a database, one statement after another, with its
transactions and its calls to other components. This module runs a script alone: every
statement may fail, and a failure ends the script and its open transaction.
-/

set_option autoImplicit false

/-- How a statement locks a row. -/
inductive LockMode
  | share
  | exclusive
  deriving DecidableEq, Repr

/-- What a statement does: its answer, the change of the rows it writes and its row locks. -/
structure Effect (δ κ β : Type) where
  answer : β
  change : δ → δ
  locks : List (κ × LockMode)

/-- A statement reads a view of the database, and which rows other transactions hold; it raises
the errors of constraints. -/
abbrev Statement (δ κ ε β : Type) := (κ → Bool) → δ → Except ε (Effect δ κ β)

/-- The answer and the next state of a statement that no other transaction disturbs. -/
def Statement.eval {δ κ ε β : Type} (statement : Statement δ κ ε β) (db : δ) : Except ε (β × δ) :=
  match statement (fun _ => false) db with
  | .error error => .error error
  | .ok effect => .ok (effect.answer, effect.change db)

/-- Scripts over databases `δ` with row names `κ`, calls `χ` to other components, places `τ` in
the source that send statements, and errors `ε`. -/
inductive Script (δ κ χ τ ε : Type) (α : Type) : Type 1
  | done (a : α)
  | fail (error : ε)
  | query {β : Type} (site : τ) (statement : Statement δ κ ε β)
      (next : β → Script δ κ χ τ ε α)
  | start (site : τ) (next : Script δ κ χ τ ε α)
  | commit (site : τ) (next : Script δ κ χ τ ε α)
  | rollback (site : τ) (next : Script δ κ χ τ ε α)
  /-- whether the call succeeds -/
  | call (request : χ) (next : Bool → Script δ κ χ τ ε α)

/-- What is committed, and the view of the open transaction. -/
structure Connection (δ : Type) where
  committed : δ
  opened : Option δ

namespace Connection
variable {δ : Type}

/-- No transaction is open. -/
abbrev idle (db : δ) : Connection δ := ⟨db, none⟩

/-- An open transaction over a committed state. -/
abbrev within (db view : δ) : Connection δ := ⟨db, some view⟩

def view (c : Connection δ) : δ := c.opened.getD c.committed

/-- Outside a transaction every statement commits. -/
def put (c : Connection δ) (db : δ) : Connection δ :=
  match c.opened with
  | none => ⟨db, none⟩
  | some _ => ⟨c.committed, some db⟩

def rollback (c : Connection δ) : Connection δ := ⟨c.committed, none⟩

def start (c : Connection δ) : Connection δ := ⟨c.committed, some c.view⟩

def commit (c : Connection δ) : Connection δ := ⟨c.view, none⟩

@[simp] theorem view_idle (db : δ) : (idle db).view = db := rfl
@[simp] theorem view_within (db view : δ) : (within db view).view = view := rfl
@[simp] theorem put_idle (db db' : δ) : (idle db).put db' = idle db' := rfl
@[simp] theorem put_within (db view db' : δ) : (within db view).put db' = within db db' := rfl
@[simp] theorem start_idle (db : δ) : (idle db).start = within db db := rfl
@[simp] theorem commit_within (db view : δ) : (within db view).commit = idle view := rfl
@[simp] theorem rollback_within (db view : δ) : (within db view).rollback = idle db := rfl
@[simp] theorem rollback_idle (db : δ) : (idle db).rollback = idle db := rfl
@[simp] theorem rollback_committed (c : Connection δ) : c.rollback.committed = c.committed := rfl

end Connection

/-- Why a script ends without a result. -/
inductive Failure (ε : Type)
  /-- the database did not execute a statement -/
  | statement
  | raised (error : ε)
  deriving DecidableEq

namespace Script
variable {δ κ χ τ ε α β : Type}

protected def bind : Script δ κ χ τ ε α → (α → Script δ κ χ τ ε β) → Script δ κ χ τ ε β
  | done a, f => f a
  | fail error, _ => fail error
  | query site statement next, f => query site statement fun b => (next b).bind f
  | start site next, f => start site (next.bind f)
  | commit site next, f => commit site (next.bind f)
  | rollback site next, f => rollback site (next.bind f)
  | call request next, f => call request fun b => (next b).bind f

instance : Monad (Script δ κ χ τ ε) where
  pure := done
  bind := Script.bind

section Bind
variable {γ : Type} {f : α → Script δ κ χ τ ε β}

@[simp] theorem pure_eq (a : α) : (pure a : Script δ κ χ τ ε α) = done a := rfl
@[simp] theorem done_bind (a : α) : (done a : Script δ κ χ τ ε α) >>= f = f a := rfl
@[simp] theorem fail_bind (error : ε) : (fail error : Script δ κ χ τ ε α) >>= f = fail error := rfl
@[simp] theorem query_bind (site : τ) (statement : Statement δ κ ε γ)
    (next : γ → Script δ κ χ τ ε α) :
    query site statement next >>= f = query site statement fun b => next b >>= f := rfl
@[simp] theorem start_bind (site : τ) (next : Script δ κ χ τ ε α) :
    start site next >>= f = start site (next >>= f) := rfl
@[simp] theorem commit_bind (site : τ) (next : Script δ κ χ τ ε α) :
    commit site next >>= f = commit site (next >>= f) := rfl
@[simp] theorem rollback_bind (site : τ) (next : Script δ κ χ τ ε α) :
    rollback site next >>= f = rollback site (next >>= f) := rfl
@[simp] theorem call_bind (request : χ) (next : Bool → Script δ κ χ τ ε α) :
    call request next >>= f = call request fun b => next b >>= f := rfl

theorem bind_done (script : Script δ κ χ τ ε α) : script >>= done = script := by
  induction script with
  | done a => rfl
  | fail error => rfl
  | query site statement next ih => exact congrArg (query site statement) (funext ih)
  | start site next ih => exact congrArg (start site) ih
  | commit site next ih => exact congrArg (commit site) ih
  | rollback site next ih => exact congrArg (rollback site) ih
  | call request next ih => exact congrArg (call request) (funext ih)

theorem bind_assoc (script : Script δ κ χ τ ε γ) (g : γ → Script δ κ χ τ ε α) :
    script >>= g >>= f = script >>= fun c => g c >>= f := by
  induction script with
  | done a => rfl
  | fail error => rfl
  | query site statement next ih => exact congrArg (query site statement) (funext ih)
  | start site next ih => exact congrArg (start site) ih
  | commit site next ih => exact congrArg (commit site) ih
  | rollback site next ih => exact congrArg (rollback site) ih
  | call request next ih => exact congrArg (call request) (funext ih)

end Bind

/-! ### Running alone -/

/-- The result and the connection when no statement fails. -/
def outcome (answer : χ → Bool) : Script δ κ χ τ ε α → Connection δ → Except ε α × Connection δ
  | done a, c => (.ok a, c)
  | fail error, c => (.error error, c.rollback)
  | query _ statement next, c =>
    match statement.eval c.view with
    | .error error => (.error error, c.rollback)
    | .ok (b, db) => outcome answer (next b) (c.put db)
  | start _ next, c => outcome answer next c.start
  | commit _ next, c => outcome answer next c.commit
  | rollback _ next, c => outcome answer next c.rollback
  | call request next, c => outcome answer (next (answer request)) c

/-- The same run where the statement number `n` fails if `fails site n`. -/
def run (answer : χ → Bool) (fails : τ → Nat → Bool) :
    Script δ κ χ τ ε α → Nat → Connection δ → Except (Failure ε) α × Connection δ
  | done a, _, c => (.ok a, c)
  | fail error, _, c => (.error (.raised error), c.rollback)
  | query site statement next, n, c =>
    if fails site n then (.error .statement, c.rollback)
    else
      match statement.eval c.view with
      | .error error => (.error (.raised error), c.rollback)
      | .ok (b, db) => run answer fails (next b) (n + 1) (c.put db)
  | start site next, n, c =>
    if fails site n then (.error .statement, c.rollback)
    else run answer fails next (n + 1) c.start
  | commit site next, n, c =>
    if fails site n then (.error .statement, c.rollback)
    else run answer fails next (n + 1) c.commit
  | rollback site next, n, c =>
    if fails site n then (.error .statement, c.rollback)
    else run answer fails next (n + 1) c.rollback
  | call request next, n, c => run answer fails (next (answer request)) n c

/-- What holds of every statement that is sent: its place, and what is committed then. -/
def Sends (answer : χ → Bool) (R : τ → δ → Prop) : Script δ κ χ τ ε α → Connection δ → Prop
  | done _, _ => True
  | fail _, _ => True
  | query site statement next, c =>
    R site c.committed ∧
      match statement.eval c.view with
      | .error _ => True
      | .ok (b, db) => Sends answer R (next b) (c.put db)
  | start site next, c => R site c.committed ∧ Sends answer R next c.start
  | commit site next, c => R site c.committed ∧ Sends answer R next c.commit
  | rollback site next, c => R site c.committed ∧ Sends answer R next c.rollback
  | call request next, c => Sends answer R (next (answer request)) c

attribute [grind =] outcome run Sends

/-- The result of a run in which no statement failed. -/
def raise (result : Except ε α × Connection δ) : Except (Failure ε) α × Connection δ :=
  match result with
  | (.ok a, c) => (.ok a, c)
  | (.error error, c) => (.error (.raised error), c)

section Runs
variable {answer : χ → Bool} {fails : τ → Nat → Bool} {R : τ → δ → Prop}
  {script : Script δ κ χ τ ε α} {n : Nat} {c : Connection δ}

section Query
variable {γ : Type} {site : τ} {statement : Statement δ κ ε γ} {next : γ → Script δ κ χ τ ε α}

theorem outcome_query_ok {b : γ} {db : δ} (h : statement.eval c.view = .ok (b, db)) :
    outcome answer (query site statement next) c = outcome answer (next b) (c.put db) := by
  rw [outcome, h]

theorem outcome_query_error {error : ε} (h : statement.eval c.view = .error error) :
    outcome answer (query site statement next) c = (.error error, c.rollback) := by
  rw [outcome, h]

/-- A statement that does not fail in a run. -/
theorem run_query_ok {b : γ} {db : δ} (hfails : fails site n = false)
    (h : statement.eval c.view = .ok (b, db)) :
    run answer fails (query site statement next) n c =
      run answer fails (next b) (n + 1) (c.put db) := by
  rw [run, hfails, if_neg Bool.false_ne_true, h]

theorem sends_query_ok {b : γ} {db : δ} (h : statement.eval c.view = .ok (b, db)) :
    Sends answer R (query site statement next) c ↔
      R site c.committed ∧ Sends answer R (next b) (c.put db) := by
  rw [Sends, h]

theorem sends_query_error {error : ε} (h : statement.eval c.view = .error error) :
    Sends answer R (query site statement next) c ↔ R site c.committed := by
  rw [Sends, h, and_true]

end Query

/-- A run is the whole script, or it is cut at a statement that was sent. -/
theorem run_cases (fails : τ → Nat → Bool) (n : Nat) (h : Sends answer R script c) :
    run answer fails script n c = raise (outcome answer script c) ∨
      ∃ site k db, fails site k = true ∧ R site db ∧
        run answer fails script n c = (.error .statement, .idle db) := by
  induction script generalizing n c with
  | done a => exact .inl rfl
  | fail error => exact .inl rfl
  | query site statement next ih =>
    rw [Sends] at h
    obtain ⟨hsite, hrest⟩ := h
    by_cases hfails : fails site n = true
    · refine .inr ⟨site, n, _, hfails, hsite, ?_⟩
      rw [run, if_pos hfails]
      rfl
    · simp only [run, outcome, if_neg hfails]
      split
      · exact .inl rfl
      · rename_i heval
        simp only [heval] at hrest
        exact ih _ _ hrest
  | start site next ih =>
    by_cases hfails : fails site n = true
    · exact .inr ⟨site, n, _, hfails, h.1, if_pos hfails⟩
    · simp only [run, outcome, if_neg hfails]
      exact ih _ h.2
  | commit site next ih =>
    by_cases hfails : fails site n = true
    · exact .inr ⟨site, n, _, hfails, h.1, if_pos hfails⟩
    · simp only [run, outcome, if_neg hfails]
      exact ih _ h.2
  | rollback site next ih =>
    by_cases hfails : fails site n = true
    · exact .inr ⟨site, n, _, hfails, h.1, if_pos hfails⟩
    · simp only [run, outcome, if_neg hfails]
      exact ih _ h.2
  | call request next ih => exact ih _ _ h

/-- Statements that do not fail are as good as none that fails. -/
theorem run_eq_outcome (h : Sends answer (fun site _ => ∀ k, fails site k = false) script c) :
    run answer fails script n c = raise (outcome answer script c) := by
  rcases run_cases fails n h with hwhole | ⟨site, k, db, hfails, hnone, -⟩
  · exact hwhole
  · rw [hnone k] at hfails
    cases hfails

theorem Sends.mono {R' : τ → δ → Prop} (h : Sends answer R script c)
    (hR : ∀ site db, R site db → R' site db) : Sends answer R' script c := by
  induction script generalizing c with
  | done a => exact h
  | fail error => exact h
  | query site statement next ih =>
    rw [Sends] at h ⊢
    refine ⟨hR _ _ h.1, ?_⟩
    have hrest := h.2
    split at hrest
    · trivial
    · exact ih _ hrest
  | start site next ih => exact ⟨hR _ _ h.1, ih h.2⟩
  | commit site next ih => exact ⟨hR _ _ h.1, ih h.2⟩
  | rollback site next ih => exact ⟨hR _ _ h.1, ih h.2⟩
  | call request next ih => exact ih _ h

variable {f : α → Script δ κ χ τ ε β}

/-- A sequence runs its second part where the first one has ended. -/
theorem outcome_bind : outcome answer (script >>= f) c =
    match outcome answer script c with
    | (.ok a, c') => outcome answer (f a) c'
    | (.error error, c') => (.error error, c') := by
  induction script generalizing c with
  | done a => rfl
  | fail error => rfl
  | query site statement next ih =>
    simp only [query_bind, outcome]
    split
    · rfl
    · exact ih _
  | start site next ih => exact ih
  | commit site next ih => exact ih
  | rollback site next ih => exact ih
  | call request next ih => exact ih _

theorem outcome_bind_ok {a : α} {c' : Connection δ} (h : outcome answer script c = (.ok a, c')) :
    outcome answer (script >>= f) c = outcome answer (f a) c' := by
  rw [outcome_bind, h]

theorem outcome_bind_error {error : ε} {c' : Connection δ}
    (h : outcome answer script c = (.error error, c')) :
    outcome answer (script >>= f) c = (.error error, c') := by
  rw [outcome_bind, h]

theorem sends_bind : Sends answer R (script >>= f) c ↔ Sends answer R script c ∧
    match outcome answer script c with
    | (.ok a, c') => Sends answer R (f a) c'
    | (.error _, _) => True := by
  induction script generalizing c with
  | done a =>
    simp only [done_bind, Sends, outcome, true_and]
  | fail error =>
    simp only [fail_bind, Sends, outcome, true_and]
  | query site statement next ih =>
    simp only [query_bind, Sends, outcome]
    split
    · simp only [and_true]
    · rw [ih, and_assoc]
  | start site next ih => simp only [start_bind, Sends, outcome, ih, and_assoc]
  | commit site next ih => simp only [commit_bind, Sends, outcome, ih, and_assoc]
  | rollback site next ih => simp only [rollback_bind, Sends, outcome, ih, and_assoc]
  | call request next ih => exact ih _

/-- A sequence whose first part has no failing statement goes on with its second part. -/
theorem exists_run_bind (n : Nat) {a : α} {c' : Connection δ}
    (h : Sends answer (fun site _ => ∀ k, fails site k = false) script c)
    (hfirst : outcome answer script c = (.ok a, c')) :
    ∃ m, run answer fails (script >>= f) n c = run answer fails (f a) m c' := by
  induction script generalizing n c with
  | done b =>
    cases hfirst
    exact ⟨n, rfl⟩
  | fail error => cases hfirst
  | query site statement next ih =>
    rw [Sends] at h
    have hsite : ¬ fails site n = true := by
      rw [h.1 n]
      exact Bool.false_ne_true
    have hrest := h.2
    simp only [outcome] at hfirst
    simp only [query_bind, run, if_neg hsite]
    split at hfirst
    · cases hfirst
    · rename_i heval
      simp only [heval] at hrest ⊢
      exact ih _ _ hrest hfirst
  | start site next ih =>
    have hsite : ¬ fails site n = true := by
      rw [h.1 n]
      exact Bool.false_ne_true
    simp only [start_bind, run, if_neg hsite]
    exact ih _ h.2 hfirst
  | commit site next ih =>
    have hsite : ¬ fails site n = true := by
      rw [h.1 n]
      exact Bool.false_ne_true
    simp only [commit_bind, run, if_neg hsite]
    exact ih _ h.2 hfirst
  | rollback site next ih =>
    have hsite : ¬ fails site n = true := by
      rw [h.1 n]
      exact Bool.false_ne_true
    simp only [rollback_bind, run, if_neg hsite]
    exact ih _ h.2 hfirst
  | call request next ih => exact ih _ _ h hfirst

end Runs

end Script
