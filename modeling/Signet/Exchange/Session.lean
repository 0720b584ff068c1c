import Signet.Exchange.Request

/-!
# Sessions

A session is what a client does: it writes log entries, sends requests, and goes on with
the reply to each of them. A session is run against a server that has a state. Since the
reply is an argument, a statement about all servers is a statement about one session.
-/
namespace Signet

/-- A client that ends with a result. -/
inductive Session (α : Type) where
  | done (result : α)
  | log (entry : LogEntry) (next : Session α)
  | exchange (request : Request) (next : Reply → Session α)

namespace Session

variable {α β σ : Type}

/-- One session after the other. -/
def bind : Session α → (α → Session β) → Session β
  | .done a, f => f a
  | .log entry next, f => .log entry (bind next f)
  | .exchange request next, f => .exchange request fun reply => bind (next reply) f

instance : Monad Session where
  pure := .done
  bind := bind

@[simp] theorem pure_eq_done (a : α) : (pure a : Session α) = .done a := rfl

@[simp] theorem done_bind (a : α) (f : α → Session β) : (Session.done a >>= f) = f a := rfl

@[simp] theorem log_bind (entry : LogEntry) (next : Session α) (f : α → Session β) :
    (Session.log entry next >>= f) = .log entry (next >>= f) := rfl

@[simp] theorem exchange_bind (request : Request) (next : Reply → Session α) (f : α → Session β) :
    (Session.exchange request next >>= f) = .exchange request fun reply => next reply >>= f := rfl

theorem bind_done (s : Session α) : (s >>= Session.done) = s := by
  induction s with
  | done a => rfl
  | log entry next ih => rw [log_bind, ih]
  | exchange request next ih => simp [ih]

theorem bind_assoc {γ : Type} (s : Session α) (f : α → Session β) (g : β → Session γ) :
    (s >>= f >>= g) = s >>= fun a => f a >>= g := by
  induction s with
  | done a => rfl
  | log entry next ih => rw [log_bind, log_bind, log_bind, ih]
  | exchange request next ih => simp [ih]

instance : LawfulMonad Session :=
  LawfulMonad.mk' _ (fun s => bind_done s) (fun _ _ => rfl) (fun s f g => bind_assoc s f g)

/-- A server answers a request and changes its state. -/
abbrev Server (σ : Type) := σ → Request → Reply × σ

/-- What a run leaves: the result, the state of the server, the log, and every request with
its reply. -/
structure Run (σ α : Type) where
  result : α
  state : σ
  logs : List LogEntry
  exchanges : List (Request × Reply)

/-- The session against a server in a state. -/
def run (server : Server σ) : Session α → σ → Run σ α
  | .done a, state => ⟨a, state, [], []⟩
  | .log entry next, state =>
    let r := run server next state
    { r with logs := entry :: r.logs }
  | .exchange request next, state =>
    let answer := server state request
    let r := run server (next answer.1) answer.2
    { r with exchanges := (request, answer.1) :: r.exchanges }

@[simp] theorem run_done (server : Server σ) (a : α) (state : σ) :
    run server (.done a) state = ⟨a, state, [], []⟩ := rfl

/-- A run of two sessions, one after the other, is a run of each. -/
theorem run_bind (server : Server σ) (s : Session α) (f : α → Session β) (state : σ) :
    run server (s >>= f) state =
      let first := run server s state
      let second := run server (f first.result) first.state
      ⟨second.result, second.state, first.logs ++ second.logs,
        first.exchanges ++ second.exchanges⟩ := by
  induction s generalizing state with
  | done a => simp
  | log entry next ih => simp [run, ih]
  | exchange request next ih => simp [run, ih]

end Session

/-- A session that may fail. -/
abbrev Attempt (ε α : Type) := ExceptT ε Session α

namespace Attempt

variable {ε α : Type}

def send (request : Request) : Attempt ε Reply :=
  ExceptT.mk (.exchange request fun reply => .done (.ok reply))

def log (level : Level) (message : Text) : Attempt ε Unit :=
  ExceptT.mk (.log ⟨level, message⟩ (.done (.ok ())))

/-- What is already decided. -/
def ofExcept (r : Except ε α) : Attempt ε α := ExceptT.mk (.done r)

/-- The attempt with its failures seen as failures of another kind, or as results. -/
def recover {ε' : Type} (attempt : Attempt ε α) (f : ε → Except ε' α) : Attempt ε' α :=
  ExceptT.mk do
    match ← attempt.run with
    | .ok a => pure (.ok a)
    | .error e => pure (f e)

/-- The attempt with its failures seen as failures of another kind. -/
def mapError {ε' : Type} (attempt : Attempt ε α) (f : ε → ε') : Attempt ε' α :=
  attempt.recover fun e => .error (f e)

end Attempt
end Signet
