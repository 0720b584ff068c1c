import Mathlib
import Signet.Exchange.Session

/-!
# Courses of sessions

A course of a session is a list of requests with their replies that leads it to a result.
The replies are arbitrary, so what holds of every course holds against every server. A run
against a server is a course, and the server gives its replies one after the other.

## Main definitions

* `Session.Yields s xs a` — the exchanges `xs` are a course of `s` with the result `a`.
* `Session.Served server state xs state'` — the server answers the exchanges `xs` on its way
  from one state to another.
* `Session.Run.Agrees` — two runs that differ at most in what they log.
* `Attempt.Yields` — the same for attempts, with one lemma for each way to combine them.
-/
namespace Signet

abbrev Exchange := Request × Reply

namespace Session

variable {α β σ : Type}

/-- The exchanges lead the session to the result. -/
def Yields : Session α → List Exchange → α → Prop
  | .done b, xs, a => xs = [] ∧ a = b
  | .log _ next, xs, a => Yields next xs a
  | .exchange request next, xs, a =>
    ∃ reply rest, xs = (request, reply) :: rest ∧ Yields (next reply) rest a

theorem yields_bind (s : Session α) (f : α → Session β) (xs : List Exchange) (b : β) :
    Yields (s >>= f) xs b ↔ ∃ ys zs a, xs = ys ++ zs ∧ Yields s ys a ∧ Yields (f a) zs b := by
  induction s generalizing xs with
  | done a =>
    rw [done_bind]
    constructor
    · intro h
      exact ⟨[], xs, a, rfl, ⟨rfl, rfl⟩, h⟩
    · rintro ⟨ys, zs, _, rfl, ⟨rfl, rfl⟩, h⟩
      exact h
  | log entry next ih => exact ih xs
  | exchange request next ih =>
    rw [exchange_bind]
    constructor
    · rintro ⟨reply, rest, rfl, h⟩
      obtain ⟨ys, zs, a, rfl, hs, hf⟩ := (ih reply rest).1 h
      exact ⟨(request, reply) :: ys, zs, a, rfl, ⟨reply, ys, rfl, hs⟩, hf⟩
    · rintro ⟨ys, zs, a, rfl, ⟨reply, rest, rfl, hs⟩, hf⟩
      exact ⟨reply, rest ++ zs, rfl, (ih reply _).2 ⟨rest, zs, a, rfl, hs, hf⟩⟩

/-- The exchanges decide the result. -/
theorem yields_unique {s : Session α} {xs : List Exchange} {a b : α} (ha : Yields s xs a)
    (hb : Yields s xs b) : a = b := by
  induction s generalizing xs with
  | done c => exact ha.2.trans hb.2.symm
  | log entry next ih => exact ih ha hb
  | exchange request next ih =>
    obtain ⟨reply, rest, rfl, ha⟩ := ha
    obtain ⟨_, _, heq, hb⟩ := hb
    cases heq
    exact ih reply ha hb

/-- The server answers the exchanges one after the other, from the first state to the last. -/
def Served (server : Server σ) : σ → List Exchange → σ → Prop
  | state, [], state' => state' = state
  | state, x :: rest, state' =>
    x.2 = (server state x.1).1 ∧ Served server (server state x.1).2 rest state'

theorem served_append {server : Server σ} {state state' : σ} {xs ys : List Exchange} :
    Served server state (xs ++ ys) state' ↔
      ∃ middle, Served server state xs middle ∧ Served server middle ys state' := by
  induction xs generalizing state with
  | nil => simp [Served]
  | cons x xs ih => simp only [List.cons_append, Served, ih, and_assoc, exists_and_left]

/-- A run is a course. -/
theorem yields_run (server : Server σ) (s : Session α) (state : σ) :
    Yields s (run server s state).exchanges (run server s state).result := by
  induction s generalizing state with
  | done a => exact ⟨rfl, rfl⟩
  | log entry next ih => exact ih state
  | exchange request next ih => exact ⟨_, _, rfl, ih _ _⟩

/-- The exchanges of a run are answered by the server. -/
theorem served_run (server : Server σ) (s : Session α) (state : σ) :
    Served server state (run server s state).exchanges (run server s state).state := by
  induction s generalizing state with
  | done a => exact rfl
  | log entry next ih => exact ih state
  | exchange request next ih => exact ⟨rfl, ih _ _⟩

/-- A server and its state decide the course of a run. -/
theorem run_eq_of_yields {server : Server σ} {s : Session α} {state state' : σ}
    {xs : List Exchange} {a : α} (h : Yields s xs a) (hs : Served server state xs state') :
    (run server s state).result = a ∧ (run server s state).state = state' ∧
      (run server s state).exchanges = xs := by
  induction s generalizing state xs with
  | done b =>
    obtain ⟨rfl, rfl⟩ := h
    exact ⟨rfl, hs.symm, rfl⟩
  | log entry next ih => exact ih h hs
  | exchange request next ih =>
    obtain ⟨reply, rest, rfl, h⟩ := h
    obtain ⟨hreply, hs⟩ := hs
    dsimp only at hreply hs
    subst hreply
    obtain ⟨hresult, hstate, hexchanges⟩ := ih _ h hs
    exact ⟨hresult, hstate, congrArg _ hexchanges⟩

/-- The runs differ at most in what they log. -/
structure Run.Agrees (r r' : Run σ α) : Prop where
  result : r.result = r'.result
  state : r.state = r'.state
  exchanges : r.exchanges = r'.exchanges

theorem result_eq_of_yields {server : Server σ} {s : Session α} {state state' : σ}
    {xs : List Exchange} {a : α} (h : Yields s xs a) (hs : Served server state xs state') :
    (run server s state).result = a :=
  (run_eq_of_yields h hs).1

end Session

namespace Attempt

variable {ε ε' α β : Type}

/-- The exchanges lead the attempt to a result or a failure. -/
def Yields (attempt : Attempt ε α) (xs : List Exchange) (r : Except ε α) : Prop :=
  Session.Yields attempt.run xs r

variable {xs : List Exchange}

@[simp] theorem yields_pure {a : α} {r : Except ε α} :
    Yields (pure a : Attempt ε α) xs r ↔ xs = [] ∧ r = .ok a := Iff.rfl

@[simp] theorem yields_throw {e : ε} {r : Except ε α} :
    Yields (throw e : Attempt ε α) xs r ↔ xs = [] ∧ r = .error e := Iff.rfl

@[simp] theorem yields_ofExcept {r r' : Except ε α} :
    Yields (ofExcept r) xs r' ↔ xs = [] ∧ r' = r := Iff.rfl

@[simp] theorem yields_log {level : Level} {message : Text} {r : Except ε Unit} :
    Yields (log level message) xs r ↔ xs = [] ∧ r = .ok () := Iff.rfl

@[simp] theorem yields_send {request : Request} {r : Except ε Reply} :
    Yields (send request) xs r ↔ ∃ reply, xs = [(request, reply)] ∧ r = .ok reply := by
  constructor
  · rintro ⟨reply, rest, rfl, rfl, rfl⟩
    exact ⟨reply, rfl, rfl⟩
  · rintro ⟨reply, rfl, rfl⟩
    exact ⟨reply, [], rfl, rfl, rfl⟩

/-- Either the first attempt fails, or the second one goes on with its result. -/
theorem yields_bind {attempt : Attempt ε α} {f : α → Attempt ε β} {r : Except ε β} :
    Yields (attempt >>= f) xs r ↔
      (∃ e, Yields attempt xs (.error e) ∧ r = .error e) ∨
      ∃ ys zs a, xs = ys ++ zs ∧ Yields attempt ys (.ok a) ∧ Yields (f a) zs r := by
  have hrun : (attempt >>= f).run = attempt.run >>= ExceptT.bindCont f := rfl
  rw [Yields, hrun, Session.yields_bind]
  constructor
  · rintro ⟨ys, zs, a | a, rfl, ha, hf⟩
    · obtain ⟨rfl, rfl⟩ := hf
      exact .inl ⟨a, by rwa [List.append_nil], rfl⟩
    · exact .inr ⟨ys, zs, a, rfl, ha, hf⟩
  · rintro (⟨e, he, rfl⟩ | ⟨ys, zs, a, rfl, ha, hf⟩)
    · exact ⟨xs, [], .error e, (List.append_nil xs).symm, he, rfl, rfl⟩
    · exact ⟨ys, zs, .ok a, rfl, ha, hf⟩

/-- A course of two attempts that succeeds is a course of each. -/
theorem yields_bind_ok {attempt : Attempt ε α} {f : α → Attempt ε β} {b : β} :
    Yields (attempt >>= f) xs (.ok b) ↔
      ∃ ys zs a, xs = ys ++ zs ∧ Yields attempt ys (.ok a) ∧ Yields (f a) zs (.ok b) := by
  simp [yields_bind]

theorem yields_recover {attempt : Attempt ε α} {f : ε → Except ε' α} {r : Except ε' α} :
    Yields (attempt.recover f) xs r ↔
      (∃ a, Yields attempt xs (.ok a) ∧ r = .ok a) ∨
      ∃ e, Yields attempt xs (.error e) ∧ r = f e := by
  rw [Yields, recover, ExceptT.run_mk, Session.yields_bind]
  constructor
  · rintro ⟨ys, zs, e | a, rfl, ha, rfl, rfl⟩
    · exact .inr ⟨e, by rwa [List.append_nil], rfl⟩
    · exact .inl ⟨a, by rwa [List.append_nil], rfl⟩
  · rintro (⟨a, ha, rfl⟩ | ⟨e, he, rfl⟩)
    · exact ⟨xs, [], .ok a, (List.append_nil xs).symm, ha, rfl, rfl⟩
    · exact ⟨xs, [], .error e, (List.append_nil xs).symm, he, rfl, rfl⟩

theorem yields_mapError {attempt : Attempt ε α} {f : ε → ε'} {r : Except ε' α} :
    Yields (attempt.mapError f) xs r ↔
      ∃ r', Yields attempt xs r' ∧ r = r'.mapError f := by
  rw [mapError, yields_recover]
  constructor
  · rintro (⟨a, ha, rfl⟩ | ⟨e, he, rfl⟩)
    · exact ⟨.ok a, ha, rfl⟩
    · exact ⟨.error e, he, rfl⟩
  · rintro ⟨e | a, h, rfl⟩
    · exact .inr ⟨e, h, rfl⟩
    · exact .inl ⟨a, h, rfl⟩

theorem yields_tryCatch {attempt : Attempt ε α} {f : ε → Attempt ε α} {r : Except ε α} :
    Yields (tryCatch attempt f) xs r ↔
      (∃ a, Yields attempt xs (.ok a) ∧ r = .ok a) ∨
      ∃ ys zs e, xs = ys ++ zs ∧ Yields attempt ys (.error e) ∧ Yields (f e) zs r := by
  have hrun : (tryCatch attempt f : Attempt ε α).run = (ExceptT.tryCatch attempt f).run := rfl
  rw [Yields, hrun, ExceptT.tryCatch, ExceptT.run_mk, Session.yields_bind]
  constructor
  · rintro ⟨ys, zs, e | a, rfl, ha, hf⟩
    · exact .inr ⟨ys, zs, e, rfl, ha, hf⟩
    · obtain ⟨rfl, rfl⟩ := hf
      exact .inl ⟨a, by rwa [List.append_nil], rfl⟩
  · rintro (⟨a, ha, rfl⟩ | ⟨ys, zs, e, rfl, he, hf⟩)
    · exact ⟨xs, [], .ok a, (List.append_nil xs).symm, ha, rfl, rfl⟩
    · exact ⟨ys, zs, .error e, rfl, he, hf⟩

/-- A run of an attempt is a course of it. -/
theorem yields_run {σ : Type} (server : Session.Server σ) (attempt : Attempt ε α) (state : σ) :
    Yields attempt (Session.run server attempt.run state).exchanges
      (Session.run server attempt.run state).result :=
  Session.yields_run server attempt.run state

/-! ## Attempts with the same courses -/

/-- The attempts have the same courses; they may differ in what they log. -/
def Same (a b : Attempt ε α) : Prop := ∀ xs r, Yields a xs r ↔ Yields b xs r

theorem Same.refl (a : Attempt ε α) : Same a a := fun _ _ => Iff.rfl

theorem Same.trans {a b c : Attempt ε α} (h : Same a b) (h' : Same b c) : Same a c :=
  fun xs r => (h xs r).trans (h' xs r)

theorem Same.bind {a b : Attempt ε α} (h : Same a b) {f g : α → Attempt ε β}
    (hfg : ∀ x, Same (f x) (g x)) : Same (a >>= f) (b >>= g) := by
  intro xs r
  simp only [yields_bind, h _ _, (hfg _) _ _]

theorem same_log_bind (level : Level) (message : Text) (f : Unit → Attempt ε α) :
    Same (log level message >>= f) (f ()) := by
  intro xs r
  rw [yields_bind]
  constructor
  · rintro (⟨e, ⟨-, he⟩, -⟩ | ⟨_, zs, _, rfl, ⟨rfl, -⟩, h⟩)
    · cases he
    · exact h
  · intro h
    exact .inr ⟨[], xs, (), rfl, ⟨rfl, rfl⟩, h⟩

theorem same_log (level : Level) (message : Text) :
    Same (log level message : Attempt ε Unit) (pure ()) := fun _ _ => Iff.rfl

/-- The second attempts have to agree only on what the first one gives. -/
theorem same_ofExcept_bind {r : Except ε α} {f g : α → Attempt ε β}
    (h : ∀ a, r = .ok a → Same (f a) (g a)) : Same (ofExcept r >>= f) (ofExcept r >>= g) := by
  cases r with
  | error e => exact .refl _
  | ok a => exact h a rfl

theorem Same.mapError {a b : Attempt ε α} (h : Same a b) (f : ε → ε') :
    Same (a.mapError f) (b.mapError f) := by
  intro xs r
  simp only [yields_mapError, h _ _]

theorem Same.tryCatch {a b : Attempt ε α} (h : Same a b) (f : ε → Attempt ε α) :
    Same (tryCatch a f) (tryCatch b f) := by
  intro xs r
  simp only [yields_tryCatch, h _ _]

/-- Whatever the server does, attempts with the same courses have runs that agree. -/
theorem Same.agrees {σ : Type} {a b : Attempt ε α} (h : Same a b) (server : Session.Server σ)
    (state : σ) : (Session.run server a.run state).Agrees (Session.run server b.run state) := by
  obtain ⟨hresult, hstate, hexchanges⟩ := Session.run_eq_of_yields
    ((h _ _).1 (yields_run server a state)) (Session.served_run server a.run state)
  exact ⟨hresult.symm, hstate.symm, hexchanges.symm⟩

/-- Failures of two attempts in a row are seen as failures of another kind in each of them. -/
theorem mapError_bind (attempt : Attempt ε α) (g : α → Attempt ε β) (f : ε → ε') :
    (attempt >>= g).mapError f = attempt.mapError f >>= fun a => (g a).mapError f := by
  refine ExceptT.ext ?_
  simp only [mapError, recover, ExceptT.run_mk, ExceptT.run_bind, bind_assoc]
  refine bind_congr ?_
  intro r
  cases r <;> simp

/-! ## What attempts send -/

/-- Every request of every course has the property. -/
def Sends (P : Request → Prop) (attempt : Attempt ε α) : Prop :=
  ∀ ⦃xs : List Exchange⦄ ⦃r : Except ε α⦄, Yields attempt xs r → ∀ x ∈ xs, P x.1

section Sends

variable {P : Request → Prop} {attempt : Attempt ε α}

theorem sends_pure (a : α) : Sends P (pure a : Attempt ε α) := by
  rintro _ _ ⟨rfl, -⟩
  simp

theorem sends_throw (e : ε) : Sends P (throw e : Attempt ε α) := by
  rintro _ _ ⟨rfl, -⟩
  simp

theorem sends_ofExcept (r : Except ε α) : Sends P (ofExcept r) := by
  rintro _ _ ⟨rfl, -⟩
  simp

theorem Sends.mono {Q : Request → Prop} (h : Sends P attempt) (himp : ∀ q, P q → Q q) :
    Sends Q attempt :=
  fun _ _ hxs x hx => himp x.1 (h hxs x hx)

/-- The second attempt has to send such requests only after results that the first one has. -/
theorem Sends.bind_of_yields (h : Sends P attempt) {f : α → Attempt ε β}
    (hf : ∀ ys a, Yields attempt ys (.ok a) → Sends P (f a)) : Sends P (attempt >>= f) := by
  intro xs r hxs x hx
  rcases yields_bind.1 hxs with ⟨e, he, -⟩ | ⟨ys, zs, a, rfl, ha, hr⟩
  · exact h he x hx
  · rcases List.mem_append.1 hx with hx | hx
    · exact h ha x hx
    · exact hf ys a ha hr x hx

theorem Sends.bind (h : Sends P attempt) {f : α → Attempt ε β} (hf : ∀ a, Sends P (f a)) :
    Sends P (attempt >>= f) :=
  h.bind_of_yields fun _ a _ => hf a

theorem Sends.recover (h : Sends P attempt) (f : ε → Except ε' α) :
    Sends P (attempt.recover f) := by
  intro xs r hxs x hx
  rcases yields_recover.1 hxs with ⟨a, ha, -⟩ | ⟨e, he, -⟩
  · exact h ha x hx
  · exact h he x hx

theorem Sends.mapError (h : Sends P attempt) (f : ε → ε') : Sends P (attempt.mapError f) :=
  h.recover _

end Sends

/-! ## How attempts fail -/

/-- Every failure of every course has the property. -/
def Fails (P : ε → Prop) (attempt : Attempt ε α) : Prop :=
  ∀ ⦃xs : List Exchange⦄ ⦃e : ε⦄, Yields attempt xs (.error e) → P e

section Fails

variable {P : ε → Prop} {attempt : Attempt ε α}

theorem fails_pure (a : α) : Fails P (pure a : Attempt ε α) := by
  rintro _ _ ⟨-, he⟩
  cases he

theorem fails_log (level : Level) (message : Text) : Fails P (log level message) := by
  rintro _ _ ⟨-, he⟩
  cases he

theorem Fails.bind (h : Fails P attempt) {f : α → Attempt ε β} (hf : ∀ a, Fails P (f a)) :
    Fails P (attempt >>= f) := by
  intro xs e hxs
  rcases yields_bind.1 hxs with ⟨e', he', he⟩ | ⟨ys, zs, a, rfl, ha, he⟩
  · cases he
    exact h he'
  · exact hf a he

end Fails

/-! ## What attempts break on -/

/-- The attempt fails in the given way exactly if its last exchange is a cause of that. -/
def BreaksOn (cause : Exchange → Prop) (broken : ε → Prop) (attempt : Attempt ε α) : Prop :=
  ∀ ⦃xs : List Exchange⦄ ⦃r : Except ε α⦄, Yields attempt xs r →
    ((∃ e, r = .error e ∧ broken e) ↔ ∃ x, xs.getLast? = some x ∧ cause x)

section BreaksOn

variable {cause : Exchange → Prop} {broken : ε → Prop} {broken' : ε' → Prop}
  {attempt : Attempt ε α}

theorem breaksOn_pure (a : α) : BreaksOn cause broken (pure a : Attempt ε α) := by
  rintro _ _ ⟨rfl, rfl⟩
  simp

theorem breaksOn_throw {e : ε} (h : ¬ broken e) :
    BreaksOn cause broken (throw e : Attempt ε α) := by
  rintro _ _ ⟨rfl, rfl⟩
  simp [h]

theorem breaksOn_ofExcept {r : Except ε α} (h : ∀ e, r = .error e → ¬ broken e) :
    BreaksOn cause broken (ofExcept r) := by
  rintro _ _ ⟨rfl, rfl⟩
  simpa using h

/-- Behind an attempt that succeeds, the last exchange of both decides about the second one. -/
theorem BreaksOn.append (h : BreaksOn cause broken attempt) {next : Attempt ε' β}
    (hnext : BreaksOn cause broken' next) {ys zs : List Exchange} {a : α} {r : Except ε' β}
    (ha : Yields attempt ys (.ok a)) (hr : Yields next zs r) :
    (∃ e, r = .error e ∧ broken' e) ↔ ∃ x, (ys ++ zs).getLast? = some x ∧ cause x := by
  rw [hnext hr]
  rcases List.eq_nil_or_concat zs with rfl | ⟨zs, z, rfl⟩
  · -- Nothing is sent behind the first attempt, which did not fail.
    simpa using h ha
  · simp

/-- The second attempt has to break on causes only after results that the first one has. -/
theorem BreaksOn.bind_of_yields (h : BreaksOn cause broken attempt) {f : α → Attempt ε β}
    (hf : ∀ ys a, Yields attempt ys (.ok a) → BreaksOn cause broken (f a)) :
    BreaksOn cause broken (attempt >>= f) := by
  intro xs r hxs
  rcases yields_bind.1 hxs with ⟨e, he, rfl⟩ | ⟨ys, zs, a, rfl, ha, hr⟩
  · simpa using h he
  · exact h.append (hf ys a ha) ha hr

theorem BreaksOn.bind (h : BreaksOn cause broken attempt) {f : α → Attempt ε β}
    (hf : ∀ a, BreaksOn cause broken (f a)) : BreaksOn cause broken (attempt >>= f) :=
  h.bind_of_yields fun _ a _ => hf a

theorem BreaksOn.recover (h : BreaksOn cause broken attempt) {f : ε → Except ε' α}
    (hf : ∀ e, (∃ e', f e = .error e' ∧ broken' e') ↔ broken e) :
    BreaksOn cause broken' (attempt.recover f) := by
  intro xs r hxs
  rcases yields_recover.1 hxs with ⟨a, ha, rfl⟩ | ⟨e, he, rfl⟩
  · simpa using h ha
  · rw [hf, ← h he]
    simp

theorem BreaksOn.mapError (h : BreaksOn cause broken attempt) {f : ε → ε'}
    (hf : ∀ e, broken' (f e) ↔ broken e) : BreaksOn cause broken' (attempt.mapError f) :=
  h.recover (by simpa using hf)

end BreaksOn

end Attempt
end Signet
