import Mathlib
import Signet.Proofs.Exchange.Course

/-!
# Two servers that answer some requests alike

A reply may depend on all that a server was asked before, so two servers are compared behind
every list of requests. The exchanges of a client with either of them then agree in the replies
to those requests for as long as it sends both the same.

## Main definitions

* `Session.AnswersAlike` — the servers give the same replies to some of the requests.
* `Session.Alike` — two lists of exchanges agree in these replies as far as the requests do.
-/
namespace Signet
namespace Session

variable {σ τ : Type} {P : Request → Prop}

/-- The state of a server that was sent the requests. -/
def after (server : Server σ) (state : σ) : List Request → σ
  | [] => state
  | q :: rest => after server (server state q).2 rest

/-- Whatever both servers were sent before, they give the same reply to a request with the
property. -/
def AnswersAlike (P : Request → Prop) (server : Server σ) (state : σ) (server' : Server τ)
    (state' : τ) : Prop :=
  ∀ before q, P q →
    (server (after server state before) q).1 = (server' (after server' state' before) q).1

/-- Servers that answer alike do so behind another request. -/
theorem AnswersAlike.step {server : Server σ} {state : σ} {server' : Server τ} {state' : τ}
    (h : AnswersAlike P server state server' state') (q : Request) :
    AnswersAlike P server (server state q).2 server' (server' state' q).2 :=
  fun before => h (q :: before)

/-- As far as the requests are the same, so are the replies to those with the property. -/
def Alike (P : Request → Prop) : List Exchange → List Exchange → Prop
  | x :: xs, x' :: xs' => x.1 = x'.1 → (P x.1 → x.2 = x'.2) ∧ Alike P xs xs'
  | _, _ => True

/-- Exchanges with servers that answer alike are alike. -/
theorem AnswersAlike.alike {server : Server σ} {state last : σ} {server' : Server τ}
    {state' last' : τ} (h : AnswersAlike P server state server' state') {xs xs' : List Exchange}
    (hs : Served server state xs last) (hs' : Served server' state' xs' last') :
    Alike P xs xs' := by
  induction xs generalizing state state' xs' with
  | nil => simp [Alike]
  | cons x xs ih =>
    cases xs' with
    | nil => simp [Alike]
    | cons x' xs' =>
      obtain ⟨hreply, hrest⟩ := hs
      obtain ⟨hreply', hrest'⟩ := hs'
      intro hsame
      rw [← hsame] at hreply' hrest'
      constructor
      · intro hq
        rw [hreply, hreply']
        exact h [] x.1 hq
      · exact ih (h.step x.1) hrest hrest'

theorem Alike.left {xs ys xs' ys' : List Exchange} (h : Alike P (xs ++ ys) (xs' ++ ys')) :
    Alike P xs xs' := by
  induction xs generalizing xs' with
  | nil => simp [Alike]
  | cons x xs ih =>
    cases xs' with
    | nil => simp [Alike]
    | cons x' xs' => exact fun hsame => ⟨(h hsame).1, ih (h hsame).2⟩

/-- Behind the same requests, exchanges are still alike. -/
theorem Alike.right {xs ys xs' ys' : List Exchange} (h : Alike P (xs ++ ys) (xs' ++ ys'))
    (hsame : xs.map Prod.fst = xs'.map Prod.fst) : Alike P ys ys' := by
  induction xs generalizing xs' with
  | nil =>
    obtain rfl : xs' = [] := List.map_eq_nil_iff.1 hsame.symm
    exact h
  | cons x xs ih =>
    cases xs' with
    | nil => cases hsame
    | cons x' xs' =>
      obtain ⟨hfirst, hrest⟩ := List.cons.inj hsame
      exact ih (h hfirst).2 hrest

end Session
end Signet
