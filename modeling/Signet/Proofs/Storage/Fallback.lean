import Mathlib
import Signet.Proofs.Storage.Early

/-!
# Kinds without bundles

A kind that cannot be stored as a bundle is stored as a referrer instead. The choice is made
in two places, where the suffixes of the tags to read are decided and where the object is
written, and both agree: a store in the one format and a store in the other exchange the same
requests and end alike, and all that tells them apart is a warning behind the resolution.
-/
namespace Signet
namespace Storing

variable {σ : Type} {remote : RemoteOptions} {q : StoreRequest}

/-- The warning that a kind is stored as a referrer. -/
def fallbackWarning (kind : Kind) : LogEntry :=
  ⟨.warning, "The protobuf bundle format is not supported for " ++ kind.plural ++
    " yet, falling back to the referrers API"⟩

theorem route_identifier {ε : Type} (format : Format) :
    (route (some format.identifier) : Attempt ε Format) = pure format := by
  have hgiven : (some format.identifier).filter (fun t => !t.isEmpty) =
      some format.identifier := by
    cases format <;> rfl
  rw [route, hgiven]
  dsimp only
  rw [Format.ofIdentifier?_identifier]

/-- The identifier of a format decides it. -/
theorem storeWith_identifier (o : StoreOptions) (format : Format) :
    storeWith remote { o with format := format.identifier } q = storeIn format remote o q := by
  rw [storeWith, route_identifier, pure_bind, storeIn]

/-- Without a bundle, the warning is all that is added to a store as a referrer. -/
theorem storeBundle_of_not_hasBundle (h : q.kind.hasBundle = false) (entity : SignedEntity) :
    storeBundle remote q entity =
      Attempt.log .warning (fallbackWarning q.kind).message >>= fun _ =>
        storeReferrers remote q entity := by
  simp only [storeBundle, h, Bool.not_false, if_true]
  rfl

end Storing

namespace Attempt

variable {ε α β σ : Type}

/-- The run of two attempts, one after the other, ends with the first one if that fails. -/
theorem run_bind (server : Session.Server σ) (state : σ) (attempt : Attempt ε α)
    (f : α → Attempt ε β) :
    Session.run server (attempt >>= f).run state =
      let first := Session.run server attempt.run state
      match first.result with
      | .ok a =>
        let second := Session.run server (f a).run first.state
        ⟨second.result, second.state, first.logs ++ second.logs,
          first.exchanges ++ second.exchanges⟩
      | .error e => ⟨.error e, first.state, first.logs, first.exchanges⟩ := by
  have hrun : (attempt >>= f).run = attempt.run >>= ExceptT.bindCont f := rfl
  rw [hrun, Session.run_bind]
  dsimp only
  cases (Session.run server attempt.run state).result with
  | ok a => rfl
  | error e =>
    have hend : (ExceptT.bindCont f (.error e) : Session (Except ε β)) = .done (.error e) := rfl
    simp [hend]

/-- What a log entry adds to the run of an attempt. -/
theorem run_log_bind (server : Session.Server σ) (state : σ) (level : Level) (message : Text)
    (f : Unit → Attempt ε β) :
    Session.run server (Attempt.log level message >>= f).run state =
      let run := Session.run server (f ()).run state
      { run with logs := ⟨level, message⟩ :: run.logs } := rfl

end Attempt

namespace Storing

variable {σ : Type} {remote : RemoteOptions} {q : StoreRequest}

abbrev runFormat (server : Session.Server σ) (remote : RemoteOptions) (o : StoreOptions)
    (format : Format) (q : StoreRequest) (state : σ) : Session.Run σ (Except StoreFailure Unit) :=
  runStore server remote { o with format := format.identifier } q state

/-- Whatever the server does, the store of a signature as a bundle and its store as a referrer
exchange the same requests and end alike. If the artifact is resolved, the log of the former has
a warning right behind the resolution, and otherwise the logs are the same, too. -/
theorem signature_falls_back (server : Session.Server σ) (state : σ) (remote : RemoteOptions)
    (o : StoreOptions) (artifact : Artifact) (payload : Payload) (material : Material) :
    let q : StoreRequest := { kind := .signature, artifact, payload, material }
    let bundle := runFormat server remote o .bundle q state
    let referrer := runFormat server remote o .referrers q state
    let resolution := Session.run server
      (resolve remote artifact [Kind.signature.suffix]).run state
    bundle.exchanges = referrer.exchanges ∧ bundle.result = referrer.result ∧
      bundle.state = referrer.state ∧
      (∀ entity, resolution.result = .ok entity → ∃ rest,
        referrer.logs = resolution.logs ++ rest ∧
          bundle.logs = resolution.logs ++ fallbackWarning .signature :: rest) ∧
      (∀ e, resolution.result = .error e → bundle.logs = referrer.logs) := by
  intro q bundle referrer resolution
  have hbundle : bundle = Session.run server (resolve remote artifact [Kind.signature.suffix] >>=
      fun entity => storeBundle remote q entity).run state := by
    simp only [bundle, runFormat, runStore, storeWith_identifier]
    rfl
  have hreferrer : referrer = Session.run server
      (resolve remote artifact [Kind.signature.suffix] >>=
        fun entity => storeReferrers remote q entity).run state := by
    simp only [referrer, runFormat, runStore, storeWith_identifier]
    rfl
  rw [Attempt.run_bind] at hbundle hreferrer
  cases hresolution : resolution.result with
  | error e =>
    simp only [resolution] at hresolution
    simp only [hresolution] at hbundle hreferrer
    simp [hbundle, hreferrer]
  | ok entity =>
    simp only [resolution] at hresolution
    simp only [hresolution, storeBundle_of_not_hasBundle (q := q) rfl, Attempt.run_log_bind]
      at hbundle hreferrer
    rw [hbundle, hreferrer]
    refine ⟨rfl, rfl, rfl, fun entity' _ => ⟨_, rfl, rfl⟩, fun e he => ?_⟩
    cases he

/-! ## A failed resolution -/

/-- A registry that refuses everything. -/
def refusing : ScriptedRegistry := { rules := [{ reply := .response ⟨500, [], []⟩ }] }

/-- The warning is not there in every run, since it is written only behind the resolution. -/
theorem warning_missing :
    ¬ ∀ (state : ScriptedRegistry) (remote : RemoteOptions) (o : StoreOptions)
      (artifact : Artifact) (payload : Payload) (material : Material),
      let q : StoreRequest := { kind := .signature, artifact, payload, material }
      let bundle := runFormat ScriptedRegistry.serve remote o .bundle q state
      let referrer := runFormat ScriptedRegistry.serve remote o .referrers q state
      bundle.exchanges = referrer.exchanges ∧ bundle.result = referrer.result ∧
        ∃ before rest, referrer.logs = before ++ rest ∧
          bundle.logs = before ++ fallbackWarning .signature :: rest := by
  intro h
  obtain ⟨-, -, before, rest, -, hlogs⟩ := h refusing {} {} sampleArtifact (.json .null) {}
  have hnone : (runFormat ScriptedRegistry.serve {} {} .bundle
      { kind := .signature, artifact := sampleArtifact, payload := .json .null, material := {} }
      refusing).logs = [] := by
    decide +kernel
  rw [hnone] at hlogs
  simp at hlogs

end Storing
end Signet
