import Mathlib
import Signet.Proofs.Program.Course
import Signet.Proofs.Program.Input
import Signet.Proofs.Storage.Early
import Signet.Proofs.Storage.Fault
import Signet.Proofs.Storage.Push

/-!
# What exit codes tell

A storing command reads its arguments, its files and the settings before it sends anything, and
turns failures into exit codes only after the store has ended. So the exit code tells how far the
exchange with the registry went: success means that the registry took a manifest, and the codes
for bad input mean that it was never asked.

There is one exception. A body that is shown may have bytes that its charset does not decode, and
that is taken for a fault of the statement, although requests were sent by then.

## Main definitions

* `Program.Misread` — a response was refused, and its body has bytes that are not decoded.
* `Program.CommandCourse` — the courses of a storing command, before any failure is caught.
* `Program.Tells` — what the exit codes of a run say about its exchanges.
* `Program.BlamesData` — a failed store ends with the code for bad data.
-/
namespace Signet

open Attempt (Yields)

theorem CommandFailure.code_ne_success {e : CommandFailure} {code : ExitCode} {message : Text}
    (h : e.ending? = some (code, message)) : code ≠ .success := by
  rintro rfl
  unfold CommandFailure.ending? at h
  split at h <;> first | cases h | (split at h <;> cases h)

/-- A failed store ends with the code for an unsupported format, for failed stores or for bad
data, or with none. -/
theorem CommandFailure.code_ofStore {e : StoreFailure} {code : ExitCode} {message : Text}
    (h : (CommandFailure.ofStore e).ending? = some (code, message)) :
    (code = .unavailable ∧ e.IsEarly) ∨ code = .software ∨
      ∃ reason, e = .fault (.text (.undecodable reason)) := by
  rcases e with (cause | cause | ⟨stage, cause⟩ | stage) | fault
  · cases h
    exact .inr (.inl rfl)
  · cases h
    exact .inr (.inl rfl)
  · cases h
    exact .inr (.inl rfl)
  · cases h
    exact .inl ⟨rfl, trivial⟩
  · refine .inr (.inr ?_)
    by_contra hne
    rw [CommandFailure.ofStore, Program.ending?_fault.2 fun reason hfault =>
      hne ⟨reason, by rw [hfault]⟩] at h
    cases h

/-- A store succeeds exactly if the registry took a manifest. -/
theorem Storing.taken_of_yields {remote : RemoteOptions} {o : StoreOptions} {q : StoreRequest}
    {xs : List Exchange} {r : Except StoreFailure Unit}
    (h : Yields (Storing.storeWith remote o q) xs r) :
    r = .ok () ↔ ∃ x ∈ xs, x.1.PushesManifest ∧ Remote.Taken x.2 := by
  rcases Storing.storeCourse h with ⟨hquiet, e, rfl⟩ |
    ⟨before, push, reply, rfl, hquiet, hpush, -, hresult⟩
  · simp only [reduceCtorEq, false_iff]
    rintro ⟨x, hx, hpush, -⟩
    exact hquiet x hx hpush
  · rw [hresult]
    constructor
    · intro htaken
      exact ⟨(push, reply), by simp, hpush, htaken⟩
    · rintro ⟨x, hx, hpush', htaken⟩
      rcases List.mem_append.1 hx with hx | hx
      · exact absurd hpush' (hquiet x hx)
      · rw [List.mem_singleton] at hx
        rwa [hx] at htaken

namespace Program

/-- The last response was refused, and its body has bytes that its charset does not decode. -/
def Misread (xs : List Exchange) : Prop :=
  ∃ x reason, xs.getLast? = some x ∧ Faulty x (.text (.undecodable reason))

/-- Exactly then the store of a parsed artifact ends with that fault. -/
theorem misread_iff {o : StoreOptions} {q : StoreRequest} (hartifact : q.artifact.hex? ≠ none)
    {xs : List Exchange} {r : Except StoreFailure Unit} (h : Yields (Storing.store o q) xs r) :
    Misread xs ↔ ∃ reason, r = .error (.fault (.text (.undecodable reason))) := by
  have hfault (reason : Text) := Storing.yields_fault_iff (f := .text (.undecodable reason))
    hartifact h
  simp only [hfault, reduceCtorEq, false_and, exists_false, or_false]
  exact exists_comm

/-- The courses of a storing command up to its first failure. -/
inductive CommandCourse (w : Surroundings) :
    List Exchange → Except CommandFailure Ending → Prop where
  /-- The arguments, the files or the settings cannot be used. -/
  | unread (e : CommandFailure) : CommandCourse w [] (.error e)
  /-- There was a store. -/
  | stored {xs : List Exchange} {r : Except StoreFailure Unit} (o : StoreOptions)
    (q : StoreRequest) (hartifact : q.artifact.hex? ≠ none) (h : Yields (Storing.store o q) xs r) :
    CommandCourse w xs
      ((r.map fun _ => { code := .success, files := w.files }).mapError CommandFailure.ofStore)

variable {w : Surroundings} {xs : List Exchange}

theorem commandCourse {command : Command} {a : StoringArguments} {s : Settings}
    {inputs : List Input} {request : Except CommandFailure StoreRequest}
    {r : Except CommandFailure Ending} (hstores : Stores w command a inputs request)
    (h : Yields (a.store w s request) xs r) : CommandCourse w xs r := by
  cases storeSteps h with
  | unconfigured _ => exact .unread _
  | unaddressed _ _ => exact .unread _
  | unread _ _ => exact .unread _
  | stored _ hrequest hstore =>
    subst hrequest
    exact .stored _ _ (Artifact.hex?_ne_none hstores.parse_artifact) hstore

section CommandCourse

variable {e : CommandFailure} {ending : Ending} {r : Except CommandFailure Ending}

/-- A store that ends well ends with success, and the registry took a manifest. -/
theorem CommandCourse.taken (h : CommandCourse w xs (.ok ending)) :
    ending.code = .success ∧ ∃ x ∈ xs, x.1.PushesManifest ∧ Remote.Taken x.2 := by
  generalize hr : (Except.ok ending : Except CommandFailure Ending) = r at h
  cases h with
  | unread e => cases hr
  | @stored xs r o q _ h =>
    cases r with
    | error e => cases hr
    | ok _ =>
      cases hr
      exact ⟨rfl, (Storing.taken_of_yields h).1 rfl⟩

/-- Behind a failure, the registry took no manifest. -/
theorem CommandCourse.untaken (h : CommandCourse w xs (.error e)) :
    ¬ ∃ x ∈ xs, x.1.PushesManifest ∧ Remote.Taken x.2 := by
  generalize hr : (Except.error e : Except CommandFailure Ending) = r at h
  cases h with
  | unread e => simp
  | @stored xs r o q _ h =>
    cases r with
    | ok _ => cases hr
    | error e' =>
      rw [← Storing.taken_of_yields h]
      simp

/-- A failure with an exit code comes before any request, or is that of a store, or the last
response is misread. -/
theorem CommandCourse.phase_of_code (h : CommandCourse w xs (.error e)) {code : ExitCode}
    {message : Text} (hcode : e.ending? = some (code, message)) :
    xs = [] ∨ (code = .unavailable ∧ ∀ x ∈ xs, x.1.Reads) ∨ code = .software ∨ Misread xs := by
  generalize hr : (Except.error e : Except CommandFailure Ending) = r at h
  cases h with
  | unread e => exact .inl rfl
  | @stored xs r o q hartifact h =>
    cases r with
    | ok _ => cases hr
    | error e' =>
      cases hr
      rcases CommandFailure.code_ofStore hcode with
        ⟨hunavailable, hearly⟩ | hsoftware | ⟨reason, rfl⟩
      · exact .inr (.inl ⟨hunavailable, (Storing.storeCourse_phases h).reads_of_isEarly hearly⟩)
      · exact .inr (.inr (.inl hsoftware))
      · exact .inr (.inr (.inr ((misread_iff hartifact h).2 ⟨reason, rfl⟩)))

/-- A command whose last response is misread fails with that fault. -/
theorem CommandCourse.eq_of_misread (h : CommandCourse w xs r) (hmisread : Misread xs) :
    ∃ reason, r = .error (.fault (.text (.undecodable reason))) := by
  cases h with
  | unread e =>
    obtain ⟨x, reason, hlast, -⟩ := hmisread
    cases hlast
  | stored o q hartifact h =>
    obtain ⟨reason, rfl⟩ := (misread_iff hartifact h).1 hmisread
    exact ⟨reason, rfl⟩

end CommandCourse

/-- What the exit code of a run says about its exchanges. -/
structure Tells (xs : List Exchange) (r : Except CommandFailure Ending) : Prop where
  /-- Success is told exactly if the registry took a manifest. -/
  success : (∃ ending, r = .ok ending ∧ ending.code = .success) ↔
    ∃ x ∈ xs, x.1.PushesManifest ∧ Remote.Taken x.2
  /-- Bad input is found out before anything is sent. -/
  silent : ∀ ending, r = .ok ending →
    ending.code = .usage ∨ ending.code = .noInput ∨ ending.code = .dataError → xs = []
  /-- A registry that lacks what the format needs has only been read. -/
  reading : ∀ ending, r = .ok ending → ending.code = .unavailable → ∀ x ∈ xs, x.1.Reads
  /-- In a failed store the registry took no manifest. -/
  untaken : ∀ ending, r = .ok ending → ending.code = .software →
    ¬ ∃ x ∈ xs, x.1.PushesManifest ∧ Remote.Taken x.2

/-- Unless the last response is misread, the exit code says what it should. -/
theorem CommandCourse.tells {r : Except CommandFailure Ending} (h : CommandCourse w xs r)
    (hmisread : ¬ Misread xs) : Tells xs (settled w r) := by
  rcases r with e | ending
  · cases hcode : e.ending? with
    | none =>
      -- Nothing turns the failure into an exit code.
      have hsettled : settled w (.error e) = .error e := by simp [settled, hcode]
      rw [hsettled]
      refine ⟨⟨by simp, fun htaken => absurd htaken h.untaken⟩, ?_, ?_, ?_⟩ <;> simp
    | some pair =>
      obtain ⟨code, message⟩ := pair
      have hsettled : settled w (.error e) = .ok { code, files := w.files } := by
        simp [settled, hcode]
      have hphase := h.phase_of_code hcode
      simp only [hmisread, or_false] at hphase
      rw [hsettled]
      refine ⟨⟨?_, fun htaken => absurd htaken h.untaken⟩, ?_, ?_, ?_⟩
      · rintro ⟨_, ⟨⟩, hsuccess⟩
        exact absurd hsuccess (CommandFailure.code_ne_success hcode)
      · rintro _ ⟨⟩ hinput
        rcases hphase with hnil | ⟨rfl, -⟩ | rfl
        · exact hnil
        · simp at hinput
        · simp at hinput
      · rintro _ ⟨⟩ rfl
        rcases hphase with rfl | ⟨-, hreads⟩ | hsoftware
        · simp
        · exact hreads
        · cases hsoftware
      · rintro _ ⟨⟩ -
        exact h.untaken
  · obtain ⟨hcode, htaken⟩ := h.taken
    refine ⟨⟨fun _ => htaken, fun _ => ⟨ending, rfl, hcode⟩⟩, ?_, ?_, ?_⟩
    all_goals
      rintro _ ⟨⟩
      simp [hcode]

/-- The run ends with the code for bad data, although something was sent; the registry took no
manifest. -/
def BlamesData (xs : List Exchange) (r : Except CommandFailure Ending) : Prop :=
  ∃ ending, r = .ok ending ∧ ending.code = .dataError ∧ xs ≠ [] ∧
    ¬ ∃ x ∈ xs, x.1.PushesManifest ∧ Remote.Taken x.2

theorem Tells.not_blamesData {r : Except CommandFailure Ending} (h : Tells xs r) :
    ¬ BlamesData xs r := by
  rintro ⟨ending, hending, hcode, hsent, -⟩
  exact hsent (h.silent ending hending (.inr (.inr hcode)))

theorem CommandCourse.blamesData {r : Except CommandFailure Ending} (h : CommandCourse w xs r)
    (hmisread : Misread xs) : BlamesData xs (settled w r) := by
  obtain ⟨reason, rfl⟩ := h.eq_of_misread hmisread
  refine ⟨_, rfl, rfl, ?_, h.untaken⟩
  rintro rfl
  obtain ⟨x, reason, hlast, -⟩ := hmisread
  cases hlast

theorem settle_tells_iff {command : Command} {a : StoringArguments} {s : Settings}
    {inputs : List Input} {request : Except CommandFailure StoreRequest}
    {r : Except CommandFailure Ending} (hstores : Stores w command a inputs request)
    (h : Yields (settle w (a.store w s request)) xs r) :
    (Tells xs r ↔ ¬ Misread xs) ∧ (BlamesData xs r ↔ Misread xs) := by
  obtain ⟨r', hstore, rfl⟩ := settleCourse h
  have hcourse := commandCourse hstores hstore
  refine ⟨⟨fun htells hmisread => ?_, hcourse.tells⟩, fun hblames => ?_, hcourse.blamesData⟩
  · exact htells.not_blamesData (hcourse.blamesData hmisread)
  · by_contra hmisread
    exact (hcourse.tells hmisread).not_blamesData hblames

abbrev runCommand {σ : Type} (server : Session.Server σ) (w : Surroundings) (s : Settings)
    (command : Command) (state : σ) : Session.Run σ (Except CommandFailure Ending) :=
  Session.run server (perform w s command).run state

/-- Whatever the server does, the exit code of a storing command tells what happened to the
registry, unless the last response is misread: success exactly if it took a manifest; that the
arguments, the files or the statement are not valid only if nothing was sent; that it lacks what
the format needs only if nothing but questions was sent; and a failed store only if it took no
manifest. If the last response is misread, the statement is blamed. -/
theorem exit_codes_tell_iff {σ : Type} (server : Session.Server σ) (state : σ) (w : Surroundings)
    (s : Settings) (a : StoringArguments) :
    (∀ statement,
      let run := runCommand server w s (.storeAttestation a statement) state
      (Tells run.exchanges run.result ↔ ¬ Misread run.exchanges) ∧
        (BlamesData run.exchanges run.result ↔ Misread run.exchanges)) ∧
    (∀ payload,
      let run := runCommand server w s (.storeSignature a payload) state
      (Tells run.exchanges run.result ↔ ¬ Misread run.exchanges) ∧
        (BlamesData run.exchanges run.result ↔ Misread run.exchanges)) :=
  ⟨fun statement => settle_tells_iff (.attestation a statement) (Attempt.yields_run server _ state),
    fun payload => settle_tells_iff (.signature a payload) (Attempt.yields_run server _ state)⟩

/-! ## A refusal in another charset -/

/-- A registry that does not want to list referrers, and says so in a charset that does not decode
the bytes. -/
def garbling : ScriptedRegistry :=
  { rules :=
    [{ contains := "/referrers/"
       reply := .received (RawResponse.read
        ⟨503, [("Content-Type", "text/plain; charset=punycode")], [255]⟩
        (.illegible (.undecodable ("'ascii' codec can't decode byte 0xff in position 0: " ++
          "ordinal not in range(128)")))) }] }

/-- Not every exit code tells what happened to the registry. -/
theorem refusal_blamed_on_data :
    ¬ ∀ (state : ScriptedRegistry) (w : Surroundings) (s : Settings) (a : StoringArguments)
      (payload : Option Text),
      let run := runCommand ScriptedRegistry.serve w s (.storeSignature a payload) state
      Tells run.exchanges run.result := by
  intro h
  let w : Surroundings := { files := { files := [([("s" : Text)], [0])] } }
  let a : StoringArguments :=
    { image := Storing.sampleReference, signature := "s", format := some "referrers-api" }
  let run := runCommand ScriptedRegistry.serve w {} (.storeSignature a (some "s")) garbling
  have hending : run.result = .ok { code := .dataError, files := w.files } := by decide +kernel
  have hsent : run.exchanges ≠ [] := by decide +kernel
  exact hsent ((h garbling w {} a (some "s")).silent _ hending (.inr (.inr rfl)))

end Program
end Signet
