import Mathlib
import Signet.Program.Run
import Signet.Proofs.Exchange.Checks
import Signet.Proofs.Files.Name
import Signet.Proofs.Payload.Simple

/-!
# What a storing command takes in

A storing command takes in the artifact and then files, one of which may have to be a statement.
The first of these that is not valid says why there is nothing to store.

## Main definitions

* `Input` — something that a command takes in.
* `Stores` — what a storing command takes in and what it then stores.
* `Input.Spoils` — an input that ends the program without an exit code.
-/
namespace Signet

/-- Something that a command takes in. -/
inductive Input where
  /-- The artifact. -/
  | image (reference : Text)
  /-- A file. -/
  | file (name : Text)
  /-- A file with a statement. -/
  | statement (name : Text)
deriving DecidableEq, Repr

def Surroundings.statement (w : Surroundings) (name : Text) :
    Except CommandFailure Json.Members := do
  let content ← w.input name
  let document ← (Json.readBytes content).mapError .document
  (Statement.ofJson document).mapError .statement

namespace Input

def file? : Input → Option Text
  | image _ => none
  | file name | statement name => some name

/-- Why the input is not valid. -/
def failure? (w : Surroundings) : Input → Option CommandFailure
  | image reference =>
    failureOf ((Artifact.parse reference).mapError CommandFailure.reference)
  | file name => failureOf (w.input name)
  | statement name => failureOf (w.statement name)

/-- A file that may be left out. -/
def optional (name : Option Text) : List Input := ((Text.nonempty? name).map file).toList

/-- The signature and the certificates. -/
def material (a : StoringArguments) : List Input :=
  file a.signature :: (optional a.certificate ++ optional a.chain)

end Input

/-- The command stores the request under the arguments, and takes in the inputs for it. -/
inductive Stores (w : Surroundings) :
    Command → StoringArguments → List Input → Except CommandFailure StoreRequest → Prop where
  | attestation (a : StoringArguments) (statement : Text) :
    Stores w (.storeAttestation a statement) a
      (.image a.image :: .statement statement :: Input.material a) (a.attestation w statement)
  | signature (a : StoringArguments) (payload : Option Text) :
    Stores w (.storeSignature a payload) a
      (.image a.image :: (Input.optional payload ++ Input.material a)) (a.signatureOf w payload)

namespace Input

variable {w : Surroundings} {a : StoringArguments}

theorem failureOf_optional (name : Option Text) :
    failureOf (w.input? name) = (optional name).findSome? (failure? w) := by
  rw [Surroundings.input?, optional]
  cases Text.nonempty? name with
  | none => rfl
  | some name =>
    rw [Option.map_some, Option.toList_some, findSome?_cons_eq_or, List.findSome?_nil,
      Option.or_none]
    exact failureOf_map _ _

theorem failureOf_material (content : Bytes) :
    failureOf (w.material a content) = (material a).findSome? (failure? w) := by
  rw [Surroundings.material, material, findSome?_cons_eq_or, List.findSome?_append,
    ← failureOf_optional, ← failureOf_optional]
  refine failureOf_bind fun signature _ => ?_
  refine failureOf_bind fun certificate _ => ?_
  exact failureOf_bind_pure _ _

theorem failureOf_attestation (statement : Text) :
    failureOf (a.attestation w statement) =
      (.image a.image :: .statement statement :: material a).findSome? (failure? w) := by
  rw [StoringArguments.attestation, findSome?_cons_eq_or, findSome?_cons_eq_or]
  refine failureOf_bind fun artifact _ => ?_
  rw [failure?, Surroundings.statement]
  cases w.input statement with
  | error e => rfl
  | ok content =>
    rw [← failureOf_material content]
    dsimp only [Bind.bind, Except.bind]
    cases (Json.readBytes content).mapError CommandFailure.document with
    | error e => rfl
    | ok document =>
      dsimp only
      cases (Statement.ofJson document).mapError CommandFailure.statement with
      | error e => rfl
      | ok members => exact failureOf_bind_pure _ _

theorem failureOf_signatureOf (payload : Option Text) :
    failureOf (a.signatureOf w payload) =
      (.image a.image :: (optional payload ++ material a)).findSome? (failure? w) := by
  rw [StoringArguments.signatureOf, findSome?_cons_eq_or, List.findSome?_append]
  refine failureOf_bind fun artifact hartifact => ?_
  rw [optional]
  cases Text.nonempty? payload with
  | none =>
    -- The payload of the artifact is signed, which cannot fail.
    obtain ⟨bytes, hbytes⟩ := SimplePayload.exists_toBytes
      (Artifact.parsed_of_parse (mapError_eq_ok_iff.1 hartifact))
    dsimp only
    rw [hbytes, ← failureOf_material bytes]
    exact failureOf_bind_pure _ _
  | some name =>
    rw [Option.map_some, Option.toList_some, findSome?_cons_eq_or, List.findSome?_nil,
      Option.or_none]
    refine failureOf_bind fun content _ => ?_
    rw [← failureOf_material content]
    exact failureOf_bind_pure _ _

/-! ## Inputs that end the program -/

@[simp] theorem ending?_input (e : FileError) :
    (CommandFailure.input e).ending? = none ↔ e.fault.IsOfName := by
  obtain ⟨fault, name⟩ := e
  cases fault <;> simp [CommandFailure.ending?, FileFault.IsOfName]

@[simp] theorem ending?_document (e : DocumentError) :
    (CommandFailure.document e).ending? = none ↔
      ∃ digits, e = .refused (.integerTooLong digits) := by
  rcases e with e | e
  · simp [CommandFailure.ending?]
  · cases e <;> simp [CommandFailure.ending?]

@[simp] theorem ending?_statement (e : StatementError) :
    (CommandFailure.statement e).ending? ≠ none := by
  simp [CommandFailure.ending?]

/-- The input is not valid in a way that has no exit code. -/
inductive Spoils (w : Surroundings) : Input → Prop where
  /-- No file can have the name. -/
  | name {i : Input} {name : Text} (hfile : i.file? = some name)
    (h : FileTree.Unnameable name) : Spoils w i
  /-- An integer of the document has too many digits. -/
  | integer {name : Text} {content : Bytes} {digits : Nat}
    (hread : w.files.read name = .ok content)
    (h : Json.readBytes content = .error (.refused (.integerTooLong digits))) :
    Spoils w (.statement name)

theorem input_spoils_iff {name : Text} :
    (∃ e, w.input name = .error e ∧ e.ending? = none) ↔ FileTree.Unnameable name := by
  rw [← FileTree.read_fault_iff w.files, Surroundings.input]
  cases w.files.read name <;> simp [Except.mapError]

theorem statement_spoils_iff {name : Text} :
    (∃ e, w.statement name = .error e ∧ e.ending? = none) ↔
      FileTree.Unnameable name ∨ ∃ content digits, w.files.read name = .ok content ∧
        Json.readBytes content = .error (.refused (.integerTooLong digits)) := by
  rw [← input_spoils_iff (w := w), Surroundings.statement, Surroundings.input]
  cases w.files.read name with
  | error e => simp [Except.mapError, Bind.bind, Except.bind]
  | ok content =>
    cases hdocument : Json.readBytes content with
    | error e => simp [Except.mapError, Bind.bind, Except.bind, hdocument]
    | ok document =>
      cases hstatement : Statement.ofJson document <;>
        simp [Except.mapError, Bind.bind, Except.bind, hdocument, hstatement]

/-- An input spoils a run exactly if its failure has no exit code. -/
theorem spoils_iff {i : Input} :
    i.Spoils w ↔ ∃ e, i.failure? w = some e ∧ e.ending? = none := by
  cases i with
  | image reference =>
    refine iff_of_false ?_ ?_
    · rintro ⟨hfile, -⟩
      cases hfile
    · rintro ⟨e, he, hnone⟩
      rw [failure?, failureOf_mapError, Option.map_eq_some_iff] at he
      obtain ⟨_, -, rfl⟩ := he
      cases hnone
  | file name =>
    simp only [failure?, failureOf_eq_some_iff, input_spoils_iff]
    constructor
    · rintro ⟨⟨⟩, h⟩
      exact h
    · exact .name rfl
  | statement name =>
    simp only [failure?, failureOf_eq_some_iff, statement_spoils_iff]
    constructor
    · rintro (⟨⟨⟩, h⟩ | ⟨hread, h⟩)
      · exact .inl h
      · exact .inr ⟨_, _, hread, h⟩
    · rintro (h | ⟨content, digits, hread, h⟩)
      · exact .name rfl h
      · exact .integer hread h

end Input

namespace Stores

variable {w : Surroundings} {command : Command} {a : StoringArguments} {inputs : List Input}
  {request : Except CommandFailure StoreRequest}

theorem unique {a' : StoringArguments} {inputs' : List Input}
    {request' : Except CommandFailure StoreRequest} (h : Stores w command a inputs request)
    (h' : Stores w command a' inputs' request') :
    a = a' ∧ inputs = inputs' ∧ request = request' := by
  cases h <;> cases h' <;> exact ⟨rfl, rfl, rfl⟩

/-- There is a request unless an input is not valid. -/
theorem failureOf_request (h : Stores w command a inputs request) :
    failureOf request = inputs.findSome? (Input.failure? w) := by
  cases h with
  | attestation a statement => exact Input.failureOf_attestation statement
  | signature a payload => exact Input.failureOf_signatureOf payload

/-- What is stored belongs to the artifact of the arguments. -/
theorem parse_artifact {q : StoreRequest} (h : Stores w command a inputs (.ok q)) :
    Artifact.parse a.image = .ok q.artifact := by
  generalize hrequest : (Except.ok q : Except CommandFailure StoreRequest) = r at h
  cases h with
  | attestation a statement =>
    obtain ⟨artifact, hartifact, hrest⟩ := bind_eq_ok_iff.1 hrequest.symm
    obtain ⟨content, -, hrest⟩ := bind_eq_ok_iff.1 hrest
    obtain ⟨document, -, hrest⟩ := bind_eq_ok_iff.1 hrest
    obtain ⟨members, -, hrest⟩ := bind_eq_ok_iff.1 hrest
    obtain ⟨material, -, hrest⟩ := bind_eq_ok_iff.1 hrest
    cases hrest
    exact mapError_eq_ok_iff.1 hartifact
  | signature a payload =>
    obtain ⟨artifact, hartifact, hrest⟩ := bind_eq_ok_iff.1 hrequest.symm
    dsimp only at hrest
    split at hrest
    all_goals
      obtain ⟨content, -, hrest⟩ := bind_eq_ok_iff.1 hrest
      obtain ⟨material, -, hrest⟩ := bind_eq_ok_iff.1 hrest
      cases hrest
      exact mapError_eq_ok_iff.1 hartifact

end Stores
end Signet
