import Signet.Registry.Basic

/-!
# A scripted registry

Rules stand in front of a registry and answer some requests in its place, so every failure
of a registry can be shown. A rule may let some requests pass before it answers, and may
answer a limited number of times.
-/
namespace Signet

/-- A rule: which requests it is for, how often it answers, how many it lets pass first, and
its answer. -/
structure Rule where
  method : Option Text := none
  contains : Text := []
  times : Option Int := none
  skip : Int := 0
  reply : Reply
deriving DecidableEq, Repr

/-- A registry behind rules. -/
structure ScriptedRegistry where
  registry : Registry := {}
  rules : List Rule := []
deriving Repr

namespace Rule

/-- The rule is for the request and may still answer. -/
def applies (rule : Rule) (request : Request) : Bool :=
  (match rule.method with
    | some method => method = request.method.name
    | none => true) &&
  request.url.includes rule.contains &&
  match rule.times with
  | some times => 0 < times
  | none => true

/-- The first answer of rules to a request, and the rules afterwards. -/
def consult (request : Request) : List Rule → Option Reply × List Rule
  | [] => (none, [])
  | rule :: rest =>
    if !rule.applies request then
      let (reply, rest) := consult request rest
      (reply, rule :: rest)
    else if 0 < rule.skip then
      let (reply, rest) := consult request rest
      (reply, { rule with skip := rule.skip - 1 } :: rest)
    else (some rule.reply, { rule with times := rule.times.map (· - 1) } :: rest)

end Rule

namespace ScriptedRegistry

/-- The rules answer first, the registry otherwise. -/
def serve : Session.Server ScriptedRegistry := fun s request =>
  match Rule.consult request s.rules with
  | (some (.received r), rules) =>
    (.received ((Registry.bodyFor request.method r.toRawResponse).read r.text), { s with rules })
  | (some (.failure reason), rules) => (.failure reason, { s with rules })
  | (none, rules) =>
    let (reply, registry) := Registry.serve s.registry request
    (reply, ⟨registry, rules⟩)

end ScriptedRegistry
end Signet
