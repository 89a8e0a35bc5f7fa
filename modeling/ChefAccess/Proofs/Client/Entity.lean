import ChefAccess.Client.Command
import ChefAccess.Proofs.Json.Order
import ChefAccess.Signing.Digest

/-!
# Entities on the wire

The entity of a command is sent as the compact text of its normal form.  A server that
parses the body finds the value that was given, up to the order of the members of objects,
and since the normal form does not depend on that order, neither do the body and its
digest.  A command may be made from another one, and that from a third: the entity of the
innermost one goes through all of them.

Main definitions:

- {lit}`Carrier`: the two commands with an entity.
- {lit}`Command.chain`: commands made from each other, the first from an innermost one.

Main results:

- Theorem {lit}`Command.chain_of_entity`: an entity goes through a chain of any length.
- Theorem {lit}`Command.entity_reaches_wire`: bodies are parsed back, do not depend on the
  order of members, and pass through chains unchanged; a chain fails exactly when its
  innermost command has no entity.
-/

namespace ChefAccess

open Json
open Json.Value (Reordered)

/-- The two commands with an entity. -/
inductive Carrier where
  | post
  | put
  deriving DecidableEq, Repr

namespace Carrier

/-- The verb with an entity. -/
def verb : Carrier → Value → Verb
  | post => .post
  | put => .put

/-- The command with an entity of its own. -/
def send : Carrier → String → Option Value → Except Error Command
  | post => Command.post
  | put => Command.put

/-- The command with the entity of another one. -/
def pass : Carrier → String → Command → Except Error Command
  | post => Command.postFrom
  | put => Command.putFrom

/-- An entity is kept in its normal form. -/
theorem send_some (carrier : Carrier) (resource : String) (v : Value) :
    carrier.send resource (some v) =
      .ok (.of (carrier.verb v.normalize) resource) := by
  cases carrier <;> rfl

/-- An entity is passed on as it is. -/
theorem pass_of_entity (carrier : Carrier) (resource : String) {inner : Command} {v : Value}
    (hentity : inner.verb.entity? = some v) :
    carrier.pass resource inner = .ok (.of (carrier.verb v) resource) := by
  cases carrier <;>
    simp [pass, Command.postFrom, Command.putFrom, Command.entity, hentity, Except.map, verb]

/-- What is not there is not passed on. -/
theorem pass_of_no_entity (carrier : Carrier) (resource : String) {inner : Command}
    (hentity : inner.verb.entity? = none) :
    carrier.pass resource inner =
      .error (Error.requestInvalid (inner.label ++ " carries no request entity")) := by
  cases carrier <;>
    simp [pass, Command.postFrom, Command.putFrom, Command.entity, hentity, Except.map]

/-- Both commands have the entity that they are given. -/
@[simp]
theorem entity?_verb (carrier : Carrier) (v : Value) : (carrier.verb v).entity? = some v := by
  cases carrier <;> rfl

end Carrier

namespace Command

/-- Commands made from each other: the first from an innermost one, and each of the others
from the one before it. -/
def chain : List (Carrier × String) → Command → Except Error Command
  | [], inner => .ok inner
  | (carrier, resource) :: links, inner => (carrier.pass resource inner).bind (chain links)

/-- The body of a command with an entity. -/
theorem body_of_entity {command : Command} {v : Value}
    (hentity : command.verb.entity? = some v) : command.body = Text.Utf8.encode v.render := by
  simp only [body, hentity]

/-- Only commands that read or remove have no entity. -/
theorem entity?_eq_none {command : Command} :
    command.verb.entity? = none ↔ command.verb = .get ∨ command.verb = .delete := by
  cases command.verb <;> simp [Verb.entity?]

/-- An entity goes through a chain of any length. -/
theorem chain_of_entity (links : List (Carrier × String)) {inner : Command} {v : Value}
    (hentity : inner.verb.entity? = some v) :
    ∃ outer, chain links inner = .ok outer ∧ outer.verb.entity? = some v := by
  induction links generalizing inner with
  | nil => exact ⟨inner, rfl, hentity⟩
  | cons link links ih =>
    obtain ⟨carrier, resource⟩ := link
    have hnext : (of (carrier.verb v) resource).verb.entity? = some v := by simp [of]
    have hrest := ih hnext
    simpa [chain, carrier.pass_of_entity resource hentity, Except.bind] using hrest

/-- A chain around a command without an entity fails at its first link. -/
theorem chain_of_no_entity (link : Carrier × String) (links : List (Carrier × String))
    {inner : Command} (hentity : inner.verb.entity? = none) :
    chain (link :: links) inner =
      .error (Error.requestInvalid (inner.label ++ " carries no request entity")) := by
  simp [chain, link.1.pass_of_no_entity link.2 hentity, Except.bind]

/-- A value that is sent is parsed back by who reads the body, with the members of its
objects in the order of their keys. -/
theorem send_parses (carrier : Carrier) (resource : String) {v : Value}
    (hfits : v.Fits Decoder.maxLevels) :
    ∃ command, carrier.send resource (some v) = .ok command ∧
      Decoder.decodeBytes Decoder.value command.body = some v.normalize ∧
      Reordered v v.normalize := by
  refine ⟨_, carrier.send_some resource v, ?_, hfits.reordered_normalize⟩
  rw [body_of_entity (carrier.entity?_verb v.normalize), hfits.normalize.decodeBytes_render,
    hfits.normalize_normalize]

/-- Values that are the same up to the order of members have one body. -/
theorem send_body_eq (carrier carrier' : Carrier) (resource resource' : String) {v w : Value}
    (hsame : Reordered v w) :
    ∃ command command', carrier.send resource (some v) = .ok command ∧
      carrier'.send resource' (some w) = .ok command' ∧ command.body = command'.body := by
  refine ⟨_, _, carrier.send_some resource v, carrier'.send_some resource' w, ?_⟩
  rw [body_of_entity (carrier.entity?_verb v.normalize),
    body_of_entity (carrier'.entity?_verb w.normalize), hsame.normalize_eq]

/-- A chain sends the body of its innermost command. -/
theorem body_of_chain {link : Carrier × String} {links : List (Carrier × String)}
    {inner outer : Command} (hchain : chain (link :: links) inner = .ok outer) :
    outer.body = inner.body := by
  cases hentity : inner.verb.entity? with
  | none => simp [chain_of_no_entity link links hentity] at hchain
  | some v =>
    obtain ⟨outer', hchain', hentity'⟩ := chain_of_entity (link :: links) hentity
    have heq : outer = outer' := by simpa [hchain] using hchain'
    rw [heq, body_of_entity hentity', body_of_entity hentity]

/-- A chain fails exactly when its innermost command reads or removes. -/
theorem chain_fails_iff (link : Carrier × String) (links : List (Carrier × String))
    (inner : Command) :
    (∃ e, chain (link :: links) inner = .error e) ↔
      inner.verb = .get ∨ inner.verb = .delete := by
  rw [← entity?_eq_none]
  cases hentity : inner.verb.entity? with
  | none => simp [chain_of_no_entity link links hentity]
  | some v =>
    obtain ⟨outer, hchain, -⟩ := chain_of_entity (link :: links) hentity
    simp [hchain]

/-- A chain fails with an invalid request. -/
theorem kind_of_chain_error {link : Carrier × String} {links : List (Carrier × String)}
    {inner : Command} {e : Error} (hchain : chain (link :: links) inner = .error e) :
    e.kind = .requestInvalid := by
  have hverb := (chain_fails_iff link links inner).mp ⟨e, hchain⟩
  rw [chain_of_no_entity link links (entity?_eq_none.mpr hverb)] at hchain
  cases hchain
  rfl

/-- A value that is sent is parsed back by who reads the body, in its normal form; values
that are the same up to the order of members have one body and one digest; and a chain of
commands sends the body of its innermost command, or fails with an invalid request exactly
when this one reads or removes. -/
theorem entity_reaches_wire :
    (∀ (carrier : Carrier) (resource : String) (v : Value), v.Fits Decoder.maxLevels →
      ∃ command, carrier.send resource (some v) = .ok command ∧
        Decoder.decodeBytes Decoder.value command.body = some v.normalize ∧
        Reordered v v.normalize) ∧
    (∀ (carrier carrier' : Carrier) (resource resource' : String) (v w : Value),
      Reordered v w →
      ∃ command command', carrier.send resource (some v) = .ok command ∧
        carrier'.send resource' (some w) = .ok command' ∧ command.body = command'.body ∧
        Signing.digest command.body = Signing.digest command'.body) ∧
    ∀ (link : Carrier × String) (links : List (Carrier × String)) (inner : Command),
      (∀ outer, chain (link :: links) inner = .ok outer → outer.body = inner.body) ∧
      ((∃ e, chain (link :: links) inner = .error e) ↔
        inner.verb = .get ∨ inner.verb = .delete) ∧
      ∀ e, chain (link :: links) inner = .error e → e.kind = .requestInvalid := by
  refine ⟨fun carrier resource v hfits => send_parses carrier resource hfits, ?_, ?_⟩
  · intro carrier carrier' resource resource' v w hsame
    obtain ⟨command, command', hsend, hsend', hbody⟩ :=
      send_body_eq carrier carrier' resource resource' hsame
    exact ⟨command, command', hsend, hsend', hbody, congrArg Signing.digest hbody⟩
  · intro link links inner
    exact ⟨fun outer hchain => body_of_chain hchain, chain_fails_iff link links inner,
      fun e hchain => kind_of_chain_error hchain⟩

/-- A node with integers at both ends, whose members are not in the order of their keys. -/
def unorderedNode : Value :=
  .object [
    ("limits", .array [.ofInt (-Int.pow 2 63), .ofInt (Int.pow 2 64 - 1)]),
    ("chef_type", .string "\"node\"\n")]

/-- The node can be sent. -/
theorem unorderedNode_fits : unorderedNode.Fits Decoder.maxLevels := by
  refine .object (by decide) fun member hmember => ?_
  simp only [List.mem_cons, List.not_mem_nil, or_false] at hmember
  rcases hmember with rfl | rfl
  · refine .array fun v hv => ?_
    simp only [List.mem_cons, List.not_mem_nil, or_false] at hv
    rcases hv with rfl | rfl <;> exact .int _ (by decide) (by decide)
  · exact .string _ _

/-- The node is parsed back from both commands, has one body in both orders, and goes
through a chain; around a command that reads, the same chain fails. -/
theorem entity_reaches_wire_unorderedNode :
    (∃ command, Carrier.post.send "nodes" (some unorderedNode) = .ok command ∧
      Decoder.decodeBytes Decoder.value command.body = some unorderedNode.normalize ∧
      Reordered unorderedNode unorderedNode.normalize) ∧
    (∃ command command', Carrier.post.send "nodes" (some unorderedNode) = .ok command ∧
      Carrier.put.send "nodes/web-1" (some unorderedNode.normalize) = .ok command' ∧
      command.body = command'.body ∧
      Signing.digest command.body = Signing.digest command'.body) ∧
    ∃ e, chain [(.post, "nodes"), (.put, "nodes/web-1")] (get "nodes/web-1") = .error e :=
  ⟨entity_reaches_wire.1 .post "nodes" unorderedNode unorderedNode_fits,
    entity_reaches_wire.2.1 .post .put "nodes" "nodes/web-1" _ _
      unorderedNode_fits.reordered_normalize,
    (entity_reaches_wire.2.2 (.post, "nodes") [(.put, "nodes/web-1")]
      (get "nodes/web-1")).2.1.mpr (Or.inl rfl)⟩

end Command
end ChefAccess
