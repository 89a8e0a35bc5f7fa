import ChefAccess.Error
import ChefAccess.Json.Value
import ChefAccess.Text.Blank
import ChefAccess.Text.Quoted
import ChefAccess.Text.Utf8

/-!
# Commands

A command is one thing to ask of a server: to read, remove, create or replace a resource.
Only the last two carry an entity, which is kept in its normal form, so that equal
entities have equal bodies.

Main definitions:

- {lit}`Verb`: what a command does with a resource.
- {lit}`Command`: a verb with its resource.
- {lit}`Command.post` and {lit}`Command.put`: the commands with an entity.
- {lit}`Command.postFrom` and {lit}`Command.putFrom`: commands with the entity of another one.
- {lit}`Command.body`: the bytes that are sent.

Main results:

- Theorem {lit}`Command.body_postFrom`: an entity that is passed on is sent unchanged.
-/

namespace ChefAccess

open Json

/-- What a command does with a resource. -/
inductive Verb where
  | get
  | delete
  | post (entity : Value)
  | put (entity : Value)

namespace Verb

/-- The method of a verb. -/
def method : Verb → String
  | get => "GET"
  | delete => "DELETE"
  | post _ => "POST"
  | put _ => "PUT"

/-- The entity of a verb, if it carries one. -/
def entity? : Verb → Option Value
  | get => none
  | delete => none
  | post entity => some entity
  | put entity => some entity

/-- A verb in descriptions. -/
def describe : Verb → String
  | get => "Get"
  | delete => "Delete"
  | post entity => "Post(" ++ entity.describe ++ ")"
  | put entity => "Put(" ++ entity.describe ++ ")"

end Verb

/-- One thing to ask of a server. -/
structure Command where
  verb : Verb
  resource : String
  query : Option String
  raw : Bool

namespace Command

/-- A command without a query. -/
def of (verb : Verb) (resource : String) : Command :=
  ⟨verb, resource, none, false⟩

/-- Read a resource. -/
def get (resource : String) : Command :=
  of .get resource

/-- Remove a resource. -/
def delete (resource : String) : Command :=
  of .delete resource

/-- A command is known by its method and its resource. -/
def label (command : Command) : String :=
  command.verb.method ++ " " ++ command.resource

/-- The entity of a command. -/
def entity (command : Command) : Except Error Value :=
  match command.verb.entity? with
  | some entity => .ok entity
  | none => .error (Error.requestInvalid (command.label ++ " carries no request entity"))

/-- The normal form of an entity, unless the entity has no written form. -/
def normalForm (entity : Option Value) : Except Error Value :=
  match entity with
  | some value => .ok value.normalize
  | none => .error (Error.requestInvalid "failed to serialize request entity").withExternal

/-- Create a resource. -/
def post (resource : String) (entity : Option Value) : Except Error Command :=
  (normalForm entity).map fun value => of (.post value) resource

/-- Replace a resource. -/
def put (resource : String) (entity : Option Value) : Except Error Command :=
  (normalForm entity).map fun value => of (.put value) resource

/-- Create a resource from the entity of another command. -/
def postFrom (resource : String) (inner : Command) : Except Error Command :=
  inner.entity.map fun value => of (.post value) resource

/-- Replace a resource with the entity of another command. -/
def putFrom (resource : String) (inner : Command) : Except Error Command :=
  inner.entity.map fun value => of (.put value) resource

/-- The command with a query.  Question marks before it are dropped, and a blank query
is none. -/
def withQuery (command : Command) (query : String) : Command :=
  { command with query := if Text.isBlank query then none else some (Text.trimStartOf '?' query) }

/-- The command whose response is kept as text. -/
def asRaw (command : Command) : Command :=
  { command with raw := true }

/-- The bytes that are sent: the written form of the entity, or nothing. -/
def body (command : Command) : List UInt8 :=
  match command.verb.entity? with
  | some entity => Text.Utf8.encode entity.render
  | none => []

/-- An entity that is passed on is sent unchanged. -/
theorem body_postFrom {inner outer : Command} {resource : String}
    (hfrom : postFrom resource inner = .ok outer) : outer.body = inner.body := by
  unfold postFrom entity at hfrom
  cases hentity : inner.verb.entity? with
  | none => simp [hentity, Except.map] at hfrom
  | some value =>
    simp only [hentity, Except.map, Except.ok.injEq] at hfrom
    rw [← hfrom]
    have hpost : (Verb.post value).entity? = some value := rfl
    simp only [body, of, hentity, hpost]

/-- A command in descriptions, with the name of the type of its result. -/
def describe (command : Command) (resultName : String) : String :=
  let query :=
    match command.query with
    | none => "None"
    | some query => "Some(" ++ Text.quoted query ++ ")"
  "ChefCommand \x7b verb: " ++ command.verb.describe ++
    ", resource: " ++ Text.quoted command.resource ++ ", query: " ++ query ++
    ", raw: " ++ (if command.raw then "true" else "false") ++
    ", result: " ++ Text.quoted resultName ++ " \x7d"

end Command
end ChefAccess
