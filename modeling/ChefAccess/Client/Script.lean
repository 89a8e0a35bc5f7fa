import ChefAccess.Client.Basic

/-!
# Scripted replies

The world outside can be given as a script: the replies in the order in which requests are
answered.  The last reply is repeated, and an empty script answers nothing.

Main definitions:

- {lit}`Script`: a list of replies.
- {lit}`Script.reply`: the reply to a request, by the number of requests before it.
-/

namespace ChefAccess

/-- Replies in order; each may be a failure of the transport. -/
abbrev Script := List (Except Error Http.Reply)

namespace Script

/-- The reply to the request before which a number of requests were sent.  A reply that is
not well formed is a failure of the transport. -/
def reply (script : Script) (before : Nat) : Except Error Http.Reply :=
  match script[min before (script.length - 1)]? with
  | none => .error (Error.transport "no canned response")
  | some (.error e) => .error e
  | some (.ok reply) => reply.check

/-- The world outside in which every request is answered from the script. -/
def outside (script : Script) (timeOfDay : Time.Instant) : Outside where
  timeOfDay
  reply before _ _ := script.reply before

end Script
end ChefAccess
