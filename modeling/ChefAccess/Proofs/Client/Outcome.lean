import ChefAccess.Client.Basic
import ChefAccess.Proofs.Action
import ChefAccess.Proofs.Text.Trim

/-!
# How a command may end

There are four ways for a command to end.  Its request cannot be made, and then nothing is
sent; or its request is sent, once, and gets no reply, a reply that cannot be understood, or
a response.  The kind of a failure tells whether the request was sent.

Main definitions:

- {lit}`Client.Unsent` and {lit}`Client.SentOnce`: what a command did to the outside.
- {lit}`Http.IsJsonType`: the values of a content type that announce JSON.
- {lit}`Reports`: what a response says about a reply.
- {lit}`Client.Course`: the four ways to end.

Main results:

- Theorem {lit}`Client.execute_course`: a command ends in one of four ways.
- Theorem {lit}`Client.execute_law`: what the result of a command tells about its request.
-/

namespace ChefAccess

/-! ## Content types -/

/-- White space has no other letter case. -/
theorem Text.lowerAscii_of_isSpace {c : Char} (hspace : Text.isSpace c = true) :
    Text.lowerAscii c = c := by
  have hlower : ¬ Text.isAsciiUpper c = true := by
    simp only [Text.isSpace, Text.isAsciiUpper, Bool.or_eq_true, Bool.and_eq_true,
      decide_eq_true_eq, beq_iff_eq] at hspace ⊢
    omega
  rw [Text.lowerAscii, if_neg hlower]

/-- A value announces JSON if all its bytes can be read as text and it is the type of JSON,
in any letter case and with white space on either side. -/
structure Http.IsJsonType (value : String) : Prop where
  /-- The value can be read as text. -/
  visible : ∀ b ∈ Text.Utf8.encode value, 32 ≤ b ∧ b < 127 ∨ b = 9
  /-- But for the white space around it the value is the type of JSON. -/
  named : ∃ front core back, value.toList = front ++ core ++ back ∧
    (∀ c ∈ front, Text.isSpace c = true) ∧ (∀ c ∈ back, Text.isSpace c = true) ∧
    core.map Text.lowerAscii = "application/json".toList

/-- Being the type of JSON is decided by trimming. -/
theorem Verdict.isJson_iff (value : String) :
    Verdict.isJson (some value) = true ↔
      ∃ front core back, value.toList = front ++ core ++ back ∧
        (∀ c ∈ front, Text.isSpace c = true) ∧ (∀ c ∈ back, Text.isSpace c = true) ∧
        core.map Text.lowerAscii = "application/json".toList := by
  rw [Verdict.isJson, beq_iff_eq]
  constructor
  · intro hjson
    obtain ⟨front, back, htext, hfront, hback⟩ := Text.exists_margins value.toList
    exact ⟨front, Text.trimChars value.toList, back, htext, hfront, hback, hjson⟩
  · rintro ⟨front, core, back, htext, hfront, hback, hcore⟩
    have hall : ("application/json".toList.all fun d => !Text.isSpace d) = true := by
      decide
    have hletters : ∀ d ∈ "application/json".toList, Text.isSpace d = false := by
      intro d hd
      rw [← Bool.not_eq_true']
      exact List.all_eq_true.mp hall d hd
    have hinner : ∀ c ∈ core, Text.isSpace c = false := by
      intro c hc
      have hmem : Text.lowerAscii c ∈ "application/json".toList := by
        rw [← hcore]
        exact List.mem_map_of_mem hc
      by_contra hspace
      have heq := Text.lowerAscii_of_isSpace (Bool.not_eq_false _ ▸ hspace)
      rw [heq] at hmem
      exact hspace (hletters c hmem)
    rw [htext, Text.trimChars_margins hfront hback hinner, hcore]
    rfl

/-- A reply counts as JSON by its first content type alone. -/
theorem Http.Reply.isJson_iff (reply : Http.Reply) :
    Verdict.isJson reply.contentType? = true ↔
      ∃ value, reply.contentTypes.head? = some value ∧ Http.IsJsonType value := by
  have hvisible : ∀ value : String, Http.isVisible (Text.Utf8.encode value) = true ↔
      ∀ b ∈ Text.Utf8.encode value, 32 ≤ b ∧ b < 127 ∨ b = 9 := by
    intro value
    simp [Http.isVisible, Http.isVisibleByte]
  rw [Http.Reply.contentType?]
  cases reply.contentTypes.head? with
  | none => simp [Verdict.isJson]
  | some value =>
    by_cases hread : Http.isVisible (Text.Utf8.encode value) = true
    · rw [Option.filter_some, if_pos hread, Verdict.isJson_iff]
      constructor
      · intro hnamed
        exact ⟨value, rfl, (hvisible value).mp hread, hnamed⟩
      · rintro ⟨other, hother, hjson⟩
        rw [Option.some.inj hother]
        exact hjson.named
    · rw [Option.filter_some, if_neg hread]
      constructor
      · intro hnone
        simp [Verdict.isJson] at hnone
      · rintro ⟨other, hother, hjson⟩
        rw [Option.some.inj hother] at hread
        exact absurd ((hvisible other).mpr hjson.visible) hread

/-- A reply is a success if it has one of two statuses and announces JSON first. -/
def Http.Reply.Succeeds (reply : Http.Reply) : Prop :=
  (reply.status = 200 ∨ reply.status = 201) ∧
    ∃ value, reply.contentTypes.head? = some value ∧ Http.IsJsonType value

/-- The verdict on a reply is no failure exactly for a success. -/
theorem Verdict.succeeds_iff (reply : Http.Reply) :
    (Verdict.of reply.status reply.contentType?).failed = false ↔ reply.Succeeds := by
  rw [Verdict.failed_of_iff, Http.Reply.isJson_iff, Http.Reply.Succeeds]

/-! ## Responses -/

/-- What a response to a command says about the reply that it was made of. -/
structure Reports {α : Type} (decoder : Json.Decoder α) (command : Command)
    (reply : Http.Reply) (response : Response α) : Prop where
  /-- The status is that of the reply. -/
  status : response.status = reply.status
  /-- The hash is that of the very bytes of the reply. -/
  contentHash : response.contentHash = Signing.digest reply.body
  /-- The response is no failure exactly if the reply is a success. -/
  success : response.verdict.failed = false ↔ reply.Succeeds
  /-- A response that is kept as text has the text, whatever the reply says. -/
  text : command.raw = true →
    response.raw = some (Text.Utf8.lossy reply.body) ∧ response.result = none
  /-- Any other response has no text, and a value exactly for a success. -/
  value : command.raw = false →
    response.raw = none ∧ (response.result.isSome = true ↔ response.verdict.failed = false)
  /-- The value is what the body decodes to. -/
  decoded : ∀ a, response.result = some a → decoder.decodeBytes reply.body = some a
  /-- Without a value, the body was not decoded: any other decoder gives the same. -/
  undecoded : response.result = none →
    ∀ other : Json.Decoder α, understand other command reply = .ok response

/-- The failure of a command whose reply has a body that cannot be decoded. -/
def malformedBody (command : Command) : Error :=
  ((Error.transport "malformed response body").withExternal).withOperation command.label

/-- A reply is understood unless its body has to be decoded and cannot be. -/
theorem understand_cases {α : Type} (decoder : Json.Decoder α) (command : Command)
    (reply : Http.Reply) :
    (∃ response, understand decoder command reply = .ok response ∧
        Reports decoder command reply response) ∨
      understand decoder command reply = .error (malformedBody command) ∧ command.raw = false ∧
        reply.Succeeds ∧ decoder.decodeBytes reply.body = none := by
  unfold understand
  dsimp only
  split
  case isTrue hraw =>
    refine Or.inl ⟨_, rfl, rfl, rfl, Verdict.succeeds_iff reply, fun _ => ⟨rfl, rfl⟩, ?_, ?_, ?_⟩
    · intro hvalue
      exact absurd hraw (by simp [hvalue])
    · intro a hresult
      cases hresult
    · intro _ other
      simp only [understand, hraw, if_true]
  case isFalse hraw =>
    split
    case isTrue hfailed =>
      refine Or.inl ⟨_, rfl, rfl, rfl, Verdict.succeeds_iff reply, ?_, ?_, ?_, ?_⟩
      · intro htext
        exact absurd htext hraw
      · intro _
        simp [hfailed]
      · intro a hresult
        cases hresult
      · intro _ other
        simp only [understand, hraw, hfailed, if_true]
        rfl
    case isFalse hsuccess =>
      have hverdict := Bool.eq_false_iff.mpr hsuccess
      cases hdecode : decoder.decodeBytes reply.body with
      | none =>
        exact Or.inr ⟨rfl, Bool.eq_false_iff.mpr hraw, (Verdict.succeeds_iff reply).mp hverdict,
          rfl⟩
      | some a =>
        refine Or.inl ⟨_, rfl, rfl, rfl, Verdict.succeeds_iff reply, ?_, ?_, ?_, ?_⟩
        · intro htext
          exact absurd htext hraw
        · intro _
          simp [hverdict]
        · intro b hresult
          rw [← hresult, hdecode]
        · intro hresult
          cases hresult

/-! ## The course of a command -/

namespace Client

variable {α : Type}

/-- Nothing was sent. -/
def Unsent (count : Nat) (outcome : Outcome Nat α) : Prop :=
  outcome.events = [] ∧ outcome.state = count

/-- One request was sent, and only once. -/
def SentOnce (client : Client) (count : Nat) (request : Http.Request)
    (outcome : Outcome Nat α) : Prop :=
  outcome.events = [.sent client.transport request] ∧ outcome.state = count + 1

/-- The failure of a command whose request got no reply. -/
def unanswered (client : Client) (command : Command) (cause : Error) : Error :=
  ((Error.transport ("failed to execute request to " ++ client.uri command)).withCause cause)
    |>.withOperation command.label

/-- A request cannot be made for one of two reasons, and the failure names the command. -/
theorem kind_of_prepare_error {client : Client} {timeOfDay : Time.Instant} {command : Command}
    {e : Error} (hprepare : client.prepare timeOfDay command = .error e) :
    (e.kind = .signingFailed ∨ e.kind = .requestInvalid) ∧ e.operation = some command.label := by
  unfold prepare at hprepare
  split at hprepare
  case h_1 fault hsign =>
    rw [← Except.error.inj hprepare, Error.kind_withOperation, Error.operation_withOperation]
    refine ⟨Or.inl ?_, rfl⟩
    unfold Signing.sign at hsign
    dsimp only at hsign
    split at hsign
    · rw [← Except.error.inj hsign]
      rfl
    · split at hsign
      · cases hsign
      · rw [← Except.error.inj hsign]
        rfl
  case h_2 headers _ =>
    split at hprepare
    · rw [← Except.error.inj hprepare]
      exact ⟨Or.inr rfl, rfl⟩
    · cases hprepare

/-- Without a request nothing is sent. -/
theorem execute_of_prepare_error {client : Client} {outside : Outside}
    {decoder : Json.Decoder α} {command : Command} {count : Nat} {e : Error}
    (hprepare : client.prepare outside.timeOfDay command = .error e) :
    client.execute outside decoder command count = ⟨.error e, count, []⟩ := by
  rw [execute, hprepare, Action.ofExcept_error_bind]

/-- A request is sent once, and its reply is understood. -/
theorem execute_of_prepare_ok {client : Client} {outside : Outside}
    {decoder : Json.Decoder α} {command : Command} {count : Nat} {request : Http.Request}
    (hprepare : client.prepare outside.timeOfDay command = .ok request) :
    client.execute outside decoder command count =
      ⟨match outside.reply count client.transport request with
        | .error cause => .error (client.unanswered command cause)
        | .ok reply => understand decoder command reply,
        count + 1, [.sent client.transport request]⟩ := by
  have hexchange : client.exchange outside request count =
      ⟨.ok (outside.reply count client.transport request), count + 1,
        [.sent client.transport request]⟩ := rfl
  rw [execute, hprepare, Action.ofExcept_ok_bind, Action.bind_eq_of_ok hexchange]
  cases outside.reply count client.transport request with
  | error cause => rfl
  | ok reply => rfl

/-- The four ways to end. -/
inductive Course (client : Client) (outside : Outside) (decoder : Json.Decoder α)
    (command : Command) (count : Nat) : Outcome Nat (Response α) → Prop
  /-- The request cannot be made. -/
  | unsent (e : Error) (hkind : e.kind = .signingFailed ∨ e.kind = .requestInvalid)
      (hlabel : e.operation = some command.label) :
      Course client outside decoder command count ⟨.error e, count, []⟩
  /-- The request gets no reply. -/
  | unanswered (request : Http.Request) (cause : Error)
      (hreply : outside.reply count client.transport request = .error cause) :
      Course client outside decoder command count
        ⟨.error (client.unanswered command cause), count + 1, [.sent client.transport request]⟩
  /-- The reply cannot be understood. -/
  | malformed (request : Http.Request) (reply : Http.Reply)
      (hreply : outside.reply count client.transport request = .ok reply)
      (hraw : command.raw = false) (hsuccess : reply.Succeeds)
      (hdecode : decoder.decodeBytes reply.body = none) :
      Course client outside decoder command count
        ⟨.error (malformedBody command), count + 1, [.sent client.transport request]⟩
  /-- The reply amounts to a response. -/
  | answered (request : Http.Request) (reply : Http.Reply) (response : Response α)
      (hreply : outside.reply count client.transport request = .ok reply)
      (hreports : Reports decoder command reply response) :
      Course client outside decoder command count
        ⟨.ok response, count + 1, [.sent client.transport request]⟩

/-- A command ends in one of the four ways. -/
theorem execute_course (client : Client) (outside : Outside) (decoder : Json.Decoder α)
    (command : Command) (count : Nat) :
    Course client outside decoder command count
      (client.execute outside decoder command count) := by
  cases hprepare : client.prepare outside.timeOfDay command with
  | error e =>
    obtain ⟨hkind, hlabel⟩ := kind_of_prepare_error hprepare
    rw [execute_of_prepare_error hprepare]
    exact .unsent e hkind hlabel
  | ok request =>
    rw [execute_of_prepare_ok hprepare]
    cases hreply : outside.reply count client.transport request with
    | error cause => exact .unanswered request cause hreply
    | ok reply =>
      dsimp only
      rcases understand_cases decoder command reply with
        ⟨response, hresponse, hreports⟩ | ⟨herror, hraw, hsuccess, hdecode⟩
      · rw [hresponse]
        exact .answered request reply response hreply hreports
      · rw [herror]
        exact .malformed request reply hreply hraw hsuccess hdecode

namespace Course

variable {client : Client} {outside : Outside} {decoder : Json.Decoder α} {command : Command}
  {count : Nat} {outcome : Outcome Nat (Response α)}

/-- A failure names the command, and its kind tells whether the request was sent. -/
theorem of_error (hcourse : Course client outside decoder command count outcome) {e : Error}
    (herror : outcome.result = .error e) :
    e.operation = some command.label ∧
      ((e.kind = .signingFailed ∨ e.kind = .requestInvalid) ∧ Unsent count outcome ∨
        e.kind = .transport ∧ ∃ request, client.SentOnce count request outcome) := by
  cases hcourse with
  | unsent _ hkind hlabel =>
    rw [← Except.error.inj herror]
    exact ⟨hlabel, Or.inl ⟨hkind, rfl, rfl⟩⟩
  | unanswered request cause =>
    rw [← Except.error.inj herror]
    exact ⟨rfl, Or.inr ⟨rfl, request, rfl, rfl⟩⟩
  | malformed request =>
    rw [← Except.error.inj herror]
    exact ⟨rfl, Or.inr ⟨rfl, request, rfl, rfl⟩⟩
  | answered => cases herror

/-- A response reports on the reply to the one request that was sent. -/
theorem of_ok (hcourse : Course client outside decoder command count outcome)
    {response : Response α} (hok : outcome.result = .ok response) :
    ∃ request reply, client.SentOnce count request outcome ∧
      outside.reply count client.transport request = .ok reply ∧
      Reports decoder command reply response := by
  cases hcourse with
  | unsent => cases hok
  | unanswered => cases hok
  | malformed => cases hok
  | answered request reply _ hreply hreports =>
    rw [← Except.ok.inj hok]
    exact ⟨request, reply, ⟨rfl, rfl⟩, hreply, hreports⟩

/-- A failure to reply is kept as the cause. -/
theorem of_unanswered (hcourse : Course client outside decoder command count outcome)
    {request : Http.Request} (hsent : client.SentOnce count request outcome) {cause : Error}
    (hcause : outside.reply count client.transport request = .error cause) :
    ∃ e, outcome.result = .error e ∧ e.kind = .transport ∧ e.cause? = some cause := by
  cases hcourse with
  | unsent => cases hsent.1
  | unanswered sent other hreply =>
    cases hsent.1
    rw [hcause] at hreply
    cases hreply
    exact ⟨_, rfl, rfl, rfl⟩
  | malformed sent reply hreply =>
    cases hsent.1
    rw [hcause] at hreply
    cases hreply
  | answered sent reply _ hreply =>
    cases hsent.1
    rw [hcause] at hreply
    cases hreply

/-- A reply is a failure only if its body has to be decoded and cannot be. -/
theorem error_iff_of_reply (hcourse : Course client outside decoder command count outcome)
    {request : Http.Request} (hsent : client.SentOnce count request outcome)
    {reply : Http.Reply} (hreply : outside.reply count client.transport request = .ok reply)
    (e : Error) :
    outcome.result = .error e ↔
      e = malformedBody command ∧ command.raw = false ∧ reply.Succeeds ∧
        decoder.decodeBytes reply.body = none := by
  cases hcourse with
  | unsent => cases hsent.1
  | unanswered sent cause hother =>
    cases hsent.1
    rw [hreply] at hother
    cases hother
  | malformed sent other hother hraw hsuccess hdecode =>
    cases hsent.1
    rw [hreply] at hother
    cases hother
    constructor
    · intro herror
      exact ⟨(Except.error.inj herror).symm, hraw, hsuccess, hdecode⟩
    · rintro ⟨rfl, -⟩
      rfl
  | answered sent other response hother hreports =>
    cases hsent.1
    rw [hreply] at hother
    cases hother
    constructor
    · intro herror
      cases herror
    · rintro ⟨-, hraw, hsuccess, hdecode⟩
      have hvalue := (hreports.value hraw).2.mpr (hreports.success.mpr hsuccess)
      obtain ⟨a, ha⟩ := Option.isSome_iff_exists.mp hvalue
      rw [hreports.decoded a ha] at hdecode
      cases hdecode

end Course

/-- What the result of a command tells about its request, and its reply about the result:
a failure names the command, and its kind tells whether the request was sent; a response
reports on the reply to the one request that was sent; and of the replies to a request only
a success whose body has to be decoded and cannot be is a failure. -/
theorem execute_law (client : Client) (outside : Outside) (decoder : Json.Decoder α)
    (command : Command) (count : Nat) :
    (∀ e, (client.execute outside decoder command count).result = .error e →
      e.operation = some command.label ∧
        ((e.kind = .signingFailed ∨ e.kind = .requestInvalid) ∧
            Unsent count (client.execute outside decoder command count) ∨
          e.kind = .transport ∧ ∃ request,
            client.SentOnce count request (client.execute outside decoder command count))) ∧
    (∀ response, (client.execute outside decoder command count).result = .ok response →
      ∃ request reply,
        client.SentOnce count request (client.execute outside decoder command count) ∧
          outside.reply count client.transport request = .ok reply ∧
          Reports decoder command reply response) ∧
    (∀ request, client.SentOnce count request (client.execute outside decoder command count) →
      (∀ cause, outside.reply count client.transport request = .error cause →
        ∃ e, (client.execute outside decoder command count).result = .error e ∧
          e.kind = .transport ∧ e.cause? = some cause) ∧
      ∀ reply, outside.reply count client.transport request = .ok reply →
        ∀ e, (client.execute outside decoder command count).result = .error e ↔
          e = malformedBody command ∧ command.raw = false ∧ reply.Succeeds ∧
            decoder.decodeBytes reply.body = none) := by
  have hcourse := execute_course client outside decoder command count
  refine ⟨?_, ?_, ?_⟩
  · intro e herror
    exact hcourse.of_error herror
  · intro response hok
    exact hcourse.of_ok hok
  · intro request hsent
    constructor
    · intro cause hcause
      exact hcourse.of_unanswered hsent hcause
    · intro reply hreply e
      exact hcourse.error_iff_of_reply hsent hreply e

end Client
end ChefAccess
