import ChefAccess.Proofs.Client.Authentic
import ChefAccess.Proofs.Http.Host

/-!
# The target of a request

A request is signed for a slash with the path of its resource, and sent to the address that
begins with the base address of the server.  The two paths agree if the base address has nothing
but a host, so that its slash is the one before the path, and if the address is cut where the
command has its query.  Short of a number sign in the base address, they agree only then.

Main definitions:

- {lit}`Client.Plain`: an address is cut where the command has its query.

Main results:

- Theorems {lit}`Client.target_of_plain` and {lit}`Client.plain_of_target`: when a request goes
  to the path and the query of its command.
- Theorem {lit}`Client.signed_target`: when a request goes to the path that is signed.
-/

namespace ChefAccess
namespace Client

open Http.Uri

variable {client : Client} {command : Command} {uri : Http.Uri}

/-! ## Addresses of commands -/

/-- What an address has behind the path of the resource. -/
def querySuffix : Option String → List Char
  | some query => '?' :: query.toList
  | none => []

theorem toList_uri (client : Client) (command : Command) :
    (client.uri command).toList = client.context.baseUri.toList ++
      ((client.context.resourcePath command.resource).toList ++ querySuffix command.query) := by
  unfold uri querySuffix
  cases command.query with
  | none => simp
  | some query => simp

/-- The address of a command is cut where the command has its query: the base address is that of
a host, and neither the path of the resource nor the query is cut earlier. -/
structure Plain (client : Client) (command : Command) : Prop where
  base : HostOnly client.context.baseUri.toList
  resource : Uncut (client.context.resourcePath command.resource).toList
  query : ∀ query, command.query = some query → '#' ∉ query.toList

/-- A request goes to the path of the resource, with the query of its command. -/
structure Targets (client : Client) (command : Command) (uri : Http.Uri) : Prop where
  path : uri.path = "/" ++ client.context.resourcePath command.resource
  query : uri.query = command.query

theorem takeWhile_ne_of_not_mem {text : List Char} {c : Char} (hnot : c ∉ text) :
    text.takeWhile (· != c) = text := by
  refine List.takeWhile_eq_self_iff.mpr fun d hd => bne_iff_ne.mpr ?_
  rintro rfl
  exact hnot hd

/-- A query is cut off, with its question mark. -/
theorem stem_querySuffix (query : Option String) : stem (querySuffix query) = [] := by
  cases query with
  | none => rfl
  | some query => rfl

theorem tail_querySuffix (query : Option String) :
    tail (querySuffix query) = querySuffix query := by
  cases query with
  | none => rfl
  | some query => rfl

/-- A query is read back exactly if there is no number sign in it. -/
theorem queryOf_querySuffix_eq_iff (query : Option String) :
    queryOf (querySuffix query) = query ↔ ∀ text, query = some text → '#' ∉ text.toList := by
  cases query with
  | none => simp [querySuffix, queryOf]
  | some text =>
    have hread : queryOf (querySuffix (some text)) =
        some (String.ofList (text.toList.takeWhile (· != '#'))) := rfl
    rw [hread]
    constructor
    · rintro hsame other hother
      obtain rfl := Option.some.inj hother
      rw [← Option.some.inj hsame, String.toList_ofList]
      intro hmem
      exact absurd (List.mem_takeWhile_imp hmem) (by decide)
    · intro hnot
      rw [takeWhile_ne_of_not_mem (hnot text rfl), String.ofList_toList]

/-! ## Targets of requests -/

/-- A request goes to the path and the query of its command, if the address is cut there. -/
theorem target_of_plain (hplain : client.Plain command)
    (hparse : Http.Uri.parse (client.uri command) = .ok uri) : client.Targets command uri := by
  obtain ⟨head, hhead, hstem, hquery⟩ := exists_head hparse
  rw [toList_uri] at hhead hstem hquery
  rw [stem_append hplain.base.uncut, stem_append hplain.resource, stem_querySuffix,
    List.append_nil] at hstem
  rw [tail_append hplain.base.uncut, tail_append hplain.resource, tail_querySuffix] at hquery
  have hslash := List.mem_append_left ((client.context.resourcePath command.resource).toList ++
    querySuffix command.query) hplain.base.slash_mem
  constructor
  case path =>
    rw [← String.toList_inj, path_of_hostOnly hplain.base hhead hslash hstem]
    simp
  case query => rw [hquery, (queryOf_querySuffix_eq_iff _).mpr hplain.query]

/-- If a base address is cut at a question mark, a request does not go to the query of its
command. -/
theorem query_ne_of_cut {front back resource : List Char} {query : Option String}
    (hfront : Uncut front) (hback : '#' ∉ back) (hresource : Uncut resource) :
    queryOf (tail (front ++ '?' :: back ++ (resource ++ querySuffix query))) ≠ query := by
  intro hsame
  rw [List.append_assoc, tail_append hfront] at hsame
  have hread : queryOf (tail ('?' :: back ++ (resource ++ querySuffix query))) =
      some (String.ofList ((back ++ (resource ++ querySuffix query)).takeWhile (· != '#'))) :=
    rfl
  rw [hread] at hsame
  cases query with
  | none => cases hsame
  | some text =>
    have htext := congrArg String.toList (Option.some.inj hsame)
    rw [String.toList_ofList] at htext
    have hnot : '#' ∉ text.toList := by
      rw [← htext]
      intro hmem
      exact absurd (List.mem_takeWhile_imp hmem) (by decide)
    have hresource' := (uncut_iff.mp hresource).2
    -- nothing is cut off, so the query would be longer than itself
    rw [takeWhile_ne_of_not_mem (by simp [querySuffix, hback, hresource', hnot])] at htext
    have hlength := congrArg List.length htext
    simp [querySuffix] at hlength
    omega

/-- If a request goes to the path and the query of its command, and there is no number sign in
the base address, then the address is cut there. -/
theorem plain_of_target (hfragment : '#' ∉ client.context.baseUri.toList)
    (hparse : Http.Uri.parse (client.uri command) = .ok uri)
    (htarget : client.Targets command uri) : client.Plain command := by
  obtain ⟨head, hhead, hstem, hquery⟩ := exists_head hparse
  have hpath : uri.path.toList =
      '/' :: (client.context.resourcePath command.resource).toList := by
    rw [htarget.path]
    simp
  rw [toList_uri] at hhead hstem hquery
  rw [hpath] at hhead hstem
  rw [htarget.query] at hquery
  have hresource : Uncut (client.context.resourcePath command.resource).toList := by
    have huncut := uncut_stem (client.context.baseUri.toList ++
      ((client.context.resourcePath command.resource).toList ++ querySuffix command.query))
    rw [hstem, List.append_cons, uncut_append] at huncut
    exact huncut.2
  by_cases hcut : '?' ∈ client.context.baseUri.toList
  · obtain ⟨front, back, hbase, hnot⟩ := List.eq_append_cons_of_mem hcut
    rw [hbase, List.mem_append, List.mem_cons, not_or, not_or] at hfragment
    rw [hbase] at hquery
    have hfront : Uncut front := uncut_iff.mpr ⟨hnot, hfragment.1⟩
    exact absurd hquery.symm (query_ne_of_cut hfront hfragment.2.2 hresource)
  · have huncut : Uncut client.context.baseUri.toList := uncut_iff.mpr ⟨hcut, hfragment⟩
    rw [stem_append huncut, stem_append hresource, stem_querySuffix, List.append_nil,
      List.append_cons] at hstem
    rw [tail_append huncut, tail_append hresource, tail_querySuffix] at hquery
    refine ⟨?_, hresource, (queryOf_querySuffix_eq_iff _).mp hquery.symm⟩
    rw [List.append_cancel_right hstem]
    exact hhead.hostOnly

/-- A request that is sent is signed for a slash with the path of its resource, whatever the
context, the verb, the resource and the query.  It goes to that very path, and to the query of
its command, if the base address is that of a host, and neither the path of the resource nor the
query is cut; and it does so only then, unless there is a number sign in the base address. -/
theorem signed_target {α : Type} {outside : Outside} {decoder : Json.Decoder α} {count : Nat}
    {transport : Transport} {request : Http.Request}
    (hsent : .sent transport request ∈ (client.execute outside decoder command count).events) :
    (∃ pieces signature contentHash timestamp userId,
      Signing.Authentic client.context.key ("/" ++ client.context.resourcePath command.resource)
        request pieces signature contentHash timestamp userId) ∧
      (client.Plain command → client.Targets command request.uri) ∧
      ('#' ∉ client.context.baseUri.toList → client.Targets command request.uri →
        client.Plain command) := by
  have hprepare := prepare_of_sent hsent
  have hparse := (eq_of_prepare_ok hprepare).2.1
  exact ⟨authentic_of_prepare hprepare, fun hplain => target_of_plain hplain hparse,
    fun hfragment htarget => plain_of_target hfragment hparse htarget⟩

/-- A request to the address of a host goes to the path that is signed. -/
theorem signed_target_sample :
    sampleClient.Plain (Command.get "nodes") ∧
      ∃ request, .sent sampleClient.transport request ∈ (sampleClient.execute sampleOutside
          Json.Decoder.value (Command.get "nodes") 0).events ∧
        request.uri.path = "/organizations/acme/nodes" ∧ request.uri.query = none := by
  have hplain : sampleClient.Plain (Command.get "nodes") := by
    have hscheme : ∀ c ∈ "https".toList, isSchemeChar c = true :=
      List.all_eq_true.mp (by decide)
    have hends : ∀ c ∈ "chef.example".toList, endsAuthority c = false := by
      simp [endsAuthority]
    exact ⟨.full hscheme (by decide) hends, uncut_iff.mpr (by decide),
      by simp [Command.get, Command.of]⟩
  have hmade :
      (sampleClient.prepare sampleOutside.timeOfDay (Command.get "nodes")).isOk = true := by
    decide +kernel
  refine ⟨hplain, ?_⟩
  cases hprepare : sampleClient.prepare sampleOutside.timeOfDay (Command.get "nodes") with
  | error e =>
    rw [hprepare] at hmade
    cases hmade
  | ok request =>
    have hsent := sent_of_prepare_ok Json.Decoder.value 0 hprepare
    obtain ⟨hpath, hquery⟩ := (signed_target hsent).2.1 hplain
    exact ⟨request, hsent, hpath, hquery⟩

/-- The draft of a context whose base address has a path of its own. -/
def nestedDraft : Server.Context.Draft :=
  { Server.Context.Draft.empty with
    serverId := some "east"
    baseUri := some "https://chef.example/chef"
    username := some "alice"
    key := some sampleClient.context.key
    version := .v11 }

/-- A client of the context of that draft. -/
def nestedClient : Client :=
  { sampleClient with
    issued := ⟨0, { sampleClient.context with
      baseUri := "https://chef.example/chef/"
      organization := ""
      version := .v11 }⟩ }

/-- Behind a base address with a path of its own, a request goes to a longer path than the one
that is signed. -/
theorem target_ne_signed_nested :
    nestedDraft.build = .ok nestedClient.context ∧
      ∃ request, .sent nestedClient.transport request ∈ (nestedClient.execute sampleOutside
          Json.Decoder.value (Command.get "nodes") 0).events ∧
        request.uri.path = "/chef/nodes" ∧
        "/" ++ nestedClient.context.resourcePath "nodes" = "/nodes" := by
  have hbuild : nestedDraft.build = .ok nestedClient.context := by
    decide +kernel
  have hmade : (nestedClient.prepare sampleOutside.timeOfDay (Command.get "nodes")).map
      (fun request => request.uri.path) = .ok "/chef/nodes" := by
    decide +kernel
  refine ⟨hbuild, ?_⟩
  cases hprepare : nestedClient.prepare sampleOutside.timeOfDay (Command.get "nodes") with
  | error e =>
    rw [hprepare] at hmade
    cases hmade
  | ok request =>
    rw [hprepare] at hmade
    exact ⟨request, sent_of_prepare_ok Json.Decoder.value 0 hprepare, Except.ok.inj hmade,
      by decide +kernel⟩

end Client
end ChefAccess
