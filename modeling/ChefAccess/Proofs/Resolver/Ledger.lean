import ChefAccess.Proofs.Resolver.Run

/-!
# The ledger of issued contexts

A resolver issues contexts under consecutive numbers, so a number stands for one context ever
after.  The ledger lists the contexts in the order in which they were issued.  It is no part of
the resolver: each action extends the ledger by the contexts that it issues, and whatever it
keeps or gives is in the ledger under its number.

Main definitions:

- {lit}`Issued.BookedIn`: a context is in the ledger under its number.
- {lit}`Action.Books`: an action extends the ledger, and what it leaves and gives is booked.
- {lit}`Resolver.Audited`: the ledger lists all contexts of a resolver, and all that it keeps are
  booked.

Main results:

- Theorem {lit}`Issued.BookedIn.eq`: a number stands for one context.
- Theorem {lit}`Action.Books.bind`: two actions that book in turn.
- Theorem {lit}`Resolver.Turn.action_books`: every call of a resolver books.
-/

namespace ChefAccess

/-- A context is in the ledger under its number. -/
def Issued.BookedIn (ledger : List Server.Context) (v : Issued) : Prop :=
  ledger[v.serial]? = some v.context

/-- A number stands for one context. -/
theorem Issued.BookedIn.eq {ledger : List Server.Context} {v w : Issued}
    (hv : v.BookedIn ledger) (hw : w.BookedIn ledger) (hserial : v.serial = w.serial) :
    v = w := by
  rcases v with ⟨serial, context⟩
  rcases w with ⟨serial', context'⟩
  obtain rfl : serial = serial' := hserial
  obtain rfl : context = context' := Option.some.inj (hv.symm.trans hw)
  rfl

/-- What is booked stays booked. -/
theorem Issued.BookedIn.extend {ledger later : List Server.Context} {v : Issued}
    (hbooked : v.BookedIn ledger) (hextends : ledger <+: later) : v.BookedIn later := by
  obtain ⟨more, rfl⟩ := hextends
  have hlt : v.serial < ledger.length := (List.getElem?_eq_some_iff.mp hbooked).1
  rw [BookedIn, List.getElem?_append_left hlt]
  exact hbooked

/-! ## Actions -/

namespace Action

variable {σ α β : Type} {State : List Server.Context → σ → Prop}
  {ledger : List Server.Context} {Given : List Server.Context → α → Prop}
  {Last : List Server.Context → β → Prop}

/-- An action extends the ledger, so that the state that it leaves and the value that it gives
fit the ledger. -/
def Books (State : List Server.Context → σ → Prop) (ledger : List Server.Context)
    (action : Action σ α) (Given : List Server.Context → α → Prop) : Prop :=
  ∀ s, State ledger s → ∃ later, ledger <+: later ∧ State later (action s).state ∧
    ∀ a, (action s).result = .ok a → Given later a

namespace Books

theorem pure {a : α} (hgiven : Given ledger a) : Books State ledger (Pure.pure a) Given := by
  intro s hstate
  refine ⟨ledger, List.prefix_rfl, hstate, ?_⟩
  intro b hb
  rw [← Except.ok.inj hb]
  exact hgiven

/-- An action that only asks leaves the ledger alone. -/
theorem of_asks {action : Action σ α} {Answer : α → Prop} (hasks : action.Asks Answer)
    (hgiven : ∀ a, Answer a → Given ledger a) : Books State ledger action Given := by
  intro s hstate
  obtain ⟨result, events, houtcome, hanswer⟩ := hasks s
  rw [houtcome]
  exact ⟨ledger, List.prefix_rfl, hstate, fun a ha => hgiven a (hanswer a ha)⟩

theorem fail (e : Error) : Books State ledger (Action.fail e) Given :=
  of_asks (.fail e) fun _ hfalse => False.elim hfalse

/-- Two actions that book in turn. -/
theorem bind {action : Action σ α} {next : α → Action σ β}
    (hbooks : Books State ledger action Given)
    (hnext : ∀ later a, ledger <+: later → Given later a → Books State later (next a) Last) :
    Books State ledger (action >>= next) Last := by
  intro s hstate
  obtain ⟨later, hextends, hafter, hgiven⟩ := hbooks s hstate
  rcases houtcome : action s with ⟨result, t, events⟩
  rw [houtcome] at hafter hgiven
  cases result with
  | error e =>
    rw [bind_eq_of_error houtcome]
    exact ⟨later, hextends, hafter, fun _ hok => nomatch hok⟩
  | ok a =>
    rw [bind_eq_of_ok houtcome]
    obtain ⟨last, hlast, hstate, hgiven⟩ := hnext later a hextends (hgiven a rfl) t hafter
    exact ⟨last, hextends.trans hlast, hstate, hgiven⟩

/-- A question before an action that books. -/
theorem bind_of_asks {action : Action σ α} {next : α → Action σ β} {Answer : α → Prop}
    (hasks : action.Asks Answer)
    (hnext : ∀ a, Answer a → Books State ledger (next a) Last) :
    Books State ledger (action >>= next) Last := by
  intro s hstate
  obtain ⟨result, events, houtcome, hanswer⟩ := hasks s
  cases result with
  | error e =>
    rw [bind_eq_of_error houtcome]
    exact ⟨ledger, List.prefix_rfl, hstate, fun _ hok => nomatch hok⟩
  | ok a =>
    rw [bind_eq_of_ok houtcome]
    exact hnext a (hanswer a rfl) s hstate

end Books
end Action

namespace Resolver

variable {around : Surroundings} {ledger : List Server.Context} {key : String} {v : Issued}

/-- The ledger lists the contexts that a resolver has issued, and all contexts that it keeps are
booked. -/
structure Audited (ledger : List Server.Context) (r : Resolver) : Prop where
  length : ledger.length = r.issued
  held : ∀ {key v}, r.cache.Holds key v → v.BookedIn ledger

/-- What is found is booked. -/
def FoundIn (ledger : List Server.Context) (found : Option Issued) : Prop :=
  ∀ v, found = some v → v.BookedIn ledger

theorem foundIn_none : FoundIn ledger none :=
  fun _ hsome => nomatch hsome

theorem foundIn_some (hbooked : v.BookedIn ledger) : FoundIn ledger (some v) := by
  rintro w hw
  rwa [← Option.some.inj hw]

/-! ## The cache -/

/-- A lookup finds what is booked. -/
theorem lookup_books (around : Surroundings) (key : String) (ledger : List Server.Context) :
    Action.Books Audited ledger (lookup around key) FoundIn := by
  intro r haudited
  obtain ⟨found, t, houtcome, hfades, hheld⟩ := exists_lookup around key r
  rw [houtcome]
  refine ⟨ledger, List.prefix_rfl, ⟨?_, fun hholds => haudited.held (hfades.held hholds)⟩, ?_⟩
  · exact haudited.length.trans hfades.issued.symm
  · rintro a ha v hv
    obtain rfl := Except.ok.inj ha
    exact haudited.held (hheld v hv)

theorem lookupKind_books (around : Surroundings) (key : String) (kind : Server.ContextKind)
    (ledger : List Server.Context) :
    Action.Books Audited ledger (lookupKind around key kind) FoundIn := by
  refine (lookup_books around key ledger).bind ?_
  intro later found _ hfound
  apply Action.Books.pure
  intro v hv
  exact hfound v (Option.filter_eq_some_iff.mp hv).1

/-- A booked context may be kept. -/
theorem keep_books (around : Surroundings) (key : String) (hbooked : v.BookedIn ledger) :
    Action.Books Audited ledger (keep around key v) fun _ _ => True := by
  intro r haudited
  refine ⟨ledger, List.prefix_rfl, ⟨haudited.length, ?_⟩, fun _ _ => trivial⟩
  intro other w hholds
  rcases Cache.holds_of_holds_insert hholds with hold | ⟨-, rfl⟩
  · exact haudited.held hold
  · exact hbooked

/-- The ledger grows by a context that is issued. -/
theorem issue_books (context : Server.Context) (ledger : List Server.Context) :
    Action.Books Audited ledger (issue context) fun later v => v.BookedIn later := by
  intro r haudited
  have hextends : ledger <+: ledger ++ [context] := List.prefix_append ledger [context]
  refine ⟨ledger ++ [context], hextends, ⟨?_, ?_⟩, ?_⟩
  · rw [List.length_append, haudited.length]
    rfl
  · exact fun hholds => (haudited.held hholds).extend hextends
  · intro v hv
    obtain rfl : ⟨r.issued, context⟩ = v := Except.ok.inj hv
    rw [← haudited.length]
    exact List.getElem?_concat_length

/-- A booked context may be kept under the name of its server. -/
theorem keepNew_books (around : Surroundings) (serverId : String) (hbooked : v.BookedIn ledger) :
    Action.Books Audited ledger (keepNew around serverId v) fun _ _ => True := by
  refine (lookup_books around serverId ledger).bind ?_
  intro later existing hextends _
  have hkeep := keep_books around serverId (hbooked.extend hextends)
  cases existing with
  | none => exact hkeep
  | some other =>
    dsimp only
    split
    · exact hkeep
    · exact .pure trivial

/-! ## Resolution -/

/-- A warning gives no context. -/
theorem warnNone_books (text : String) (ledger : List Server.Context) :
    Action.Books Audited ledger (warnNone text) FoundIn := by
  have hasks : (warnNone text : Action Resolver (Option Issued)).Asks (FoundIn ledger) :=
    warnNone_asks text
  exact .of_asks hasks fun _ hfound => hfound

theorem construct_books (around : Surroundings) (config : ServerConfig)
    (material : Option String) (username : String) (kind : Server.ContextKind)
    (ledger : List Server.Context) :
    Action.Books Audited ledger (construct around config material username kind) FoundIn := by
  refine (lookupKind_books around config.serverId kind ledger).bind ?_
  intro ledger found _ hfound
  cases found with
  | some v => exact .pure hfound
  | none =>
    dsimp only
    split
    · exact warnNone_books _ ledger
    · split
      · exact warnNone_books _ ledger
      · split
        · exact warnNone_books _ ledger
        · refine .bind_of_asks .read ?_
          intro resolver _
          refine .bind_of_asks (.ofExcept _) ?_
          intro context _
          refine (issue_books context ledger).bind ?_
          intro ledger v _ hbooked
          refine (keepNew_books around config.serverId hbooked).bind ?_
          intro ledger _ hextends _
          exact .pure (foundIn_some (hbooked.extend hextends))

theorem resolve_books (around : Surroundings) (config : ServerConfig)
    (ledger : List Server.Context) :
    Action.Books Audited ledger (resolve around config) FoundIn := by
  refine (lookupKind_books around config.serverId .zone ledger).bind ?_
  intro ledger found _ hfound
  cases found with
  | some v => exact .pure hfound
  | none =>
    refine .bind_of_asks (secretMaterial_asks around config) ?_
    intro material _
    exact construct_books around config material config.username .zone ledger

theorem constructProject_books (around : Surroundings) (tenancy : Tenancy)
    (config : TenantConfig) (server : ServerConfig) (ledger : List Server.Context) :
    Action.Books Audited ledger (constructProject around tenancy config server) FoundIn := by
  refine .bind_of_asks (fileMaterial_asks around config) ?_
  intro material _
  refine (construct_books around server material (clientName config server) .project ledger).bind
    ?_
  intro ledger resolved _ hfound
  cases resolved with
  | none => exact .pure foundIn_none
  | some v =>
    have hbooked := hfound v rfl
    refine (keep_books around (tenancyKey tenancy) hbooked).bind ?_
    intro ledger _ hextends _
    exact .pure (foundIn_some (hbooked.extend hextends))

theorem resolveProject_books (around : Surroundings) (tenancy : Tenancy)
    (ledger : List Server.Context) :
    Action.Books Audited ledger (resolveProject around tenancy) FoundIn := by
  refine (lookupKind_books around (tenancyKey tenancy) .project ledger).bind ?_
  intro ledger found _ hfound
  cases found with
  | some v => exact .pure hfound
  | none =>
    refine .bind_of_asks (Sources.ask_asks _ _) ?_
    intro mapping hanswer
    cases mapping with
    | none => exact warnNone_books _ ledger
    | some config =>
      refine .bind_of_asks (projectServer_asks hanswer) ?_
      intro server _
      cases server with
      | none => exact .pure foundIn_none
      | some server => exact constructProject_books around tenancy config server ledger

theorem resolveRegion_books (around : Surroundings) (region : String)
    (ledger : List Server.Context) :
    Action.Books Audited ledger (resolveRegion around region)
      fun later v => v.BookedIn later := by
  refine .bind_of_asks (Sources.ask_asks _ _) ?_
  intro bound _
  cases bound with
  | none => exact .fail _
  | some config =>
    refine (resolve_books around config ledger).bind ?_
    intro ledger resolved _ hfound
    cases resolved with
    | none => exact .fail _
    | some v => exact .pure (hfound v rfl)

theorem resolveFor_books (around : Surroundings) (tenancy : Tenancy)
    (ledger : List Server.Context) :
    Action.Books Audited ledger (resolveFor around tenancy)
      fun later v => v.BookedIn later := by
  refine (lookup_books around (tenancyKey tenancy) ledger).bind ?_
  intro ledger found _ hfound
  cases found with
  | some v => exact .pure (hfound v rfl)
  | none =>
    refine (resolveProject_books around tenancy ledger).bind ?_
    intro ledger resolved _ hfound
    cases resolved with
    | some v => exact .pure (hfound v rfl)
    | none =>
      refine (resolveRegion_books around tenancy.region ledger).bind ?_
      intro ledger v _ hbooked
      refine (keep_books around (tenancyKey tenancy) hbooked).bind ?_
      intro ledger _ hextends _
      exact .pure (hbooked.extend hextends)

/-- A resolver may forget what is booked. -/
theorem forget_books (ledger : List Server.Context) :
    Action.Books Audited ledger (Action.modify Resolver.forget) fun _ _ => True := by
  intro r haudited
  refine ⟨ledger, List.prefix_rfl, ⟨haudited.length, ?_⟩, fun _ _ => trivial⟩
  exact fun hholds => absurd hholds (r.cache.not_holds_clear _ _)

/-- Every call of a resolver books. -/
theorem Turn.action_books (turn : Turn) (ledger : List Server.Context) :
    Action.Books Audited ledger turn.action FoundIn := by
  unfold Turn.action
  split
  · exact resolve_books turn.around _ ledger
  · exact resolveProject_books turn.around _ ledger
  · refine (resolveFor_books turn.around _ ledger).bind ?_
    intro ledger v _ hbooked
    exact .pure (foundIn_some hbooked)
  · exact lookup_books turn.around _ ledger
  · refine (forget_books ledger).bind ?_
    intro ledger _ _ _
    exact .pure foundIn_none

end Resolver
end ChefAccess
