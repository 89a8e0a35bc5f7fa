import ChefAccess.Proofs.Client.Target
import ChefAccess.Proofs.Text.Trim

/-!
# Queries

The query that a command is given is kept without the question marks ahead of it, unless it is
blank, and the address of the command has one question mark ahead of the query that is kept.  A
query that says something is brought to a normal form in this way.  But whether a query is blank
is asked before its question marks are dropped: one that has nothing besides question marks and
white space is kept all the same, and the address may end in a question mark that nothing follows.

Main definitions:

- {lit}`Command.Says`: a query with something besides question marks and white space.
- {lit}`Command.Normalizes`: a query is brought to its normal form.

Main results:

- Theorem {lit}`Command.Says.normalizes`: a query that says something is brought to its normal
  form.
- Theorem {lit}`Command.exists_blank_iff`: when what is kept of a query is blank.
- Theorem {lit}`Command.query_law`: what is kept of a query.
-/

namespace ChefAccess
namespace Command

variable {command : Command} {query kept : String}

/-! ## What is kept -/

/-- A blank query is none. -/
theorem withQuery_of_isBlank (hblank : Text.isBlank query = true) :
    command.withQuery query = { command with query := none } := by
  rw [withQuery, if_pos hblank]

/-- Of any other query the question marks ahead of it are dropped. -/
theorem withQuery_of_not_isBlank (hblank : Text.isBlank query = false) :
    command.withQuery query =
      { command with query := some (Text.trimStartOf '?' query) } := by
  rw [withQuery, hblank, if_neg Bool.false_ne_true]

/-- What is kept of a query. -/
theorem query_withQuery_eq_some_iff :
    (command.withQuery query).query = some kept ↔
      Text.isBlank query = false ∧ Text.trimStartOf '?' query = kept := by
  cases hblank : Text.isBlank query with
  | true => simp [withQuery_of_isBlank hblank]
  | false => simp [withQuery_of_not_isBlank hblank]

/-- What is kept does not start with a question mark. -/
theorem head?_ne_mark (hkept : (command.withQuery query).query = some kept) :
    kept.toList.head? ≠ some '?' := by
  obtain ⟨-, rfl⟩ := query_withQuery_eq_some_iff.mp hkept
  obtain ⟨-, -, hhead⟩ := Text.exists_copies '?' query
  exact hhead

/-- A question mark ahead of a query is dropped. -/
theorem withQuery_mark (hhead : kept.toList.head? ≠ some '?') :
    command.withQuery ("?" ++ kept) = { command with query := some kept } := by
  have hblank : Text.isBlank ("?" ++ kept) = false :=
    Text.isBlank_of_mem (c := '?') (by simp) (by decide)
  have hdropped : Text.trimStartOf '?' ("?" ++ kept) = kept :=
    (Text.trimStartOf_copies '?' 1 kept).trans (Text.trimStartOf_eq_self hhead)
  rw [withQuery_of_not_isBlank hblank, hdropped]

/-- What is kept of a query is kept once more from behind a question mark. -/
theorem withQuery_mark_kept (hkept : (command.withQuery query).query = some kept) :
    (command.withQuery query).withQuery ("?" ++ kept) = command.withQuery query := by
  rw [withQuery_mark (head?_ne_mark hkept), ← hkept]

/-- What is kept of a query is blank exactly if nothing but white space follows its question
marks. -/
theorem exists_blank_iff :
    (∃ kept, (command.withQuery query).query = some kept ∧ Text.isBlank kept = true) ↔
      ∃ count rest, query.toList = List.replicate (count + 1) '?' ++ rest ∧
        ∀ c ∈ rest, Text.isSpace c = true := by
  constructor
  · rintro ⟨kept, hkept, hspace⟩
    obtain ⟨hblank, rfl⟩ := query_withQuery_eq_some_iff.mp hkept
    obtain ⟨count, hquery, -⟩ := Text.exists_copies '?' query
    cases count with
    | zero =>
      -- without a question mark nothing is dropped, but the query is not blank
      rw [Text.isBlank_iff_forall] at hspace
      rw [List.replicate_zero, List.nil_append] at hquery
      rw [Text.isBlank_iff_forall.mpr (hquery ▸ hspace)] at hblank
      cases hblank
    | succ count => exact ⟨count, _, hquery, Text.isBlank_iff_forall.mp hspace⟩
  · rintro ⟨count, rest, hquery, hspace⟩
    have hmem : '?' ∈ query.toList := by
      rw [hquery]
      exact List.mem_append_left rest (List.mem_replicate.mpr ⟨Nat.succ_ne_zero count, rfl⟩)
    have hhead : (String.ofList rest).toList.head? ≠ some '?' := fun hmark => by
      rw [String.toList_ofList] at hmark
      exact absurd (hspace '?' (List.mem_of_head? hmark)) (by decide)
    have htext : query = String.ofList (List.replicate (count + 1) '?') ++ String.ofList rest := by
      rw [← String.toList_inj, String.toList_append, String.toList_ofList, String.toList_ofList,
        hquery]
    have hdropped : Text.trimStartOf '?' query = String.ofList rest := by
      rw [htext, Text.trimStartOf_copies, Text.trimStartOf_eq_self hhead]
    refine ⟨_, query_withQuery_eq_some_iff.mpr ⟨Text.isBlank_of_mem hmem (by decide), rfl⟩, ?_⟩
    rw [hdropped, Text.isBlank_iff_forall, String.toList_ofList]
    exact hspace

/-! ## Normal forms -/

/-- A query says something if it has something besides question marks and white space. -/
def Says (query : String) : Prop :=
  ∃ c ∈ query.toList, c ≠ '?' ∧ Text.isSpace c = false

/-- A command brings a query to its normal form: what is kept is not blank, starts with no
question mark and is kept once more, with or without a question mark ahead of it, and a query
that says nothing is none. -/
structure Normalizes (command : Command) (query : String) : Prop where
  filled : ∀ kept, (command.withQuery query).query = some kept →
    Text.isBlank kept = false ∧ kept.toList.head? ≠ some '?'
  again : ∀ kept, (command.withQuery query).query = some kept →
    (command.withQuery query).withQuery kept = command.withQuery query ∧
      (command.withQuery query).withQuery ("?" ++ kept) = command.withQuery query
  silent : ¬ Says query → command.withQuery query = { command with query := none }

/-- A query that says something is not blank. -/
theorem Says.not_isBlank (hspeaks : Says query) : Text.isBlank query = false := by
  obtain ⟨c, hc, -, hspace⟩ := hspeaks
  exact Text.isBlank_of_mem hc hspace

/-- What a query says stands behind its question marks. -/
theorem Says.trimStartOf (hspeaks : Says query) : Says (Text.trimStartOf '?' query) := by
  obtain ⟨c, hc, hmark, hspace⟩ := hspeaks
  obtain ⟨count, hquery, -⟩ := Text.exists_copies '?' query
  rw [hquery] at hc
  rcases List.mem_append.mp hc with hcopy | hrest
  · exact absurd (List.eq_of_mem_replicate hcopy) hmark
  · exact ⟨c, hrest, hmark, hspace⟩

/-- A query that says something is brought to its normal form. -/
theorem Says.normalizes (hspeaks : Says query) : command.Normalizes query where
  filled kept hkept := by
    refine ⟨?_, head?_ne_mark hkept⟩
    obtain ⟨-, rfl⟩ := query_withQuery_eq_some_iff.mp hkept
    exact hspeaks.trimStartOf.not_isBlank
  again kept hkept := by
    refine ⟨?_, withQuery_mark_kept hkept⟩
    have hhead := head?_ne_mark hkept
    obtain ⟨hblank, rfl⟩ := query_withQuery_eq_some_iff.mp hkept
    rw [withQuery_of_not_isBlank hspeaks.trimStartOf.not_isBlank, Text.trimStartOf_eq_self hhead,
      withQuery_of_not_isBlank hblank]
  silent hnot := absurd hspeaks hnot

/-- A blank query is brought to its normal form. -/
theorem normalizes_of_isBlank (hblank : Text.isBlank query = true) : command.Normalizes query where
  filled kept hkept := by
    rw [withQuery_of_isBlank hblank] at hkept
    cases hkept
  again kept hkept := by
    rw [withQuery_of_isBlank hblank] at hkept
    cases hkept
  silent _ := withQuery_of_isBlank hblank

/-- The queries that are brought to their normal form are those that are blank or say something. -/
theorem normalizes_iff :
    command.Normalizes query ↔ Text.isBlank query = true ∨ Says query := by
  constructor
  · intro hnormal
    refine (Classical.em (Says query)).symm.imp (fun hsilent => ?_) id
    have hnone := hnormal.silent hsilent
    cases hblank : Text.isBlank query with
    | true => rfl
    | false =>
      rw [withQuery_of_not_isBlank hblank] at hnone
      cases hnone
  · rintro (hblank | hspeaks)
    · exact normalizes_of_isBlank hblank
    · exact hspeaks.normalizes

/-! ## Addresses -/

/-- The address of a command has a question mark with the query that is kept, if one is. -/
theorem toList_uri_withQuery (client : Client) :
    (client.uri (command.withQuery query)).toList =
      (client.uri { command with query := none }).toList ++
        Client.querySuffix (command.withQuery query).query := by
  have hnone : Client.querySuffix none = [] := rfl
  rw [Client.toList_uri, Client.toList_uri, hnone, List.append_nil, List.append_assoc]
  rfl

/-- What is kept of a query starts with no question mark, and is kept once more from behind one.
The address has a question mark ahead of what is kept, and none if nothing is.  A query is brought
to its normal form if it is blank or says something, and not otherwise; what is kept of it is
blank if nothing but white space follows its question marks. -/
theorem query_law (command : Command) (query : String) :
    (∀ kept, (command.withQuery query).query = some kept →
      kept.toList.head? ≠ some '?' ∧
        (command.withQuery query).withQuery ("?" ++ kept) = command.withQuery query) ∧
    (∀ client : Client, (client.uri (command.withQuery query)).toList =
      (client.uri { command with query := none }).toList ++
        Client.querySuffix (command.withQuery query).query) ∧
    (command.Normalizes query ↔ Text.isBlank query = true ∨ Says query) ∧
    ((∃ kept, (command.withQuery query).query = some kept ∧ Text.isBlank kept = true) ↔
      ∃ count rest, query.toList = List.replicate (count + 1) '?' ++ rest ∧
        ∀ c ∈ rest, Text.isSpace c = true) :=
  ⟨fun _ hkept => ⟨head?_ne_mark hkept, withQuery_mark_kept hkept⟩, toList_uri_withQuery,
    normalizes_iff, exists_blank_iff⟩

/-- A search with two question marks ahead of it. -/
theorem query_law_search :
    ((get "search/node").withQuery "??q=role:web").query = some "q=role:web" ∧
      (get "search/node").Normalizes "??q=role:web" ∧
      ((get "search/node").withQuery "??q=role:web").withQuery ("?" ++ "q=role:web") =
        (get "search/node").withQuery "??q=role:web" := by
  have hkept : ((get "search/node").withQuery "??q=role:web").query = some "q=role:web" := by
    decide
  have hspeaks : Says "??q=role:web" := ⟨'q', by decide, by decide, by decide⟩
  have hlaw := query_law (get "search/node") "??q=role:web"
  exact ⟨hkept, hlaw.2.2.1.mpr (Or.inr hspeaks), (hlaw.1 _ hkept).2⟩

/-- A lone question mark is not brought to a normal form: the empty query is kept, the address
ends in a question mark, and the empty query is not kept once more. -/
theorem not_normalizes_mark :
    ¬ (get "nodes").Normalizes "?" ∧ ((get "nodes").withQuery "?").query = some "" ∧
      Client.sampleClient.uri ((get "nodes").withQuery "?") =
        Client.sampleClient.uri (get "nodes") ++ "?" ∧
      (((get "nodes").withQuery "?").withQuery "").query = none := by
  have hkept : ((get "nodes").withQuery "?").query = some "" := by decide
  refine ⟨fun hnormal => ?_, hkept, by decide, rfl⟩
  exact absurd (hnormal.filled "" hkept).1 (by decide)

end Command
end ChefAccess
