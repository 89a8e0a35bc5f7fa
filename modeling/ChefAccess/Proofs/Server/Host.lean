import ChefAccess.Proofs.Text.LetterCase
import ChefAccess.Proofs.Text.Trim
import ChefAccess.Server.Host

/-!
# Spellings of a host

A host may be written with a scheme ahead of it, in any letter case, with slashes behind it and
with white space around.  What is left of all these spellings is the host in lower case, and so
they have one address.  The exception is a host that is itself the beginning of a scheme: without
a scheme of its own ahead, the slashes behind it complete the scheme, and nothing is left.

Main definitions:

- {lit}`Server.Host.Spells`: the ways of writing a host.
- {lit}`Server.Host.Unfinished`: a host that slashes turn into a scheme.

Main results:

- Theorem {lit}`Server.Host.hasScheme_append_slashes_iff`: when slashes complete a scheme.
- Theorem {lit}`Server.Host.bare_address`: the host of the address of a host.
- Theorem {lit}`Server.Host.spelling_law`: the addresses of spellings, and of addresses.
-/

namespace ChefAccess
namespace Server
namespace Host

variable {host text : String} {l lead name : List Char} {slashes : Nat} {insecure : Bool}

/-! ## Schemes -/

/-- The names of the schemes. -/
def schemeNames : List (List Char) :=
  ["http".toList, "https".toList]

/-- What stands between a scheme and a host. -/
def schemeMarks : List Char :=
  "://".toList

/-- A text that starts with a scheme. -/
def HasScheme (l : List Char) : Prop :=
  ∃ name ∈ schemeNames, name ++ schemeMarks <+: l

instance (l : List Char) : Decidable (HasScheme l) :=
  inferInstanceAs (Decidable (∃ name ∈ schemeNames, name ++ schemeMarks <+: l))

/-- What may stand ahead of a host: nothing, or a scheme in any letter case. -/
def IsLead (lead : List Char) : Prop :=
  lead = [] ∨ ∃ name ∈ schemeNames, lead.map Text.lowerAscii = name ++ schemeMarks

/-- The beginning of a scheme, which some slashes complete. -/
def Unfinished (l : List Char) (slashes : Nat) : Prop :=
  ∃ name ∈ schemeNames, ∃ present < 2, l = name ++ ':' :: List.replicate present '/' ∧
    2 ≤ present + slashes

/-- What all characters of the schemes have in common. -/
theorem of_mem_scheme {p : Char → Prop} [DecidablePred p] {c : Char} (hname : name ∈ schemeNames)
    (hc : c ∈ name ++ schemeMarks)
    (hall : schemeNames.all (fun name => (name ++ schemeMarks).all fun d => decide (p d)) = true) :
    p c :=
  of_decide_eq_true (List.all_eq_true.mp (List.all_eq_true.mp hall name hname) c hc)

/-- A scheme is taken away. -/
theorem withoutScheme_append (hname : name ∈ schemeNames) (l : List Char) :
    withoutScheme (name ++ schemeMarks ++ l) = l := by
  simp only [schemeNames, List.mem_cons, List.not_mem_nil, or_false] at hname
  rcases hname with rfl | rfl <;> simp [withoutScheme, schemeMarks, Text.after?]

/-- Nothing is taken away from a text without a scheme. -/
theorem withoutScheme_of_not (hnone : ¬ HasScheme l) : withoutScheme l = l := by
  unfold withoutScheme
  split
  · rename_i rest hafter
    refine absurd ⟨"https".toList, by decide, rest, ?_⟩ hnone
    exact (Text.eq_append_of_after? hafter).symm
  · cases hafter : Text.after? "http://".toList l with
    | none => rfl
    | some rest =>
      refine absurd ⟨"http".toList, by decide, rest, ?_⟩ hnone
      exact (Text.eq_append_of_after? hafter).symm

/-- Slashes that complete a scheme leave nothing but slashes behind it. -/
theorem Unfinished.exists_completed (hunfinished : Unfinished l slashes) :
    ∃ name ∈ schemeNames, ∃ left, l ++ List.replicate slashes '/' =
      name ++ schemeMarks ++ List.replicate left '/' := by
  obtain ⟨name, hname, present, -, rfl, htwo⟩ := hunfinished
  refine ⟨name, hname, present + slashes - 2, ?_⟩
  have hcount : present + slashes = present + slashes - 2 + 2 := by omega
  rw [List.append_assoc, List.cons_append, List.replicate_append_replicate, hcount]
  simp [schemeMarks, List.replicate_succ]

/-- A scheme that ends in some slashes has two of them at most. -/
theorem exists_present_of_append_slashes {k : Nat}
    (hword : name ++ schemeMarks = l ++ List.replicate k '/') :
    ∃ present, l = name ++ ':' :: List.replicate present '/' ∧ present + k = 2 := by
  match k with
  | 0 => exact ⟨2, by simpa [schemeMarks] using hword.symm, rfl⟩
  | 1 =>
    have hcut : (name ++ [':', '/']) ++ ['/'] = l ++ ['/'] := by
      simpa [schemeMarks] using hword
    exact ⟨1, (List.append_cancel_right hcut).symm, rfl⟩
  | 2 =>
    have hcut : (name ++ [':']) ++ ['/', '/'] = l ++ ['/', '/'] := by
      simpa [schemeMarks] using hword
    exact ⟨0, (List.append_cancel_right hcut).symm, rfl⟩
  | k + 3 =>
    have hcut : (name ++ [':']) ++ ['/', '/'] =
        (l ++ List.replicate k '/' ++ ['/']) ++ ['/', '/'] := by
      simpa [schemeMarks, List.replicate_add] using hword
    have hlast := (List.append_inj' (List.append_cancel_right hcut) rfl).2
    exact absurd hlast (by decide)

/-- Slashes behind a text without a scheme complete one exactly if the text is the beginning of a
scheme. -/
theorem hasScheme_append_slashes_iff (hnone : ¬ HasScheme l) :
    HasScheme (l ++ List.replicate slashes '/') ↔ Unfinished l slashes := by
  constructor
  · rintro ⟨name, hname, rest, hrest⟩
    rcases List.append_eq_append_iff.mp hrest with ⟨more, hl, -⟩ | ⟨more, hword, hmore⟩
    · exact absurd ⟨name, hname, more, hl.symm⟩ hnone
    · -- the text is what the scheme is without some of the slashes
      have hslashes : more = List.replicate more.length '/' := by
        refine List.eq_replicate_length.mpr fun c hc => ?_
        exact List.eq_of_mem_replicate (hmore ▸ List.mem_append_left rest hc)
      have hlength : more.length ≤ slashes := by
        have hlengths := congrArg List.length hmore
        rw [List.length_replicate, List.length_append] at hlengths
        omega
      rw [hslashes] at hword
      obtain ⟨present, hl, htwo⟩ := exists_present_of_append_slashes hword
      refine ⟨name, hname, present, Nat.lt_of_le_of_ne (by omega) ?_, hl, by omega⟩
      rintro rfl
      exact hnone ⟨name, hname, [], by rw [List.append_nil, hl]; rfl⟩
  · intro hunfinished
    obtain ⟨name, hname, left, hcompleted⟩ := hunfinished.exists_completed
    exact ⟨name, hname, List.replicate left '/', hcompleted.symm⟩

/-! ## Ahead of a host -/

/-- There is no white space in a scheme. -/
theorem IsLead.trimmed (hlead : IsLead lead) : Text.Trimmed lead := by
  refine .of_forall fun c hc => ?_
  rcases hlead with rfl | ⟨name, hname, hword⟩
  · cases hc
  · have hlower : Text.isSpace (Text.lowerAscii c) = false :=
      of_mem_scheme (p := fun d => Text.isSpace d = false) hname
        (hword ▸ List.mem_map_of_mem hc) (by decide)
    unfold Text.lowerAscii at hlower
    split at hlower
    case isTrue hupper =>
      obtain ⟨place, rfl⟩ := Text.exists_of_isAsciiUpper hupper
      have hplaces : ∀ place : Fin 26, Text.isSpace (Char.ofNat (65 + place)) = false := by decide
      exact hplaces place
    case isFalse => exact hlower

/-- A scheme and a host are lower-cased apart. -/
theorem IsLead.lowerAfter_append (hlead : IsLead lead) (l : List Char) :
    Text.lowerAfter [] (lead ++ l) = lead.map Text.lowerAscii ++ Text.lowerAfter [] l := by
  rcases hlead with rfl | ⟨name, hname, hword⟩
  · rfl
  · have hascii : ∀ c ∈ lead, c.toNat < 0x80 := by
      intro c hc
      exact Text.toNat_lt_of_lowerAscii (of_mem_scheme (p := fun d => d.toNat < 0x80) hname
        (hword ▸ List.mem_map_of_mem hc) (by decide))
    have hends : name ++ schemeMarks = name ++ [':', '/'] ++ ['/'] := by simp [schemeMarks]
    obtain ⟨front, last, rfl, -, hlast⟩ := List.map_eq_append_iff.mp (hword.trans hends)
    obtain ⟨c, rfl⟩ := List.length_eq_one_iff.mp (by simpa using congrArg List.length hlast)
    obtain rfl : c = '/' := Text.eq_of_lowerAscii_eq (by decide) (List.singleton_inj.mp hlast)
    have hslash : Text.lowerAscii '/' = '/' := by decide
    rw [List.append_assoc, List.singleton_append, Text.lowerAfter_append_slash,
      Text.lowerAfter_eq_map_of_ascii [] front fun c hc => hascii c (List.mem_append_left _ hc),
      List.map_append, List.map_singleton, hslash, List.append_assoc, List.singleton_append]

/-! ## What is left of a spelling -/

/-- A way of writing a host: a scheme in any letter case or none ahead of it, slashes behind it,
and white space around. -/
structure Spells (text host : String) (lead : List Char) (slashes : Nat) : Prop where
  opens : IsLead lead
  margins : ∃ front back, (∀ c ∈ front, Text.isSpace c = true) ∧
    (∀ c ∈ back, Text.isSpace c = true) ∧
    text.toList = front ++ (lead ++ (host.toList ++ List.replicate slashes '/')) ++ back

/-- White space around a spelling is trimmed away, and the rest is lower-cased in parts. -/
theorem Spells.lower_trim (hspells : Spells text host lead slashes)
    (hhost : Text.Trimmed host.toList) :
    (Text.toLower (Text.trim text)).toList = lead.map Text.lowerAscii ++
      ((Text.toLower host).toList ++ List.replicate slashes '/') := by
  obtain ⟨hlead, front, back, hfront, hback, htext⟩ := hspells
  have hslashes : Text.Trimmed (List.replicate slashes '/') := by
    refine .of_forall fun c hc => ?_
    rw [List.eq_of_mem_replicate hc]
    decide
  have hcore := hlead.trimmed.append (hhost.append hslashes)
  rw [Text.toLower, Text.toLower, Text.trim, htext,
    Text.trimChars_around hfront hback hcore.first hcore.last, String.toList_ofList,
    String.toList_ofList, String.toList_ofList, hlead.lowerAfter_append,
    Text.lowerAfter_append_slashes]

/-- What is left of a text when the slashes behind it are dropped. -/
theorem dropTrailing_append_slashes (l : List Char) (slashes : Nat) :
    Text.dropTrailing (· == '/') (l ++ List.replicate slashes '/') =
      Text.dropTrailing (· == '/') l := by
  refine Text.dropTrailing_append_of_all l fun c hc => ?_
  rw [List.eq_of_mem_replicate hc]
  rfl

/-- What is left of a host that has no scheme. -/
theorem bare_eq (hhost : Text.Trimmed host.toList)
    (hnone : ¬ HasScheme (Text.toLower host).toList) :
    bare host = Text.dropTrailing (· == '/') (Text.toLower host).toList := by
  rw [bare, hhost.trim_eq, withoutScheme_of_not hnone]

/-- Behind a scheme that is taken away, the host is left. -/
theorem Spells.bare_of_scheme (hspells : Spells text host lead slashes)
    (hhost : Text.Trimmed host.toList) (hnone : ¬ HasScheme (Text.toLower host).toList)
    (hlead : lead ≠ []) : bare text = bare host := by
  obtain ⟨name, hname, hword⟩ := hspells.opens.resolve_left hlead
  rw [bare, hspells.lower_trim hhost, hword, withoutScheme_append hname,
    dropTrailing_append_slashes, bare_eq hhost hnone]

/-- Without a scheme, the host is left if the slashes do not complete one. -/
theorem Spells.bare_of_finished (hspells : Spells text host [] slashes)
    (hhost : Text.Trimmed host.toList) (hnone : ¬ HasScheme (Text.toLower host).toList)
    (hfinished : ¬ Unfinished (Text.toLower host).toList slashes) : bare text = bare host := by
  have hnone' := mt (hasScheme_append_slashes_iff hnone).mp hfinished
  rw [bare, hspells.lower_trim hhost, List.map_nil, List.nil_append, withoutScheme_of_not hnone',
    dropTrailing_append_slashes, bare_eq hhost hnone]

/-- If the slashes complete a scheme, nothing is left. -/
theorem Spells.bare_of_unfinished (hspells : Spells text host [] slashes)
    (hhost : Text.Trimmed host.toList)
    (hunfinished : Unfinished (Text.toLower host).toList slashes) : bare text = [] := by
  obtain ⟨name, hname, left, hcompleted⟩ := hunfinished.exists_completed
  have hslashes := dropTrailing_append_slashes [] left
  rw [bare, hspells.lower_trim hhost, List.map_nil, List.nil_append, hcompleted,
    withoutScheme_append hname]
  exact hslashes

/-- Something is left of a host that is the beginning of a scheme. -/
theorem bare_ne_nil_of_unfinished (hhost : Text.Trimmed host.toList)
    (hnone : ¬ HasScheme (Text.toLower host).toList)
    (hunfinished : Unfinished (Text.toLower host).toList slashes) : bare host ≠ [] := by
  obtain ⟨name, -, present, -, hlower, -⟩ := hunfinished
  rw [bare_eq hhost hnone, hlower, List.append_cons, dropTrailing_append_slashes,
    Text.dropTrailing_eq_rdropWhile, List.rdropWhile_concat_neg _ _ _ (by decide)]
  exact List.append_ne_nil_of_right_ne_nil _ (List.cons_ne_nil ':' [])

/-- A spelling leaves the host, unless it has no scheme and its slashes complete one. -/
theorem Spells.bare_eq_iff (hspells : Spells text host lead slashes)
    (hhost : Text.Trimmed host.toList) (hnone : ¬ HasScheme (Text.toLower host).toList) :
    bare text = bare host ↔
      (lead = [] → ¬ Unfinished (Text.toLower host).toList slashes) := by
  by_cases hlead : lead = []
  · subst hlead
    refine ⟨fun hsame _ hunfinished => ?_, fun hfinished => ?_⟩
    · rw [hspells.bare_of_unfinished hhost hunfinished] at hsame
      exact bare_ne_nil_of_unfinished hhost hnone hunfinished hsame.symm
    · exact hspells.bare_of_finished hhost hnone (hfinished rfl)
  · exact iff_of_true (hspells.bare_of_scheme hhost hnone hlead) fun hnil => absurd hnil hlead

/-! ## Addresses -/

/-- The name of the scheme of an address. -/
theorem toList_scheme_mem (insecure : Bool) : (scheme insecure).toList ∈ schemeNames := by
  cases insecure <;> decide

/-- The parts of an address. -/
theorem toList_address (host : String) (insecure : Bool) :
    (address host insecure).toList =
      (scheme insecure).toList ++ schemeMarks ++ (bare host ++ ['/']) := by
  simp [address, schemeMarks]

/-- Two hosts have one address if the same is left of them. -/
theorem address_eq_iff (text host : String) (insecure : Bool) :
    address text insecure = address host insecure ↔ bare text = bare host := by
  rw [← String.toList_inj, toList_address, toList_address, List.append_cancel_left_eq,
    List.append_cancel_right_eq]

/-- An address has no outer white space. -/
theorem trimmed_address (host : String) (insecure : Bool) :
    Text.Trimmed (address host insecure).toList := by
  have hfirst : (address host insecure).toList.head? = some 'h' := by
    cases insecure <;> simp [address, scheme]
  have hlast : (address host insecure).toList.getLast? = some '/' := by
    simp [address, List.getLast?_cons]
  constructor
  case first =>
    intro c hc
    rw [hfirst, Option.some.injEq] at hc
    rw [← hc]
    decide
  case last =>
    intro c hc
    rw [hlast, Option.some.injEq] at hc
    rw [← hc]
    decide

/-- Taking a scheme away leaves characters that were there. -/
theorem mem_of_mem_withoutScheme {c : Char} (hc : c ∈ withoutScheme l) : c ∈ l := by
  by_cases hscheme : HasScheme l
  · obtain ⟨name, hname, rest, rfl⟩ := hscheme
    rw [withoutScheme_append hname] at hc
    exact List.mem_append_right _ hc
  · rwa [withoutScheme_of_not hscheme] at hc

/-- What is left of a host is in lower case. -/
theorem isLower_of_mem_bare {c : Char} (hc : c ∈ bare host) : Text.IsLower c := by
  have hmem := mem_of_mem_withoutScheme (Text.mem_dropTrailing hc)
  rw [Text.toLower, String.toList_ofList] at hmem
  exact Text.isLower_of_mem_lowerAfter hmem

/-- An address is in lower case. -/
theorem isLower_of_mem_address {c : Char} (hc : c ∈ (address host insecure).toList) :
    Text.IsLower c := by
  have hslash : Text.IsLower '/' := by decide +kernel
  rw [toList_address] at hc
  rcases List.mem_append.mp hc with hscheme | hrest
  · exact of_mem_scheme (toList_scheme_mem insecure) hscheme (by decide +kernel)
  · rcases List.mem_append.mp hrest with hbare | hend
    · exact isLower_of_mem_bare hbare
    · rwa [List.mem_singleton.mp hend]

/-- What is left of the address of a host is what is left of the host. -/
theorem bare_address (host : String) (insecure : Bool) :
    bare (address host insecure) = bare host := by
  have hlower : Text.toLower (address host insecure) = address host insecure := by
    rw [Text.toLower, Text.lowerAfter_eq_self fun c hc => isLower_of_mem_address hc,
      String.ofList_toList]
  have hbare : Text.dropTrailing (· == '/') (bare host) = bare host :=
    List.rdropWhile_idempotent _ _
  rw [bare, (trimmed_address host insecure).trim_eq, hlower, toList_address,
    withoutScheme_append (toList_scheme_mem insecure)]
  exact (dropTrailing_append_slashes (bare host) 1).trans hbare

/-- The spellings of a host have its address, whatever the scheme that the settings choose: a
scheme ahead of it in any letter case or none, slashes behind it and white space around make no
difference.  They do only for a host that is the beginning of a scheme, if there is no scheme
ahead and the slashes complete it.  And the address of an address, whatever the text that it was
made from, is the address of that text. -/
theorem spelling_law :
    (∀ (text host : String) (lead : List Char) (slashes : Nat) (insecure : Bool),
      Text.Trimmed host.toList → ¬ HasScheme (Text.toLower host).toList →
      Spells text host lead slashes →
      (address text insecure = address host insecure ↔
        (lead = [] → ¬ Unfinished (Text.toLower host).toList slashes))) ∧
    ∀ (host : String) (insecure insecure' : Bool),
      address (address host insecure) insecure' = address host insecure' := by
  constructor
  · intro text host lead slashes insecure hhost hnone hspells
    rw [address_eq_iff]
    exact hspells.bare_eq_iff hhost hnone
  · intro host insecure insecure'
    rw [address_eq_iff]
    exact bare_address host insecure

/-- Letter case, slashes and white space make no difference to the address of a host. -/
theorem spelling_law_shouted :
    Spells " HTTPS://Chef.Example// " "Chef.Example" "HTTPS://".toList 2 ∧
      address " HTTPS://Chef.Example// " true = address "Chef.Example" true ∧
      address (address "Chef.Example" true) false = address "Chef.Example" false := by
  have hspells : Spells " HTTPS://Chef.Example// " "Chef.Example" "HTTPS://".toList 2 := by
    have hspace : ∀ c ∈ [' '], Text.isSpace c = true := List.all_eq_true.mp (by decide)
    exact ⟨Or.inr ⟨"https".toList, by decide, by decide⟩, [' '], [' '], hspace, hspace, by decide⟩
  have hhost : Text.Trimmed "Chef.Example".toList := Text.trimmed_iff.mpr (by decide)
  have hnone : ¬ HasScheme (Text.toLower "Chef.Example").toList := by decide
  have hsame := (spelling_law.1 _ _ _ _ true hhost hnone hspells).mpr fun hnil =>
    absurd hnil (by decide)
  exact ⟨hspells, hsame, spelling_law.2 _ true false⟩

/-- The two slashes behind the beginning of a scheme complete it, and nothing is left of the
host. -/
theorem address_ne_unfinished :
    Text.Trimmed "http:".toList ∧ ¬ HasScheme (Text.toLower "http:").toList ∧
      Spells "http://" "http:" [] 2 ∧
      address "http://" false = "https:///" ∧ address "http:" false = "https://http:/" := by
  have hspells : Spells "http://" "http:" [] 2 :=
    ⟨Or.inl rfl, [], [], List.forall_mem_nil _, List.forall_mem_nil _, by decide⟩
  exact ⟨Text.trimmed_iff.mpr (by decide), by decide, hspells, by decide, by decide⟩

end Host
end Server
end ChefAccess
