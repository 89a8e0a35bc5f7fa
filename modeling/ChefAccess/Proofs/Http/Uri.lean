import ChefAccess.Http.Uri
import ChefAccess.Proofs.Action
import ChefAccess.Proofs.Text.LetterCase
import Mathlib.Data.List.TakeWhile

/-!
# Where an address is cut

An address is cut at its first question mark or number sign.  The stem before it is a head, which
is nothing, an authority, or a scheme with an authority, followed by the path; and the query is
what follows the question mark, up to a number sign.

Main definitions:

- {lit}`Uri.stem` and {lit}`Uri.tail`: what stands before the cut, and what follows.
- {lit}`Uri.queryOf`: the query that such a tail starts with.
- {lit}`Uri.Head`: what may stand before the path.

Main results:

- Theorem {lit}`Uri.exists_scheme`: a scheme is cut off with the word behind it.
- Theorem {lit}`Uri.exists_head`: the parts of every address that can be read.
-/

namespace ChefAccess
namespace Http
namespace Uri

variable {text rest front : List Char} {uri : Uri}

/-! ## The cut -/

/-- The characters that end a path. -/
def endsPath (c : Char) : Bool :=
  c == '?' || c == '#'

/-- What stands before the cut. -/
def stem (text : List Char) : List Char :=
  text.takeWhile (!endsPath ·)

/-- What stands behind the cut. -/
def tail (text : List Char) : List Char :=
  text.dropWhile (!endsPath ·)

/-- The query that a tail starts with. -/
def queryOf : List Char → Option String
  | '?' :: rest => some (String.ofList (rest.takeWhile (· != '#')))
  | _ => none

/-- A text without a cut. -/
def Uncut (text : List Char) : Prop :=
  ∀ c ∈ text, endsPath c = false

theorem uncut_iff : Uncut text ↔ '?' ∉ text ∧ '#' ∉ text := by
  constructor
  · intro huncut
    exact ⟨fun hmem => absurd (huncut '?' hmem) (by decide),
      fun hmem => absurd (huncut '#' hmem) (by decide)⟩
  · rintro ⟨hquery, hfragment⟩ c hc
    have hq : c ≠ '?' := fun h => hquery (h ▸ hc)
    have hf : c ≠ '#' := fun h => hfragment (h ▸ hc)
    simp [endsPath, hq, hf]

theorem uncut_stem (text : List Char) : Uncut (stem text) := by
  intro c hc
  simpa using List.mem_takeWhile_imp hc

@[simp]
theorem uncut_append : Uncut (front ++ rest) ↔ Uncut front ∧ Uncut rest :=
  List.forall_mem_append

theorem uncut_schemeEnd : Uncut schemeEnd :=
  uncut_iff.mpr (by decide)

/-- What has no cut belongs to the stem. -/
theorem stem_append (hfront : Uncut front) (rest : List Char) :
    stem (front ++ rest) = front ++ stem rest :=
  List.takeWhile_append_of_pos fun c hc => by simp [hfront c hc]

theorem tail_append (hfront : Uncut front) (rest : List Char) :
    tail (front ++ rest) = tail rest :=
  List.dropWhile_append_of_pos fun c hc => by simp [hfront c hc]

/-- The characters of an authority do not cut an address. -/
theorem uncut_of_not_endsAuthority (htext : ∀ c ∈ text, endsAuthority c = false) :
    Uncut text := by
  intro c hc
  have hends := htext c hc
  simp only [endsAuthority, Bool.or_eq_false_iff] at hends
  simp [endsPath, hends]

/-- The characters of a scheme do not end an authority. -/
theorem not_endsAuthority_of_isSchemeChar {c : Char} (hc : isSchemeChar c = true) :
    endsAuthority c = false := by
  by_contra hends
  simp only [endsAuthority, Bool.not_eq_false, Bool.or_eq_true, beq_iff_eq] at hends
  rcases hends with (rfl | rfl) | rfl
  · exact absurd hc (by decide)
  · exact absurd hc (by decide)
  · exact absurd hc (by decide)

/-- There is no cut before the path of an address. -/
theorem uncut_full {scheme authority : List Char}
    (hscheme : ∀ c ∈ scheme, isSchemeChar c = true)
    (hends : ∀ c ∈ authority, endsAuthority c = false) :
    Uncut (scheme ++ schemeEnd ++ authority) := by
  refine uncut_append.mpr ⟨uncut_append.mpr ⟨?_, uncut_schemeEnd⟩, ?_⟩
  · exact uncut_of_not_endsAuthority fun c hc => not_endsAuthority_of_isSchemeChar (hscheme c hc)
  · exact uncut_of_not_endsAuthority hends

/-- The path and the query of a text are those of its parts before and behind the cut. -/
theorem eq_of_readPath_ok {path : String} {query : Option String}
    (hread : readPath text = .ok (path, query)) :
    path.toList = stem text ∧ query = queryOf (tail text) := by
  have hpath : ∀ {found}, (String.ofList (stem text), found) = (path, query) →
      path.toList = stem text ∧ query = found := by
    rintro found hpair
    obtain ⟨rfl, rfl⟩ := Prod.mk.inj hpair
    exact ⟨String.toList_ofList, rfl⟩
  have hcut : readPath text =
      if (stem text).all isPathChar then
        match tail text with
        | '?' :: rest => (readQuery rest).map fun query => (String.ofList (stem text), some query)
        | _ => .ok (String.ofList (stem text), none)
      else .error .character := rfl
  rw [hcut] at hread
  split at hread
  · split at hread
    · rename_i rest htail
      unfold readQuery at hread
      simp only at hread
      split at hread
      · rw [htail]
        exact hpath (Except.ok.inj hread)
      · cases hread
    · rename_i hnot
      have hnone : queryOf (tail text) = none := by
        unfold queryOf
        split
        · rename_i rest htail
          exact absurd htail (hnot rest)
        · rfl
      rw [hnone]
      exact hpath (Except.ok.inj hread)
  · cases hread

/-! ## Schemes -/

/-- A letter belongs to a scheme in either case. -/
theorem isSchemeChar_of_lowerAscii {c : Char} (hc : isSchemeChar (Text.lowerAscii c) = true) :
    isSchemeChar c = true := by
  by_cases hupper : Text.isAsciiUpper c = true
  · obtain ⟨place, rfl⟩ := Text.exists_of_isAsciiUpper hupper
    have hletter : ∀ place : Fin 26, isSchemeChar (Char.ofNat (65 + place)) = true := by decide
    exact hletter place
  · rwa [Text.lowerAscii, if_neg hupper] at hc

/-- What lies between a scheme and an authority has no other letter case. -/
theorem eq_schemeEnd_of_lower {last : List Char}
    (hlower : last.map Text.lowerAscii = schemeEnd) : last = schemeEnd := by
  have hsame : ∀ c ∈ last, Text.lowerAscii c = c := by
    intro c hc
    have hmem : Text.lowerAscii c ∈ schemeEnd := hlower ▸ List.mem_map_of_mem hc
    have hnot : ∀ d ∈ schemeEnd, ¬ (97 ≤ d.toNat ∧ d.toNat ≤ 122) := by simp [schemeEnd]
    exact (Text.eq_of_lowerAscii_eq (hnot _ hmem) rfl).symm
  rwa [List.map_congr_left hsame, List.map_id'] at hlower

/-- A scheme that is known in either letter case is cut off with the word behind it. -/
theorem exists_known_scheme {name : List Char} (hname : ∀ c ∈ name, isSchemeChar c = true)
    (hknown : (Text.after? (name ++ schemeEnd) (text.map Text.lowerAscii)).isSome = true) :
    ∃ scheme, text = scheme ++ schemeEnd ++ text.drop (name ++ schemeEnd).length ∧
      ∀ c ∈ scheme, isSchemeChar c = true := by
  obtain ⟨more, hafter⟩ := Option.isSome_iff_exists.mp hknown
  obtain ⟨front, rest, rfl, hfront, -⟩ :=
    List.map_eq_append_iff.mp (Text.eq_append_of_after? hafter)
  have hlength : (name ++ schemeEnd).length = front.length := by
    rw [← hfront, List.length_map]
  obtain ⟨scheme, last, rfl, hscheme, hlast⟩ := List.map_eq_append_iff.mp hfront
  obtain rfl := eq_schemeEnd_of_lower hlast
  refine ⟨scheme, by rw [hlength, List.drop_left], ?_⟩
  intro c hc
  refine isSchemeChar_of_lowerAscii (hname _ ?_)
  rw [← hscheme]
  exact List.mem_map_of_mem hc

/-- A scheme is cut off with the word behind it. -/
theorem exists_scheme {name : String}
    (hsplit : splitScheme text = .ok (some (name, rest))) :
    ∃ scheme, text = scheme ++ schemeEnd ++ rest ∧ ∀ c ∈ scheme, isSchemeChar c = true := by
  unfold splitScheme at hsplit
  simp only at hsplit
  split at hsplit
  · rename_i hknown
    obtain ⟨-, rfl⟩ := Prod.mk.inj (Option.some.inj (Except.ok.inj hsplit))
    have hname : ∀ c ∈ "http".toList, isSchemeChar c = true := List.all_eq_true.mp (by decide)
    exact exists_known_scheme hname hknown
  · split at hsplit
    · rename_i hknown
      obtain ⟨-, rfl⟩ := Prod.mk.inj (Option.some.inj (Except.ok.inj hsplit))
      have hname : ∀ c ∈ "https".toList, isSchemeChar c = true := List.all_eq_true.mp (by decide)
      exact exists_known_scheme hname hknown
    · split at hsplit
      · cases hsplit
      · split at hsplit
        · cases hsplit
        · rename_i rest' hafter
          split at hsplit
          · cases hsplit
          · obtain ⟨-, rfl⟩ := Prod.mk.inj (Option.some.inj (Except.ok.inj hsplit))
            refine ⟨text.takeWhile isSchemeChar, ?_, fun c hc => List.mem_takeWhile_imp hc⟩
            rw [List.append_assoc, ← Text.eq_append_of_after? hafter,
              List.takeWhile_append_dropWhile]

/-! ## Addresses -/

/-- What may stand before the path of an address: nothing, the whole text, or a scheme with an
authority. -/
inductive Head (text : List Char) : List Char → List Char → Prop
  | nothing {path : List Char} (hpath : path = ['*'] ∨ ∃ rest, path = '/' :: rest) :
      Head text [] path
  | authority (hends : ∀ c ∈ text, endsAuthority c = false) : Head text text []
  | full {scheme authority path : List Char} (hscheme : ∀ c ∈ scheme, isSchemeChar c = true)
      (hsome : authority ≠ []) (hends : ∀ c ∈ authority, endsAuthority c = false)
      (hpath : path = [] ∨ ∃ rest, path = '/' :: rest) :
      Head text (scheme ++ schemeEnd ++ authority) path

/-- An authority is cut off at the first character that ends it. -/
theorem eq_of_splitAuthority_ok {authority : List Char}
    (hsplit : splitAuthority text = .ok (authority, rest)) :
    text = authority ++ rest ∧ (∀ c ∈ authority, endsAuthority c = false) ∧
      rest = text.dropWhile (!endsAuthority ·) := by
  unfold splitAuthority at hsplit
  split at hsplit
  · cases hsplit
  · obtain ⟨-, -, hparts⟩ := exists_of_bind_ok hsplit
    obtain ⟨rfl, rfl⟩ := Prod.mk.inj (Except.ok.inj hparts)
    refine ⟨List.takeWhile_append_dropWhile.symm, ?_, rfl⟩
    intro c hc
    simpa using List.mem_takeWhile_imp hc

/-- What follows an authority has no path, or one that starts with a slash. -/
theorem stem_dropWhile (text : List Char) :
    stem (text.dropWhile (!endsAuthority ·)) = [] ∨
      ∃ rest, stem (text.dropWhile (!endsAuthority ·)) = '/' :: rest := by
  cases hdrop : text.dropWhile (!endsAuthority ·) with
  | nil => exact Or.inl rfl
  | cons c rest =>
    have hends : endsAuthority c = true := by
      have hhead := List.head_dropWhile_not (l := text) (!endsAuthority ·) (by simp [hdrop])
      simpa [hdrop] using hhead
    simp only [endsAuthority, Bool.or_eq_true, beq_iff_eq] at hends
    rcases hends with (rfl | rfl) | rfl
    · exact Or.inr ⟨stem rest, rfl⟩
    · exact Or.inl rfl
    · exact Or.inl rfl

/-- The address that is an authority alone. -/
theorem exists_head_of_authority {authority : List Char}
    (hsplit : splitAuthority text = .ok (authority, [])) :
    Head text text [] ∧ stem text = text ∧ none = queryOf (tail text) := by
  obtain ⟨htext, hends, -⟩ := eq_of_splitAuthority_ok hsplit
  rw [List.append_nil] at htext
  subst htext
  have huncut := uncut_of_not_endsAuthority hends
  have hstem := stem_append huncut []
  have htail := tail_append huncut []
  rw [List.append_nil] at hstem htail
  exact ⟨.authority hends, by rw [hstem]; exact List.append_nil _, by rw [htail]; rfl⟩

/-- The parts of an address that is no path. -/
theorem exists_head_of_parseFull (hparse : parseFull text = .ok uri) :
    ∃ head, Head text head uri.path.toList ∧ stem text = head ++ uri.path.toList ∧
      uri.query = queryOf (tail text) := by
  obtain ⟨known, hscheme, hrest⟩ := exists_of_bind_ok hparse
  clear hparse
  cases known with
  | none =>
    obtain ⟨⟨authority, rest⟩, hsplit, hlast⟩ := exists_of_bind_ok hrest
    split at hlast
    · rename_i hempty
      obtain rfl : rest = [] := List.isEmpty_iff.mp hempty
      obtain rfl := Except.ok.inj hlast
      obtain ⟨hhead, hstem, hquery⟩ := exists_head_of_authority hsplit
      exact ⟨text, hhead, by rw [hstem]; exact (List.append_nil text).symm, hquery⟩
    · cases hlast
  | some parts =>
    obtain ⟨name, rest⟩ := parts
    obtain ⟨⟨authority, target⟩, hsplit, hpath⟩ := exists_of_bind_ok hrest
    clear hrest
    obtain ⟨scheme, rfl, hchars⟩ := exists_scheme hscheme
    obtain ⟨rfl, hends, htarget⟩ := eq_of_splitAuthority_ok hsplit
    split at hpath
    · cases hpath
    · rename_i hsome
      obtain ⟨⟨path, query⟩, hread, hlast⟩ := exists_of_bind_ok hpath
      clear hpath
      obtain rfl := Except.ok.inj hlast
      obtain ⟨hpath, hquery⟩ := eq_of_readPath_ok hread
      have huncut := uncut_full hchars hends
      refine ⟨scheme ++ schemeEnd ++ authority, .full hchars ?_ hends ?_, ?_, ?_⟩
      · simpa using hsome
      · rw [hpath, htarget]
        exact stem_dropWhile _
      · rw [← List.append_assoc, stem_append huncut, hpath]
      · rw [← List.append_assoc, tail_append huncut, hquery]

/-- The parts of every address that can be read, however long it is. -/
theorem exists_head_of_parseChars (hparse : parseChars text = .ok uri) :
    ∃ head, Head text head uri.path.toList ∧ stem text = head ++ uri.path.toList ∧
      uri.query = queryOf (tail text) := by
  unfold parseChars at hparse
  split at hparse
  · cases hparse
  · obtain rfl := Except.ok.inj hparse
    exact ⟨[], .nothing (Or.inl rfl), rfl, rfl⟩
  · rename_i rest
    cases hread : readPath ('/' :: rest) with
    | error fault =>
      rw [hread] at hparse
      cases hparse
    | ok parts =>
      rw [hread] at hparse
      obtain rfl := Except.ok.inj hparse
      obtain ⟨hpath, hquery⟩ := eq_of_readPath_ok hread
      exact ⟨[], .nothing (Or.inr ⟨stem rest, hpath⟩), hpath.symm, hquery⟩
  · rename_i c _ _
    obtain ⟨⟨authority, rest⟩, hsplit, hparse⟩ := exists_of_bind_ok hparse
    split at hparse
    · rename_i hempty
      obtain rfl : rest = [] := List.isEmpty_iff.mp hempty
      obtain rfl := Except.ok.inj hparse
      obtain ⟨hhead, hstem, hquery⟩ := exists_head_of_authority hsplit
      exact ⟨[c], hhead, by rw [hstem]; rfl, hquery⟩
    · cases hparse
  · exact exists_head_of_parseFull hparse

/-- The parts of every address that can be read. -/
theorem exists_head {s : String} (hparse : parse s = .ok uri) :
    ∃ head, Head s.toList head uri.path.toList ∧ stem s.toList = head ++ uri.path.toList ∧
      uri.query = queryOf (tail s.toList) := by
  unfold parse at hparse
  split at hparse
  · cases hparse
  · exact exists_head_of_parseChars hparse

end Uri
end Http
end ChefAccess
