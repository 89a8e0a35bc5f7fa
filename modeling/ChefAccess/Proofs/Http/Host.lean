import ChefAccess.Proofs.Http.Uri

/-!
# Addresses of hosts

The address of a host is a slash alone, or a scheme and an authority with a slash behind them.
An address that begins with the one of a host has its path behind the authority, so the path
starts with the slash of the host.

Main definitions:

- {lit}`Uri.HostOnly`: an address of a host, without a path of its own.

Main results:

- Theorem {lit}`Uri.Head.hostOnly`: what stands before a path is an address of a host.
- Theorem {lit}`Uri.path_of_hostOnly`: behind the address of a host, the path starts with its
  slash.
-/

namespace ChefAccess
namespace Http
namespace Uri

variable {text head path base rest : List Char}

/-- An address of a host, without a path of its own: a slash alone, or a scheme and an authority
with a slash behind them. -/
inductive HostOnly : List Char → Prop
  | slash : HostOnly ['/']
  | full {scheme authority : List Char} (hscheme : ∀ c ∈ scheme, isSchemeChar c = true)
      (hsome : authority ≠ []) (hends : ∀ c ∈ authority, endsAuthority c = false) :
      HostOnly (scheme ++ schemeEnd ++ authority ++ ['/'])

/-- There is no cut in an address of a host. -/
theorem HostOnly.uncut (hhost : HostOnly base) : Uncut base := by
  have hslash : Uncut ['/'] := uncut_iff.mpr (by decide)
  cases hhost with
  | slash => exact hslash
  | full hscheme _ hends => exact uncut_append.mpr ⟨uncut_full hscheme hends, hslash⟩

/-- An address of a host has a slash. -/
theorem HostOnly.slash_mem (hhost : HostOnly base) : '/' ∈ base := by
  cases hhost with
  | slash => exact List.mem_cons_self
  | full _ _ _ => exact List.mem_append_right _ List.mem_cons_self

/-- What may stand before a path that starts with a slash is an address of a host. -/
theorem Head.hostOnly (hhead : Head text head ('/' :: rest)) : HostOnly (head ++ ['/']) := by
  cases hhead with
  | nothing _ => exact .slash
  | full hscheme hsome hends _ => exact .full hscheme hsome hends

theorem slash_not_mem_of_not_endsAuthority (hends : ∀ c ∈ text, endsAuthority c = false) :
    '/' ∉ text := by
  intro hmem
  exact absurd (hends '/' hmem) (by decide)

theorem slash_not_mem_scheme (hscheme : ∀ c ∈ text, isSchemeChar c = true) : '/' ∉ text := by
  intro hmem
  exact absurd (hscheme '/' hmem) (by decide)

/-- A text that starts with a scheme does not start with a slash. -/
theorem scheme_append_ne_slash {scheme back : List Char}
    (hscheme : ∀ c ∈ scheme, isSchemeChar c = true) :
    scheme ++ schemeEnd ++ back ≠ '/' :: rest := by
  intro heq
  cases scheme with
  | nil => exact absurd (List.cons.inj heq).1 (by decide)
  | cons c scheme =>
    obtain rfl := (List.cons.inj heq).1
    exact absurd (hscheme '/' List.mem_cons_self) (by decide)

/-- A scheme ends at one place only. -/
theorem scheme_unique {scheme scheme' back back' : List Char}
    (hscheme : ∀ c ∈ scheme, isSchemeChar c = true)
    (hscheme' : ∀ c ∈ scheme', isSchemeChar c = true)
    (heq : scheme ++ schemeEnd ++ back = scheme' ++ schemeEnd ++ back') : back = back' := by
  have hsplit : ∀ scheme back : List Char, scheme ++ schemeEnd ++ back =
      (scheme ++ [':']) ++ '/' :: ('/' :: back) := by
    intro scheme back
    simp [schemeEnd]
  have hnot : ∀ {scheme : List Char}, (∀ c ∈ scheme, isSchemeChar c = true) →
      '/' ∉ scheme ++ [':'] := by
    intro scheme hscheme hmem
    rcases List.mem_append.mp hmem with hmem | hmem
    · exact slash_not_mem_scheme hscheme hmem
    · exact absurd (List.mem_singleton.mp hmem) (by decide)
  rw [hsplit, hsplit] at heq
  exact (List.cons.inj (Text.eq_of_append_cons_eq (hnot hscheme) (hnot hscheme') heq).2).2

/-- Behind the address of a host, the path starts with its slash. -/
theorem path_of_hostOnly (hhost : HostOnly base) (hhead : Head text head path)
    (hslash : '/' ∈ text) (hstem : base ++ rest = head ++ path) : path = '/' :: rest := by
  cases hhost with
  | slash =>
    cases hhead with
    | nothing _ => exact hstem.symm
    | authority hends => exact absurd hslash (slash_not_mem_of_not_endsAuthority hends)
    | full hscheme _ _ _ =>
      rw [List.append_assoc _ _ path] at hstem
      exact absurd hstem.symm (scheme_append_ne_slash hscheme)
  | @full scheme authority hscheme hsome hends =>
    have hbase : scheme ++ schemeEnd ++ authority ++ ['/'] ++ rest =
        scheme ++ schemeEnd ++ (authority ++ '/' :: rest) := by simp
    rw [hbase] at hstem
    cases hhead with
    | nothing hpath =>
      rw [List.nil_append] at hstem
      rcases hpath with rfl | ⟨rest', rfl⟩
      · have hmem : '/' ∈ scheme ++ schemeEnd ++ (authority ++ '/' :: rest) := by simp
        rw [hstem] at hmem
        exact absurd hmem (by decide)
      · exact absurd hstem (scheme_append_ne_slash hscheme)
    | authority hends' => exact absurd hslash (slash_not_mem_of_not_endsAuthority hends')
    | @full scheme' authority' _ hscheme' _ hends' hpath =>
      rw [List.append_assoc _ authority' path] at hstem
      have hsame := scheme_unique hscheme hscheme' hstem
      rcases hpath with rfl | ⟨rest', rfl⟩
      · have hmem : '/' ∈ authority' ++ [] := by
          rw [← hsame]
          simp
        rw [List.append_nil] at hmem
        exact absurd hmem (slash_not_mem_of_not_endsAuthority hends')
      · have hnot := slash_not_mem_of_not_endsAuthority hends
        have hnot' := slash_not_mem_of_not_endsAuthority hends'
        rw [(Text.eq_of_append_cons_eq hnot hnot' hsame).2]

end Uri
end Http
end ChefAccess
