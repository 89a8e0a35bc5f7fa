import ChefAccess.Backend.Blobs
import Mathlib.Data.List.Basic

/-!
# No path leads out of the root

A path into a blob store is read only if it starts neither at the top nor with a dot, and never
goes up.  What is read then is the root, continued by the names in the path.  The token in a
reference to a key file is one such name, so it leads to a child of the root.

Main definitions:

- {lit}`Path.names`: the names in a path.
- {lit}`Path.Inside`: the paths that lead to names only.
- {lit}`Blobs.IsToken`: the tokens of references.

Main results:

- Theorem {lit}`Path.staysInside_iff`: which paths lead to names only.
- Theorem {lit}`Path.steps_join`: where a root leads when it is continued by such a path.
- Theorem {lit}`Blobs.token?_eq_some_iff`: the references with a token.
- Theorem {lit}`Blobs.confined_law`: what is read for a token, and for any path.
-/

namespace ChefAccess

/-! ## Paths that lead to names -/

namespace Path

variable {root path : String}

/-- The names in a path, which are the segments that are neither empty nor a dot. -/
def names (path : String) : List String :=
  ((segments path.toList).filter (!isIdle ·)).map String.ofList

/-- A path starts neither at the top nor with a dot, and it never goes up. -/
structure Inside (path : String) : Prop where
  relative : path.toList.head? ≠ some '/'
  no_leading_dot : (segments path.toList).head? ≠ some ['.']
  never_up : ['.', '.'] ∉ segments path.toList

/-- Segments among which none goes up stand for names. -/
theorem filterMap_stepOf? {parts : List (List Char)} (hup : ['.', '.'] ∉ parts) :
    parts.filterMap stepOf? =
      ((parts.filter (!isIdle ·)).map String.ofList).map Step.name := by
  induction parts with
  | nil => rfl
  | cons part parts ih =>
    rw [List.mem_cons, not_or] at hup
    have hpart : part ≠ ['.', '.'] := Ne.symm hup.1
    cases hidle : isIdle part <;> simp [stepOf?, hidle, hpart, ih hup.2]

/-- A path that leads to names only takes one step for each of them. -/
theorem Inside.steps_eq (hinside : Inside path) : steps path = (names path).map Step.name := by
  rw [steps, startOf, if_neg hinside.relative, if_neg hinside.no_leading_dot, List.nil_append,
    filterMap_stepOf? hinside.never_up, names]

/-- A segment that goes up is a step. -/
theorem up_mem_steps (hup : ['.', '.'] ∈ segments path.toList) : Step.up ∈ steps path :=
  List.mem_append_right _ (List.mem_filterMap.mpr ⟨['.', '.'], hup, by decide⟩)

/-- The paths that stay inside are those that lead to names only. -/
theorem staysInside_iff (path : String) : staysInside path = true ↔ Inside path := by
  rw [staysInside, List.all_eq_true]
  constructor
  · intro hnames
    have hstart : ∀ step ∈ startOf path.toList, step.isName = true := fun step hstep =>
      hnames step (List.mem_append_left _ hstep)
    refine ⟨?_, ?_, ?_⟩
    · intro htop
      simp [startOf, htop, Step.isName] at hstart
    · intro hdot
      unfold startOf at hstart
      rw [if_pos hdot] at hstart
      split at hstart <;> simp [Step.isName] at hstart
    · intro hup
      cases hnames Step.up (up_mem_steps hup)
  · intro hinside step hstep
    rw [hinside.steps_eq] at hstep
    obtain ⟨name, -, rfl⟩ := List.mem_map.mp hstep
    rfl

/-! ## Joining -/

/-- A relative path is put behind a slash, unless the root is empty.  The slash is the last
sign of the root, or it is put there. -/
theorem join_cases (root : String) (hrelative : path.toList.head? ≠ some '/') :
    (root.toList = [] ∧ join root path = path) ∨
      ∃ front, (join root path).toList = front ++ '/' :: path.toList ∧
        (root.toList = front ++ ['/'] ∨ root.toList = front ∧ front ≠ []) := by
  unfold join
  rw [if_neg hrelative]
  by_cases hempty : root.toList = []
  · refine Or.inl ⟨hempty, ?_⟩
    obtain rfl : root = "" := String.toList_eq_nil_iff.mp hempty
    simp
  · refine Or.inr ?_
    have hnot : ¬ root.isEmpty = true := by
      simpa using hempty
    by_cases hslash : root.toList.getLast? = some '/'
    · obtain ⟨front, hfront⟩ := List.getLast?_eq_some_iff.mp hslash
      exact ⟨front, by simp [hfront], Or.inl hfront⟩
    · exact ⟨root.toList, by simp [hslash, hnot], Or.inr ⟨rfl, hempty⟩⟩

/-- What the start of a path says is said before its last slash. -/
theorem startOf_append (front back : List Char) :
    startOf (front ++ '/' :: back) = startOf (front ++ ['/']) := by
  have hhead : (segments (front ++ '/' :: back)).head? = (segments (front ++ ['/'])).head? := by
    rw [segments_append, segments_append, List.head?_append_of_ne_nil _ (segments_ne_nil front),
      List.head?_append_of_ne_nil _ (segments_ne_nil front)]
  rw [startOf, startOf, hhead]
  cases front <;> rfl

/-- A slash behind a text that is not empty does not change what its start says. -/
theorem startOf_slash {front : List Char} (hfront : front ≠ []) :
    startOf (front ++ ['/']) = startOf front := by
  have hhead : (segments (front ++ ['/'])).head? = (segments front).head? := by
    rw [segments_append, List.head?_append_of_ne_nil _ (segments_ne_nil front)]
  rw [startOf, startOf, hhead, List.head?_append_of_ne_nil _ hfront]

/-- A slash at the end is no step. -/
theorem filterMap_segments_slash (front : List Char) :
    (segments (front ++ ['/'])).filterMap stepOf? = (segments front).filterMap stepOf? := by
  rw [segments_append, List.filterMap_append]
  simp [segments, stepOf?, isIdle]

/-- A root that is continued by a path leads to the names in the path. -/
theorem steps_join (root : String) (hinside : Inside path) :
    steps (join root path) = steps root ++ (names path).map Step.name := by
  rw [← hinside.steps_eq]
  have hpath : steps path = (segments path.toList).filterMap stepOf? := by
    rw [steps, startOf, if_neg hinside.relative, if_neg hinside.no_leading_dot, List.nil_append]
  rcases join_cases root hinside.relative with ⟨hempty, hjoin⟩ | ⟨front, hjoin, hroot⟩
  · rw [hjoin, steps, steps, hempty]
    rfl
  · have hsteps : steps root = startOf (front ++ ['/']) ++ (segments front).filterMap stepOf? := by
      rcases hroot with hslash | ⟨hfront, hne⟩
      · rw [steps, hslash, filterMap_segments_slash]
      · rw [steps, hfront, startOf_slash hne]
    rw [hsteps, hpath, steps, hjoin, startOf_append, segments_append, List.filterMap_append,
      List.append_assoc]

/-- The place that such a path leads to lies below the place of the root. -/
theorem place_join (root : String) (hinside : Inside path) :
    place (join root path) = place root ++ (names path).map Step.name := by
  have hnames : ((names path).map Step.name).filter (· ≠ .here) = (names path).map Step.name :=
    List.filter_eq_self.mpr fun step hstep => by
      obtain ⟨name, -, rfl⟩ := List.mem_map.mp hstep
      rfl
  rw [place, steps_join root hinside, List.filter_append, hnames, place]

/-- Whether a directory is asked for is a matter of the path behind the root. -/
theorem asksForDirectory_join (root : String) (hrelative : path.toList.head? ≠ some '/') :
    asksForDirectory (join root path) = asksForDirectory path := by
  rcases join_cases root hrelative with ⟨-, hjoin⟩ | ⟨front, hjoin, -⟩
  · rw [hjoin]
  · rw [asksForDirectory, hjoin, segments_append,
      List.getLast?_append_of_ne_nil _ (segments_ne_nil path.toList), asksForDirectory]

end Path

/-! ## Tokens -/

namespace Blobs

variable {reference token path : String}

/-- A token is made of lower-case letters, digits and dashes, and it is not empty. -/
structure IsToken (token : String) : Prop where
  ne_empty : token ≠ ""
  chars : ∀ c ∈ token.toList, 'a' ≤ c ∧ c ≤ 'z' ∨ '0' ≤ c ∧ c ≤ '9' ∨ c = '-'

/-- The characters of a token, spelled out. -/
theorem isTokenChar_iff (c : Char) :
    isTokenChar c = true ↔ 'a' ≤ c ∧ c ≤ 'z' ∨ '0' ≤ c ∧ c ≤ '9' ∨ c = '-' := by
  have hlower : c.isLower = true ↔ 'a' ≤ c ∧ c ≤ 'z' := by
    change (decide ('a' ≤ c) && decide (c ≤ 'z')) = true ↔ _
    rw [Bool.and_eq_true, decide_eq_true_eq, decide_eq_true_eq]
  have hdigit : c.isDigit = true ↔ '0' ≤ c ∧ c ≤ '9' := by
    change (decide ('0' ≤ c) && decide (c ≤ '9')) = true ↔ _
    rw [Bool.and_eq_true, decide_eq_true_eq, decide_eq_true_eq]
  rw [isTokenChar, Bool.or_eq_true, Bool.or_eq_true, hlower, hdigit, beq_iff_eq, or_assoc]

/-- Neither a slash nor a dot is in a token. -/
theorem IsToken.not_mem {c : Char} (htoken : IsToken token) (hc : c = '/' ∨ c = '.') :
    c ∉ token.toList := by
  intro hmem
  have hchar := (isTokenChar_iff c).mpr (htoken.chars c hmem)
  rcases hc with rfl | rfl <;> exact absurd hchar (by decide)

/-- A token ends at the first slash. -/
theorem IsToken.splitAt? (htoken : IsToken token) (name : List Char) :
    Text.splitAt? ['/'] (token.toList ++ '/' :: name) = some (token.toList, name) :=
  Text.splitAt?_eq_some_iff.mpr ⟨rfl, htoken.not_mem (Or.inl rfl)⟩

/-- A token is one segment. -/
theorem IsToken.segments (htoken : IsToken token) :
    Path.segments token.toList = [token.toList] :=
  Path.segments_of_noSlash (htoken.not_mem (Or.inl rfl))

/-- A token that is a segment leads to a name. -/
theorem IsToken.isIdle (htoken : IsToken token) : Path.isIdle token.toList = false := by
  rw [Path.isIdle, Bool.or_eq_false_iff]
  constructor
  · simpa using htoken.ne_empty
  · refine beq_false_of_ne fun heq => htoken.not_mem (Or.inr rfl) ?_
    rw [heq]
    exact List.mem_singleton_self '.'

/-- A token is a path that leads to a name. -/
theorem IsToken.inside (htoken : IsToken token) : Path.Inside token := by
  have hdot := htoken.not_mem (c := '.') (Or.inr rfl)
  refine ⟨?_, ?_, ?_⟩
  · intro hslash
    exact htoken.not_mem (Or.inl rfl) (List.mem_of_mem_head? hslash)
  · rw [htoken.segments, List.head?_cons, Ne, Option.some.injEq]
    intro heq
    exact hdot (heq ▸ List.mem_singleton_self '.')
  · rw [htoken.segments, List.mem_singleton]
    intro heq
    exact hdot (heq ▸ List.mem_cons_self)

/-- The one name in a token is the token. -/
theorem IsToken.names (htoken : IsToken token) : Path.names token = [token] := by
  simp [Path.names, htoken.segments, htoken.isIdle]

/-- A token does not ask for a directory. -/
theorem IsToken.asksForDirectory (htoken : IsToken token) :
    Path.asksForDirectory token = false := by
  simp [Path.asksForDirectory, htoken.segments, htoken.isIdle]

/-- The references with a token: it stands between the start of the reference and the name of
the key file. -/
theorem token?_eq_some_iff :
    token? reference = some token ↔
      IsToken token ∧ ∃ stem, reference = "/files/" ++ token ++ "/" ++ stem ++ "pem" := by
  constructor
  · intro htoken
    unfold token? at htoken
    split at htoken
    · cases htoken
    rename_i rest hrest
    split at htoken
    · cases htoken
    rename_i front name hsplit
    split at htoken
    case isFalse => cases htoken
    case isTrue hvalid =>
      obtain rfl := Option.some.inj htoken
      obtain ⟨rfl, -⟩ := Text.splitAt?_eq_some_iff.mp hsplit
      simp only [Bool.and_eq_true, Bool.not_eq_true', List.isEmpty_eq_false_iff,
        List.all_eq_true] at hvalid
      obtain ⟨⟨hfront, hchars⟩, hends⟩ := hvalid
      obtain ⟨stem, hstem⟩ := Option.isSome_iff_exists.mp hends
      refine ⟨⟨?_, ?_⟩, String.ofList stem, ?_⟩
      · simpa using hfront
      · intro c hc
        rw [String.toList_ofList] at hc
        exact (isTokenChar_iff c).mp (hchars c hc)
      · apply String.toList_inj.mp
        rw [Text.eq_append_of_after? hrest, Text.before?_eq_some_iff.mp hstem]
        simp
  · rintro ⟨htoken, stem, rfl⟩
    have hreference : ("/files/" ++ token ++ "/" ++ stem ++ "pem").toList =
        "/files/".toList ++ (token.toList ++ '/' :: (stem.toList ++ "pem".toList)) := by
      simp
    have hsplit := htoken.splitAt? (stem.toList ++ "pem".toList)
    have hends := Text.before?_eq_some_iff.mpr (rfl : stem.toList ++ "pem".toList = _)
    have hnonempty : token.toList.isEmpty = false := by
      simpa using htoken.ne_empty
    have hchars : token.toList.all isTokenChar = true :=
      List.all_eq_true.mpr fun c hc => (isTokenChar_iff c).mpr (htoken.chars c hc)
    rw [token?, hreference, Text.after?_append]
    dsimp only
    rw [hsplit]
    dsimp only
    rw [hends, hnonempty, hchars]
    simp

/-! ## What is read -/

/-- A path that stays inside the root is read where the root leads, continued by its names. -/
theorem locate_of_inside (root : String) (disk : Disk) (hinside : Path.Inside path) :
    (⟨some root, disk⟩ : Blobs).locate path = .ok (Path.join root path) := by
  rw [locate]
  exact if_pos ((Path.staysInside_iff path).mpr hinside)

/-- The file of a token is a child of the root. -/
theorem read_token (root : String) (disk : Disk) (htoken : IsToken token) :
    (⟨some root, disk⟩ : Blobs).read token =
      disk.contents (Path.place root ++ [.name token]) := by
  have hplace : Path.place (Path.join root token) = Path.place root ++ [.name token] := by
    rw [Path.place_join root htoken.inside, htoken.names]
    rfl
  have hfile : Path.asksForDirectory (Path.join root token) = false := by
    rw [Path.asksForDirectory_join root htoken.inside.relative, htoken.asksForDirectory]
  rw [read, locate_of_inside root disk htoken.inside]
  show disk.read (Path.join root token) = _
  rw [Disk.read, hfile, hplace]
  rfl

/-- A reference to a key file has the token that stands between its start and the first slash
behind it, and the file of a token is a child of the root.  Any path that starts neither at
the top nor with a dot and never goes up is read where the root leads, continued by the names
in the path; every other path is refused, whatever is on the disk. -/
theorem confined_law :
    (∀ reference token, token? reference = some token ↔
      IsToken token ∧ ∃ stem, reference = "/files/" ++ token ++ "/" ++ stem ++ "pem") ∧
    (∀ token token' name name', IsToken token → IsToken token' →
      "/files/" ++ token ++ "/" ++ name = "/files/" ++ token' ++ "/" ++ name' →
        token = token' ∧ name = name') ∧
    (∀ root disk token, IsToken token →
      (⟨some root, disk⟩ : Blobs).read token =
        disk.contents (Path.place root ++ [.name token])) ∧
    (∀ root disk path, Path.Inside path →
      (⟨some root, disk⟩ : Blobs).read path = disk.read (Path.join root path) ∧
      Path.steps (Path.join root path) =
        Path.steps root ++ (Path.names path).map Path.Step.name) ∧
    (∀ root path, ¬ Path.Inside path →
      (escapes path).kind = .requestInvalid ∧
      ∀ disk, (⟨some root, disk⟩ : Blobs).read path = .error (escapes path)) := by
  refine ⟨fun reference token => token?_eq_some_iff, ?_, ?_, ?_, ?_⟩
  · intro token token' name name' htoken htoken' heq
    have htexts : token.toList ++ '/' :: name.toList = token'.toList ++ '/' :: name'.toList := by
      simpa using congrArg String.toList heq
    have hsplit := htoken.splitAt? name.toList
    rw [htexts, htoken'.splitAt?, Option.some.injEq, Prod.mk.injEq] at hsplit
    exact ⟨(String.toList_inj.mp hsplit.1).symm, (String.toList_inj.mp hsplit.2).symm⟩
  · intro root disk token htoken
    exact read_token root disk htoken
  · intro root disk path hinside
    refine ⟨?_, Path.steps_join root hinside⟩
    rw [read, locate_of_inside root disk hinside]
    rfl
  · intro root path houtside
    refine ⟨rfl, fun disk => read_of_not_staysInside root disk ?_⟩
    rwa [← Bool.not_eq_true, Path.staysInside_iff]

end Blobs
end ChefAccess
