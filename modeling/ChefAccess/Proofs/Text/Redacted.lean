import ChefAccess.Text.Redacted
import ChefAccess.Proofs.Text.Boundary

/-!
# What redacted text shows

A secret is redacted by its bytes: of twelve bytes or more the first three and the last three are
shown, if they are whole characters.  Cutting them off never hits the inside of a character, and
what is shown is never more than the first three and the last three characters, so that secrets of
twelve characters that agree in these look the same.  But a secret of fewer characters may have
twelve bytes, and then it shows some of them.

Main definitions:

- {lit}`Text.redactedBytes?`: redaction that works on bytes, and may hit the inside of a character.
- {lit}`Text.Shows`: the parts of a secret that are shown, and what is between them.

Main results:

- Theorem {lit}`Text.redacted_cases`: what a redacted secret looks like.
- Theorem {lit}`Text.redactedBytes?_encode`: redaction of bytes never fails.
- Theorem {lit}`Text.redaction_law`: what redaction reveals.
- Theorem {lit}`Text.redacted_fourCharacters`: a secret of four characters that shows two of them.
-/

namespace ChefAccess
namespace Text

/-- The redacted form of a secret that is given by its bytes.  There is none if the bytes that are
to be shown are not those of whole characters. -/
def redactedBytes? (bytes : List UInt8) : Option String :=
  if bytes.length = 0 then some "EMPTY"
  else if bytes.length < 12 || !Utf8.isBoundary bytes 3 ||
      !Utf8.isBoundary bytes (bytes.length - 3) then some "***"
  else
    (Utf8.decode? (bytes.take 3)).bind fun head =>
      (Utf8.decode? (bytes.drop (bytes.length - 3))).map fun tail => head ++ "***" ++ tail

variable {s s' : String} {head middle tail front back : List Char}

/-! ## What is shown -/

/-- The characters that are shown of a secret, with those between them: they have three bytes at
either end, and there are twelve bytes at least. -/
structure Shows (s : String) (head middle tail : List Char) : Prop where
  text : s.toList = head ++ middle ++ tail
  head : byteSize head = 3
  middle : 6 ≤ byteSize middle
  tail : byteSize tail = 3

/-- The size of a secret that shows something. -/
theorem Shows.byteSize_eq (hshows : Shows s head middle tail) :
    byteSize s.toList = 6 + byteSize middle := by
  rw [hshows.text, byteSize_append, byteSize_append, hshows.head, hshows.tail]
  omega

/-- A long secret shows its ends, if characters begin behind the first three and ahead of the last
three bytes. -/
theorem exists_shows (hlong : 12 ≤ byteSize s.toList) (hhead : s.toList = head ++ back)
    (hsize : byteSize head = 3) (htail : s.toList = front ++ tail)
    (hrest : byteSize front = byteSize s.toList - 3) : ∃ middle, Shows s head middle tail := by
  have htotal : byteSize s.toList = byteSize front + byteSize tail := by
    rw [htail, byteSize_append]
  rcases List.append_eq_append_iff.mp (hhead.symm.trans htail) with
    ⟨middle, rfl, hback⟩ | ⟨more, rfl, -⟩
  · rw [byteSize_append] at hrest htotal
    exact ⟨middle, htail, hsize, by omega, by omega⟩
  · rw [byteSize_append] at hsize
    omega

/-- The empty text is the one without bytes. -/
theorem byteSize_eq_zero_iff : byteSize s.toList = 0 ↔ s = "" :=
  byteSize_eq_zero.trans String.toList_eq_nil_iff

/-- What is shown of a secret stands at either side of three stars. -/
theorem Shows.redacted_eq (hshows : Shows s head middle tail) :
    redacted s = String.ofList head ++ "***" ++ String.ofList tail := by
  have hsize := hshows.byteSize_eq
  have hmiddle := hshows.middle
  have hfirst : cutAt 3 s.toList = some (head, middle ++ tail) :=
    cutAt_eq_some_iff.mpr ⟨by rw [hshows.text, List.append_assoc], hshows.head⟩
  have hlast : cutAt (byteSize s.toList - 3) s.toList = some (head ++ middle, tail) :=
    cutAt_eq_some_iff.mpr ⟨hshows.text, by rw [byteSize_append, hshows.head]; omega⟩
  rw [redacted, if_neg (by omega), if_neg (by omega), hfirst, hlast]
  dsimp only
  rw [String.ofList_append, String.ofList_append]

/-- Any other secret shows nothing. -/
theorem redacted_of_not_shows (hne : s ≠ "")
    (hnone : ∀ head middle tail, ¬ Shows s head middle tail) : redacted s = "***" := by
  rw [redacted, if_neg (mt byteSize_eq_zero_iff.mp hne)]
  split
  case isTrue => rfl
  case isFalse hlong =>
    split
    case h_2 => rfl
    case h_1 head back front tail hfirst hlast =>
      obtain ⟨hhead, hsize⟩ := cutAt_eq_some_iff.mp hfirst
      obtain ⟨htail, hrest⟩ := cutAt_eq_some_iff.mp hlast
      obtain ⟨middle, hshows⟩ := exists_shows (by omega) hhead hsize htail hrest
      exact absurd hshows (hnone head middle tail)

/-- A redacted secret shows that it is empty, or three stars, or three stars between its ends. -/
theorem redacted_cases (s : String) :
    (s = "" ∧ redacted s = "EMPTY") ∨
      (s ≠ "" ∧ (∀ head middle tail, ¬ Shows s head middle tail) ∧ redacted s = "***") ∨
      ∃ head middle tail, Shows s head middle tail ∧
        redacted s = String.ofList head ++ "***" ++ String.ofList tail := by
  by_cases hempty : s = ""
  · exact Or.inl ⟨hempty, by rw [hempty]; rfl⟩
  · by_cases hshows : ∃ head middle tail, Shows s head middle tail
    · obtain ⟨head, middle, tail, hshows⟩ := hshows
      exact Or.inr (Or.inr ⟨head, middle, tail, hshows, hshows.redacted_eq⟩)
    · have hnone : ∀ head middle tail, ¬ Shows s head middle tail := by simpa using hshows
      exact Or.inr (Or.inl ⟨hempty, hnone, redacted_of_not_shows hempty hnone⟩)

/-- Three stars alone are shown by the secrets that show nothing else. -/
theorem redacted_eq_stars_iff (hne : s ≠ "") :
    redacted s = "***" ↔ ∀ head middle tail, ¬ Shows s head middle tail := by
  refine ⟨fun hstars head middle tail hshows => ?_, redacted_of_not_shows hne⟩
  have hlength := congrArg (fun text : String => byteSize text.toList) hstars
  simp only [hshows.redacted_eq, String.toList_append, String.toList_ofList, byteSize_append,
    hshows.head, hshows.tail] at hlength
  omega

/-! ## Bytes -/

/-- The bytes of a text are read as that text. -/
theorem Utf8.decode?_encodeChars (l : List Char) :
    Utf8.decode? (Utf8.encodeChars l) = some (String.ofList l) := by
  have hall : (l.map some).mapM id = some l := by
    rw [List.mapM_map]
    exact List.mapM_pure.trans (congrArg some (List.map_id l))
  rw [Utf8.decode?, Utf8.decode_encodeChars, hall, Option.map_some]

/-- Redaction of bytes never hits the inside of a character, and shows the same. -/
theorem redactedBytes?_encode (s : String) :
    redactedBytes? (Utf8.encode s) = some (redacted s) := by
  have hsize : (Utf8.encode s).length = byteSize s.toList := Utf8.length_encodeChars s.toList
  rcases redacted_cases s with ⟨rfl, -⟩ | ⟨hne, hnone, hstars⟩ | ⟨head, middle, tail, hshows, hends⟩
  · rfl
  · rw [redactedBytes?, hsize, if_neg (mt byteSize_eq_zero_iff.mp hne), hstars, if_pos]
    -- characters begin at both offsets only in a secret that shows something
    by_contra hbounds
    simp only [Bool.or_eq_true, Bool.not_eq_true', decide_eq_true_eq, not_or, Nat.not_lt,
      Bool.not_eq_false] at hbounds
    obtain ⟨⟨hlong, hfirst⟩, hlast⟩ := hbounds
    obtain ⟨head, back, hhead, hthree⟩ := Utf8.isBoundary_iff.mp hfirst
    obtain ⟨front, tail, htail, hrest⟩ := Utf8.isBoundary_iff.mp hlast
    obtain ⟨middle, hshows⟩ := exists_shows hlong hhead hthree htail hrest
    exact hnone head middle tail hshows
  · have htotal := hshows.byteSize_eq
    have hmiddle := hshows.middle
    have hbytes : Utf8.encode s = Utf8.encodeChars head ++ Utf8.encodeChars middle ++
        Utf8.encodeChars tail := by
      rw [Utf8.encode, hshows.text, Utf8.encodeChars_append, Utf8.encodeChars_append]
    have hfirst : Utf8.isBoundary (Utf8.encode s) 3 = true :=
      Utf8.isBoundary_iff.mpr ⟨head, middle ++ tail, by rw [hshows.text, List.append_assoc],
        hshows.head⟩
    have hlast : Utf8.isBoundary (Utf8.encode s) (byteSize s.toList - 3) = true :=
      Utf8.isBoundary_iff.mpr ⟨head ++ middle, tail, hshows.text, by
        rw [byteSize_append, hshows.head]
        omega⟩
    have htake : (Utf8.encode s).take 3 = Utf8.encodeChars head := by
      rw [hbytes, List.append_assoc, ← hshows.head, ← Utf8.length_encodeChars, List.take_left]
    have hdrop : (Utf8.encode s).drop (byteSize s.toList - 3) = Utf8.encodeChars tail := by
      have hoffset : byteSize s.toList - 3 =
          (Utf8.encodeChars head ++ Utf8.encodeChars middle).length := by
        rw [List.length_append, Utf8.length_encodeChars, Utf8.length_encodeChars, hshows.head]
        omega
      rw [hoffset, hbytes, List.drop_left]
    have hlong : ¬ byteSize s.toList < 12 := by omega
    rw [redactedBytes?, hsize, if_neg (by omega), hfirst, hlast, if_neg (by simp [hlong]), htake,
      hdrop, Utf8.decode?_encodeChars, Utf8.decode?_encodeChars, hends]
    rfl

/-! ## Secrets that look the same -/

/-- No more than three characters are shown at either end. -/
theorem Shows.length_le (hshows : Shows s head middle tail) :
    head.length ≤ 3 ∧ tail.length ≤ 3 :=
  ⟨hshows.head ▸ length_le_byteSize head, hshows.tail ▸ length_le_byteSize tail⟩

/-- What is shown is among the first three and the last three characters. -/
theorem Shows.ends (hshows : Shows s head middle tail) :
    head <+: s.toList.take 3 ∧ tail <:+ s.toList.drop (s.length - 3) := by
  obtain ⟨hhead, htail⟩ := hshows.length_le
  constructor
  · refine List.prefix_take_iff.mpr ⟨⟨middle ++ tail, ?_⟩, hhead⟩
    rw [hshows.text, List.append_assoc]
  · refine List.suffix_of_suffix_length_le ⟨head ++ middle, hshows.text.symm⟩
      (List.drop_suffix _ _) ?_
    have hlength := congrArg List.length hshows.text
    simp only [List.length_append, String.length_toList, List.length_drop] at hlength ⊢
    omega

/-- A secret of twelve characters shows three bytes at either end, if they are those of whole
characters among the first three and the last three. -/
theorem exists_shows_of_ends (hlong : 12 ≤ s.length) (hhead : head <+: s.toList.take 3)
    (htail : tail <:+ s.toList.drop (s.length - 3)) (hfirst : byteSize head = 3)
    (hlast : byteSize tail = 3) : ∃ middle, Shows s head middle tail := by
  obtain ⟨rest, hrest⟩ := (List.prefix_take_iff.mp hhead).1
  have hlengths := congrArg List.length hrest
  rw [List.length_append, String.length_toList] at hlengths
  have hhead' : head.length ≤ 3 := hfirst ▸ length_le_byteSize head
  have htail' : tail.length ≤ 3 := hlast ▸ length_le_byteSize tail
  have hbehind : tail <:+ rest := List.suffix_of_suffix_length_le
    (htail.trans (List.drop_suffix _ _)) ⟨head, hrest⟩ (by omega)
  obtain ⟨middle, rfl⟩ := hbehind
  rw [List.length_append] at hlengths
  have hmiddle := length_le_byteSize middle
  exact ⟨middle, by rw [← hrest, List.append_assoc], hfirst, by omega, hlast⟩

/-- Secrets of twelve characters that agree in the first three and the last three look the same. -/
theorem redacted_eq_of_ends (hlong : 12 ≤ s.length) (hlong' : 12 ≤ s'.length)
    (hfirst : s.toList.take 3 = s'.toList.take 3)
    (hlast : s.toList.drop (s.length - 3) = s'.toList.drop (s'.length - 3)) :
    redacted s = redacted s' := by
  have hne : ∀ {text : String}, 12 ≤ text.length → text ≠ "" := by
    rintro text hlength rfl
    exact absurd hlength (by decide)
  by_cases hshows : ∃ head middle tail, Shows s head middle tail
  · obtain ⟨head, middle, tail, hshows⟩ := hshows
    obtain ⟨hhead, htail⟩ := hshows.ends
    obtain ⟨middle', hshows'⟩ := exists_shows_of_ends hlong' (hfirst ▸ hhead) (hlast ▸ htail)
      hshows.head hshows.tail
    rw [hshows.redacted_eq, hshows'.redacted_eq]
  · have hnone : ∀ head middle tail, ¬ Shows s head middle tail := by simpa using hshows
    have hnone' : ∀ head middle tail, ¬ Shows s' head middle tail := by
      intro head middle tail hshows'
      obtain ⟨hhead, htail⟩ := hshows'.ends
      obtain ⟨middle', hother⟩ := exists_shows_of_ends hlong (hfirst ▸ hhead) (hlast ▸ htail)
        hshows'.head hshows'.tail
      exact hnone head middle' tail hother
    rw [redacted_of_not_shows (hne hlong) hnone, redacted_of_not_shows (hne hlong') hnone']

/-- A secret that shows something is not empty. -/
theorem Shows.ne_empty (hshows : Shows s head middle tail) : s ≠ "" := by
  intro hempty
  have hsize := hshows.byteSize_eq
  rw [byteSize_eq_zero_iff.mpr hempty] at hsize
  omega

/-- Redaction never fails.  A secret that is not empty shows three stars alone exactly if it has
fewer than twelve bytes or the three at either end are not those of whole characters; otherwise it
shows these, which are among its first three and its last three characters.  So a secret of fewer
than twelve characters is kept exactly if it is not one of those with twelve bytes and whole
characters at its ends.  Secrets of twelve characters that agree in the first three and the last
three look the same. -/
theorem redaction_law (s : String) :
    redactedBytes? (Utf8.encode s) = some (redacted s) ∧
    (s ≠ "" → (redacted s = "***" ↔ ∀ head middle tail, ¬ Shows s head middle tail)) ∧
    (∀ head middle tail, Shows s head middle tail →
      redacted s = String.ofList head ++ "***" ++ String.ofList tail ∧
        head <+: s.toList.take 3 ∧ tail <:+ s.toList.drop (s.length - 3)) ∧
    ((s ≠ "" → s.length < 12 → redacted s = "***") ↔
      (s.length < 12 → ∀ head middle tail, ¬ Shows s head middle tail)) ∧
    ∀ s' : String, 12 ≤ s.length → 12 ≤ s'.length →
      s.toList.take 3 = s'.toList.take 3 →
      s.toList.drop (s.length - 3) = s'.toList.drop (s'.length - 3) →
      redacted s = redacted s' := by
  refine ⟨redactedBytes?_encode s, redacted_eq_stars_iff,
    fun _ _ _ hshows => ⟨hshows.redacted_eq, hshows.ends⟩, ⟨?_, ?_⟩,
    fun _ => redacted_eq_of_ends⟩
  · intro hkept hshort head middle tail hshows
    have hstars := hkept hshows.ne_empty hshort
    exact (redacted_eq_stars_iff hshows.ne_empty).mp hstars head middle tail hshows
  · exact fun hnone hne hshort => redacted_of_not_shows hne (hnone hshort)

/-- A short secret shows nothing, and secrets of different lengths, one of them with characters of
three bytes in the middle, look the same. -/
theorem redaction_law_middles :
    redacted "hunter2" = "***" ∧ redacted "chef-validator-key" = "che***key" ∧
      redacted "che日本語日本語key" = redacted "chef-validator-key" := by
  have hnone : ∀ head middle tail, ¬ Shows "hunter2" head middle tail := by
    intro head middle tail hshows
    have hsize : byteSize "hunter2".toList = 7 := by decide
    have htotal := hshows.byteSize_eq
    have hmiddle := hshows.middle
    omega
  have hshows : Shows "chef-validator-key" "che".toList "f-validator-".toList "key".toList :=
    ⟨by decide, by decide, by decide, by decide⟩
  have hkept := (redaction_law "hunter2").2.2.2.1.mpr fun _ => hnone
  obtain ⟨-, -, hends, -, -⟩ := redaction_law "chef-validator-key"
  obtain ⟨-, -, -, -, hsame⟩ := redaction_law "che日本語日本語key"
  refine ⟨hkept (by decide) (by decide), (hends _ _ _ hshows).1, ?_⟩
  exact hsame _ (by decide) (by decide) (by decide) (by decide)

/-- A secret of four characters has twelve bytes, and shows two of the four. -/
theorem redacted_fourCharacters :
    "日本語日".length < 12 ∧ redacted "日本語日" = "日***日" := by
  have hshows : Shows "日本語日" ['日'] ['本', '語'] ['日'] :=
    ⟨by decide, by decide, by decide, by decide⟩
  exact ⟨by decide, hshows.redacted_eq⟩

end Text
end ChefAccess
