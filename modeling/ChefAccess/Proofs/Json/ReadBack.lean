import ChefAccess.Proofs.Json.Scalar
import ChefAccess.Proofs.Text.Utf8

/-!
# Values are read back

The compact text of a value is read into one tree, and this tree can be told from the
value alone: each part of the value has its tree, in the same order.  The reader spends two
steps for each character at most, one to go down and one to go on, so that a text is
always longer than what its tree asks for.

Main definitions:

- {lit}`Value.document`: the tree of the compact text of a value.
- {lit}`Value.Fits`: a value whose numbers are integers of sixty-four bits, whose keys are
  distinct, and which has no more than some levels.

Main results:

- Theorem {lit}`Value.Fits.readsBack`: a written value is read as its tree, whatever
  stands behind it.
- Theorem {lit}`Value.Fits.read_render`: a whole text is read as the tree of its value.
- Theorem {lit}`Value.Fits.readBytes_render`: so are the bytes of a whole text.
-/

namespace ChefAccess
namespace Json
namespace Value

/-! ## Trees of values -/

mutual

/-- The tree of the compact text of a value. -/
def document : Value → Document
  | .null => .null
  | .bool b => .bool b
  | .number n => .number n.numeral
  | .string s => .string (s.toList.map charPiece)
  | .array items => .array (documents items)
  | .object members => .object (memberDocuments members)

/-- The trees of the items of an array. -/
def documents : List Value → List Document
  | [] => []
  | v :: rest => v.document :: documents rest

/-- The trees of the members of an object. -/
def memberDocuments : List (String × Value) → List (List Piece × Document)
  | [] => []
  | (key, v) :: rest => (key.toList.map charPiece, v.document) :: memberDocuments rest

end

/-- The keys of the members of an object. -/
def keys (members : List (String × Value)) : List String :=
  members.map (·.1)

/-- A value that can be sent: its numbers are integers of sixty-four bits, with or without
sign, no key comes twice in an object, and no more than some arrays and objects lie inside
each other. -/
inductive Fits : Nat → Value → Prop where
  | null (levels : Nat) : Fits levels .null
  | bool (levels : Nat) (b : Bool) : Fits levels (.bool b)
  | int (levels : Nat) {n : Int} (hlow : -Int.pow 2 63 ≤ n) (hhigh : n < Int.pow 2 64) :
      Fits levels (.number (.int n))
  | string (levels : Nat) (s : String) : Fits levels (.string s)
  | array {levels : Nat} {items : List Value} (hitems : ∀ v ∈ items, Fits levels v) :
      Fits (levels + 1) (.array items)
  | object {levels : Nat} {members : List (String × Value)} (hkeys : (keys members).Nodup)
      (hmembers : ∀ member ∈ members, Fits levels member.2) :
      Fits (levels + 1) (.object members)

/-! ## The head of a written value -/

/-- What an integer begins with is not white space and opens nothing. -/
theorem opens_numeral {c : Char} (hfirst : c = '-' ∨ c.isDigit) :
    isBlank (some c) = false ∧ c ∉ ['n', 't', 'f', '"', '[', ']', '\x7b'] := by
  have hexcluded : ∀ d ∈ [' ', '\n', '\t', '\r', 'n', 't', 'f', '"', '[', ']', '\x7b'],
      ¬ (d = '-' ∨ d.isDigit) := by
    intro d hmem
    simp only [List.mem_cons, List.not_mem_nil, or_false] at hmem
    rcases hmem with rfl | rfl | rfl | rfl | rfl | rfl | rfl | rfl | rfl | rfl | rfl <;> decide
  constructor
  · simp only [isBlank, Bool.or_eq_false_iff, beq_eq_false_iff_ne, ne_eq, Option.some.injEq]
    refine ⟨⟨⟨?_, ?_⟩, ?_⟩, ?_⟩ <;> rintro rfl <;> exact hexcluded _ (by simp) hfirst
  · intro hmem
    exact hexcluded c (by simp_all) hfirst

/-- The head of a written value is neither white space nor the end of an array. -/
theorem Fits.renderChars_head {levels : Nat} {v : Value} (hfits : v.Fits levels) :
    ∃ c tail, v.renderChars = c :: tail ∧ isBlank (some c) = false ∧ c ≠ ']' := by
  cases hfits with
  | null => exact ⟨_, _, by rw [renderChars], by decide, by decide⟩
  | bool _ b => cases b <;> exact ⟨_, _, by rw [renderChars], by decide, by decide⟩
  | @int _ n hlow hhigh =>
    obtain ⟨c, tail, hhead, hfirst⟩ := renderInt_head n
    have hopens := opens_numeral hfirst
    exact ⟨c, tail, by rw [renderChars, Number.renderChars, hhead], hopens.1,
      fun heq => hopens.2 (by simp [heq])⟩
  | string _ s => exact ⟨_, _, by rw [renderChars, renderString], by decide, by decide⟩
  | @array _ items hitems =>
    cases items <;> exact ⟨_, _, by rw [renderChars], by decide, by decide⟩
  | @object _ members hkeys hmembers =>
    cases members <;> exact ⟨_, _, by rw [renderChars], by decide, by decide⟩

/-! ## Reading -/

/-- A head that is not white space is not skipped. -/
theorem skipBlanks_cons {c : Char} (rest : Source) (hblank : isBlank (some c) = false) :
    skipBlanks (some c :: rest) = some c :: rest := by
  simp [skipBlanks, hblank]

/-- A value that begins like an integer is read as a numeral. -/
theorem readValue_numeral (fuel : Nat) {c : Char} (rest : Source)
    (hfirst : c = '-' ∨ c.isDigit) :
    readValue (fuel + 1) (some c :: rest) =
      (readNumeral (some c :: rest)).map fun found => (.number found.1, found.2) := by
  obtain ⟨hblank, hopens⟩ := opens_numeral hfirst
  simp only [List.mem_cons, List.not_mem_nil, or_false, not_or] at hopens
  rw [readValue, skipBlanks_cons rest hblank]
  split <;> simp_all

/-- A value whose compact text is read as its tree, with two steps for each character,
whatever stands behind it. -/
def ReadsBack (v : Value) : Prop :=
  ∀ (fuel : Nat) (rest : Source), Ended rest → 2 * v.renderChars.length ≤ fuel →
    readValue fuel (v.renderChars.map some ++ rest) = some (v.document, rest)

/-- It is enough to read a value with one step at least, since no text is empty. -/
theorem ReadsBack.of_succ {v : Value} (hwritten : v.renderChars ≠ [])
    (hread : ∀ (fuel : Nat) (rest : Source), Ended rest →
      2 * v.renderChars.length ≤ fuel + 1 →
      readValue (fuel + 1) (v.renderChars.map some ++ rest) = some (v.document, rest)) :
    v.ReadsBack := by
  intro fuel rest hended hfuel
  have hlength : 0 < v.renderChars.length := List.length_pos_iff.mpr hwritten
  cases fuel with
  | zero => omega
  | succ fuel => exact hread fuel rest hended hfuel

/-- The items of an array are read up to its end, if each of them is read back. -/
theorem readItems_renderItems (first : Value) (items : List Value) (rest : Source)
    (hitems : ∀ v ∈ first :: items, v.ReadsBack) {fuel : Nat}
    (hfuel : 2 * (first.renderChars ++ renderItems items).length < fuel) :
    readItems fuel ((first.renderChars ++ renderItems items).map some ++ rest) =
      some (documents (first :: items), rest) := by
  have hfirst : first.ReadsBack := hitems first (by simp)
  induction items generalizing first fuel with
  | nil =>
    cases fuel with
    | zero => omega
    | succ fuel =>
      simp only [List.length_append] at hfuel
      have hread := hfirst fuel (some ']' :: rest) (ended_cons rest (by simp)) (by omega)
      simp [readItems, renderItems, documents, hread, skipBlanks_cons rest, isBlank]
  | cons v items ih =>
    cases fuel with
    | zero => omega
    | succ fuel =>
      have hrest : ∀ w ∈ v :: items, w.ReadsBack := fun w hw => hitems w (by simp [hw])
      simp only [renderItems, List.length_append, List.length_cons] at hfuel
      have hread := hfirst fuel
        (some ',' :: ((v.renderChars ++ renderItems items).map some ++ rest))
        (ended_cons _ (by simp)) (by omega)
      have hmore := @ih v hrest fuel (by simp only [List.length_append]; omega) (hrest v (by simp))
      simp only [List.map_append, List.append_assoc] at hread hmore
      simp [readItems, renderItems, documents, hread, hmore, skipBlanks_cons, isBlank]

/-- The last member of an object is read with its key, if its value is read back. -/
theorem readMembers_last (key : String) {v : Value} (hback : v.ReadsBack) {fuel : Nat}
    (rest : Source) (hfuel : 2 * v.renderChars.length ≤ fuel) :
    readMembers (fuel + 1) ((renderString key).map some ++ some ':' ::
        (v.renderChars.map some ++ some '\x7d' :: rest)) =
      some ([(key.toList.map charPiece, v.document)], rest) := by
  have hread := hback fuel (some '\x7d' :: rest) (ended_cons rest (by simp)) hfuel
  obtain ⟨inner, hquote, hkey⟩ := readPieces_renderString key
    (some ':' :: (v.renderChars.map some ++ some '\x7d' :: rest))
  rw [hquote]
  simp [readMembers, hkey, hread, skipBlanks_cons, isBlank]

/-- A member of an object before others is read with its key, if its value is read back. -/
theorem readMembers_next (key : String) {v : Value} (hback : v.ReadsBack) {fuel : Nat}
    (rest : Source) (hfuel : 2 * v.renderChars.length ≤ fuel) :
    readMembers (fuel + 1) ((renderString key).map some ++ some ':' ::
        (v.renderChars.map some ++ some ',' :: rest)) =
      (readMembers fuel rest).map fun more =>
        ((key.toList.map charPiece, v.document) :: more.1, more.2) := by
  have hread := hback fuel (some ',' :: rest) (ended_cons rest (by simp)) hfuel
  obtain ⟨inner, hquote, hkey⟩ := readPieces_renderString key
    (some ':' :: (v.renderChars.map some ++ some ',' :: rest))
  rw [hquote]
  simp [readMembers, hkey, hread, skipBlanks_cons, isBlank]

/-- The members of an object are read up to its end, if each of them is read back. -/
theorem readMembers_renderMembers (key : String) (first : Value)
    (members : List (String × Value)) (rest : Source)
    (hmembers : ∀ member ∈ (key, first) :: members, member.2.ReadsBack) {fuel : Nat}
    (hfuel : 2 * (first.renderChars ++ renderMembers members).length < fuel) :
    readMembers fuel ((renderString key).map some ++ some ':' ::
        (first.renderChars.map some ++ ((renderMembers members).map some ++ rest))) =
      some (memberDocuments ((key, first) :: members), rest) := by
  have hfirst : first.ReadsBack := hmembers (key, first) (by simp)
  induction members generalizing key first fuel with
  | nil =>
    cases fuel with
    | zero => omega
    | succ fuel =>
      simp only [List.length_append] at hfuel
      simp [renderMembers, readMembers_last key hfirst rest (by omega : _ ≤ fuel),
        memberDocuments]
  | cons member members ih =>
    obtain ⟨name, v⟩ := member
    cases fuel with
    | zero => omega
    | succ fuel =>
      have hrest : ∀ member ∈ (name, v) :: members, member.2.ReadsBack :=
        fun member hmember => hmembers member (by simp [hmember])
      simp only [renderMembers, List.length_append, List.length_cons] at hfuel
      have hmore := @ih name v hrest fuel (by simp only [List.length_append]; omega)
        (hrest (name, v) (by simp))
      simp [renderMembers, readMembers_next key hfirst _ (by omega : _ ≤ fuel), hmore,
        memberDocuments]

/-- An integer is read back. -/
theorem readsBack_int (n : Int) : (number (.int n)).ReadsBack := by
  obtain ⟨c, tail, hhead, hfirst⟩ := renderInt_head n
  have hchars : (number (.int n)).renderChars = c :: tail := by
    rw [renderChars, Number.renderChars, hhead]
  refine .of_succ (by simp [hchars]) fun fuel rest hended _ => ?_
  have hread := readNumeral_renderInt n hended
  simp only [hhead, List.map_cons, List.cons_append] at hread
  simp [hchars, readValue_numeral fuel _ hfirst, hread, document, Number.numeral]

/-- A string is read back. -/
theorem readsBack_string (s : String) : (string s).ReadsBack := by
  refine .of_succ (by simp [renderChars, renderString]) fun fuel rest _ _ => ?_
  obtain ⟨inner, hquote, hread⟩ := readPieces_renderString s rest
  rw [renderChars, hquote]
  simp [readValue, skipBlanks_cons, isBlank, hread, document]

/-- An array is read back, if its items are. -/
theorem readsBack_array {levels : Nat} {items : List Value}
    (hitems : ∀ v ∈ items, v.Fits levels) (hback : ∀ v ∈ items, v.ReadsBack) :
    (array items).ReadsBack := by
  cases items with
  | nil =>
    refine .of_succ (by simp [renderChars]) fun fuel rest _ _ => ?_
    simp [renderChars, readValue, skipBlanks_cons, isBlank, document, documents]
  | cons first items =>
    refine .of_succ (by simp [renderChars]) fun fuel rest _ hfuel => ?_
    simp only [renderChars, List.length_cons] at hfuel
    have hread := readItems_renderItems first items rest hback (by omega : 2 * _ < fuel)
    -- The head of the first item is not taken for the end of the array.
    obtain ⟨c, tail, hhead, hblank, hclose⟩ := (hitems first (by simp)).renderChars_head
    simp only [hhead, List.cons_append, List.map_cons, List.map_append,
      List.append_assoc] at hread
    simp only [renderChars, hhead, List.cons_append, List.map_cons, readValue,
      skipBlanks_cons _ (by decide : isBlank (some '[') = false), skipBlanks_cons _ hblank]
    simp [hclose, hread, document]

/-- An object is read back, if the values of its members are. -/
theorem readsBack_object {members : List (String × Value)}
    (hback : ∀ member ∈ members, member.2.ReadsBack) : (object members).ReadsBack := by
  cases members with
  | nil =>
    refine .of_succ (by simp [renderChars]) fun fuel rest _ _ => ?_
    simp [renderChars, readValue, skipBlanks_cons, isBlank, document, memberDocuments]
  | cons member members =>
    obtain ⟨key, first⟩ := member
    refine .of_succ (by simp [renderChars]) fun fuel rest _ hfuel => ?_
    simp only [renderChars, List.length_cons, List.length_append] at hfuel
    have hread := readMembers_renderMembers key first members rest hback
      (by simp only [List.length_append]; omega : 2 * _ < fuel)
    simp only [renderChars, renderString, List.cons_append, List.map_cons, List.map_append,
      List.append_assoc, List.map_nil, List.nil_append, readValue,
      skipBlanks_cons _ (by decide : isBlank (some '\x7b') = false),
      skipBlanks_cons _ (by decide : isBlank (some '"') = false)] at hread ⊢
    simp [document, hread]

/-- A value that can be sent is read back, whatever stands behind it. -/
theorem Fits.readsBack {levels : Nat} {v : Value} (hfits : v.Fits levels) : v.ReadsBack := by
  induction hfits with
  | null =>
    refine .of_succ (by simp [renderChars]) fun fuel rest _ _ => ?_
    simp [renderChars, readValue, skipBlanks_cons, isBlank, afterWord, document]
  | bool _ b =>
    refine .of_succ (by cases b <;> simp [renderChars]) fun fuel rest _ _ => ?_
    cases b <;> simp [renderChars, readValue, skipBlanks_cons, isBlank, afterWord, document]
  | int => exact readsBack_int _
  | string _ s => exact readsBack_string s
  | array hitems ih => exact readsBack_array hitems ih
  | object hkeys hmembers ih => exact readsBack_object ih

/-- A whole text is read as the tree of its value. -/
theorem Fits.readSource_renderChars {levels : Nat} {v : Value} (hfits : v.Fits levels) :
    Document.readSource (v.renderChars.map some) = some v.document := by
  have hread := hfits.readsBack (Document.fuelFor (v.renderChars.map some)) [] ended_nil
    (by simp only [Document.fuelFor, List.length_map]; omega)
  rw [List.append_nil] at hread
  simp [Document.readSource, hread, skipBlanks]

/-- The bytes of the text of a value are read as its tree. -/
theorem Fits.readBytes_render {levels : Nat} {v : Value} (hfits : v.Fits levels) :
    Document.readBytes (Text.Utf8.encode v.render) = some v.document := by
  rw [Document.readBytes, Text.Utf8.decode_encode, render, String.toList_ofList,
    hfits.readSource_renderChars]

end Value
end Json
end ChefAccess
