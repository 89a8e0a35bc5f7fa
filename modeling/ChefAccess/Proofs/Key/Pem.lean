import ChefAccess.Key.Pem
import ChefAccess.Proofs.Base64
import Mathlib.Tactic.Common

/-!
# Key blocks are read back

Writing a block is the other side of the reader: the bytes become base64 text, the text is cut
into lines of sixty-four characters, and the lines stand between the first and the last line of
the block.  What is written in this way is read, with or without a line break after it.

Main definitions:

- {lit}`wrap`: a text in full lines, of which the last one may be shorter.
- {lit}`block`: a block with a label and bytes.

Main results:

- Theorem {lit}`joinLines?_wrap`: lines are joined to the text that was cut.
- Theorem {lit}`block?_block`: the lines of a block are found.
- Theorem {lit}`decode?_block`: the bytes of a block are read back.
-/

namespace ChefAccess
namespace Key
namespace Pem

variable {label text : List Char} {octets : List UInt8}

/-! ## Lines -/

/-- A text in full lines, of which the last one may be shorter. -/
def wrap (text : List Char) : List Char :=
  if text.length ≤ lineWidth then text
  else text.take lineWidth ++ '\n' :: wrap (text.drop lineWidth)
termination_by text.length
decreasing_by
  simp only [List.length_drop, lineWidth] at *
  omega

/-- The characters of the lines are those of the text and line breaks. -/
theorem mem_wrap {c : Char} (hc : c ∈ wrap text) : c ∈ text ∨ c = '\n' := by
  fun_induction wrap text with
  | case1 => exact Or.inl hc
  | case2 text hlong ih =>
    rcases List.mem_append.mp hc with htake | hrest
    · exact Or.inl (List.mem_of_mem_take htake)
    rcases List.mem_cons.mp hrest with hbreak | hlater
    · exact Or.inr hbreak
    · exact (ih hlater).imp_left List.mem_of_mem_drop

/-- A text without line ends has none to be dropped. -/
theorem beforeLineEnd_eq_none
    (hlast : ∀ c, text.getLast? = some c → c ≠ '\n' ∧ c ≠ '\r') : beforeLineEnd text = none := by
  rw [beforeLineEnd, Option.map_eq_none_iff]
  rw [List.getLast?_eq_head?_reverse] at hlast
  cases hreverse : text.reverse with
  | nil => rfl
  | cons c rest =>
    obtain ⟨hbreak, hreturn⟩ := hlast c (by rw [hreverse, List.head?_cons])
    unfold dropLineEnd
    split <;> simp_all

/-- The line break after a text is dropped. -/
theorem beforeLineEnd_append_break (hreturn : text.getLast? ≠ some '\r') :
    beforeLineEnd (text ++ ['\n']) = some text := by
  have hdrop : dropLineEnd ('\n' :: text.reverse) = some text.reverse := by
    rw [List.getLast?_eq_head?_reverse] at hreturn
    unfold dropLineEnd
    split <;> simp_all
  rw [beforeLineEnd, List.reverse_append, List.reverse_singleton, List.singleton_append, hdrop,
    Option.map_some, List.reverse_reverse]

/-- Lines are joined to the text that was cut. -/
theorem joinLines?_wrap (hne : text ≠ []) (hends : ∀ c ∈ text, c ≠ '\n' ∧ c ≠ '\r') :
    joinLines? (wrap text) = some text := by
  fun_induction wrap text with
  | case1 text hshort =>
    have hlast : beforeLineEnd text = none :=
      beforeLineEnd_eq_none fun c hc => hends c (List.mem_of_getLast? hc)
    rw [joinLines?, if_pos hshort, hlast]
    simp [hne]
  | case2 text hlong ih =>
    have hrest : text.drop lineWidth ≠ [] := by
      simp only [ne_eq, List.drop_eq_nil_iff]
      omega
    have hjoined := ih hrest fun c hc => hends c (List.mem_of_mem_drop hc)
    have htake : (text.take lineWidth).length = lineWidth := by
      rw [List.length_take]
      omega
    have hdrop : (text.take lineWidth ++ '\n' :: wrap (text.drop lineWidth)).drop lineWidth =
        '\n' :: wrap (text.drop lineWidth) := List.drop_left' htake
    have hfirst : (text.take lineWidth ++ '\n' :: wrap (text.drop lineWidth)).take lineWidth =
        text.take lineWidth := List.take_left' htake
    have hmore : ¬ (text.take lineWidth ++ '\n' :: wrap (text.drop lineWidth)).length ≤
        lineWidth := by
      rw [List.length_append, htake, List.length_cons]
      omega
    rw [joinLines?, if_neg hmore, hfirst]
    split
    case _ hnone =>
      rw [hdrop] at hnone
      cases hnone
    case _ hnil =>
      rw [hdrop] at hnil
      have hempty : joinLines? [] = none := by
        rw [joinLines?]
        rfl
      rw [Option.some.inj hnil, hempty] at hjoined
      cases hjoined
    case _ rest _ hsome =>
      rw [hdrop] at hsome
      rw [← Option.some.inj hsome, hjoined, Option.map_some, List.take_append_drop]

/-! ## Blocks -/

/-- A block with a label and bytes, up to the end of its last line. -/
def block (label : List Char) (octets : List UInt8) : List Char :=
  opening ++ label ++ dashes ++ '\n' :: (wrap (Base64.encodeChars octets) ++
    '\n' :: (closing ++ label ++ dashes))

/-- A block begins with a dash. -/
theorem head?_block (label : List Char) (octets : List UInt8) :
    (block label octets).head? = some '-' :=
  rfl

/-- A block ends with a dash. -/
theorem getLast?_block (label : List Char) (octets : List UInt8) :
    (block label octets).getLast? = some '-' := by
  have hshape : block label octets = opening ++ label ++ dashes ++ '\n' ::
      (wrap (Base64.encodeChars octets) ++ '\n' :: (closing ++ label)) ++ dashes := by
    simp [block]
  rw [hshape, List.getLast?_append]
  rfl

/-- The characters of base64 text are no line ends, no white space and no backslashes. -/
theorem base64_char {c : Char} (hc : c ∈ Base64.encodeChars octets) :
    c ≠ '\n' ∧ c ≠ '\r' ∧ c ≠ ' ' ∧ c ≠ '\\' := by
  have hdigits : ∀ n < 64, Base64.digit n ≠ '\n' ∧ Base64.digit n ≠ '\r' ∧
      Base64.digit n ≠ ' ' ∧ Base64.digit n ≠ '\\' := by decide
  rcases Base64.digit_or_padding_of_mem_encode c (by rwa [Base64.encode, String.toList_ofList])
    with ⟨n, hn, rfl⟩ | rfl
  · exact hdigits n hn
  · decide

/-- A line break that may follow the dashes at the end of a block is dropped. -/
theorem getD_beforeLineEnd_dashes (front : List Char) {ends : List Char}
    (hends : ends = [] ∨ ends = ['\n']) :
    (beforeLineEnd (front ++ dashes ++ ends)).getD (front ++ dashes ++ ends) =
      front ++ dashes := by
  have hlast : (front ++ dashes).getLast? = some '-' := by
    rw [List.getLast?_append]
    rfl
  rcases hends with rfl | rfl
  · rw [List.append_nil, beforeLineEnd_eq_none, Option.getD_none]
    intro c hc
    rw [hlast, Option.some.injEq] at hc
    rw [← hc]
    decide
  · rw [beforeLineEnd_append_break, Option.getD_some]
    rw [hlast]
    decide

/-- The lines of a block are found, and a line break may follow the block. -/
theorem block?_block (label : List Char) (octets : List UInt8) {ends : List Char}
    (hends : ends = [] ∨ ends = ['\n']) :
    block? label (block label octets ++ ends) = some (wrap (Base64.encodeChars octets)) := by
  have hreturn : (wrap (Base64.encodeChars octets)).getLast? ≠ some '\r' := by
    intro hlast
    rcases mem_wrap (List.mem_of_getLast? hlast) with hmem | hbreak
    · exact (base64_char hmem).2.1 rfl
    · cases hbreak
  have hopen : afterOpening (block label octets ++ ends) =
      some (label ++ dashes ++ '\n' :: (wrap (Base64.encodeChars octets) ++
        '\n' :: (closing ++ label ++ dashes) ++ ends)) := by
    have hshape : block label octets ++ ends = opening ++ (label ++ dashes ++
        '\n' :: (wrap (Base64.encodeChars octets) ++ '\n' :: (closing ++ label ++ dashes) ++
          ends)) := by
      simp [block]
    rw [afterOpening, hshape, Text.after?_append]
  rw [block?, hopen]
  simp only [Option.bind_eq_bind, Option.bind_some, Text.after?_append, afterLineEnd]
  have hlines : wrap (Base64.encodeChars octets) ++ '\n' :: (closing ++ label ++ dashes) =
      wrap (Base64.encodeChars octets) ++ ['\n'] ++ (closing ++ label ++ dashes) := by
    simp
  rw [hlines, ← List.append_assoc (_ ++ _) (closing ++ label) dashes,
    getD_beforeLineEnd_dashes _ hends, List.append_assoc _ (closing ++ label) dashes,
    Text.before?_eq_some_iff.mpr rfl, Option.bind_some, beforeLineEnd_append_break hreturn]

/-- The bytes of a block are read back, and a line break may follow the block. -/
theorem decode?_block {label : String} {octets : List UInt8} (hne : octets ≠ [])
    {ends : List Char} (hends : ends = [] ∨ ends = ['\n']) :
    decode? label (String.ofList (block label.toList octets ++ ends)) = some octets := by
  have hfilled : Base64.encodeChars octets ≠ [] := by
    cases octets with
    | nil => exact absurd rfl hne
    | cons octet rest => exact Base64.encodeChars_ne_nil octet rest
  rw [decode?, String.toList_ofList, block?_block _ _ hends, Option.bind_some,
    joinLines?_wrap hfilled fun c hc => ⟨(base64_char hc).1, (base64_char hc).2.1⟩,
    Option.bind_some, Base64.decodeChars_encodeChars]

end Pem
end Key
end ChefAccess
