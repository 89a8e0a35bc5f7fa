import ChefAccess.Proofs.Base64
import ChefAccess.Proofs.Key.Signature
import ChefAccess.Proofs.Text.Chunk
import ChefAccess.Signing.Headers

/-!
# Signed headers can be checked

Whoever receives signed headers takes the pieces of the signature from the headers with
numbered names, and the signed fields from three other headers.  A name with a number is
told from the other names by its beginning.

Main definitions:

- {lit}`Http.Headers.values`: the values of the headers with one name.
- {lit}`Http.Headers.startingWith`: the headers whose names start with a word.

Main results:

- Theorem {lit}`Signing.startingWith_signed`: the pieces of a signature are the only headers
  with numbered names.
- Theorem {lit}`Signing.eq_of_sign_ok`: what successful signing did.
-/

namespace ChefAccess

/-! ## Looking up headers -/

namespace Http
namespace Headers

/-- The values of the headers with one name. -/
def values (headers : Headers) (name : String) : List String :=
  (headers.filter fun header => header.1 == name).map Prod.snd

/-- The headers whose names start with a word. -/
def startingWith (headers : Headers) (word : String) : Headers :=
  headers.filter fun header => word.toList.isPrefixOf header.1.toList

theorem values_append (front back : Headers) (name : String) :
    values (front ++ back) name = front.values name ++ back.values name := by
  simp [values]

theorem startingWith_append (front back : Headers) (word : String) :
    startingWith (front ++ back) word = front.startingWith word ++ back.startingWith word := by
  simp [startingWith]

/-- Headers whose names all start with a word have no values under a name that does not. -/
theorem values_eq_nil {headers : Headers} {word name : String}
    (hheaders : ∀ header ∈ headers, word.toList.isPrefixOf header.1.toList = true)
    (hname : word.toList.isPrefixOf name.toList = false) : headers.values name = [] := by
  have hnone : headers.filter (fun header => header.1 == name) = [] := by
    refine List.filter_eq_nil_iff.mpr ?_
    intro header hheader heq
    have hstart := hheaders header hheader
    rw [beq_iff_eq.mp heq, hname] at hstart
    cases hstart
  rw [values, hnone, List.map_nil]

end Headers
end Http

namespace Signing

/-! ## The pieces of a signature -/

/-- The beginning of the names of the headers with pieces of a signature. -/
def pieceStart : String :=
  "x-ops-authorization-"

/-- The headers with the pieces of a signature, numbered from one. -/
def pieceHeaders (pieces : List String) : Http.Headers :=
  (pieces.zipIdx 1).map fun piece => (pieceName piece.2, piece.1)

/-- A name with a number is the common beginning with the digits of the number. -/
theorem toList_pieceName (number : Nat) :
    (pieceName number).toList = pieceStart.toList ++ Nat.toDigits 10 number := by
  have hname : pieceName number = pieceStart ++ toString number := rfl
  rw [hname, String.toList_append, Nat.toString_eq_repr, Nat.toList_repr]

/-- A name with a number starts with the common beginning. -/
theorem pieceStart_pieceName (number : Nat) :
    pieceStart.toList.isPrefixOf (pieceName number).toList = true := by
  rw [toList_pieceName, List.isPrefixOf_iff_prefix]
  exact List.prefix_append _ _

/-- Different numbers give different names. -/
theorem pieceName_injective : Function.Injective pieceName := by
  intro number number' hname
  have hlists := congrArg String.toList hname
  rw [toList_pieceName, toList_pieceName] at hlists
  have hdigits := List.append_cancel_left hlists
  calc number = Nat.ofDigitChars 10 (Nat.toDigits 10 number) 0 :=
        Nat.ofDigitChars_ten_toDigits.symm
    _ = Nat.ofDigitChars 10 (Nat.toDigits 10 number') 0 := by rw [hdigits]
    _ = number' := Nat.ofDigitChars_ten_toDigits

/-- All headers with pieces have names with the common beginning. -/
theorem pieceStart_of_mem {pieces : List String} {header : String × String}
    (hheader : header ∈ pieceHeaders pieces) :
    pieceStart.toList.isPrefixOf header.1.toList = true := by
  obtain ⟨piece, _, rfl⟩ := List.mem_map.mp hheader
  exact pieceStart_pieceName piece.2

/-- The base64 text of a signature has pieces, which make it up. -/
theorem authorization_encode (signature : List UInt8) :
    ∃ pieces, authorization (Base64.encode signature) = pieceHeaders pieces ∧
      String.join pieces = Base64.encode signature := by
  obtain ⟨pieces, hpieces⟩ := Text.exists_chunks pieceWidth (Base64.isAscii_encode signature)
  refine ⟨pieces, ?_, Text.join_of_chunks hpieces⟩
  rw [authorization, hpieces, Option.getD_some, pieceHeaders]

/-! ## All headers -/

/-- No other header has a name with the common beginning. -/
theorem startingWith_fixedHeaders (context : Server.Context) (fields : Canonical) :
    (fixedHeaders context fields).startingWith pieceStart = [] := by
  have hnames : ∀ name ∈ (fixedHeaders context fields).map Prod.fst,
      pieceStart.toList.isPrefixOf name.toList = false := by
    simp only [fixedHeaders, List.map_cons, List.map_nil]
    decide
  refine List.filter_eq_nil_iff.mpr ?_
  intro header hheader
  simp [hnames header.1 (List.mem_map_of_mem hheader)]

/-- The pieces of a signature are the only headers whose names have the common beginning. -/
theorem startingWith_signed (context : Server.Context) (fields : Canonical)
    (pieces : List String) :
    Http.Headers.startingWith (fixedHeaders context fields ++ pieceHeaders pieces) pieceStart =
      pieceHeaders pieces := by
  rw [Http.Headers.startingWith_append, startingWith_fixedHeaders, List.nil_append]
  exact List.filter_eq_self.mpr fun header hheader => pieceStart_of_mem hheader

/-- Under any other name, only the headers before the pieces count. -/
theorem values_signed (context : Server.Context) (fields : Canonical) (pieces : List String)
    {name : String} (hname : pieceStart.toList.isPrefixOf name.toList = false) :
    Http.Headers.values (fixedHeaders context fields ++ pieceHeaders pieces) name =
      (fixedHeaders context fields).values name := by
  rw [Http.Headers.values_append,
    Http.Headers.values_eq_nil (fun header hheader => pieceStart_of_mem hheader) hname,
    List.append_nil]

/-- What successful signing did: the key signed the text of the fields, and the signature
follows the fixed headers in pieces. -/
theorem eq_of_sign_ok {context : Server.Context} {method resource : String}
    {time : Time.Instant} {body : List UInt8} {headers : Http.Headers}
    (hsign : sign context method resource time body = .ok headers) :
    ∃ signature,
      context.key.sign? (Text.Utf8.encode
        (canonical context method resource time body).render) = some signature ∧
      headers = fixedHeaders context (canonical context method resource time body) ++
        authorization (Base64.encode signature) := by
  unfold sign at hsign
  dsimp only at hsign
  split at hsign
  · cases hsign
  · rename_i signature hsignature
    split at hsign
    · exact ⟨signature, hsignature, (Except.ok.inj hsign).symm⟩
    · cases hsign

end Signing
end ChefAccess
