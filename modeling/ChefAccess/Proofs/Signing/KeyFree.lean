import ChefAccess.Client.Basic
import ChefAccess.Proofs.InStep
import ChefAccess.Proofs.Key.Inverse
import ChefAccess.Proofs.Signing.Headers

/-!
# What of a request depends on the key

Two keys whose exponents undo each other, with moduli of the same width, sign the same
messages.  The requests that are signed with them have the same headers, except for the
characters of the signatures: the pieces of the signatures are as many, and as long.

Main definitions:

- {lit}`Key.Rsa.Interchangeable`: two keys are equal, or sign the same messages.
- {lit}`Http.Request.SameButSignature`: two requests differ in the pieces of the signature
  alone.

Main results:

- Theorem {lit}`Signing.sign_agree`: signing succeeds with both keys, or with neither.
- Theorem {lit}`Client.prepare_agree_of_keys`: so does making a request.
-/

namespace ChefAccess

/-! ## Keys -/

/-- Two keys may stand for each other: they are equal, or the exponents of each undo each other
and the moduli have the same width. -/
inductive Key.Rsa.Interchangeable : Key.Rsa → Key.Rsa → Prop
  | same (key : Key.Rsa) : Interchangeable key key
  | inverse {key key' : Key.Rsa} (hinverts : key.Inverts) (hinverts' : key'.Inverts)
      (hwidth : key.width = key'.width) : Interchangeable key key'

/-- Interchangeable keys give signatures of the same length for the same messages. -/
theorem Key.Rsa.Interchangeable.sign? {key key' : Key.Rsa} (hkeys : Interchangeable key key')
    (message : List UInt8) :
    Option.Rel (fun signature signature' => signature.length = signature'.length)
      (key.sign? message) (key'.sign? message) := by
  have hlength : (key.sign? message).map List.length = (key'.sign? message).map List.length := by
    cases hkeys with
    | same => rfl
    | inverse hinverts hinverts' hwidth =>
      rw [length_sign? hinverts, length_sign? hinverts', hwidth]
  cases hsign : key.sign? message with
  | none =>
    rw [hsign] at hlength
    rw [Option.map_eq_none_iff.mp hlength.symm]
    exact .none
  | some signature =>
    rw [hsign] at hlength
    obtain ⟨signature', hsign', hsame⟩ := Option.map_eq_some_iff.mp hlength.symm
    rw [hsign']
    exact .some hsame.symm

/-! ## Headers -/

namespace Http

/-- Two headers are the same but for the signature: they are equal, or they hold pieces of the
same length under the same number. -/
inductive SameHeader : String × String → String × String → Prop
  | same (header : String × String) : SameHeader header header
  | piece (number : Nat) {piece piece' : String} (hlength : piece.length = piece'.length) :
      SameHeader (Signing.pieceName number, piece) (Signing.pieceName number, piece')

/-- Two requests are the same but for the signature. -/
structure Request.SameButSignature (first second : Request) : Prop where
  method : first.method = second.method
  uri : first.uri = second.uri
  body : first.body = second.body
  headers : List.Forall₂ SameHeader first.headers second.headers

end Http

namespace Signing

/-- Pieces of the same lengths are numbered in the same way. -/
theorem pieceHeaders_rel {pieces pieces' : List (List Char)}
    (hpieces : List.Forall₂ (fun piece piece' => piece.length = piece'.length) pieces pieces')
    (start : Nat) :
    List.Forall₂ Http.SameHeader
      (((pieces.map String.ofList).zipIdx start).map fun piece => (pieceName piece.2, piece.1))
      (((pieces'.map String.ofList).zipIdx start).map fun piece =>
        (pieceName piece.2, piece.1)) := by
  induction hpieces generalizing start with
  | nil => exact .nil
  | cons hlength _ ih =>
    refine .cons (.piece start ?_) (ih (start + 1))
    rw [String.length_ofList, String.length_ofList, hlength]

/-- Signatures of the same length take up the same headers. -/
theorem authorization_rel {signature signature' : List UInt8}
    (hlength : signature.length = signature'.length) :
    List.Forall₂ Http.SameHeader (authorization (Base64.encode signature))
      (authorization (Base64.encode signature')) := by
  have htext : (Base64.encode signature).toList.length =
      (Base64.encode signature').toList.length := by
    rw [Base64.length_encode, Base64.length_encode, hlength]
  have hpieces := Text.chunksWith_rel (max pieceWidth 1) (Base64.encode signature').toList.length
    (Base64.isAscii_encode signature) (Base64.isAscii_encode signature') htext
  unfold authorization Text.chunks
  rw [htext]
  generalize Text.chunksWith _ _ (Base64.encode signature).toList = pieces at hpieces ⊢
  generalize Text.chunksWith _ _ (Base64.encode signature').toList = pieces' at hpieces ⊢
  cases hpieces with
  | none => exact .nil
  | some hpairs => exact pieceHeaders_rel hpairs 1

/-- With interchangeable keys, signing succeeds in both cases or fails in the same way, and the
headers differ in the pieces of the signature alone. -/
theorem sign_agree (context : Server.Context) {key key' : Key.Rsa}
    (hkeys : key.Interchangeable key') (method resource : String) (time : Time.Instant)
    (body : List UInt8) :
    Agree (List.Forall₂ Http.SameHeader) (sign { context with key } method resource time body)
      (sign { context with key := key' } method resource time body) := by
  unfold sign
  dsimp only
  have hfields : canonical { context with key } method resource time body =
      canonical { context with key := key' } method resource time body :=
    rfl
  rw [hfields]
  have hsign := hkeys.sign? (Text.Utf8.encode
    (canonical { context with key := key' } method resource time body).render)
  generalize key.sign? _ = signature at hsign ⊢
  generalize key'.sign? _ = signature' at hsign ⊢
  cases hsign with
  | none => exact .error _
  | some hlength =>
    dsimp only
    split
    · refine .ok (List.rel_append ?_ (authorization_rel hlength))
      exact List.forall₂_same.mpr fun header _ => .same header
    · exact .error _

end Signing

/-! ## Requests -/

/-- Clients whose contexts differ in interchangeable keys alone make requests that differ in
their signatures alone. -/
theorem Client.prepare_agree_of_keys {first second : Client} {key : Key.Rsa}
    (hcontext : first.context = { second.context with key })
    (hkeys : key.Interchangeable second.context.key) (hsigned : first.signedAt = second.signedAt)
    (timeOfDay : Time.Instant) (command : Command) :
    Agree Http.Request.SameButSignature (first.prepare timeOfDay command)
      (second.prepare timeOfDay command) := by
  have huri : first.uri command = second.uri command := by
    unfold Client.uri
    rw [hcontext]
    rfl
  have hsign := Signing.sign_agree second.context hkeys command.verb.method command.resource
    (second.signedAt.getD timeOfDay) command.body
  unfold prepare
  rw [hcontext, huri, hsigned]
  generalize Signing.sign { second.context with key } _ _ _ _ = headers at hsign ⊢
  have hsame : { second.context with key := second.context.key } = second.context := rfl
  rw [hsame] at hsign
  generalize Signing.sign second.context _ _ _ _ = headers' at hsign ⊢
  cases hsign with
  | error e => exact .error _
  | ok hheaders =>
    dsimp only
    split
    · exact .error _
    · exact .ok ⟨rfl, rfl, rfl, hheaders⟩

end ChefAccess
