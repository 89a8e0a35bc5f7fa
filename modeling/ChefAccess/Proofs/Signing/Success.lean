import ChefAccess.Proofs.Service.Confidential
import ChefAccess.Proofs.Signing.Headers
import Mathlib.Algebra.Order.Floor.Div

/-!
# When signing succeeds

Signing fails in two ways: the signed text does not fit the key, or the name of the client
cannot be the value of a header.  The signed text holds digests of the path and the body, which
have one length, so that neither matters for success.

Main definitions:

- {lit}`Signing.Signable`: signed fields that fit a key, with a name that can be sent.

Main results:

- Theorem {lit}`Signing.length_render_canonical`: how long the signed text is.
- Theorem {lit}`Signing.nodup_signed`: no header is set twice.
- Theorem {lit}`Signing.sign_law`: when signing succeeds, and how many headers it sets.
-/

namespace ChefAccess
namespace Signing

variable {context : Server.Context} {method resource : String} {time : Time.Instant}
  {body : List UInt8} {headers : Http.Headers}

/-! ## The length of the signed text -/

/-- The labels take seventy-one bytes. -/
theorem length_render (fields : Canonical) :
    (Text.Utf8.encode fields.render).length =
      71 + (Text.Utf8.encode fields.method).length +
        (Text.Utf8.encode fields.hashedPath).length +
        (Text.Utf8.encode fields.hashedBody).length +
        (Text.Utf8.encode fields.timestamp).length +
        (Text.Utf8.encode fields.username).length := by
  have hmethod : (Text.Utf8.encode "Method:").length = 7 := by decide +kernel
  have hpath : (Text.Utf8.encode "\nHashed Path:").length = 13 := by decide +kernel
  have hbody : (Text.Utf8.encode "\nX-Ops-Content-Hash:").length = 20 := by decide +kernel
  have htime : (Text.Utf8.encode "\nX-Ops-Timestamp:").length = 17 := by decide +kernel
  have hname : (Text.Utf8.encode "\nX-Ops-UserId:").length = 14 := by decide +kernel
  -- the long labels make the equation of the text slow to state, so it is opened by hand
  delta Canonical.render
  simp only [Text.Utf8.encode_append, List.length_append, hmethod, hpath, hbody, htime, hname]
  omega

/-- A digest takes twenty-eight bytes. -/
theorem length_encode_digest (bytes : List UInt8) :
    (Text.Utf8.encode (digest bytes)).length = 28 := by
  rw [digest, Text.Utf8.length_encode_of_oneByte (Base64.isAscii_encode _),
    Base64.length_encode, Sha1.length_digest]

/-- The length of the signed text depends on the method, the time and the client alone. -/
theorem length_render_canonical (context : Server.Context) (method resource : String)
    (time : Time.Instant) (body : List UInt8) :
    (Text.Utf8.encode (canonical context method resource time body).render).length =
      127 + (Text.Utf8.encode method).length +
        (Text.Utf8.encode (Time.Timestamp.format time)).length +
        (Text.Utf8.encode context.username).length := by
  rw [length_render]
  simp only [canonical, digestText, length_encode_digest]
  omega

/-! ## Success and failure -/

/-- Fields can be signed with a key: their text fits the key with eleven bytes to spare, and the
name of the client can be the value of a header. -/
structure Signable (key : Key.Rsa) (fields : Canonical) : Prop where
  fits : (Text.Utf8.encode fields.render).length + 11 ≤ key.width
  named : ∀ b ∈ Text.Utf8.encode fields.username, b = 9 ∨ 32 ≤ b ∧ b ≠ 127

/-- Whether the fields of a request can be signed depends on the method, the time and the client
alone. -/
theorem signable_canonical_iff (key : Key.Rsa) (context : Server.Context)
    (method resource : String) (time : Time.Instant) (body : List UInt8) :
    Signable key (canonical context method resource time body) ↔
      127 + (Text.Utf8.encode method).length +
        (Text.Utf8.encode (Time.Timestamp.format time)).length +
        (Text.Utf8.encode context.username).length + 11 ≤ key.width ∧
      ∀ b ∈ Text.Utf8.encode context.username, b = 9 ∨ 32 ≤ b ∧ b ≠ 127 := by
  rw [← length_render_canonical context method resource time body]
  exact ⟨fun hfields => ⟨hfields.fits, hfields.named⟩, fun hfields => ⟨hfields.1, hfields.2⟩⟩

/-- The bytes that a header can hold, spelled out. -/
theorem isValue_iff (bytes : List UInt8) :
    Http.isValue bytes = true ↔ ∀ b ∈ bytes, b = 9 ∨ 32 ≤ b ∧ b ≠ 127 := by
  simp [Http.isValue, Http.isValueByte, or_comm]

/-- The two ends of signing. -/
theorem sign_cases (context : Server.Context) (method resource : String) (time : Time.Instant)
    (body : List UInt8) :
    let fields := canonical context method resource time body
    (∃ signature, context.key.sign? (Text.Utf8.encode fields.render) = some signature ∧
      Http.isValue (Text.Utf8.encode context.username) = true ∧
      sign context method resource time body =
        .ok (fixedHeaders context fields ++ authorization (Base64.encode signature))) ∨
    ((∀ signature, context.key.sign? (Text.Utf8.encode fields.render) = some signature →
        Http.isValue (Text.Utf8.encode context.username) = false) ∧
      ∃ e, sign context method resource time body = .error e ∧ e.kind = .signingFailed) := by
  intro fields
  cases hsign : context.key.sign? (Text.Utf8.encode fields.render) with
  | none =>
    refine Or.inr ⟨by simp, (Error.signingFailed "failed to sign request").withExternal, ?_, rfl⟩
    rw [sign, hsign]
  | some signature =>
    cases hvalue : Http.isValue (Text.Utf8.encode context.username) with
    | false =>
      refine Or.inr ⟨fun _ _ => rfl, (Error.signingFailed "invalid header value").withExternal,
        ?_, rfl⟩
      rw [sign, hsign]
      exact if_neg (by simp [canonical, hvalue])
    | true =>
      refine Or.inl ⟨signature, rfl, rfl, ?_⟩
      rw [sign, hsign]
      exact if_pos hvalue

/-- With exponents that undo each other, the fields that can be signed are those with a
signature and a name that can be sent. -/
theorem signable_iff (hinverts : context.key.Inverts) :
    Signable context.key (canonical context method resource time body) ↔
      (∃ signature, context.key.sign? (Text.Utf8.encode
        (canonical context method resource time body).render) = some signature) ∧
      Http.isValue (Text.Utf8.encode context.username) = true := by
  rw [Key.Rsa.exists_sign?_iff hinverts, isValue_iff]
  exact ⟨fun hfields => ⟨hfields.fits, hfields.named⟩, fun hfields => ⟨hfields.1, hfields.2⟩⟩

/-- With exponents that undo each other, signing succeeds for the fields that can be signed. -/
theorem exists_sign_iff (hinverts : context.key.Inverts) :
    (∃ headers, sign context method resource time body = .ok headers) ↔
      Signable context.key (canonical context method resource time body) := by
  rw [signable_iff hinverts]
  rcases sign_cases context method resource time body with
    ⟨signature, hsign, hvalue, hheaders⟩ | ⟨hnot, e, herror, -⟩
  · simp [hsign, hvalue, hheaders]
  · rw [herror]
    constructor
    · rintro ⟨headers, hheaders⟩
      cases hheaders
    · rintro ⟨⟨signature, hsign⟩, hvalue⟩
      rw [hnot signature hsign] at hvalue
      cases hvalue

/-- Signing that does not succeed fails with one kind of error. -/
theorem kind_of_not_signable (hinverts : context.key.Inverts)
    (hnot : ¬ Signable context.key (canonical context method resource time body)) :
    ∃ e, sign context method resource time body = .error e ∧ e.kind = .signingFailed := by
  rcases sign_cases context method resource time body with
    ⟨signature, -, -, hheaders⟩ | ⟨-, hfails⟩
  · exact absurd ((exists_sign_iff hinverts).mp ⟨_, hheaders⟩) hnot
  · exact hfails

/-! ## The headers -/

/-- The pieces of a signature have different names. -/
theorem nodup_pieceHeaders (pieces : List String) :
    ((pieceHeaders pieces).map Prod.fst).Nodup := by
  have hnames : (pieceHeaders pieces).map Prod.fst =
      (List.range' 1 pieces.length).map pieceName := by
    rw [pieceHeaders, List.map_map, ← List.zipIdx_map_snd, List.map_map]
    rfl
  rw [hnames]
  exact (List.nodup_range' 1).map pieceName_injective

/-- No header is set twice. -/
theorem nodup_signed (context : Server.Context) (fields : Canonical) (pieces : List String) :
    ((fixedHeaders context fields ++ pieceHeaders pieces).map Prod.fst).Nodup := by
  have hfixed : ((fixedHeaders context fields).map Prod.fst).Nodup := by
    simp only [fixedHeaders, List.map_cons, List.map_nil]
    decide
  rw [List.map_append, List.nodup_append']
  refine ⟨hfixed, nodup_pieceHeaders pieces, ?_⟩
  intro name hbefore hpiece
  obtain ⟨header, hheader, rfl⟩ := List.mem_map.mp hbefore
  obtain ⟨piece, hmem, hname⟩ := List.mem_map.mp hpiece
  -- a name with a number has the common beginning, and no name before the pieces has it
  have hstart := pieceStart_of_mem hmem
  rw [hname] at hstart
  have hnone := startingWith_fixedHeaders context fields
  exact List.filter_eq_nil_iff.mp hnone header hheader hstart

/-- A signature takes as many headers as sixty goes into the length of its text, rounded up. -/
theorem authorization_eq (signature : List UInt8) :
    ∃ pieces, authorization (Base64.encode signature) = pieceHeaders pieces ∧
      pieces.length = (4 * (signature.length ⌈/⌉ 3)) ⌈/⌉ 60 := by
  have hone := Base64.isAscii_encode signature
  obtain ⟨pieces, hpieces⟩ := Text.exists_chunks pieceWidth hone
  refine ⟨pieces, ?_, ?_⟩
  · rw [authorization, hpieces, Option.getD_some, pieceHeaders]
  · have hcount := Text.length_of_chunks (by decide) hpieces
    rw [Text.byteSize_of_oneByte hone, Base64.length_encode, pieceWidth] at hcount
    rw [hcount, Nat.ceilDiv_eq_add_pred_div, Nat.ceilDiv_eq_add_pred_div]
    omega

/-- Successful signing sets nine headers and one for each piece of the signature, under
different names. -/
theorem headers_of_sign_ok (hsign : sign context method resource time body = .ok headers) :
    headers.length = 9 + (4 * (context.key.width ⌈/⌉ 3)) ⌈/⌉ 60 ∧
      (headers.map Prod.fst).Nodup := by
  obtain ⟨signature, hsignature, rfl⟩ := eq_of_sign_ok hsign
  obtain ⟨pieces, hpieces, hcount⟩ := authorization_eq signature
  obtain ⟨-, -, hwidth, -⟩ := Key.Rsa.block_of_sign? hsignature
  rw [hpieces]
  refine ⟨?_, nodup_signed context _ pieces⟩
  rw [List.length_append, length_fixedHeaders, pieceHeaders, List.length_map, List.length_zipIdx,
    hcount, hwidth]

/-! ## The law of signing -/

/-- With a key whose exponents undo each other, signing succeeds exactly if the signed text
fits the key and the name of the client can be sent; otherwise there is one kind of error, and
no header.  Neither the path nor the body matters for success, and the body matters for the
headers of two methods only.  The headers are nine and the pieces of the signature, and their
names differ. -/
theorem sign_law {context : Server.Context} (hinverts : context.key.Inverts) (method : String)
    (time : Time.Instant) :
    (∀ resource body,
      ((∃ headers, sign context method resource time body = .ok headers) ↔
        Signable context.key (canonical context method resource time body)) ∧
      (¬ Signable context.key (canonical context method resource time body) →
        ∃ e, sign context method resource time body = .error e ∧ e.kind = .signingFailed) ∧
      ∀ headers, sign context method resource time body = .ok headers →
        headers.length = 9 + (4 * (context.key.width ⌈/⌉ 3)) ⌈/⌉ 60 ∧
          (headers.map Prod.fst).Nodup) ∧
    (∀ resource resource' body body',
      (∃ headers, sign context method resource time body = .ok headers) ↔
        ∃ headers, sign context method resource' time body' = .ok headers) ∧
    (method ≠ "POST" → method ≠ "PUT" → ∀ resource body body',
      sign context method resource time body = sign context method resource time body') := by
  refine ⟨?_, ?_, ?_⟩
  · intro resource body
    exact ⟨exists_sign_iff hinverts, kind_of_not_signable hinverts, fun _ => headers_of_sign_ok⟩
  · intro resource resource' body body'
    rw [exists_sign_iff hinverts, exists_sign_iff hinverts, signable_canonical_iff,
      signable_canonical_iff]
  · intro hpost hput resource body body'
    have hbody : ∀ body, canonical context method resource time body =
        canonical context method resource time [] := by
      intro body
      simp [canonical, signsBody, hpost, hput]
    rw [sign, sign, hbody body, hbody body']

/-- A client whose name takes more bytes than characters, with a wide key. -/
def wideContext : Server.Context where
  serverId := "east"
  baseUri := "https://chef.example/"
  organization := "main"
  username := "zoë"
  key := Service.wideKey 5 4
  version := .v12
  kind := .zone
  roles := []
  regions := []
  dataBagNames := .empty

/-- A time in a year of five digits. -/
def farAway : Time.Instant :=
  ⟨317000000000, 0, by decide⟩

/-- The wide key has room for a request of that client at that time, whatever its path and its
body; the request has thirteen headers. -/
theorem sign_law_farAway :
    wideContext.key.Inverts ∧
      Signable wideContext.key (canonical wideContext "POST" "nodes" farAway [0x7B, 0x7D]) ∧
      (∃ headers, sign wideContext "POST" "nodes" farAway [0x7B, 0x7D] = .ok headers ∧
        headers.length = 13 ∧ (headers.map Prod.fst).Nodup) ∧
      ∃ headers, sign wideContext "POST" "roles" farAway [] = .ok headers := by
  have hinverts : wideContext.key.Inverts := Service.inverts_wideKey (by decide +kernel)
  have hwidth : wideContext.key.width = 176 := by decide +kernel
  have hsignable : Signable wideContext.key
      (canonical wideContext "POST" "nodes" farAway [0x7B, 0x7D]) := by
    rw [signable_canonical_iff, hwidth]
    decide +kernel
  obtain ⟨hcase, hpath, -⟩ := sign_law hinverts "POST" farAway
  obtain ⟨hsuccess, -, hheaders⟩ := hcase "nodes" [0x7B, 0x7D]
  obtain ⟨headers, hsign⟩ := hsuccess.mpr hsignable
  obtain ⟨hlength, hnodup⟩ := hheaders headers hsign
  rw [hwidth] at hlength
  exact ⟨hinverts, hsignable, ⟨headers, hsign, hlength, hnodup⟩,
    (hpath "nodes" "roles" [0x7B, 0x7D] []).mp ⟨headers, hsign⟩⟩

end Signing
end ChefAccess
