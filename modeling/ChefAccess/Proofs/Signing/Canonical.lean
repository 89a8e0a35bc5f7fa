import ChefAccess.Proofs.Signing.Success
import ChefAccess.Proofs.Text.Utf8
import ChefAccess.Proofs.Time.Timestamp

/-!
# No signed field is taken for another

The signed text has one line for each field, behind its label.  A field that has no line end
is read off its line, up to the name of the client, which is all that is left: whatever lines
and labels there are in the name, the text stands for one request only.  So does the padded
block of the text, and a signature that is accepted for one request is accepted for no other.

Main definitions:

- {lit}`Signing.Canonical.OneLine`: fields that take one line each, except for the name.
- {lit}`Signing.signedBlock?`: the padded block of a request.

Main results:

- Theorem {lit}`Signing.Canonical.eq_of_render_eq`: the signed text determines its fields.
- Theorem {lit}`Signing.oneLine_canonical`: the fields of requests take one line each.
- Theorem {lit}`Signing.Canonical.eq_of_accepts`: a signature is accepted for one request only.
- Theorem {lit}`Signing.signed_fields_law`: what requests with one block have in common.
-/

namespace ChefAccess
namespace Signing

/-! ## Lines -/

/-- A value on a line of its own, behind its label and before the rest of a text. -/
def line (label value : String) (rest : List Char) : List Char :=
  label.toList ++ (value.toList ++ '\n' :: rest)

/-- A value without a line end is read off its line. -/
theorem line_inj {label value value' : String} {rest rest' : List Char}
    (hvalue : '\n' ∉ value.toList) (hvalue' : '\n' ∉ value'.toList)
    (hlines : line label value rest = line label value' rest') :
    value = value' ∧ rest = rest' := by
  obtain ⟨hsame, hrest⟩ :=
    Text.eq_of_append_cons_eq hvalue hvalue' (List.append_cancel_left hlines)
  exact ⟨String.toList_inj.mp hsame, hrest⟩

namespace Canonical

/-- All fields but the name of the client take one line. -/
structure OneLine (fields : Canonical) : Prop where
  method : '\n' ∉ fields.method.toList
  hashedPath : '\n' ∉ fields.hashedPath.toList
  hashedBody : '\n' ∉ fields.hashedBody.toList
  timestamp : '\n' ∉ fields.timestamp.toList

/-- The signed text, line by line. -/
theorem toList_render (fields : Canonical) :
    fields.render.toList =
      line "Method:" fields.method (line "Hashed Path:" fields.hashedPath
        (line "X-Ops-Content-Hash:" fields.hashedBody (line "X-Ops-Timestamp:" fields.timestamp
          ("X-Ops-UserId:".toList ++ fields.username.toList)))) := by
  delta render
  simp [line]

/-- The signed text determines its fields. -/
theorem eq_of_render_eq {fields fields' : Canonical} (hlines : fields.OneLine)
    (hlines' : fields'.OneLine) (hrender : fields.render = fields'.render) :
    fields = fields' := by
  have htext := congrArg String.toList hrender
  rw [toList_render, toList_render] at htext
  obtain ⟨hmethod, htext⟩ := line_inj hlines.method hlines'.method htext
  obtain ⟨hpath, htext⟩ := line_inj hlines.hashedPath hlines'.hashedPath htext
  obtain ⟨hbody, htext⟩ := line_inj hlines.hashedBody hlines'.hashedBody htext
  obtain ⟨htimestamp, htext⟩ := line_inj hlines.timestamp hlines'.timestamp htext
  have husername := String.toList_inj.mp (List.append_cancel_left htext)
  cases fields
  cases fields'
  rw [Canonical.mk.injEq]
  exact ⟨hmethod, hpath, hbody, htimestamp, husername⟩

/-- With a line end in another field, the name of the client is not told from it. -/
example :
    render ⟨"GET", "", "", "now", "me\nX-Ops-UserId:you"⟩ =
      render ⟨"GET", "", "", "now\nX-Ops-UserId:me", "you"⟩ :=
  rfl

/-- A signature is accepted for one request only. -/
theorem eq_of_accepts {key : Key.Rsa} {fields fields' : Canonical} {signature : List UInt8}
    (hlines : fields.OneLine) (hlines' : fields'.OneLine)
    (haccepts : key.Accepts (Text.Utf8.encode fields.render) signature)
    (haccepts' : key.Accepts (Text.Utf8.encode fields'.render) signature) :
    fields = fields' :=
  eq_of_render_eq hlines hlines' (Text.Utf8.encode_injective (haccepts.message_unique haccepts'))

end Canonical

/-! ## Requests -/

/-- A method has no line end. -/
theorem newline_not_mem_of_isToken {text : List Char} (htoken : Http.isToken text = true) :
    '\n' ∉ text := by
  intro hmem
  simp only [Http.isToken, Bool.and_eq_true, List.all_eq_true] at htoken
  exact absurd (htoken.2 '\n' hmem) (by decide)

/-- A timestamp has no line end. -/
theorem newline_not_mem_format (time : Time.Instant) :
    '\n' ∉ (Time.Timestamp.format time).toList := by
  intro hmem
  exact absurd (Time.Timestamp.isDigit_or_of_mem_format hmem) (by decide)

/-- The fields of a request take one line each. -/
theorem oneLine_canonical (context : Server.Context) {method : String}
    (hmethod : Http.isToken method.toList = true) (resource : String) (time : Time.Instant)
    (body : List UInt8) : (canonical context method resource time body).OneLine where
  method := newline_not_mem_of_isToken hmethod
  hashedPath := Base64.newline_not_mem_encode _
  hashedBody := Base64.newline_not_mem_encode _
  timestamp := newline_not_mem_format time

/-- The padded block that is signed for a request, if the key has room for it. -/
def signedBlock? (context : Server.Context) (method resource : String) (time : Time.Instant)
    (body : List UInt8) : Option (List UInt8) :=
  Key.Rsa.block? context.key.width
    (Text.Utf8.encode (canonical context method resource time body).render)

/-- Successful signing hands out a signature that opens to the signed block. -/
theorem exists_signedBlock_of_sign_ok {context : Server.Context} {method resource : String}
    {time : Time.Instant} {body : List UInt8} {headers : Http.Headers}
    (hsign : sign context method resource time body = .ok headers) :
    ∃ signature block,
      headers = fixedHeaders context (canonical context method resource time body) ++
        authorization (Base64.encode signature) ∧
      signedBlock? context method resource time body = some block ∧
      Key.Octets.toNat signature ^ context.key.publicExponent % context.key.modulus =
        Key.Octets.toNat block := by
  obtain ⟨signature, hsignature, hheaders⟩ := eq_of_sign_ok hsign
  obtain ⟨block, hblock, -, hopens⟩ := Key.Rsa.block_of_sign? hsignature
  exact ⟨signature, block, hheaders, hblock, hopens⟩

/-- No field is taken for another.  Texts of fields that take one line each, whatever the names
of the clients are, determine these fields.  Two requests that were signed through one padded
block, with one key or with two, have the same method, paths and bodies with the same digests,
times within one second, and the same client. -/
theorem signed_fields_law :
    (∀ fields fields' : Canonical, fields.OneLine → fields'.OneLine →
      fields.render = fields'.render → fields = fields') ∧
    ∀ (context context' : Server.Context) (method method' resource resource' : String)
      (time time' : Time.Instant) (body body' : List UInt8) (headers headers' : Http.Headers),
      Http.isToken method.toList = true → Http.isToken method'.toList = true →
      sign context method resource time body = .ok headers →
      sign context' method' resource' time' body' = .ok headers' →
      signedBlock? context method resource time body =
        signedBlock? context' method' resource' time' body' →
      method = method' ∧
        Sha1.digest (Text.Utf8.encode ("/" ++ context.resourcePath resource)) =
          Sha1.digest (Text.Utf8.encode ("/" ++ context'.resourcePath resource')) ∧
        Sha1.digest (if signsBody method then body else []) =
          Sha1.digest (if signsBody method' then body' else []) ∧
        time.wholeSecond = time'.wholeSecond ∧
        context.username = context'.username := by
  refine ⟨fun _ _ => Canonical.eq_of_render_eq, ?_⟩
  intro context context' method method' resource resource' time time' body body' headers headers'
    hmethod hmethod' hsign hsign' hsame
  obtain ⟨-, block, -, hblock, -⟩ := exists_signedBlock_of_sign_ok hsign
  obtain ⟨-, block', -, hblock', -⟩ := exists_signedBlock_of_sign_ok hsign'
  obtain rfl : block = block' := Option.some.inj (hblock.symm.trans (hsame.trans hblock'))
  obtain ⟨padding, -, hpadded⟩ := Key.Rsa.exists_padding_of_block? hblock
  obtain ⟨padding', -, hpadded'⟩ := Key.Rsa.exists_padding_of_block? hblock'
  have hmessage := Key.Rsa.eq_of_paddedBlock_eq (hpadded.symm.trans hpadded')
  have hfields := Canonical.eq_of_render_eq
    (oneLine_canonical context hmethod resource time body)
    (oneLine_canonical context' hmethod' resource' time' body')
    (Text.Utf8.encode_injective hmessage)
  rw [canonical, canonical, Canonical.mk.injEq] at hfields
  obtain ⟨hmethods, hpaths, hbodies, htimes, husernames⟩ := hfields
  exact ⟨hmethods, Base64.encode_injective hpaths, Base64.encode_injective hbodies,
    Time.Timestamp.wholeSecond_of_format_eq htimes, husernames⟩

/-- Half a second later. -/
def littleLater : Time.Instant :=
  ⟨317000000000, 500000000, by decide⟩

/-- Two requests within one second have one block and can both be signed; a method that does not
sign its body leaves the bodies apart. -/
theorem signed_fields_law_littleLater :
    (∃ headers, sign wideContext "GET" "nodes" farAway [0x7B] = .ok headers) ∧
      (∃ headers, sign wideContext "GET" "nodes" littleLater [] = .ok headers) ∧
      signedBlock? wideContext "GET" "nodes" farAway [0x7B] =
        signedBlock? wideContext "GET" "nodes" littleLater [] ∧
      farAway ≠ littleLater ∧ farAway.wholeSecond = littleLater.wholeSecond := by
  have hinverts : wideContext.key.Inverts := Service.inverts_wideKey (by decide +kernel)
  have hwidth : wideContext.key.width = 176 := by decide +kernel
  have hformat : Time.Timestamp.format farAway = Time.Timestamp.format littleLater := by
    decide +kernel
  have hfields : canonical wideContext "GET" "nodes" farAway [0x7B] =
      canonical wideContext "GET" "nodes" littleLater [] := by
    rw [canonical, canonical, hformat]
    rfl
  have hsignable : Signable wideContext.key
      (canonical wideContext "GET" "nodes" farAway [0x7B]) := by
    rw [signable_canonical_iff, hwidth]
    decide +kernel
  obtain ⟨headers, hsign⟩ := (exists_sign_iff hinverts).mpr hsignable
  obtain ⟨headers', hsign'⟩ := (exists_sign_iff hinverts).mpr (hfields ▸ hsignable)
  have hblock : signedBlock? wideContext "GET" "nodes" farAway [0x7B] =
      signedBlock? wideContext "GET" "nodes" littleLater [] := by
    rw [signedBlock?, signedBlock?, hfields]
  obtain ⟨-, -, -, hsecond, -⟩ := signed_fields_law.2 wideContext wideContext "GET" "GET" "nodes"
    "nodes" farAway littleLater [0x7B] [] headers headers' (by decide) (by decide) hsign hsign'
    hblock
  exact ⟨⟨headers, hsign⟩, ⟨headers', hsign'⟩, hblock, by decide, hsecond⟩

end Signing
end ChefAccess
