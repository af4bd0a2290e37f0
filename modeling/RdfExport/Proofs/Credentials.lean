import RdfExport.Endpoint

/-!
# RdfExport.Proofs.Credentials

Who asks. A host may hold a name and a password; a request tells them in a header field, from which
they can be read, and not in its URL.

* `Base64.decode`, `Base64.decode_encode`: octets from their digits.
* `Endpoint.request_tells_who`: what a request tells of the user information of its URL.
-/

namespace RdfExport

namespace Base64

def value (c : Char) : Nat :=
  if 'A' ≤ c ∧ c ≤ 'Z' then c.toNat - 'A'.toNat
  else if 'a' ≤ c ∧ c ≤ 'z' then c.toNat - 'a'.toNat + 26
  else if '0' ≤ c ∧ c ≤ '9' then c.toNat - '0'.toNat + 52
  else if c = '+' then 62
  else 63

/-- The octets of digits. Nothing is read after padding. -/
def decode : List Char → Bytes
  | a :: b :: c :: d :: rest =>
    UInt8.ofNat (value a * 4 + value b / 16) ::
      if c = '=' then []
      else UInt8.ofNat (value b % 16 * 16 + value c / 4) ::
        if d = '=' then [] else UInt8.ofNat (value c % 4 * 64 + value d) :: decode rest
  | _ => []

theorem value_digit : ∀ n < 64, value (digit n) = n := by decide +kernel

theorem digit_ne_padding : ∀ n < 64, digit n ≠ '=' := by decide +kernel

theorem first_octet (a : UInt8) {low : Nat} (hlow : low < 16) :
    UInt8.ofNat (value (digit (a.toNat / 4)) * 4 +
      value (digit (a.toNat % 4 * 16 + low)) / 16) = a := by
  have ha := a.toNat_lt
  rw [value_digit _ (by omega), value_digit _ (by omega),
    show a.toNat / 4 * 4 + (a.toNat % 4 * 16 + low) / 16 = a.toNat by omega, UInt8.ofNat_toNat]

theorem second_octet (b : UInt8) {high low : Nat} (hhigh : high < 4) (hlow : low < 4) :
    UInt8.ofNat (value (digit (high * 16 + b.toNat / 16)) % 16 * 16 +
      value (digit (b.toNat % 16 * 4 + low)) / 4) = b := by
  have hb := b.toNat_lt
  rw [value_digit _ (by omega), value_digit _ (by omega),
    show (high * 16 + b.toNat / 16) % 16 * 16 + (b.toNat % 16 * 4 + low) / 4 = b.toNat by omega,
    UInt8.ofNat_toNat]

theorem third_octet (c : UInt8) {high : Nat} (hhigh : high < 16) :
    UInt8.ofNat (value (digit (high * 4 + c.toNat / 64)) % 4 * 64 +
      value (digit (c.toNat % 64))) = c := by
  have hc := c.toNat_lt
  rw [value_digit _ (by omega), value_digit _ (by omega),
    show (high * 4 + c.toNat / 64) % 4 * 64 + c.toNat % 64 = c.toNat by omega, UInt8.ofNat_toNat]

theorem decode_encode (bytes : Bytes) : decode (encode bytes) = bytes := by
  fun_induction encode bytes with
  | case1 => rfl
  | case2 a =>
    have hfirst := @first_octet a 0 (by decide)
    rw [Nat.add_zero] at hfirst
    rw [decode, hfirst, if_pos rfl]
  | case3 a b =>
    have hb := b.toNat_lt
    have hsecond := @second_octet b (a.toNat % 4) 0 (Nat.mod_lt _ (by decide)) (by decide)
    rw [Nat.add_zero] at hsecond
    rw [decode, first_octet a (by omega), if_neg (digit_ne_padding _ (by omega)), hsecond,
      if_pos rfl]
  | case4 a b c rest ih =>
    have hb := b.toNat_lt
    have hc := c.toNat_lt
    rw [decode, first_octet a (by omega), if_neg (digit_ne_padding _ (by omega)),
      second_octet b (by omega) (by omega), if_neg (digit_ne_padding _ (by omega)),
      third_octet c (by omega), ih]

end Base64

/-- **A request tells who asks in a header field.** If the URL of an operation has credentials,
they are told in the one header field that authorizes, as the digits of the name, a colon and the
password, and the URL of the request names nobody. If it has none, no field authorizes and the URL
is as it was. -/
theorem Endpoint.request_tells_who {e : Endpoint} {op : Operation} {request : Http.Request}
    (h : e.request op = .ok request) :
    ∃ url, Net.Url.parse (e.parts op).2.1 = .ok url ∧
      let fields := request.headers.filter (·.1 = "authorization")
      match url.authority.user.credentials? with
      | none => fields = [] ∧ request.url = url
      | some (name, password) =>
        request.url = { url with authority := { url.authority with user := ⟨[], none⟩ } } ∧
          ∃ digits, fields = [("authorization", "Basic " ++ String.ofList digits)] ∧
            Base64.decode digits = Utf8.ofString (name ++ ":" ++ password.getD "") := by
  unfold Endpoint.request at h
  cases hurl : Net.Url.parse (e.parts op).2.1 with
  | error fault => simp [hurl] at h
  | ok url =>
    simp only [hurl, Except.ok.injEq] at h
    subst h
    -- No field of the request but the first may authorize.
    have hothers : ((("accept", op.kind.accept) :: (e.parts op).2.2.2) ++
        if e.trailerDiagnostics then [("te", "trailers")] else []).filter
          (·.1 = "authorization") = [] := by
      cases op <;> cases e.trailerDiagnostics <;> rfl
    refine ⟨url, rfl, ?_⟩
    rw [List.append_assoc, List.filter_append, hothers, List.append_nil]
    cases hwho : url.authority.user.credentials? with
    | none => exact ⟨rfl, by rw [Net.Url.withoutUser, Net.UserInfo.kept_of_none hwho]⟩
    | some who =>
      refine ⟨?_, _, rfl, Base64.decode_encode _⟩
      rw [Net.Url.withoutUser, Net.UserInfo.kept_of_isSome (by rw [hwho]; rfl)]

end RdfExport
