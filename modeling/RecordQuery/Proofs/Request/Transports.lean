import RecordQuery.Proofs.Text.Base64
import RecordQuery.Request

/-! The ways a document travels in a request: as text, as encoded text, in the body. All of them carry the same
document, and the later ones do not matter to an earlier one. Encoded text is decoded only if it is an encoding in
one alphabet throughout. -/
namespace RecordQuery
set_option autoImplicit false

namespace Text

/-! ## Characters as bytes -/

theorem flatMap_utf8EncodeChar_ascii (cs : List Char) (h : ∀ c ∈ cs, c.toNat < 128) :
    cs.flatMap String.utf8EncodeChar = cs.map Char.toUInt8 := by
  induction cs with
  | nil => rfl
  | cons c cs ih =>
    obtain ⟨hc, hcs⟩ := List.forall_mem_cons.mp h
    have hval : c.val ≤ 127 := UInt32.le_iff_toNat_le.mpr (Nat.le_of_lt_succ hc)
    have hsize := Char.utf8Size_eq_one_iff.mpr hval
    rw [List.flatMap_cons, ih hcs, String.utf8EncodeChar_eq_singleton hsize]
    rfl

theorem flatMap_utf8EncodeChar_inj (cs ds : List Char)
    (h : cs.flatMap String.utf8EncodeChar = ds.flatMap String.utf8EncodeChar) : cs = ds := by
  have hbytes : (String.ofList cs).toByteArray = (String.ofList ds).toByteArray := by
    rw [String.toByteArray_ofList, String.toByteArray_ofList]
    exact congrArg List.toByteArray h
  exact String.ofList_inj.mp (String.toByteArray_inj.mp hbytes)

theorem fromUTF8?_toUTF8 (text : String) : String.fromUTF8? ⟨text.toUTF8.data.toList.toArray⟩ = some text := by
  have hbytes : (⟨text.toUTF8.data.toList.toArray⟩ : ByteArray) = text.toByteArray := by
    rw [Array.toArray_toList]
    rfl
  rw [hbytes, String.fromUTF8?, dif_pos text.isValidUTF8]
  rfl

/-! ## Blanks around an encoding -/

theorem trimBlank_append (before core after : List Char) (hbefore : ∀ c ∈ before, isBlank c = true)
    (hafter : ∀ c ∈ after, isBlank c = true) (hcore : ∀ c ∈ core, isBlank c = false) :
    trimBlank (before ++ core ++ after) = core := by
  have hdrop : ∀ (cs rest : List Char), (∀ c ∈ cs, isBlank c = false) → (∀ c ∈ rest, isBlank c = true) →
      (cs ++ rest).dropWhile isBlank = if cs = [] then [] else cs ++ rest := by
    intro cs rest hcs hrest
    cases cs with
    | nil => exact List.dropWhile_eq_nil_iff.mpr hrest
    | cons c cs =>
      have hc : ¬isBlank c = true := by rw [hcs c List.mem_cons_self]; exact nofun
      rw [List.cons_append, List.dropWhile_cons_of_neg hc, if_neg nofun]
  rw [trimBlank, List.append_assoc, List.dropWhile_append_of_pos hbefore, hdrop core after hcore hafter]
  by_cases hnil : core = []
  · rw [if_pos hnil, hnil]
    rfl
  · have hreverse : ∀ c ∈ core.reverse, isBlank c = false := fun c hc => hcore c (List.mem_reverse.mp hc)
    have hhead := hdrop core.reverse [] hreverse nofun
    rw [List.append_nil, if_neg (List.reverse_ne_nil_iff.mpr hnil)] at hhead
    rw [if_neg hnil, List.reverse_append,
      List.dropWhile_append_of_pos fun c hc => hafter c (List.mem_reverse.mp hc), hhead, List.reverse_reverse]

namespace Base64Alphabet

variable (a : Base64Alphabet)

theorem encode_spec (bytes : List UInt8) :
    ∀ c ∈ a.encode bytes, c.toNat < 128 ∧ isBlank c = false ∧ c ≠ '=' := by
  intro c hc
  obtain ⟨n, hn, rfl⟩ := List.mem_map.mp hc
  obtain ⟨hvalue, hascii, hblank⟩ := a.symbol_spec n (sextets_lt bytes n hn)
  refine ⟨hascii, hblank, fun hpad => ?_⟩
  rw [hpad] at hvalue
  exact absurd (a.sextet?_padding.symm.trans hvalue) nofun

theorem rdropWhile_padded (bytes : List UInt8) (k : Nat) :
    (a.encode bytes ++ List.replicate k '=').rdropWhile (· == '=') = a.encode bytes := by
  induction k with
  | zero =>
    rw [List.replicate_zero, List.append_nil, List.rdropWhile_eq_self_iff]
    intro hne
    rw [beq_iff_eq]
    exact (a.encode_spec bytes _ (List.getLast_mem hne)).2.2
  | succ k ih => rw [List.replicate_succ', ← List.append_assoc, List.rdropWhile_concat_pos _ _ _ rfl, ih]

theorem padded_spec (bytes : List UInt8) (k : Nat) :
    ∀ c ∈ a.encode bytes ++ List.replicate k '=', c.toNat < 128 ∧ isBlank c = false := by
  intro c hc
  cases List.mem_append.mp hc with
  | inl hmem =>
    obtain ⟨hascii, hblank, -⟩ := a.encode_spec bytes c hmem
    exact ⟨hascii, hblank⟩
  | inr hmem =>
    rw [List.eq_of_mem_replicate hmem]
    decide

theorem utf8_padded (bytes : List UInt8) (k : Nat) :
    (a.encode bytes ++ List.replicate k '=').flatMap String.utf8EncodeChar =
      a.code bytes ++ List.replicate k base64Padding := by
  have hascii := fun c hc => (a.padded_spec bytes k c hc).1
  rw [flatMap_utf8EncodeChar_ascii _ hascii, List.map_append, List.map_replicate]
  rfl

theorem decode_utf8_eq_ok (cs : List Char) (bytes : List UInt8) :
    a.decode (cs.flatMap String.utf8EncodeChar) = .ok bytes ↔
      ∃ k ≤ paddingRoom bytes.length, cs = a.encode bytes ++ List.replicate k '=' := by
  rw [decode_eq_ok]
  refine exists_congr fun k => and_congr_right fun _ => ?_
  rw [← utf8_padded]
  exact ⟨flatMap_utf8EncodeChar_inj _ _, congrArg _⟩

end Base64Alphabet

end Text

open Text

/-! ## Encodings in either alphabet -/

/-- Bytes are decoded from their encoding in one alphabet, with no more padding than fills its last group. The
alphabet tried first takes nothing that stands for other bytes in the one tried next. -/
theorem decodeBytes_eq_ok (cs : List Char) (bytes : List UInt8) :
    decodeBytes (cs.flatMap String.utf8EncodeChar) = .ok bytes ↔
      ∃ a : Base64Alphabet, ∃ k ≤ paddingRoom bytes.length, cs = a.encode bytes ++ List.replicate k '=' := by
  rw [decodeBytes]
  constructor
  · intro h
    split at h
    · rename_i hstandard
      obtain rfl := Except.ok.inj h
      exact ⟨.standard, (Base64Alphabet.standard.decode_utf8_eq_ok cs _).mp hstandard⟩
    · split at h
      · rename_i hurl
        obtain rfl := Except.ok.inj h
        exact ⟨.urlSafe, (Base64Alphabet.urlSafe.decode_utf8_eq_ok cs _).mp hurl⟩
      · exact absurd h nofun
  · rintro ⟨a, k, hk, rfl⟩
    have ha := (a.decode_utf8_eq_ok _ bytes).mpr ⟨k, hk, rfl⟩
    cases hstandard : Base64Alphabet.standard.decode
        ((a.encode bytes ++ List.replicate k '=').flatMap String.utf8EncodeChar) with
    | ok more =>
      obtain ⟨l, -, hmore⟩ := (Base64Alphabet.standard.decode_utf8_eq_ok _ more).mp hstandard
      have hencode : a.encode bytes = Base64Alphabet.standard.encode more := by
        rw [← a.rdropWhile_padded bytes k, hmore, Base64Alphabet.rdropWhile_padded]
      rw [a.code_inj _ bytes more (congrArg (List.map Char.toUInt8) hencode)]
    | error e =>
      cases a with
      | standard => exact absurd (hstandard.symm.trans ha) nofun
      | urlSafe => simp only [ha]

/-- The encodings of bytes: in either alphabet, without padding or with all of it. -/
inductive IsEncoding (bytes : List UInt8) : List Char → Prop where
  | bare (a : Base64Alphabet) : IsEncoding bytes (a.encode bytes)
  | padded (a : Base64Alphabet) :
    IsEncoding bytes (a.encode bytes ++ List.replicate (paddingRoom bytes.length) '=')

theorem IsEncoding.eq_padded {bytes : List UInt8} {core : List Char} (h : IsEncoding bytes core) :
    ∃ a : Base64Alphabet, ∃ k ≤ paddingRoom bytes.length, core = a.encode bytes ++ List.replicate k '=' := by
  cases h with
  | bare a => exact ⟨a, 0, Nat.zero_le _, (List.append_nil _).symm⟩
  | padded a => exact ⟨a, _, Nat.le_refl _, rfl⟩

theorem IsEncoding.not_blank {bytes : List UInt8} {core : List Char} (h : IsEncoding bytes core) :
    ∀ c ∈ core, isBlank c = false := by
  obtain ⟨a, k, -, rfl⟩ := h.eq_padded
  exact fun c hc => (a.padded_spec bytes k c hc).2

theorem decodeText_of_isEncoding {text : String} {before core after : List Char}
    (hbefore : ∀ c ∈ before, isBlank c = true) (hafter : ∀ c ∈ after, isBlank c = true)
    (h : IsEncoding text.toUTF8.data.toList core) :
    decodeText (String.ofList (before ++ core ++ after)) = .ok text := by
  have hbytes := (decodeBytes_eq_ok core text.toUTF8.data.toList).mpr h.eq_padded
  simp only [decodeText, String.toList_ofList, trimBlank_append before core after hbefore hafter h.not_blank, hbytes,
    Except.mapError, ok_bind, fromUTF8?_toUTF8]

theorem decodeText_error {encoded : String}
    (h : ¬∃ (a : Base64Alphabet) (bytes : List UInt8),
      (trimBlank encoded.toList).rdropWhile (· == '=') = a.encode bytes) :
    ∃ why, decodeText encoded = .error (.invalidBase64 why) := by
  cases hbytes : decodeBytes ((trimBlank encoded.toList).flatMap String.utf8EncodeChar) with
  | ok bytes =>
    obtain ⟨a, k, -, hcs⟩ := (decodeBytes_eq_ok _ bytes).mp hbytes
    exact absurd ⟨a, bytes, by rw [hcs, a.rdropWhile_padded]⟩ h
  | error why =>
    refine ⟨why, ?_⟩
    simp only [decodeText, hbytes, Except.mapError, error_bind]

/-! ## Documents -/

namespace Request

/-- A request carries a text as its query document in one of three ways, the later ones only where the earlier ones
are absent. What a request holds besides is left open. -/
inductive Carries (text : String) (r : Request) : Prop where
  | plain (h : r.parameter? "query" = some text)
  | encoded (before core after : List Char) (hplain : r.parameter? "query" = none)
    (h : r.parameter? "query_b64" = some (String.ofList (before ++ core ++ after)))
    (hcore : IsEncoding text.toUTF8.data.toList core)
    (hbefore : ∀ c ∈ before, isBlank c = true) (hafter : ∀ c ∈ after, isBlank c = true)
  | body (body : Json) (hplain : r.parameter? "query" = none) (hencoded : r.parameter? "query_b64" = none)
    (hbody : r.body = some body) (h : body.get? "query" = some (.string text))

theorem Carries.document_eq {text : String} {r : Request} (h : r.Carries text) :
    r.document = some <$> readDocument text := by
  cases h with
  | plain h => simp only [document, h]
  | encoded before core after hplain h hcore hbefore hafter =>
    simp only [document, hplain, h, decodeText_of_isEncoding hbefore hafter hcore, ok_bind]
  | body body hplain hencoded hbody h =>
    simp only [document, hplain, hencoded, hbody, Option.bind_some, h]

/-- All ways of carrying a text give the document that it writes, or the fault of the text; and encoded text that is
no encoding in one of the alphabets, padding aside, is refused. -/
theorem transports_agree :
    (∀ (text : String) (r : Request), r.Carries text → r.document = some <$> readDocument text) ∧
    ∀ (r : Request) (encoded : String), r.parameter? "query" = none → r.parameter? "query_b64" = some encoded →
      (¬∃ (a : Base64Alphabet) (bytes : List UInt8),
        (trimBlank encoded.toList).rdropWhile (· == '=') = a.encode bytes) →
      ∃ why, r.document = .error (.invalidBase64 why) := by
  refine ⟨fun text r h => h.document_eq, fun r encoded hplain hencoded h => ?_⟩
  obtain ⟨why, hwhy⟩ := decodeText_error h
  refine ⟨why, ?_⟩
  simp only [document, hplain, hencoded, hwhy, error_bind]

/-- A text whose bytes need a symbol in which the alphabets differ, carried in three ways, each with faulty ones
behind it; and symbols that are of neither alphabet alone. -/
theorem transports_of_mixed_symbols :
    let text := "\">>?>>>\""
    let faulty := Json.object [("query", .string "\x7b")]
    let plain : Request := ⟨[("query_b64", "!"), ("query", text)], some faulty⟩
    let encoded : Request := ⟨[("query_b64", " Ij4-Pz4-PiI=\n")], some faulty⟩
    let body : Request := ⟨[], some (.object [("query", .string text)])⟩
    let mixed : Request := ⟨[("query_b64", "Ij4-Pz4+PiI")], some (.object [("query", .string text)])⟩
    plain.document = some <$> readDocument text ∧ encoded.document = some <$> readDocument text ∧
      body.document = some <$> readDocument text ∧ ∃ why, mixed.document = .error (.invalidBase64 why) := by
  intro text faulty plain encoded body mixed
  obtain ⟨hagree, hrefused⟩ := transports_agree
  have hcore : IsEncoding text.toUTF8.data.toList "Ij4-Pz4-PiI=".toList := by
    have hpadded : "Ij4-Pz4-PiI=".toList = Base64Alphabet.urlSafe.encode text.toUTF8.data.toList ++
        List.replicate (paddingRoom text.toUTF8.data.toList.length) '=' := by decide +kernel
    rw [hpadded]
    exact .padded .urlSafe
  refine ⟨hagree text plain (.plain rfl), hagree text encoded ?_, hagree text body ?_, ?_⟩
  · exact .encoded [' '] _ ['\n'] rfl (by decide +kernel) hcore (List.forall_mem_singleton.mpr rfl)
      (List.forall_mem_singleton.mpr rfl)
  · exact .body _ rfl rfl rfl rfl
  · refine hrefused mixed "Ij4-Pz4+PiI" rfl rfl ?_
    rintro ⟨a, bytes, h⟩
    have hdecode := (a.decode_utf8_eq_ok _ bytes).mpr ⟨0, Nat.zero_le _, h.trans (List.append_nil _).symm⟩
    have hfault : (a.decode (((trimBlank "Ij4-Pz4+PiI".toList).rdropWhile (· == '=')).flatMap
        String.utf8EncodeChar)).toOption = none := by
      cases a <;> decide +kernel
    rw [hdecode] at hfault
    exact absurd hfault nofun

end Request

end RecordQuery
