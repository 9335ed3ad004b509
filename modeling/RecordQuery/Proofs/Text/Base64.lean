import Mathlib.Data.List.DropRight
import RecordQuery.Proofs.Attempt
import RecordQuery.Text.Base64
import RecordQuery.Text.Basic

/-! Encoding bytes with 64 symbols, and what decoding accepts: an encoding in the alphabet, followed by as much padding
as fills its last group, or less. Everything else is refused, spare bits that are not zero among it, so no bytes have
two encodings that differ in more than padding. -/
namespace RecordQuery.Text
set_option autoImplicit false

/-! ## Encoding -/

/-- Bytes regrouped by six bits, the last of them filled up with zeros. -/
def sextets : List UInt8 → List Nat
  | [] => []
  | [x] => [x.toNat / 4, x.toNat % 4 * 16]
  | [x, y] => [x.toNat / 4, x.toNat % 4 * 16 + y.toNat / 16, y.toNat % 16 * 4]
  | x :: y :: z :: rest =>
    x.toNat / 4 :: (x.toNat % 4 * 16 + y.toNat / 16) :: (y.toNat % 16 * 4 + z.toNat / 64) :: z.toNat % 64 ::
      sextets rest

/-- The signs of padding that fill the last group of symbols for so many bytes. -/
def paddingRoom (bytes : Nat) : Nat := (3 - bytes % 3) % 3

namespace Base64Alphabet

/-- The symbols in the order of their values. -/
def symbols : Base64Alphabet → List Char
  | standard => "ABCDEFGHIJKLMNOPQRSTUVWXYZabcdefghijklmnopqrstuvwxyz0123456789+/".toList
  | urlSafe => "ABCDEFGHIJKLMNOPQRSTUVWXYZabcdefghijklmnopqrstuvwxyz0123456789-_".toList

def symbol (a : Base64Alphabet) (n : Nat) : Char := a.symbols.getD n '='

/-- The encoding of bytes, without padding. -/
def encode (a : Base64Alphabet) (bytes : List UInt8) : List Char := (sextets bytes).map a.symbol

end Base64Alphabet

/-! ## Sextets -/

theorem sextets_lt (bytes : List UInt8) : ∀ n ∈ sextets bytes, n < 64 := by
  fun_induction sextets bytes with
  | case1 => simp
  | case2 x =>
    have hx := x.toNat_lt
    simp only [List.mem_cons, List.not_mem_nil, or_false]
    omega
  | case3 x y =>
    have hx := x.toNat_lt
    have hy := y.toNat_lt
    simp only [List.mem_cons, List.not_mem_nil, or_false]
    omega
  | case4 x y z rest ih =>
    have hx := x.toNat_lt
    have hy := y.toNat_lt
    have hz := z.toNat_lt
    simp only [List.forall_mem_cons]
    exact ⟨by omega, by omega, by omega, by omega, ih⟩

theorem length_sextets (bytes : List UInt8) : (sextets bytes).length = (4 * bytes.length + 2) / 3 := by
  fun_induction sextets bytes with
  | case1 | case2 | case3 => simp
  | case4 x y z rest ih =>
    simp only [List.length_cons, ih]
    omega

theorem eq_ofNat_iff (x : UInt8) (n : Nat) (h : n < 256) : x = UInt8.ofNat n ↔ x.toNat = n := by
  rw [← UInt8.toNat_inj, UInt8.toNat_ofNat', Nat.mod_eq_of_lt h]

section Regrouping

variable {p q r t : Nat} (hp : p < 64) (hq : q < 64)

include hp hq

theorem sextets_one_iff (x : UInt8) : sextets [x] = [p, q] ↔ q % 16 = 0 ∧ x = UInt8.ofNat (p * 4 + q / 16) := by
  have hx := x.toNat_lt
  rw [eq_ofNat_iff x _ (by omega)]
  simp only [sextets, List.cons.injEq, and_true]
  omega

variable (hr : r < 64)

include hr

theorem sextets_two_iff (x y : UInt8) : sextets [x, y] = [p, q, r] ↔
    r % 4 = 0 ∧ x = UInt8.ofNat (p * 4 + q / 16) ∧ y = UInt8.ofNat (q % 16 * 16 + r / 4) := by
  have hx := x.toNat_lt
  have hy := y.toNat_lt
  rw [eq_ofNat_iff x _ (by omega), eq_ofNat_iff y _ (by omega)]
  simp only [sextets, List.cons.injEq, and_true]
  omega

theorem sextets_three_iff (ht : t < 64) (x y z : UInt8) (rest : List UInt8) (more : List Nat) :
    sextets (x :: y :: z :: rest) = p :: q :: r :: t :: more ↔
      (x = UInt8.ofNat (p * 4 + q / 16) ∧ y = UInt8.ofNat (q % 16 * 16 + r / 4) ∧ z = UInt8.ofNat (r % 4 * 64 + t)) ∧
        sextets rest = more := by
  have hx := x.toNat_lt
  have hy := y.toNat_lt
  have hz := z.toNat_lt
  rw [eq_ofNat_iff x _ (by omega), eq_ofNat_iff y _ (by omega), eq_ofNat_iff z _ (by omega)]
  simp only [sextets, List.cons.injEq]
  rw [← and_assoc, ← and_assoc, ← and_assoc]
  refine and_congr_left fun _ => ?_
  omega

end Regrouping

namespace Base64Alphabet

variable (a : Base64Alphabet)

/-! ## Symbols -/

/-- Symbols are printing characters of ASCII, each read as its own value. -/
theorem symbol_spec : ∀ n < 64, a.sextet? (a.symbol n).toUInt8 = some n ∧ (a.symbol n).toNat < 128 ∧
    isBlank (a.symbol n) = false := by
  cases a with
  | standard => decide +kernel
  | urlSafe => decide +kernel

theorem sextet?_symbol (n : Nat) (h : n < 64) : a.sextet? (a.symbol n).toUInt8 = some n := (a.symbol_spec n h).1

theorem symbol_of_sextet? (s : UInt8) (n : Nat) (h : a.sextet? s = some n) :
    n < 64 ∧ (a.symbol n).toUInt8 = s := by
  have hall : ∀ k < 256, (a.sextet? (UInt8.ofNat k)).all fun n =>
      decide (n < 64 ∧ (a.symbol n).toUInt8 = UInt8.ofNat k) := by
    cases a with
    | standard => decide +kernel
    | urlSafe => decide +kernel
  have hs := hall s.toNat s.toNat_lt
  rw [UInt8.ofNat_toNat, h] at hs
  simpa using hs

theorem sextet?_padding : a.sextet? base64Padding = none := by cases a <;> rfl

theorem value_eq_ok (s : UInt8) (offset n : Nat) : a.value s offset = .ok n ↔ a.sextet? s = some n := by
  rw [value]
  cases a.sextet? s <;> simp

/-! ## The last group -/

theorem lastGroup_padded (start place first : Nat) (symbols : List UInt8) (pairs : List (UInt8 × Nat))
    (h : 2 ≤ place) :
    a.lastGroup start place (some first) symbols = .ok pairs ↔
      pairs = [] ∧ ∃ k, symbols = List.replicate k base64Padding := by
  induction symbols generalizing place with
  | nil =>
    rw [lastGroup, Except.ok.injEq]
    constructor
    · intro hp
      exact ⟨hp.symm, 0, rfl⟩
    · exact fun hp => hp.1.symm
  | cons s symbols ih =>
    rw [lastGroup]
    by_cases hs : s = base64Padding
    · have hplace : ¬place < 2 := by omega
      rw [if_pos hs, if_neg hplace, Option.getD_some, ih (place + 1) (by omega), hs]
      refine and_congr_right fun _ => ?_
      constructor
      · rintro ⟨k, rfl⟩
        exact ⟨k + 1, rfl⟩
      · rintro ⟨k, hk⟩
        cases k with
        | zero => exact absurd hk nofun
        | succ k => exact ⟨k, (List.cons.inj hk).2⟩
    · rw [if_neg hs]
      simp only [reduceCtorEq, false_iff, not_and, not_exists]
      rintro _ (_ | k) hk
      · exact absurd hk nofun
      · exact hs (List.cons.inj hk).1

/-- Padding has no value, so where it stands the symbols have come to an end. -/
theorem eq_nil_of_padding (symbols : List UInt8) (pairs : List (UInt8 × Nat)) (k : Nat)
    (hvalues : ∀ p ∈ pairs, a.sextet? p.1 = some p.2)
    (h : base64Padding :: symbols = pairs.map Prod.fst ++ List.replicate k base64Padding) : pairs = [] := by
  cases pairs with
  | nil => rfl
  | cons p pairs =>
    have hp := hvalues p List.mem_cons_self
    rw [← (List.cons.inj h).1, sextet?_padding] at hp
    exact absurd hp nofun

/-- The last group has symbols of the alphabet and then perhaps padding, in the third place at the earliest. -/
theorem lastGroup_eq_ok (start place : Nat) (symbols : List UInt8) (pairs : List (UInt8 × Nat)) :
    a.lastGroup start place none symbols = .ok pairs ↔
      ∃ k, symbols = pairs.map Prod.fst ++ List.replicate k base64Padding ∧
        (∀ p ∈ pairs, a.sextet? p.1 = some p.2) ∧ (0 < k → 2 ≤ place + pairs.length) := by
  induction symbols generalizing place pairs with
  | nil =>
    rw [lastGroup, Except.ok.injEq]
    constructor
    · rintro rfl
      exact ⟨0, rfl, nofun, nofun⟩
    · rintro ⟨k, hk, _⟩
      have hpairs := (List.append_eq_nil_iff.mp hk.symm).1
      exact (List.map_eq_nil_iff.mp hpairs).symm
  | cons s symbols ih =>
    rw [lastGroup]
    by_cases hs : s = base64Padding
    · subst hs
      rw [if_pos rfl]
      constructor
      · intro h
        split at h
        · exact absurd h nofun
        · rename_i hplace
          obtain ⟨rfl, k, rfl⟩ := (a.lastGroup_padded start (place + 1) _ symbols pairs (by omega)).mp h
          exact ⟨k + 1, rfl, nofun, fun _ => by omega⟩
      · rintro ⟨k, hk, hvalues, hroom⟩
        obtain rfl := a.eq_nil_of_padding symbols pairs k hvalues hk
        cases k with
        | zero => exact absurd hk nofun
        | succ k =>
          have hplace : 2 ≤ place := hroom k.succ_pos
          rw [if_neg (by omega)]
          exact (a.lastGroup_padded start (place + 1) _ symbols [] (by omega)).mpr ⟨rfl, k, (List.cons.inj hk).2⟩
    · rw [if_neg hs]
      simp only [bind_eq_ok, value_eq_ok, ih, Except.ok.injEq]
      constructor
      · rintro ⟨n, hn, more, ⟨k, rfl, hvalues, hroom⟩, rfl⟩
        refine ⟨k, rfl, List.forall_mem_cons.mpr ⟨hn, hvalues⟩, fun hk => ?_⟩
        have := hroom hk
        rw [List.length_cons]
        omega
      · rintro ⟨k, hk, hvalues, hroom⟩
        cases pairs with
        | nil =>
          cases k with
          | zero => exact absurd hk nofun
          | succ k => exact absurd (List.cons.inj hk).1 hs
        | cons p pairs =>
          obtain ⟨rfl, rfl⟩ := List.cons.inj hk
          obtain ⟨hp, hvalues⟩ := List.forall_mem_cons.mp hvalues
          refine ⟨p.2, hp, pairs, ⟨k, rfl, hvalues, fun hpos => ?_⟩, rfl⟩
          have := hroom hpos
          rw [List.length_cons] at this
          omega

/-- The last group stands for one byte, two or three, and its symbols have no bits to spare but zeros. -/
theorem sextets_of_lastBytes (start : Nat) (pairs : List (UInt8 × Nat)) (bytes : List UInt8)
    (h : ∀ p ∈ pairs, p.2 < 64) (hb : lastBytes start pairs = .ok bytes) :
    sextets bytes = pairs.map Prod.snd ∧ bytes ≠ [] := by
  rw [lastBytes.eq_def] at hb
  split at hb
  · rename_i _ p _ q
    simp only [List.forall_mem_cons] at h
    split at hb
    · exact absurd hb nofun
    · rename_i hspare
      rw [← Except.ok.inj hb]
      exact ⟨(sextets_one_iff h.1 h.2.1 _).mpr ⟨Decidable.not_not.mp hspare, rfl⟩, nofun⟩
  · rename_i _ p _ q _ r
    simp only [List.forall_mem_cons] at h
    split at hb
    · exact absurd hb nofun
    · rename_i hspare
      rw [← Except.ok.inj hb]
      exact ⟨(sextets_two_iff h.1 h.2.1 h.2.2.1 _ _).mpr ⟨Decidable.not_not.mp hspare, rfl, rfl⟩, nofun⟩
  · rename_i _ p _ q _ r _ t
    simp only [List.forall_mem_cons] at h
    rw [← Except.ok.inj hb]
    exact ⟨(sextets_three_iff h.1 h.2.1 h.2.2.1 h.2.2.2.1 _ _ _ [] []).mpr ⟨⟨rfl, rfl, rfl⟩, rfl⟩, nofun⟩
  · exact absurd hb nofun

theorem lastBytes_sextets (start : Nat) (mark : Nat → UInt8) (bytes : List UInt8) (hne : bytes ≠ [])
    (hlen : bytes.length ≤ 3) : lastBytes start ((sextets bytes).map fun n => (mark n, n)) = .ok bytes := by
  have hlt := sextets_lt bytes
  match bytes, hne, hlen with
  | [x], _, _ =>
    simp only [sextets, List.forall_mem_cons] at hlt
    obtain ⟨hspare, hx⟩ := (sextets_one_iff hlt.1 hlt.2.1 x).mp rfl
    simp only [sextets, List.map_cons, List.map_nil, lastBytes]
    rw [if_neg (not_not_intro hspare), ← hx]
  | [x, y], _, _ =>
    simp only [sextets, List.forall_mem_cons] at hlt
    obtain ⟨hspare, hx, hy⟩ := (sextets_two_iff hlt.1 hlt.2.1 hlt.2.2.1 x y).mp rfl
    simp only [sextets, List.map_cons, List.map_nil, lastBytes]
    rw [if_neg (not_not_intro hspare), ← hx, ← hy]
  | [x, y, z], _, _ =>
    simp only [sextets, List.forall_mem_cons] at hlt
    obtain ⟨⟨hx, hy, hz⟩, _⟩ := (sextets_three_iff hlt.1 hlt.2.1 hlt.2.2.1 hlt.2.2.2.1 x y z [] []).mp rfl
    simp only [sextets, List.map_cons, List.map_nil, lastBytes]
    rw [← hx, ← hy, ← hz]
  | _ :: _ :: _ :: _ :: _, _, hlen =>
    simp only [List.length_cons] at hlen
    omega

/-! ## What is decoded -/

/-- The bytes of an encoding, without padding. -/
def code (bytes : List UInt8) : List UInt8 := (a.encode bytes).map Char.toUInt8

theorem length_code (bytes : List UInt8) : (a.code bytes).length = (4 * bytes.length + 2) / 3 := by
  rw [code, encode, List.length_map, List.length_map, length_sextets]

theorem length_code_add_room (bytes : List UInt8) :
    (a.code bytes).length + paddingRoom bytes.length = 4 * ((bytes.length + 2) / 3) := by
  rw [length_code, paddingRoom]
  omega

theorem sextet?_of_mem_code (bytes : List UInt8) (s : UInt8) (hs : s ∈ a.code bytes) : (a.sextet? s).isSome := by
  simp only [code, encode, List.map_map, List.mem_map] at hs
  obtain ⟨n, hn, rfl⟩ := hs
  rw [Function.comp_apply, a.sextet?_symbol n (sextets_lt bytes n hn), Option.isSome_some]

theorem code_of_sextets (pairs : List (UInt8 × Nat)) (bytes : List UInt8) (hb : sextets bytes = pairs.map Prod.snd)
    (h : ∀ p ∈ pairs, a.sextet? p.1 = some p.2) : a.code bytes = pairs.map Prod.fst := by
  rw [code, encode, hb, List.map_map, List.map_map]
  exact List.map_congr_left fun p hp => (a.symbol_of_sextet? p.1 p.2 (h p hp)).2

/-- The symbols of one group, and then those of the bytes behind it. -/
theorem group_eq_ok (start : Nat) (s t u v w : UInt8) (rest bytes : List UInt8) :
    a.groups start (s :: t :: u :: v :: w :: rest) = .ok bytes ↔
      ∃ x y z more, bytes = x :: y :: z :: more ∧ a.code bytes = s :: t :: u :: v :: a.code more ∧
        a.groups (start + 4) (w :: rest) = .ok more := by
  rw [groups]
  simp only [bind_eq_ok, value_eq_ok, Except.ok.injEq]
  constructor
  · rintro ⟨p, hp, q, hq, r, hr, n, hn, more, hmore, rfl⟩
    obtain ⟨hplt, rfl⟩ := a.symbol_of_sextet? s p hp
    obtain ⟨hqlt, rfl⟩ := a.symbol_of_sextet? t q hq
    obtain ⟨hrlt, rfl⟩ := a.symbol_of_sextet? u r hr
    obtain ⟨hnlt, rfl⟩ := a.symbol_of_sextet? v n hn
    have hs := (sextets_three_iff hplt hqlt hrlt hnlt _ _ _ more _).mpr ⟨⟨rfl, rfl, rfl⟩, rfl⟩
    refine ⟨_, _, _, more, rfl, ?_, hmore⟩
    rw [code, encode, hs]
    rfl
  · rintro ⟨x, y, z, more, rfl, hcode, hmore⟩
    have hlt := sextets_lt (x :: y :: z :: more)
    simp only [sextets, List.forall_mem_cons] at hlt
    obtain ⟨hp, hq, hr, hn, -⟩ := hlt
    obtain ⟨⟨hx, hy, hz⟩, -⟩ := (sextets_three_iff hp hq hr hn x y z more (sextets more)).mp rfl
    simp only [code, encode, sextets, List.map_cons, List.cons.injEq] at hcode
    obtain ⟨rfl, rfl, rfl, rfl, -⟩ := hcode
    refine ⟨_, a.sextet?_symbol _ hp, _, a.sextet?_symbol _ hq, _, a.sextet?_symbol _ hr, _, a.sextet?_symbol _ hn,
      more, hmore, ?_⟩
    rw [← hx, ← hy, ← hz]

/-- The symbols of the last group, with padding as far as there is room for it. -/
theorem lastBytes_eq_ok (start : Nat) (symbols bytes : List UInt8) (hne : symbols ≠ []) (hlen : symbols.length ≤ 4) :
    (a.lastGroup start 0 none symbols >>= lastBytes start) = .ok bytes ↔
      ∃ k ≤ paddingRoom bytes.length, symbols = a.code bytes ++ List.replicate k base64Padding := by
  simp only [bind_eq_ok, lastGroup_eq_ok]
  constructor
  · rintro ⟨pairs, ⟨k, rfl, hvalues, -⟩, hb⟩
    have hlt := fun p hp => (a.symbol_of_sextet? p.1 p.2 (hvalues p hp)).1
    obtain ⟨hs, hbytes⟩ := sextets_of_lastBytes start pairs bytes hlt hb
    have hcode := a.code_of_sextets pairs bytes hs hvalues
    have hpos := List.length_pos_iff.mpr hbytes
    have hroom := a.length_code_add_room bytes
    rw [← hcode, List.length_append, List.length_replicate] at hlen
    exact ⟨k, by omega, by rw [hcode]⟩
  · rintro ⟨k, hk, rfl⟩
    have hbytes : bytes ≠ [] := by
      rintro rfl
      exact hne (by rw [Nat.le_zero.mp hk]; rfl)
    have hpos := List.length_pos_iff.mpr hbytes
    rw [List.length_append, length_code, List.length_replicate] at hlen
    refine ⟨(sextets bytes).map fun n => ((a.symbol n).toUInt8, n), ⟨k, ?_, ?_, fun _ => ?_⟩, ?_⟩
    · simp only [code, encode, List.map_map, Function.comp_def]
    · simp only [List.forall_mem_map]
      exact fun n hn => a.sextet?_symbol n (sextets_lt bytes n hn)
    · rw [List.length_map, length_sextets]
      omega
    · exact lastBytes_sextets start _ bytes hbytes (by omega)

theorem groups_eq_ok (start : Nat) (symbols bytes : List UInt8) (hne : symbols ≠ []) :
    a.groups start symbols = .ok bytes ↔
      ∃ k ≤ paddingRoom bytes.length, symbols = a.code bytes ++ List.replicate k base64Padding := by
  induction start, symbols using groups.induct generalizing bytes with
  | case1 start s t u v w rest ih =>
    have hroom : ∀ n, paddingRoom (n + 1 + 1 + 1) = paddingRoom n := by
      intro n
      rw [paddingRoom, paddingRoom, Nat.add_mod_right n 3]
    rw [group_eq_ok]
    constructor
    · rintro ⟨x, y, z, more, rfl, hcode, hmore⟩
      obtain ⟨k, hk, hrest⟩ := (ih more nofun).mp hmore
      refine ⟨k, (hroom more.length).symm ▸ hk, ?_⟩
      rw [hcode, hrest]
      rfl
    · rintro ⟨k, hk, hsymbols⟩
      have hlen := congrArg List.length hsymbols
      simp only [List.length_append, length_code, List.length_replicate, List.length_cons] at hlen
      -- five symbols do not fit into the last group, so there are more than three bytes
      match bytes with
      | x :: y :: z :: more =>
        have hcode : a.code (x :: y :: z :: more) = s :: t :: u :: v :: a.code more := by
          simp only [code, encode, sextets, List.map_cons, List.cons_append, List.cons.injEq] at hsymbols
          obtain ⟨rfl, rfl, rfl, rfl, -⟩ := hsymbols
          rfl
        rw [hcode] at hsymbols
        simp only [List.cons_append, List.cons.injEq, true_and] at hsymbols
        exact ⟨x, y, z, more, rfl, hcode, (ih more nofun).mpr ⟨k, hroom more.length ▸ hk, hsymbols⟩⟩
      | [] | [_] | [_, _] =>
        simp only [paddingRoom, List.length_cons, List.length_nil] at hk hlen
        omega
  | case2 start symbols hfew =>
    have hlen : symbols.length ≤ 4 := by
      match symbols, hfew with
      | [], _ | [_], _ | [_, _], _ | [_, _, _], _ | [_, _, _, _], _ => simp
      | s :: t :: u :: v :: w :: rest, hfew => exact (hfew s t u v w rest rfl).elim
    rw [groups.eq_2 a start symbols hfew]
    exact a.lastBytes_eq_ok start symbols bytes hne hlen

/-- Decoding takes the encoding of bytes, with the padding that it has room for or with less, and nothing else. -/
theorem decode_eq_ok (symbols bytes : List UInt8) : a.decode symbols = .ok bytes ↔
    ∃ k ≤ paddingRoom bytes.length, symbols = a.code bytes ++ List.replicate k base64Padding := by
  rw [decode]
  cases hlast : symbols.getLast? with
  | none =>
    obtain rfl := List.getLast?_eq_none_iff.mp hlast
    simp only [Except.ok.injEq]
    constructor
    · rintro rfl
      exact ⟨0, Nat.zero_le _, rfl⟩
    · rintro ⟨k, -, hk⟩
      have hlen := congrArg List.length (List.append_eq_nil_iff.mp hk.symm).1
      rw [length_code, List.length_nil] at hlen
      exact (List.eq_nil_of_length_eq_zero (by omega)).symm
  | some last =>
    have hmem : last ∈ symbols := List.mem_of_getLast? hlast
    simp only
    split
    · -- the symbol is neither padding nor one of the alphabet
      rename_i hfault
      simp only [reduceCtorEq, false_iff, not_exists, not_and]
      rintro k - rfl
      cases List.mem_append.mp hmem with
      | inl hcode =>
        have hsome := a.sextet?_of_mem_code bytes last hcode
        rw [Option.isNone_iff_eq_none.mp hfault.2.2] at hsome
        exact absurd hsome nofun
      | inr hpad => exact hfault.2.1 (List.eq_of_mem_replicate hpad)
    · exact a.groups_eq_ok 0 symbols bytes (List.ne_nil_of_mem hmem)

example : standard.decode [0x5A, 0x67, 0x3D] = .ok [0x66] := rfl

/-! ## Two alphabets -/

theorem sextet?_or_sextet? : ∀ n < 64, let s := (a.symbol n).toUInt8
    (standard.sextet? s).or (urlSafe.sextet? s) = some n := by
  cases a with
  | standard => decide +kernel
  | urlSafe => decide +kernel

/-- The symbols of bytes in one alphabet are not those of other bytes in the other. -/
theorem code_inj (b : Base64Alphabet) (bytes more : List UInt8) (h : a.code bytes = b.code more) : bytes = more := by
  have hread : ∀ (c : Base64Alphabet) (bytes : List UInt8),
      (c.code bytes).map (fun s => (standard.sextet? s).or (urlSafe.sextet? s)) = (sextets bytes).map some := by
    intro c bytes
    rw [code, encode, List.map_map, List.map_map]
    exact List.map_congr_left fun n hn => c.sextet?_or_sextet? n (sextets_lt bytes n hn)
  have hsextets : (sextets bytes).map some = (sextets more).map some := by rw [← hread a, ← hread b, h]
  have hcode : a.code more = a.code bytes := by
    rw [code, encode, ← (List.map_inj_right fun _ _ => Option.some.inj).mp hsextets]
    rfl
  have hbytes := (a.decode_eq_ok (a.code bytes) bytes).mpr ⟨0, Nat.zero_le _, (List.append_nil _).symm⟩
  have hmore := (a.decode_eq_ok (a.code more) more).mpr ⟨0, Nat.zero_le _, (List.append_nil _).symm⟩
  rw [hcode, hbytes] at hmore
  exact Except.ok.inj hmore

end Base64Alphabet

end RecordQuery.Text
