/-
Which headers `decode_x402_header` answers as it should, and which values survive the codec.
-/
import Arena402.Payments.X402Header
import Arena402.Proofs.Lib.JsonText

namespace Arena402.Payments.X402

open JsonText

variable {F : Type} {fl : Floats F}

/-! ### Base64 -/

theorem isData_toNat_lt {c : Char} (h : Base64.isData c = true) : c.toNat < 0x80 := by
  unfold Base64.isData Base64.sextetOf at h
  by_contra hlarge
  have hplus : c ≠ '+' := by
    intro heq
    rw [heq] at hlarge
    simp at hlarge
  have hslash : c ≠ '/' := by
    intro heq
    rw [heq] at hlarge
    simp at hlarge
  rw [if_neg (by omega), if_neg (by omega), if_neg (by omega), if_neg hplus, if_neg hslash] at h
  cases h

theorem b64decode_encode (bytes : List UInt8) :
    b64decode ((Base64.encode bytes).map Char.toNat) = some (bytes.map UInt8.toNat) := by
  obtain ⟨body, k, hbody, hdata, -⟩ := Base64.encode_shape bytes
  have hback : ((Base64.encode bytes).map Char.toNat).map Char.ofNat = Base64.encode bytes := by
    rw [List.map_map]
    conv_rhs => rw [← List.map_id (Base64.encode bytes)]
    apply List.map_congr_left
    intro c _
    exact Char.ofNat_toNat c
  have hascii : ((Base64.encode bytes).map Char.toNat).any (fun c => 0x80 ≤ c) = false := by
    rw [List.any_eq_false]
    intro n hn
    rw [List.mem_map] at hn
    obtain ⟨c, hc, rfl⟩ := hn
    rw [hbody, List.mem_append] at hc
    rw [decide_eq_true_eq, not_le]
    rcases hc with hc | hc
    · exact isData_toNat_lt (hdata c hc)
    · rw [List.eq_of_mem_replicate hc]
      simp
  unfold b64decode
  rw [hascii, hback, Base64.decodeStrict_encode]
  rfl

theorem length_encode (bytes : List UInt8) :
    3 * (Base64.encode bytes).length ≤ 4 * bytes.length + 11 := by
  obtain ⟨body, k, hbody, -, hk, -, hsize, -⟩ := Base64.encode_shape bytes
  rw [hbody, List.length_append, List.length_replicate]
  omega

/-! ### The codec -/

theorem decode_cases (fl : Floats F) (levels : Nat) (header : Text) :
    (decodeX402Header fl levels header defaultMaxBytes = .error (.fault .recursionError) ↔
      TooDeep fl levels header) ∧
    (¬ TooDeep fl levels header →
      (∃ fields, decodeX402Header fl levels header defaultMaxBytes = .ok fields) ∨
        decodeX402Header fl levels header defaultMaxBytes = .error invalidX402Header) := by
  have hmessage : ∀ x : Except Raised (List (Text × JsonText.Value F)),
      x = .error invalidX402Header → ¬ TooDeep fl levels header →
      (x = .error (.fault .recursionError) ↔ TooDeep fl levels header) ∧
        (¬ TooDeep fl levels header →
          (∃ fields, x = .ok fields) ∨ x = .error invalidX402Header) := by
    intro x hx hdeep
    rw [hx]
    exact ⟨⟨fun h => (by cases h), fun h => absurd h hdeep⟩, fun _ => Or.inr rfl⟩
  unfold decodeX402Header
  by_cases hsize : header = [] ∨ defaultMaxBytes * 2 < header.length
  · rw [if_pos hsize]
    refine hmessage _ rfl ?_
    intro hdeep
    exact hsize.elim hdeep.1 (not_lt.mpr hdeep.2.1)
  rw [if_neg hsize]
  rw [not_or, not_lt] at hsize
  cases hraw : b64decode header with
  | none =>
      refine hmessage _ rfl ?_
      intro hdeep
      obtain ⟨raw, hsome, -⟩ := hdeep.2.2
      rw [hraw] at hsome
      cases hsome
  | some raw =>
      dsimp only
      have htooDeep : TooDeep fl levels header ↔
          raw.length ≤ defaultMaxBytes ∧ levels < deepest fl raw := by
        constructor
        · intro hdeep
          obtain ⟨raw', hsome, hrest⟩ := hdeep.2.2
          rw [hraw] at hsome
          cases hsome
          exact hrest
        · intro h
          exact ⟨hsize.1, hsize.2, raw, hraw, h⟩
      by_cases hlong : defaultMaxBytes < raw.length
      · rw [if_pos hlong]
        refine hmessage _ rfl ?_
        intro hdeep
        exact absurd (htooDeep.mp hdeep).1 (not_le.mpr hlong)
      rw [if_neg hlong]
      obtain ⟨hrecursion, hfuel⟩ := loads_recursionError_iff fl levels raw
      by_cases hdeep : levels < deepest fl raw
      · have hraised := hrecursion.mpr hdeep
        rw [hraised]
        exact ⟨⟨fun _ => htooDeep.mpr ⟨not_lt.mp hlong, hdeep⟩, fun _ => rfl⟩,
          fun h => absurd (htooDeep.mpr ⟨not_lt.mp hlong, hdeep⟩) h⟩
      · have hshallow : ¬ TooDeep fl levels header := fun h => hdeep (htooDeep.mp h).2
        cases hloads : loads fl levels raw with
        | error f =>
            cases f with
            | valueError => exact hmessage _ rfl hshallow
            | recursionError => exact absurd (hrecursion.mp hloads) hdeep
            | outOfFuel => exact absurd hloads hfuel
        | ok v =>
            cases v with
            | object fields =>
                exact ⟨⟨fun h => (by cases h), fun h => absurd h hshallow⟩,
                  fun _ => Or.inl ⟨fields, rfl⟩⟩
            | _ => exact hmessage _ rfl hshallow

/-- What the codec makes of an object that fits into a header. -/
theorem decode_encode (hfl : fl.Lawful) {fields : List (Text × JsonText.Value F)}
    (hv : (JsonText.Value.object fields).WellFormed fl) (levels : Nat) {writeLevels : Nat}
    {text header : Text} (htext : dumps fl writeLevels (.object fields) = .ok text)
    (hsize : text.length ≤ defaultMaxBytes)
    (hheader : encodeX402Header fl writeLevels (.object fields) = .ok header) :
    ((JsonText.Value.object fields).nesting ≤ levels → ∃ read,
      decodeX402Header fl levels header defaultMaxBytes = .ok read ∧
        JsonText.Value.object read = (JsonText.Value.object fields).canonical.reread) ∧
    (levels < (JsonText.Value.object fields).nesting →
      decodeX402Header fl levels header defaultMaxBytes = .error (.fault .recursionError)) := by
  obtain ⟨hprintable, hloads⟩ := loads_dumps hfl hv htext levels
  have hbytes : (text.map UInt8.ofNat).map UInt8.toNat = text := by
    rw [List.map_map]
    conv_rhs => rw [← List.map_id text]
    apply List.map_congr_left
    intro c hc
    have hc := hprintable c hc
    show (UInt8.ofNat c).toNat = c
    rw [UInt8.toNat_ofNat']
    omega
  have hnonempty : text ≠ [] := by
    intro hnil
    rw [hnil] at hloads
    have hempty : loads fl levels [] = .error .valueError := rfl
    rw [hempty] at hloads
    by_cases hle : (JsonText.Value.object fields).nesting ≤ levels
    · rw [if_pos hle] at hloads
      cases hloads
    · rw [if_neg hle] at hloads
      cases hloads
  have hencoded : header = (Base64.encode (text.map UInt8.ofNat)).map Char.toNat := by
    unfold encodeX402Header at hheader
    rw [htext] at hheader
    cases hheader
    rfl
  have hraw : b64decode header = some text := by
    rw [hencoded, b64decode_encode, hbytes]
  have hlength := length_encode (text.map UInt8.ofNat)
  have hheaderLength : header.length = (Base64.encode (text.map UInt8.ofNat)).length := by
    rw [hencoded, List.length_map]
  have hpassed : ¬ (header = [] ∨ defaultMaxBytes * 2 < header.length) := by
    rw [List.length_map] at hlength
    rw [not_or, not_lt]
    constructor
    · intro hnil
      rw [hnil] at hraw
      cases hraw
      exact hnonempty rfl
    · unfold defaultMaxBytes at hsize ⊢
      omega
  unfold decodeX402Header
  rw [if_neg hpassed, hraw]
  dsimp only
  rw [if_neg (not_lt.mpr hsize), hloads]
  constructor
  · intro hle
    rw [if_pos hle, JsonText.Value.canonical_object, JsonText.Value.reread_object]
    exact ⟨_, rfl, rfl⟩
  · intro hlt
    rw [if_neg (not_le.mpr hlt)]

/-- **When the codec does what it promises.**  Every header is decoded or refused, unless it is too
    deep for the reader.  An object comes back, up to the order of its members, when it is not too
    deep and no text of it has a pair of surrogates as two code points. -/
theorem codec_iff (hfl : fl.Lawful) (levels : Nat) :
    (∀ header, ((∃ fields, decodeX402Header fl levels header defaultMaxBytes = .ok fields) ∨
        decodeX402Header fl levels header defaultMaxBytes = .error invalidX402Header) ↔
      ¬ TooDeep fl levels header) ∧
    ∀ writeLevels fields text header, (JsonText.Value.object fields).WellFormed fl →
      dumps fl writeLevels (.object fields) = .ok text → text.length ≤ defaultMaxBytes →
      encodeX402Header fl writeLevels (.object fields) = .ok header →
      ((∃ read, decodeX402Header fl levels header defaultMaxBytes = .ok read ∧
          (JsonText.Value.object read).canonical = (JsonText.Value.object fields).canonical) ↔
        (JsonText.Value.object fields).nesting ≤ levels ∧
          (JsonText.Value.object fields).total splitPairs = 0) := by
  constructor
  · intro header
    obtain ⟨hrecursion, hanswered⟩ := decode_cases fl levels header
    constructor
    · intro h hdeep
      rw [hrecursion.mpr hdeep] at h
      rcases h with ⟨fields, h⟩ | h
      · cases h
      · cases h
    · exact hanswered
  · intro writeLevels fields text header hv htext hsize hheader
    obtain ⟨hback, hdeep⟩ := decode_encode hfl hv levels htext hsize hheader
    have hcanonical := canonical_reread_iff hv
    constructor
    · intro h
      obtain ⟨read, hread, hsame⟩ := h
      have hle : (JsonText.Value.object fields).nesting ≤ levels := by
        by_contra hlarge
        rw [hdeep (not_le.mp hlarge)] at hread
        cases hread
      obtain ⟨read', hread', hreread⟩ := hback hle
      rw [hread'] at hread
      cases hread
      rw [hreread] at hsame
      exact ⟨hle, hcanonical.mp hsame⟩
    · intro h
      obtain ⟨read, hread, hreread⟩ := hback h.1
      refine ⟨read, hread, ?_⟩
      rw [hreread]
      exact hcanonical.mpr h.2

/-! ### Cases -/

/-- A runtime with the one float `0.0`. -/
def zeroFloats : Floats Unit where
  special _ := none
  ofSpecial _ := ()
  repr _ := ascii ['0', '.', '0']
  ofText _ := ()

theorem zeroFloats_lawful : zeroFloats.Lawful where
  number _ _ := by
    let zero : Numeral :=
      { negative := false, whole := ascii ['0'], fraction := ascii ['.', '0'], exponent := [] }
    exact ⟨zero, rfl, Or.inl (List.cons_ne_nil _ _)⟩
  ofText_repr _ _ := rfl

/-- The version and the amount of a payment, the surrogates of its note in one code point. -/
def paymentFields : List (Text × JsonText.Value Unit) :=
  [(ascii ['v'], .int 2), (ascii ['n', 'o', 't', 'e'], .str [0x1F600]),
    (ascii ['a', 'm', 'o', 'u', 'n', 't'], .list [.float (), .bool true])]

theorem payment_survives : ∃ header, encodeX402Header zeroFloats 10 (.object paymentFields) =
    .ok header ∧ ∃ read, decodeX402Header zeroFloats 10 header defaultMaxBytes = .ok read ∧
      (JsonText.Value.object read).canonical = (JsonText.Value.object paymentFields).canonical := by
  have hwellFormed : (JsonText.Value.object paymentFields).WellFormed zeroFloats := by
    rw [JsonText.Value.wellFormed_object]
    refine ⟨by decide, ?_⟩
    intro e he
    simp only [paymentFields, List.mem_cons, List.not_mem_nil, or_false] at he
    rcases he with rfl | rfl | rfl
    · exact ⟨by decide, trivial⟩
    · refine ⟨by decide, ?_⟩
      show ∀ c ∈ [0x1F600], c < 0x110000
      decide
    · refine ⟨by decide, ?_⟩
      rw [JsonText.Value.wellFormed_list]
      intro v hv
      simp only [List.mem_cons, List.not_mem_nil, or_false] at hv
      rcases hv with rfl | rfl
      · rfl
      · trivial
  refine ⟨_, rfl, ?_⟩
  refine ((codec_iff zeroFloats_lawful 10).2 10 paymentFields _ _ hwellFormed rfl ?_ rfl).mpr ?_
  · decide
  · exact ⟨by decide, by decide⟩

theorem scanOnce_brackets : ∀ (levels n fuel : Nat), levels < n → 2 * levels < fuel →
    scanOnce fl fuel levels (List.replicate n '['.toNat) = .error .recursionError := by
  intro levels
  induction levels with
  | zero =>
      intro n fuel hn hfuel
      obtain ⟨n, rfl⟩ := Nat.exists_eq_succ_of_ne_zero (Nat.ne_of_gt hn)
      obtain ⟨fuel, rfl⟩ := Nat.exists_eq_succ_of_ne_zero (Nat.ne_of_gt (Nat.zero_lt_of_lt hfuel))
      rfl
  | succ levels ih =>
      intro n fuel hn hfuel
      obtain ⟨n, rfl⟩ := Nat.exists_eq_add_of_le' (by omega : 2 ≤ n)
      obtain ⟨fuel, rfl⟩ := Nat.exists_eq_add_of_le' (by omega : 2 ≤ fuel)
      have hinner := ih (n + 1) fuel (by omega) (by omega)
      show (scanElements fl (fuel + 1) .square levels (List.replicate (n + 1) '['.toNat)).bind _ = _
      have helements : scanElements fl (fuel + 1) .square levels
          (List.replicate (n + 1) '['.toNat) = .error .recursionError := by
        rw [scanElements]
        show (scanOnce fl fuel levels (List.replicate (n + 1) '['.toNat)).bind _ = _
        rw [hinner]
        rfl
      rw [helements]
      rfl

/-- So many opening brackets in base64. -/
def bracketsHeader (n : Nat) : Text :=
  (Base64.encode ((List.replicate n '['.toNat).map UInt8.ofNat)).map Char.toNat

theorem bracketsHeader_tooDeep {levels n : Nat} (hlevels : levels < n) (hn : n ≤ defaultMaxBytes) :
    TooDeep fl levels (bracketsHeader n) := by
  have hprintable : Printable (List.replicate n '['.toNat) := by
    intro c hc
    rw [List.eq_of_mem_replicate hc]
    decide
  have hskip : skip (List.replicate n '['.toNat) = List.replicate n '['.toNat := by
    obtain ⟨m, rfl⟩ := Nat.exists_eq_succ_of_ne_zero (Nat.ne_of_gt (Nat.zero_lt_of_lt hlevels))
    exact skip_cons rfl _
  have hloads : loads fl levels (List.replicate n '['.toNat) = .error .recursionError := by
    unfold loads
    rw [decodeBytes_printable hprintable]
    dsimp only
    rw [hskip, scanOnce_brackets levels n _ hlevels (by rw [fuelFor, List.length_replicate]; omega)]
    rfl
  have hbytes : ((List.replicate n '['.toNat).map UInt8.ofNat).map UInt8.toNat =
      List.replicate n '['.toNat := by
    rw [List.map_replicate, List.map_replicate]
    rfl
  have hraw : b64decode (bracketsHeader n) = some (List.replicate n '['.toNat) := by
    rw [bracketsHeader, b64decode_encode, hbytes]
  have hlength : (bracketsHeader n).length ≤ defaultMaxBytes * 2 := by
    have h := length_encode ((List.replicate n '['.toNat).map UInt8.ofNat)
    rw [List.length_map, List.length_replicate] at h
    rw [bracketsHeader, List.length_map]
    unfold defaultMaxBytes at hn ⊢
    omega
  refine ⟨?_, hlength, _, hraw, ?_, (loads_recursionError_iff fl levels _).1.mp hloads⟩
  · intro hnil
    rw [hnil] at hraw
    have hempty : b64decode [] = some [] := rfl
    rw [hempty, Option.some.injEq] at hraw
    have hcount := congrArg List.length hraw
    rw [List.length_replicate, List.length_nil] at hcount
    omega
  · rw [List.length_replicate]
    exact hn

/-- No one refuses this header: a `RecursionError` leaves the decoder. -/
theorem brackets_escape :
    ¬ ((∃ fields, decodeX402Header zeroFloats 10000 (bracketsHeader 32768) defaultMaxBytes =
        .ok fields) ∨
      decodeX402Header zeroFloats 10000 (bracketsHeader 32768) defaultMaxBytes =
        .error invalidX402Header) := by
  have hdeep : TooDeep zeroFloats 10000 (bracketsHeader 32768) :=
    bracketsHeader_tooDeep (by omega) (Nat.le_refl _)
  rw [(decode_cases zeroFloats 10000 (bracketsHeader 32768)).1.mpr hdeep]
  intro h
  rcases h with ⟨fields, h⟩ | h
  · cases h
  · cases h

end Arena402.Payments.X402
