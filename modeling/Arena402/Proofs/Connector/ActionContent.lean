/-
The two validators, shape by shape.

Every struct the connector decodes into has a model on the wire.  For each the lookups of its
fields are known from their types, and the model accepts the written object exactly when the
messages and ids are fit for the wire.
-/
import Arena402.Proofs.Connector.ArenaAction

namespace Arena402.Connector

open Py (Dict Json ok_of_bind)
open Go (Field FieldType Struct)
open Wire (FieldName)

variable {fields : List (String × Json)} {name text : String}

/-! ### Keys -/

/-- The keys of an object are among these. -/
def KeysIn (names : List String) (fields : List (String × Json)) : Prop :=
  ∀ field ∈ fields, field.1 ∈ names

theorem KeysIn.lookup_none {names : List String} (h : KeysIn names fields) (key : String)
    (hkey : key ∉ names) :
    fields.lookup key = none :=
  Go.lookup_eq_none fun _ hfield heq => hkey (heq ▸ h _ hfield)

theorem KeysIn.textAt_none {names : List String} (h : KeysIn names fields) (key : String)
    (hkey : key ∉ names) :
    textAt key fields = none := by
  unfold textAt
  rw [h.lookup_none key hkey]

theorem textAt_of_lookup (h : fields.lookup name = some (.str text)) :
    textAt name fields = some text := by
  unfold textAt
  rw [h]

/-- A field whose Python name is no key is read under its alias. -/
theorem get_of_lookup {f : FieldName} (h : f.name = f.wire ∨ fields.lookup f.name = none) :
    f.get fields = fields.lookup f.wire := by
  unfold FieldName.get FieldName.key
  by_cases hsome : (fields.lookup f.wire).isSome
  · rw [if_pos hsome]
  · rw [if_neg hsome]
    rw [Option.not_isSome_iff_eq_none] at hsome
    rcases h with h | h
    · rw [h]
    · rw [h, hsome]

/-- Keys that are aliases of the fields are no extra keys. -/
theorem noExtra_of_keysIn {names : List FieldName} (h : KeysIn (names.map (·.wire)) fields) :
    Wire.noExtra names fields = true := by
  unfold Wire.noExtra
  rw [List.all_eq_true]
  intro field hfield
  obtain ⟨f, hf, hwire⟩ := List.mem_map.mp (h field hfield)
  rw [List.any_eq_true]
  refine ⟨f, hf, decide_eq_true ?_⟩
  have hsome : (fields.lookup f.wire).isSome := by
    rw [List.lookup_isSome_iff]
    exact ⟨field, hfield, beq_iff_eq.mpr hwire⟩
  unfold FieldName.key
  rw [if_pos hsome, hwire]

/-! ### Fields of the wire model -/

section Fields

variable {f : FieldName} (hget : f.get fields = fields.lookup f.wire)

include hget

theorem required_price (h : fields.lookup f.wire = some (.str text))
    (hvalid : fixedDecimal text = true) :
    ∃ p, Wire.required f Wire.positiveFixedDecimal fields = some p ∧
      priceAt f.wire fields = some (saidPrice p) := by
  obtain ⟨p, hp, hsaid⟩ := wire_price hvalid
  refine ⟨p, ?_, ?_⟩
  · unfold Wire.required
    rw [hget, h]
    exact hp
  · unfold priceAt
    rw [textAt_of_lookup h, hsaid]
    rfl

theorem optional_price
    (h : fields.lookup f.wire = none ∨ ∃ text, fields.lookup f.wire = some (.str text))
    (hvalid : ∀ text, textAt f.wire fields = some text → fixedDecimal text = true) :
    ∃ p, Wire.optional f Wire.positiveFixedDecimal fields = some p ∧
      priceAt f.wire fields = p.map saidPrice := by
  unfold Wire.optional
  rw [hget]
  rcases h with hnone | ⟨text, htext⟩
  · refine ⟨none, by rw [hnone], ?_⟩
    unfold priceAt textAt
    rw [hnone]
    rfl
  · obtain ⟨p, hp, hsaid⟩ := wire_price (hvalid text (textAt_of_lookup htext))
    refine ⟨some p, ?_, ?_⟩
    · rw [htext]
      show (Wire.positiveFixedDecimal (.str text)).map some = _
      rw [hp]
      rfl
    · unfold priceAt
      rw [textAt_of_lookup htext]
      exact congrArg some hsaid.symm

theorem required_message (h : fields.lookup f.wire = some (.str text))
    (hvalid : publicMessage text = true) (hvisible : Py.strip text.toList ≠ []) :
    ∃ m, Wire.required f Wire.publicMessage fields = some m ∧
      textAt f.wire fields = some m.text := by
  obtain ⟨m, hm, htext⟩ := wire_message hvalid hvisible
  refine ⟨m, ?_, ?_⟩
  · unfold Wire.required
    rw [hget, h]
    exact hm
  · rw [textAt_of_lookup h, htext]

theorem visible_of_required (h : fields.lookup f.wire = some (.str text)) {m : PublicMessage}
    (hm : Wire.required f Wire.publicMessage fields = some m) : Py.strip text.toList ≠ [] := by
  unfold Wire.required at hm
  rw [hget, h] at hm
  exact visible_of_wire hm

theorem optional_message
    (h : fields.lookup f.wire = none ∨ ∃ text, fields.lookup f.wire = some (.str text))
    (hvalid : ∀ text, textAt f.wire fields = some text → publicMessage text = true)
    (hvisible : ∀ text, textAt f.wire fields = some text → Py.strip text.toList ≠ []) :
    ∃ m, Wire.optional f Wire.publicMessage fields = some m ∧
      textAt f.wire fields = m.map (·.text) := by
  unfold Wire.optional
  rw [hget]
  rcases h with hnone | ⟨text, htext⟩
  · refine ⟨none, by rw [hnone], ?_⟩
    unfold textAt
    rw [hnone]
    rfl
  · have hat := textAt_of_lookup htext
    obtain ⟨m, hm, hsame⟩ := wire_message (hvalid text hat) (hvisible text hat)
    refine ⟨some m, ?_, ?_⟩
    · rw [htext]
      show (Wire.publicMessage (.str text)).map some = _
      rw [hm]
      rfl
    · rw [hat]
      exact congrArg some hsame.symm

theorem visible_of_optional {m : Option PublicMessage}
    (hm : Wire.optional f Wire.publicMessage fields = some m) :
    ∀ text, textAt f.wire fields = some text → Py.strip text.toList ≠ [] := by
  intro text htext
  unfold Wire.optional at hm
  unfold textAt at htext
  rw [hget] at hm
  cases hlookup : fields.lookup f.wire with
  | none => rw [hlookup] at htext; cases htext
  | some v =>
      rw [hlookup] at htext hm
      cases v with
      | str t =>
          obtain rfl := Option.some.inj htext
          obtain ⟨p, hp, -⟩ := Option.map_eq_some_iff.mp hm
          exact visible_of_wire hp
      | _ => cases htext

theorem required_identifier {maxBytes maxLength : Nat}
    (h : fields.lookup f.wire = some (.str text)) (hvalid : identifier maxBytes text = true) :
    Wire.required f (Wire.patternText maxLength) fields =
      if text.length ≤ maxLength then some text else none := by
  unfold Wire.required
  rw [hget, h]
  exact wire_identifier hvalid

end Fields

/-! ### What is fit for the wire -/

/-- Without requests and without an id the message decides. -/
theorem wireFit_iff_message (hrequests : fields.lookup "requests" = none)
    (hid : textAt "requestId" fields = none) :
    WireFit fields ↔ ∀ text, textAt "message" fields = some text → Py.strip text.toList ≠ [] := by
  have hnone : requestsAt fields = [] := by
    unfold requestsAt
    rw [hrequests]
  unfold WireFit messagesIn identifiersIn
  rw [hnone, hid]
  simp

theorem requestsAt_none (h : fields.lookup "requests" = none) : requestsAt fields = [] := by
  unfold requestsAt
  rw [h]

/-- The content of an object that has a name, and perhaps prices and a message. -/
theorem content_of_named {action : String} (hnamed : textAt "action" fields = some action)
    (hrequests : fields.lookup "requests" = none) (hid : textAt "requestId" fields = none) :
    contentAt fields =
      { action := some action, good := textAt "good" fields, price := priceAt "price" fields,
        publicPrice := priceAt "publicPrice" fields, limitPrice := priceAt "limitPrice" fields,
        message := textAt "message" fields } := by
  unfold contentAt
  rw [hnamed, hid, requestsAt_none hrequests]
  rfl

theorem priceAt_none (h : fields.lookup name = none) : priceAt name fields = none := by
  unfold priceAt textAt
  rw [h]
  rfl

theorem lookup_of_textAt (h : textAt name fields = some text) :
    fields.lookup name = some (.str text) := by
  unfold textAt at h
  split at h
  · next found hfound =>
      obtain rfl := Option.some.inj h
      exact hfound
  · cases h

/-- An object with a known discriminator is read by the model of that name. -/
theorem accepted_iff {action : String} {read : Wire.Fields → Option Action}
    (hnamed : textAt "action" fields = some action) (hmodel : Wire.model action = some read) :
    AcceptedOnWire (.object fields) ↔
      ∃ a, read fields = some a ∧ saidBy a = contentAt fields := by
  have hread : agentDrivenMarketAction (.object fields) = read fields := by
    unfold agentDrivenMarketAction
    dsimp only
    rw [lookup_of_textAt hnamed]
    dsimp only
    rw [hmodel]
    rfl
  show (∃ a, agentDrivenMarketAction (.object fields) = some a ∧ saidBy a = contentAt fields) ↔ _
  rw [hread]

/-! ### The shapes -/

/-- The keys an order may have. -/
def orderNames : List String :=
  ["action", "good", "quantity", "limitPrice", "publicPrice", "message"]

theorem model_of_side {action : String} (h : action = "buy" ∨ action = "sell") :
    ∃ make : Order → Action, Wire.model action = some (fun fields => (Wire.order fields).map make) ∧
      ∀ o, saidBy (make o) = saidOrder action o := by
  rcases h with rfl | rfl
  · exact ⟨.buy, rfl, fun _ => rfl⟩
  · exact ⟨.sell, rfl, fun _ => rfl⟩

section Shapes

variable {action : String} (hcheck : Checked action fields)

include hcheck

/-- `pass` and `accept` -/
theorem bare_accepted {a : Action} (hkeys : KeysIn ["action"] fields)
    (hmodel : Wire.model action = some (Wire.noFields a))
    (hsaid : saidBy a = { action := some action }) :
    AcceptedOnWire (.object fields) ↔ WireFit fields := by
  have hrequests := hkeys.lookup_none "requests" (by decide)
  have hid := hkeys.textAt_none "requestId" (by decide)
  have hmessage := hkeys.textAt_none "message" (by decide)
  refine iff_of_true ((accepted_iff hcheck.named hmodel).mpr ⟨a, ?_, ?_⟩)
    ((wireFit_iff_message hrequests hid).mpr ?_)
  · have hextra : Wire.noExtra [Wire.actionField] fields = true := noExtra_of_keysIn hkeys
    unfold Wire.noFields
    rw [hextra]
    rfl
  · rw [content_of_named hcheck.named hrequests hid, hsaid, hmessage,
      hkeys.textAt_none "good" (by decide),
      priceAt_none (hkeys.lookup_none "price" (by decide)),
      priceAt_none (hkeys.lookup_none "publicPrice" (by decide)),
      priceAt_none (hkeys.lookup_none "limitPrice" (by decide))]
  · intro text htext
    rw [hmessage] at htext
    cases htext

/-- `reject` and `reject_all` -/
theorem message_accepted {make : Option PublicMessage → Action}
    (hkeys : KeysIn ["action", "message"] fields)
    (hmodel : Wire.model action = some (Wire.optionalMessage make))
    (hsaid : ∀ m, saidBy (make m) = { action := some action, message := m.map (·.text) })
    (hmessage : fields.lookup "message" = none ∨
      ∃ text, fields.lookup "message" = some (.str text)) :
    AcceptedOnWire (.object fields) ↔ WireFit fields := by
  have hrequests := hkeys.lookup_none "requests" (by decide)
  have hid := hkeys.textAt_none "requestId" (by decide)
  have hget : (Wire.plain "message").get fields = fields.lookup (Wire.plain "message").wire :=
    get_of_lookup (Or.inl rfl)
  have hextra : Wire.noExtra [Wire.actionField, Wire.plain "message"] fields = true :=
    noExtra_of_keysIn hkeys
  have hread : ∀ m, Wire.optional (Wire.plain "message") Wire.publicMessage fields = some m →
      Wire.optionalMessage make fields = some (make m) := by
    intro m hm
    unfold Wire.optionalMessage
    rw [hextra, hm]
    rfl
  rw [accepted_iff hcheck.named hmodel, wireFit_iff_message hrequests hid]
  constructor
  · rintro ⟨a, ha, -⟩
    unfold Wire.optionalMessage at ha
    obtain ⟨⟨⟩, -, ha⟩ := Option.bind_eq_some_iff.mp ha
    obtain ⟨m, hm, -⟩ := Option.bind_eq_some_iff.mp ha
    exact visible_of_optional hget hm
  · intro hvisible
    obtain ⟨m, hm, htext⟩ := optional_message hget hmessage hcheck.message hvisible
    refine ⟨make m, hread m hm, ?_⟩
    have htext' : textAt "message" fields = m.map (·.text) := htext
    rw [content_of_named hcheck.named hrequests hid, hsaid, htext',
      hkeys.textAt_none "good" (by decide),
      priceAt_none (hkeys.lookup_none "price" (by decide)),
      priceAt_none (hkeys.lookup_none "publicPrice" (by decide)),
      priceAt_none (hkeys.lookup_none "limitPrice" (by decide))]

/-- `propose` -/
theorem propose_accepted (hkeys : KeysIn ["action", "price", "message"] fields)
    (hmodel : action = "propose") {price message : String}
    (hprice : fields.lookup "price" = some (.str price))
    (hmessage : fields.lookup "message" = some (.str message)) :
    AcceptedOnWire (.object fields) ↔ WireFit fields := by
  have hrequests := hkeys.lookup_none "requests" (by decide)
  have hid := hkeys.textAt_none "requestId" (by decide)
  have hextra : Wire.noExtra [Wire.actionField, Wire.plain "price", Wire.plain "message"] fields =
      true := noExtra_of_keysIn hkeys
  have hgetPrice : (Wire.plain "price").get fields = fields.lookup (Wire.plain "price").wire :=
    get_of_lookup (Or.inl rfl)
  have hgetMessage : (Wire.plain "message").get fields =
      fields.lookup (Wire.plain "message").wire := get_of_lookup (Or.inl rfl)
  have htext := textAt_of_lookup hmessage
  rw [accepted_iff hcheck.named (show Wire.model action = some Wire.propose by rw [hmodel]; rfl),
    wireFit_iff_message hrequests hid]
  constructor
  · rintro ⟨a, ha, -⟩ shown hshown
    unfold Wire.propose at ha
    obtain ⟨⟨⟩, -, ha⟩ := Option.bind_eq_some_iff.mp ha
    obtain ⟨p, -, ha⟩ := Option.bind_eq_some_iff.mp ha
    obtain ⟨m, hm, -⟩ := Option.bind_eq_some_iff.mp ha
    rw [htext] at hshown
    obtain rfl := Option.some.inj hshown
    exact visible_of_required hgetMessage hmessage hm
  · intro hvisible
    obtain ⟨p, hp, hat⟩ := required_price hgetPrice hprice
        (hcheck.price price (textAt_of_lookup hprice))
    obtain ⟨m, hm, hsame⟩ := required_message hgetMessage hmessage (hcheck.message message htext)
      (hvisible message htext)
    refine ⟨.propose p m, ?_, ?_⟩
    · unfold Wire.propose
      rw [hextra, hp, hm]
      rfl
    · have hat' : priceAt "price" fields = some (saidPrice p) := hat
      have hsame' : textAt "message" fields = some m.text := hsame
      rw [content_of_named hcheck.named hrequests hid, hat', hsame', hmodel,
        hkeys.textAt_none "good" (by decide),
        priceAt_none (hkeys.lookup_none "publicPrice" (by decide)),
        priceAt_none (hkeys.lookup_none "limitPrice" (by decide))]
      rfl

/-- `engage` -/
theorem engage_accepted (hkeys : KeysIn ["action", "requestId"] fields) (hmodel : action = "engage")
    {requestId : String} (hrequestId : fields.lookup "requestId" = some (.str requestId)) :
    AcceptedOnWire (.object fields) ↔ WireFit fields := by
  have hrequests := hkeys.lookup_none "requests" (by decide)
  have hmessage := hkeys.textAt_none "message" (by decide)
  have htext := textAt_of_lookup hrequestId
  have hextra : Wire.noExtra [Wire.actionField, ⟨"requestId", "request_id"⟩] fields = true :=
    noExtra_of_keysIn hkeys
  have hget : (⟨"requestId", "request_id"⟩ : FieldName).get fields = fields.lookup "requestId" :=
    get_of_lookup (Or.inr (hkeys.lookup_none "request_id" (by decide)))
  have hvalid : identifier 512 requestId = true := by
    have h := hcheck.requestId hmodel
    rw [htext] at h
    exact h
  have hread : Wire.engage fields =
      (if requestId.length ≤ 256 then some requestId else none).map .engage := by
    have hrequired : Wire.required ⟨"requestId", "request_id"⟩ Wire.identifier fields =
        if requestId.length ≤ 256 then some requestId else none :=
      required_identifier hget hrequestId hvalid
    unfold Wire.engage
    rw [hextra, hrequired]
    split <;> rfl
  have hfit : WireFit fields ↔ requestId.length ≤ 256 := by
    unfold WireFit messagesIn identifiersIn
    rw [requestsAt_none hrequests, hmessage, htext]
    simp
  rw [accepted_iff hcheck.named (show Wire.model action = some Wire.engage by rw [hmodel]; rfl),
      hfit, hread]
  by_cases hshort : requestId.length ≤ 256
  · rw [if_pos hshort]
    refine iff_of_true ⟨.engage requestId, rfl, ?_⟩ hshort
    unfold contentAt
    rw [hcheck.named, htext, hmessage, requestsAt_none hrequests, hmodel,
      hkeys.textAt_none "good" (by decide), priceAt_none (hkeys.lookup_none "price" (by decide)),
      priceAt_none (hkeys.lookup_none "publicPrice" (by decide)),
      priceAt_none (hkeys.lookup_none "limitPrice" (by decide))]
    rfl
  · rw [if_neg hshort]
    refine iff_of_false ?_ hshort
    rintro ⟨a, ha, -⟩
    cases ha

/-- `buy` and `sell` -/
theorem order_accepted (hside : action = "buy" ∨ action = "sell") (hkeys : KeysIn orderNames fields)
    {good : String}
    (hgood : fields.lookup "good" = some (.str good))
    (hquantity : fields.lookup "quantity" = none ∨ ∃ n, fields.lookup "quantity" = some (.int n))
    (hlimit : fields.lookup "limitPrice" = none ∨
      ∃ text, fields.lookup "limitPrice" = some (.str text))
    (hpublic : fields.lookup "publicPrice" = none ∨
      ∃ text, fields.lookup "publicPrice" = some (.str text))
    (hmessage : fields.lookup "message" = none ∨
      ∃ text, fields.lookup "message" = some (.str text)) :
    AcceptedOnWire (.object fields) ↔ WireFit fields := by
  obtain ⟨make, hmodel, hsaid⟩ := model_of_side hside
  have hrequests := hkeys.lookup_none "requests" (by decide)
  have hid := hkeys.textAt_none "requestId" (by decide)
  have hextra : Wire.noExtra [Wire.actionField, Wire.plain "good", Wire.plain "quantity",
      ⟨"limitPrice", "limit_price"⟩, ⟨"publicPrice", "public_price"⟩, Wire.plain "message"] fields =
      true := noExtra_of_keysIn hkeys
  have hgetGood : (Wire.plain "good").get fields = fields.lookup (Wire.plain "good").wire :=
    get_of_lookup (Or.inl rfl)
  have hgetQuantity : (Wire.plain "quantity").get fields = fields.lookup "quantity" :=
    get_of_lookup (Or.inl rfl)
  have hgetLimit : (⟨"limitPrice", "limit_price"⟩ : FieldName).get fields =
      fields.lookup "limitPrice" :=
    get_of_lookup (Or.inr (hkeys.lookup_none "limit_price" (by decide)))
  have hgetPublic : (⟨"publicPrice", "public_price"⟩ : FieldName).get fields =
      fields.lookup "publicPrice" :=
    get_of_lookup (Or.inr (hkeys.lookup_none "public_price" (by decide)))
  have hgetMessage : (Wire.plain "message").get fields =
      fields.lookup (Wire.plain "message").wire := get_of_lookup (Or.inl rfl)
  have htext := textAt_of_lookup hgood
  have hvalid := hcheck.good good htext
  have hgoodId : Wire.required (Wire.plain "good") Wire.goodId fields = some good := by
    have hrequired : Wire.required (Wire.plain "good") Wire.goodId fields =
        if good.length ≤ 128 then some good else none :=
      required_identifier hgetGood hgood hvalid
    rw [hrequired, if_pos (identifier_iff.mp hvalid).1]
  rw [accepted_iff hcheck.named hmodel, wireFit_iff_message hrequests hid]
  constructor
  · rintro ⟨a, ha, -⟩
    obtain ⟨o, ho, -⟩ := Option.map_eq_some_iff.mp ha
    unfold Wire.order at ho
    obtain ⟨⟨⟩, -, ho⟩ := Option.bind_eq_some_iff.mp ho
    obtain ⟨g, -, ho⟩ := Option.bind_eq_some_iff.mp ho
    obtain ⟨⟨⟩, -, ho⟩ := Option.bind_eq_some_iff.mp ho
    obtain ⟨l, -, ho⟩ := Option.bind_eq_some_iff.mp ho
    obtain ⟨p, -, ho⟩ := Option.bind_eq_some_iff.mp ho
    obtain ⟨m, hm, -⟩ := Option.bind_eq_some_iff.mp ho
    exact visible_of_optional hgetMessage hm
  · intro hvisible
    obtain ⟨l, hl, hlat⟩ := optional_price hgetLimit hlimit hcheck.limitPrice
    obtain ⟨p, hp, hpat⟩ := optional_price hgetPublic hpublic hcheck.publicPrice
    obtain ⟨m, hm, hmat⟩ := optional_message hgetMessage hmessage hcheck.message hvisible
    have hone : Wire.quantity fields = some () := by
      unfold Wire.quantity
      rw [hgetQuantity]
      rcases hquantity with hnone | ⟨n, hn⟩
      · rw [hnone]
      · rw [hn, hcheck.quantity n hn]
        rfl
    have horder : Wire.order fields =
        some { good, limitPrice := l, publicPrice := p, message := m } := by
      unfold Wire.order
      rw [hextra, hgoodId, hone, hl, hp, hm]
      rfl
    refine ⟨make { good, limitPrice := l, publicPrice := p, message := m }, ?_, ?_⟩
    · rw [horder]
      rfl
    · have hlat' : priceAt "limitPrice" fields = l.map saidPrice := hlat
      have hpat' : priceAt "publicPrice" fields = p.map saidPrice := hpat
      have hmat' : textAt "message" fields = m.map (·.text) := hmat
      rw [content_of_named hcheck.named hrequests hid, hsaid, htext, hlat', hpat', hmat',
        priceAt_none (hkeys.lookup_none "price" (by decide))]
      rfl

end Shapes

/-! ### Requests -/

/-- The fields of a request. -/
def requestNames : List String :=
  ["targetIntentId", "openingPrice", "message"]

/-- The fields of a request with these texts. -/
def requestFields (text : String → String) : List (String × Json) :=
  requestNames.map fun name => (name, .str (text name))

section Request

variable (said : String → String)

theorem lookup_requestFields (name : String) (hname : name ∈ requestNames := by decide) :
    (requestFields said).lookup name = some (.str (said name)) := by
  simp only [requestNames, List.mem_cons, List.not_mem_nil, or_false] at hname
  obtain rfl | rfl | rfl := hname <;> rfl

theorem textAt_requestFields (name : String) (hname : name ∈ requestNames := by decide) :
    textAt name (requestFields said) = some (said name) :=
  textAt_of_lookup (lookup_requestFields said name hname)

theorem keysIn_requestFields : KeysIn requestNames (requestFields said) := by
  intro field hfield
  obtain ⟨name, hname, rfl⟩ := List.mem_map.mp hfield
  exact hname

variable {said}

theorem checkRequest_ok {seen : List String} {target : String}
    (h : checkRequest seen (.object (requestFields said)) = .ok target) :
    identifier 512 (said "targetIntentId") = true ∧ fixedDecimal (said "openingPrice") = true ∧
      publicMessage (said "message") = true := by
  unfold checkRequest at h
  dsimp only at h
  rw [textAt_requestFields said "targetIntentId", textAt_requestFields said "openingPrice",
    textAt_requestFields said "message"] at h
  obtain ⟨⟨⟩, hid, h⟩ := ok_of_bind h
  obtain ⟨⟨⟩, -, h⟩ := ok_of_bind h
  obtain ⟨⟨⟩, hdecimal, h⟩ := ok_of_bind h
  obtain ⟨⟨⟩, hpublic, -⟩ := ok_of_bind h
  exact ⟨check_ok hid, check_ok hdecimal, check_ok hpublic⟩

/-- A request the connector accepts is a candidate of the wire model when its message and its id
    are fit for the wire. -/
theorem requestCandidate_iff (hid : identifier 512 (said "targetIntentId") = true)
    (hprice : fixedDecimal (said "openingPrice") = true)
    (hmessage : publicMessage (said "message") = true) :
    (∃ c, Wire.requestCandidate (.object (requestFields said)) = some c ∧
      saidRequest c = requestContentAt (requestFields said)) ↔
      Py.strip (said "message").toList ≠ [] ∧ (said "targetIntentId").length ≤ 256 := by
  have hkeys := keysIn_requestFields said
  have hextra : Wire.noExtra [⟨"targetIntentId", "target_intent_id"⟩,
      ⟨"openingPrice", "opening_price"⟩, Wire.plain "message"] (requestFields said) = true :=
    noExtra_of_keysIn hkeys
  have hgetTarget : (⟨"targetIntentId", "target_intent_id"⟩ : FieldName).get (requestFields said) =
      (requestFields said).lookup "targetIntentId" :=
    get_of_lookup (Or.inr (hkeys.lookup_none "target_intent_id" (by decide)))
  have hgetPrice : (⟨"openingPrice", "opening_price"⟩ : FieldName).get (requestFields said) =
      (requestFields said).lookup "openingPrice" :=
    get_of_lookup (Or.inr (hkeys.lookup_none "opening_price" (by decide)))
  have hgetMessage : (Wire.plain "message").get (requestFields said) =
      (requestFields said).lookup (Wire.plain "message").wire := get_of_lookup (Or.inl rfl)
  have htarget : Wire.required ⟨"targetIntentId", "target_intent_id"⟩ Wire.identifier
      (requestFields said) =
        if (said "targetIntentId").length ≤ 256 then some (said "targetIntentId") else none :=
    required_identifier hgetTarget (lookup_requestFields said "targetIntentId") hid
  constructor
  · rintro ⟨c, hc, -⟩
    unfold Wire.requestCandidate at hc
    obtain ⟨⟨⟩, -, hc⟩ := Option.bind_eq_some_iff.mp hc
    obtain ⟨t, ht, hc⟩ := Option.bind_eq_some_iff.mp hc
    obtain ⟨p, -, hc⟩ := Option.bind_eq_some_iff.mp hc
    obtain ⟨m, hm, -⟩ := Option.bind_eq_some_iff.mp hc
    refine ⟨visible_of_required hgetMessage (lookup_requestFields said "message") hm, ?_⟩
    by_contra hlong
    rw [htarget, if_neg hlong] at ht
    cases ht
  · rintro ⟨hvisible, hshort⟩
    rw [if_pos hshort] at htarget
    obtain ⟨p, hp, hpat⟩ := required_price hgetPrice (lookup_requestFields said "openingPrice")
      hprice
    obtain ⟨m, hm, hmat⟩ := required_message hgetMessage (lookup_requestFields said "message") hmessage
      hvisible
    have hpat' : priceAt "openingPrice" (requestFields said) = some (saidPrice p) := hpat
    have hmat' : textAt "message" (requestFields said) = some m.text := hmat
    refine ⟨{ targetIntentId := said "targetIntentId", openingPrice := p, message := m }, ?_, ?_⟩
    · unfold Wire.requestCandidate
      dsimp only
      rw [hextra, htarget, hp, hm]
      rfl
    · unfold requestContentAt
      rw [textAt_requestFields said "targetIntentId", hpat', hmat']
      rfl

end Request

/-- Only one request passes the check. -/
theorem single_request {texts : List (String → String)} (h : checkRequests fields = .ok ())
    (hlookup : fields.lookup "requests" = some (.list (texts.map (Go.textObject requestNames)))) :
    ∃ said, texts = [said] ∧ identifier 512 (said "targetIntentId") = true ∧
      fixedDecimal (said "openingPrice") = true ∧ publicMessage (said "message") = true := by
  unfold checkRequests at h
  rw [hlookup] at h
  obtain ⟨⟨⟩, hcount, h⟩ := ok_of_bind h
  have hlength : texts.length = 1 := by
    have := of_decide_eq_true (check_ok hcount)
    rwa [List.length_map] at this
  obtain ⟨said, rfl⟩ := List.length_eq_one_iff.mp hlength
  obtain ⟨seen, hfold, -⟩ := ok_of_bind h
  rw [List.map_cons, List.foldlM_cons] at hfold
  obtain ⟨next, hnext, -⟩ := ok_of_bind hfold
  obtain ⟨target, htarget, -⟩ := ok_of_bind hnext
  exact ⟨said, rfl, checkRequest_ok htarget⟩

/-- `request_negotiations` -/
theorem requests_accepted {action : String} (hcheck : Checked action fields)
    (hkeys : KeysIn ["action", "requests"] fields) (hmodel : action = "request_negotiations")
    (hlookup : fields.lookup "requests" = some .null ∨ ∃ texts : List (String → String),
      fields.lookup "requests" = some (.list (texts.map (Go.textObject requestNames)))) :
    AcceptedOnWire (.object fields) ↔ WireFit fields := by
  have hrequests := hcheck.requests hmodel
  rcases hlookup with hnull | ⟨texts, hlookup⟩
  · unfold checkRequests at hrequests
    rw [hnull] at hrequests
    cases hrequests
  obtain ⟨said, rfl, hid, hprice, hmessage⟩ := single_request hrequests hlookup
  have hitems : fields.lookup "requests" = some (.list [.object (requestFields said)]) := hlookup
  have hat : requestsAt fields = [requestFields said] := by
    unfold requestsAt
    rw [hitems]
    rfl
  have hnone := hkeys.textAt_none "message" (by decide)
  have hnoId := hkeys.textAt_none "requestId" (by decide)
  have hextra : Wire.noExtra [Wire.actionField, Wire.plain "requests"] fields = true :=
    noExtra_of_keysIn hkeys
  have hget : (Wire.plain "requests").get fields = fields.lookup "requests" :=
    get_of_lookup (Or.inl rfl)
  have hfit : WireFit fields ↔
      Py.strip (said "message").toList ≠ [] ∧ (said "targetIntentId").length ≤ 256 := by
    unfold WireFit messagesIn identifiersIn
    rw [hat, hnone, hnoId]
    simp [textAt_requestFields said "message", textAt_requestFields said "targetIntentId"]
  have hcontent : contentAt fields =
      { action := some "request_negotiations", requests := [requestContentAt (requestFields said)] } := by
    unfold contentAt
    rw [hcheck.named, hat, hnone, hnoId, hmodel, hkeys.textAt_none "good" (by decide),
      priceAt_none (hkeys.lookup_none "price" (by decide)),
      priceAt_none (hkeys.lookup_none "publicPrice" (by decide)),
      priceAt_none (hkeys.lookup_none "limitPrice" (by decide))]
    rfl
  rw [accepted_iff hcheck.named
    (show Wire.model action = some Wire.requestNegotiations by rw [hmodel]; rfl), hfit,
    ← requestCandidate_iff hid hprice hmessage]
  constructor
  · rintro ⟨a, ha, hsaid⟩
    unfold Wire.requestNegotiations at ha
    obtain ⟨⟨⟩, -, ha⟩ := Option.bind_eq_some_iff.mp ha
    obtain ⟨l, hl, ha⟩ := Option.bind_eq_some_iff.mp ha
    obtain rfl := Option.some.inj ha
    unfold Wire.required at hl
    rw [hget, hitems, Option.bind_some] at hl
    obtain ⟨requests, hmap, hl⟩ := Option.bind_eq_some_iff.mp hl
    rw [List.mapM_cons, List.mapM_nil] at hmap
    obtain ⟨c, hc, hmap⟩ := Option.bind_eq_some_iff.mp hmap
    obtain rfl := Option.some.inj hmap
    have hlist : l.requests = [c] := by
      unfold Wire.requestsOf at hl
      split at hl
      · obtain rfl := Option.some.inj hl
        rfl
      · cases hl
    refine ⟨c, hc, ?_⟩
    rw [hcontent] at hsaid
    have := congrArg ActionContent.requests hsaid
    change l.requests.map saidRequest = _ at this
    rw [hlist] at this
    exact List.head_eq_of_cons_eq this
  · rintro ⟨c, hc, hsame⟩
    have hsize : 1 ≤ [c].length ∧ [c].length ≤ maxRfqPerActionV1 ∧
        ([c].map (·.targetIntentId)).Nodup := ⟨le_rfl, le_rfl, List.nodup_singleton _⟩
    have hlist : Wire.required (Wire.plain "requests") Wire.requestList fields =
        some ⟨[c], hsize.1, hsize.2.1, hsize.2.2⟩ := by
      have hmap : [Json.object (requestFields said)].mapM Wire.requestCandidate = some [c] := by
        rw [List.mapM_cons, hc]
        rfl
      unfold Wire.required
      rw [hget, hitems, Option.bind_some]
      unfold Wire.requestList
      dsimp only
      rw [hmap, Option.bind_some]
      exact dif_pos hsize
    refine ⟨.requestNegotiations ⟨[c], hsize.1, hsize.2.1, hsize.2.2⟩, ?_, ?_⟩
    · unfold Wire.requestNegotiations
      rw [hextra, hlist]
      rfl
    · rw [hcontent, ← hsame]
      rfl

/-! ### The answer -/

section Answer

variable {taskKind : TaskKind} {action : String} {target : List Field} {decoded : Struct}

theorem KeysIn.mono {names more : List String} (h : KeysIn names fields) (hsub : names ⊆ more) :
    KeysIn more fields :=
  fun field hfield => hsub (h field hfield)

theorem keysIn_fields (target : List Field) (decoded : Struct) :
    KeysIn (target.map (·.name)) (decoded.fields target) := by
  intro field hfield
  obtain ⟨f, hf, hname⟩ := Go.mem_fields hfield
  exact hname ▸ List.mem_map_of_mem hf

/-- The fields of every struct have distinct names. -/
theorem target_nodup (h : actionTarget taskKind action = .ok target) :
    (target.map (·.name)).Nodup ∧ ∀ f ∈ target, ∀ names, f.type = .slice names → names.Nodup := by
  cases taskKind <;> unfold actionTarget at h <;> dsimp only at h <;> split_ifs at h <;>
    obtain rfl := Except.ok.inj h <;> refine ⟨by decide, ?_⟩ <;>
    simp [onlyAction]

/-- The wire model accepts what is fit for it, whatever the task kind. -/
theorem target_accepted (htarget : actionTarget taskKind action = .ok target)
    (htyped : decoded.Typed target) (hcheck : Checked action (decoded.fields target)) :
    AcceptedOnWire (.object (decoded.fields target)) ↔ WireFit (decoded.fields target) := by
  have hnodup := (target_nodup htarget).1
  have hkeys := keysIn_fields target decoded
  unfold actionTarget at htarget
  cases taskKind with
  | decide =>
      dsimp only at htarget
      split_ifs at htarget with hside hpass
      · obtain rfl := Except.ok.inj htarget
        obtain ⟨good, hgood⟩ := htyped.lookup_string hnodup "good" (by simp)
        have hquantity := htyped.lookup_intPointer hnodup "quantity" (by simp)
        have hlimit := htyped.lookup_stringPointer hnodup "limitPrice" (by simp)
        have hpublic := hkeys.lookup_none "publicPrice" (by decide)
        have hmessage := hkeys.lookup_none "message" (by decide)
        have hsub : KeysIn orderNames _ := hkeys.mono (by simp [orderNames])
        exact order_accepted hcheck hside hsub hgood hquantity hlimit (Or.inl hpublic)
          (Or.inl hmessage)
      · obtain rfl := Except.ok.inj htarget
        obtain rfl := hpass
        exact bare_accepted hcheck hkeys rfl rfl
  | marketIntent =>
      dsimp only at htarget
      split_ifs at htarget with hside hpass
      · obtain rfl := Except.ok.inj htarget
        obtain ⟨good, hgood⟩ := htyped.lookup_string hnodup "good" (by simp)
        have hquantity := htyped.lookup_intPointer hnodup "quantity" (by simp)
        have hlimit := htyped.lookup_string hnodup "limitPrice" (by simp)
        have hpublic := htyped.lookup_string hnodup "publicPrice" (by simp)
        have hmessage := htyped.lookup_stringPointer hnodup "message" (by simp)
        have hsub : KeysIn orderNames _ := hkeys.mono (by simp [orderNames])
        exact order_accepted hcheck hside hsub hgood hquantity (Or.inr hlimit) (Or.inr hpublic)
          hmessage
      · obtain rfl := Except.ok.inj htarget
        obtain rfl := hpass
        exact bare_accepted hcheck hkeys rfl rfl
  | marketRfq =>
      dsimp only at htarget
      split_ifs at htarget with hrequests hpass
      · obtain rfl := Except.ok.inj htarget
        exact requests_accepted hcheck hkeys hrequests
          (htyped.lookup_slice hnodup "requests" (by simp [requestNames]))
      · obtain rfl := Except.ok.inj htarget
        obtain rfl := hpass
        exact bare_accepted hcheck hkeys rfl rfl
  | marketSelect =>
      dsimp only at htarget
      split_ifs at htarget with hengage hreject
      · obtain rfl := Except.ok.inj htarget
        obtain ⟨requestId, hrequestId⟩ := htyped.lookup_string hnodup "requestId" (by simp)
        exact engage_accepted hcheck hkeys hengage hrequestId
      · obtain rfl := Except.ok.inj htarget
        obtain rfl := hreject
        exact message_accepted hcheck hkeys rfl (fun _ => rfl)
          (htyped.lookup_stringPointer hnodup "message" (by simp))
  | negotiate =>
      dsimp only at htarget
      split_ifs at htarget with hpropose haccept hreject
      · obtain rfl := Except.ok.inj htarget
        obtain ⟨price, hprice⟩ := htyped.lookup_string hnodup "price" (by simp)
        obtain ⟨message, hmessage⟩ := htyped.lookup_string hnodup "message" (by simp)
        exact propose_accepted hcheck hkeys hpropose hprice hmessage
      · obtain rfl := Except.ok.inj htarget
        obtain rfl := haccept
        exact bare_accepted hcheck hkeys rfl rfl
      · obtain rfl := Except.ok.inj htarget
        obtain rfl := hreject
        exact message_accepted hcheck hkeys rfl (fun _ => rfl)
          (htyped.lookup_stringPointer hnodup "message" (by simp))

/-! ### Before and after writing -/

theorem textAt_decoded (htyped : decoded.Typed target) (hnodup : (target.map (·.name)).Nodup)
    (name : String) (hne : textAt name (decoded.fields target) ≠ some "") :
    textAt name decoded = textAt name (decoded.fields target) := by
  rcases htyped.get_or_zero hnodup name with hsame | ⟨hnull, hnone⟩ | ⟨hget, hempty | hnull⟩
  · unfold textAt
    change List.lookup name decoded = _ at hsame
    rw [hsame]
  · unfold textAt
    change List.lookup name decoded = _ at hnull
    rw [hnull, hnone]
  · exact absurd (textAt_of_lookup hempty) hne
  · unfold textAt
    change List.lookup name decoded = _ at hget
    rw [hget, hnull]

theorem requestsAt_decoded (htyped : decoded.Typed target) (hnodup : (target.map (·.name)).Nodup) :
    requestsAt decoded = requestsAt (decoded.fields target) := by
  rcases htyped.get_or_zero hnodup "requests" with hsame | ⟨hnull, hnone⟩ | ⟨hget, hempty | hnull⟩
  · unfold requestsAt
    change List.lookup "requests" decoded = _ at hsame
    rw [hsame]
  · unfold requestsAt
    change List.lookup "requests" decoded = _ at hnull
    rw [hnull, hnone]
  · unfold requestsAt
    change List.lookup "requests" decoded = _ at hget
    rw [hget, hempty]
  · unfold requestsAt
    change List.lookup "requests" decoded = _ at hget
    rw [hget, hnull]

theorem requestId_ne_empty (htarget : actionTarget taskKind action = .ok target)
    (hcheck : Checked action (decoded.fields target)) :
    textAt "requestId" (decoded.fields target) ≠ some "" := by
  intro hempty
  by_cases hengage : action = "engage"
  · have hid := hcheck.requestId hengage
    rw [hempty] at hid
    exact ne_empty_of_identifier hid rfl
  · have hkeys := keysIn_fields target decoded
    have hunknown : "requestId" ∉ target.map (·.name) := by
      unfold actionTarget at htarget
      cases taskKind <;> dsimp only at htarget <;> split_ifs at htarget <;>
        obtain rfl := Except.ok.inj htarget <;> decide
    rw [hkeys.textAt_none "requestId" hunknown] at hempty
    cases hempty

/-- What the struct holds is fit for the wire when what it is written as is. -/
theorem wireFit_decoded (htarget : actionTarget taskKind action = .ok target)
    (htyped : decoded.Typed target) (hcheck : Checked action (decoded.fields target)) :
    WireFit decoded ↔ WireFit (decoded.fields target) := by
  have hnodup := (target_nodup htarget).1
  have hmessage := textAt_decoded htyped hnodup "message" fun hempty =>
    ne_empty_of_message (hcheck.message "" hempty) rfl
  have hid := textAt_decoded htyped hnodup "requestId" (requestId_ne_empty htarget hcheck)
  unfold WireFit messagesIn identifiersIn
  rw [hmessage, hid, requestsAt_decoded htyped hnodup]

theorem orJson_ok {α : Type} {context : String} {x : Option α} {a : α}
    (h : orJson context x = .ok a) : x = some a := by
  cases x with
  | none => cases h
  | some b => exact congrArg some (Except.ok.inj h)

/-- What an answer that passed was decoded into. -/
theorem validated {value : Go.Value} {canonical : Json}
    (h : validateArenaAction taskKind value = .ok canonical) :
    ∃ action target decoded, decodeAction taskKind value = .ok (action, target, decoded) ∧
      actionTarget taskKind action = .ok target ∧ decoded.Typed target ∧
      Checked action (decoded.fields target) ∧ canonical = .object (decoded.fields target) := by
  unfold validateArenaAction at h
  obtain ⟨⟨action, target, decoded⟩, hdecode, h⟩ := ok_of_bind h
  obtain ⟨⟨⟩, hchecked, hcanonical⟩ := ok_of_bind h
  refine ⟨action, target, decoded, hdecode, ?_⟩
  unfold decodeAction at hdecode
  obtain ⟨discriminator, -, hdecode⟩ := ok_of_bind hdecode
  obtain ⟨known, htarget, hdecode⟩ := ok_of_bind hdecode
  obtain ⟨struct, hstruct, hsame⟩ := ok_of_bind hdecode
  obtain ⟨rfl, rfl, rfl⟩ : _ = action ∧ known = target ∧ struct = decoded := by
    simpa using Except.ok.inj hsame
  obtain ⟨hnodup, hslices⟩ := target_nodup htarget
  exact ⟨htarget, Go.typed_decodeStruct hnodup hslices (orJson_ok hstruct), checked_of_ok hchecked,
    (Except.ok.inj hcanonical).symm⟩

end Answer

/-- **An action the connector accepts is accepted on the wire, saying the same, exactly when its
messages are visible to `str.strip` and its ids have at most 256 characters.** -/
theorem accepted_on_wire_iff {runtime : Runtime} {taskKind : TaskKind} {raw : Go.Bytes}
    {canonical : Json} (h : validateRuntimeAction runtime taskKind raw = .ok canonical) :
    AcceptedOnWire canonical ↔
      ∃ fields, answerFields runtime taskKind raw = .ok fields ∧ WireFit fields := by
  unfold validateRuntimeAction at h
  obtain ⟨value, hvalue, h⟩ := ok_of_bind h
  obtain ⟨action, target, decoded, hdecode, htarget, htyped, hcheck, rfl⟩ := validated h
  have hanswer : answerFields runtime taskKind raw = .ok decoded := by
    unfold answerFields
    rw [hvalue]
    show (decodeAction taskKind value >>= fun x => pure x.2.2) = _
    rw [hdecode]
    rfl
  rw [target_accepted htarget htyped hcheck, ← wireFit_decoded htarget htyped hcheck, hanswer]
  constructor
  · intro hfit
    exact ⟨decoded, rfl, hfit⟩
  · rintro ⟨fields, hfields, hfit⟩
    obtain rfl := Except.ok.inj hfields
    exact hfit

namespace Sample

/-- The message of a written `reject`. -/
def rejectMessage : Except ActionError Json → Option String
  | .ok (.object [("action", .str "reject"), ("message", .str message)]) => some message
  | _ => none

theorem eq_of_rejectMessage {x : Except ActionError Json} {message : String}
    (h : rejectMessage x = some message) :
    x = .ok (.object [("action", .str "reject"), ("message", .str message)]) := by
  unfold rejectMessage at h
  split at h
  · obtain rfl := Option.some.inj h
    rfl
  · cases h

/-- A refusal whose message is the file separator. -/
def blankReject : Go.Bytes :=
  Go.utf8 "\x7b\"action\":\"reject\",\"message\":\"\\u001c\"\x7d"

/-- A refusal with a word, as Claude may write it. -/
def politeReject : Go.Bytes :=
  Go.utf8 "\x7b\"type\": \"reject\", \"message\": \"no\"\x7d"

/-- A Codex answer whose canonical action the wire model refuses. -/
theorem blank_reject_refused :
    ¬ ∀ runtime taskKind raw canonical,
      validateRuntimeAction runtime taskKind raw = .ok canonical → AcceptedOnWire canonical := by
  intro h
  have hmessage : rejectMessage (validateRuntimeAction .codex .negotiate blankReject) =
      some "\x1c" := by decide +kernel
  obtain ⟨action, haction, -⟩ := h .codex .negotiate blankReject _ (eq_of_rejectMessage hmessage)
  have hnone : (agentDrivenMarketAction
      (.object [("action", .str "reject"), ("message", .str "\x1c")])).isSome = false := by
    decide +kernel
  rw [haction] at hnone
  cases hnone

/-- A Claude answer that is renamed, accepted and accepted on the wire. -/
theorem polite_reject_accepted : ∃ canonical,
    validateRuntimeAction .claude .negotiate politeReject = .ok canonical ∧
      AcceptedOnWire canonical := by
  have hmessage : rejectMessage (validateRuntimeAction .claude .negotiate politeReject) =
      some "no" := by decide +kernel
  have haccepted := eq_of_rejectMessage hmessage
  have hfit : (match answerFields .claude .negotiate politeReject with
      | .ok fields => decide (WireFit fields)
      | .error _ => false) = true := by decide +kernel
  refine ⟨_, haccepted, (accepted_on_wire_iff haccepted).mpr ?_⟩
  cases hanswer : answerFields .claude .negotiate politeReject with
  | error raised =>
      rw [hanswer] at hfit
      cases hfit
  | ok fields =>
      rw [hanswer] at hfit
      exact ⟨fields, rfl, of_decide_eq_true hfit⟩

end Sample

end Arena402.Connector
