/-
What a decoded struct holds.

Every field holds a value of its type and no other key is there, whatever text was read: one field
of the text keeps this (`Typed.decodeField`) and so does a whole object (`typed_decodeInto`).
-/
import Arena402.Lib.GoDecode

namespace Go

open Py (Dict Json)

variable {known : List Field} {s s' : Struct} {strict : Bool} {key : String}

/-! ### Types -/

/-- An object of strings with these names. -/
def textObject (names : List String) (text : String → String) : Json :=
  .object (names.map fun name => (name, .str (text name)))

/-- The values that a field of a type can hold. -/
def FieldType.Holds : FieldType → Json → Prop
  | .string, v => ∃ text, v = .str text
  | .intPointer, v => v = .null ∨ ∃ n, v = .int n
  | .stringPointer, v => v = .null ∨ ∃ text, v = .str text
  | .slice names, v => v = .null ∨ ∃ texts : List (String → String), v = .list (texts.map (textObject names))

/-- The fields of a struct hold values of their types, and it has no other keys. -/
structure Struct.Typed (known : List Field) (s : Struct) : Prop where
  holds : ∀ f ∈ known, f.type.Holds (s.value f)
  known : ∀ name, (∀ f ∈ known, f.name ≠ name) → s.get name = none

theorem FieldType.holds_zero (type : FieldType) : type.Holds type.zero := by
  cases type with
  | string => exact ⟨"", rfl⟩
  | intPointer | stringPointer | slice _ => exact Or.inl rfl

theorem typed_nil (known : List Field) : Struct.Typed known [] where
  holds f _ := f.type.holds_zero
  known _ _ := rfl

theorem mem_of_findField {f : Field} (h : findField known key = some f) : f ∈ known := by
  unfold findField at h
  cases hexact : known.find? fun f => f.name = key with
  | some found =>
      rw [hexact] at h
      obtain rfl := Option.some.inj h
      exact List.mem_of_find?_eq_some hexact
  | none =>
      rw [hexact] at h
      exact List.mem_of_find?_eq_some h

/-! ### One field of the text -/

theorem Struct.value_set_self (f : Field) (v : Json) : Struct.value (s.set f.name v) f = v := by
  unfold Struct.value
  rw [Dict.get_set_self]
  rfl

theorem Struct.value_set_ne {f g : Field} (v : Json) (h : g.name ≠ f.name) :
    Struct.value (s.set f.name v) g = s.value g := by
  unfold Struct.value
  rw [Dict.get_set_ne s v h]

theorem eq_of_name (hnodup : (known.map (·.name)).Nodup) {f g : Field} (hf : f ∈ known)
    (hg : g ∈ known) (h : g.name = f.name) : g = f :=
  List.inj_on_of_nodup_map hnodup hg hf h

section Decode

variable {read : FieldType → Value → Json → Option Json}

/-- A field of the text keeps the types. -/
theorem Struct.Typed.decodeField (hnodup : (known.map (·.name)).Nodup)
    (hread : ∀ f ∈ known, ∀ value old new, f.type.Holds old → read f.type value old = some new →
      f.type.Holds new)
    (h : s.Typed known) {field : String × Value}
    (hdecode : Go.decodeField read strict known s field = some s') : s'.Typed known := by
  unfold Go.decodeField at hdecode
  cases hfind : findField known field.1 with
  | none =>
      rw [hfind] at hdecode
      cases strict with
      | true => cases hdecode
      | false =>
          obtain rfl := Option.some.inj hdecode
          exact h
  | some f =>
      have hf := mem_of_findField hfind
      rw [hfind] at hdecode
      obtain ⟨new, hnew, rfl⟩ := Option.map_eq_some_iff.mp hdecode
      refine ⟨?_, ?_⟩
      · intro g hg
        by_cases hname : g.name = f.name
        · obtain rfl := eq_of_name hnodup hf hg hname
          rw [Struct.value_set_self]
          exact hread g hg _ _ _ (h.holds g hg) hnew
        · rw [Struct.value_set_ne new hname]
          exact h.holds g hg
      · intro name hname
        rw [Dict.get_set_ne s new (Ne.symm (hname f hf))]
        exact h.known name hname

/-- A value read into an empty struct has the types. -/
theorem typed_decodeInto (hnodup : (known.map (·.name)).Nodup)
    (hread : ∀ f ∈ known, ∀ value old new, f.type.Holds old → read f.type value old = some new →
      f.type.Holds new)
    {value : Value} (h : decodeInto read strict known value = some s) : s.Typed known := by
  cases value with
  | null =>
      obtain rfl := Option.some.inj h
      exact typed_nil known
  | object fields =>
      have hfold : ∀ (fields : List (String × Value)) (start : Struct), start.Typed known →
          fields.foldlM (decodeField read strict known) start = some s → s.Typed known := by
        intro fields
        induction fields with
        | nil =>
            intro start hstart hdone
            obtain rfl := Option.some.inj hdone
            exact hstart
        | cons field rest ih =>
            intro start hstart hdone
            rw [List.foldlM_cons] at hdone
            obtain ⟨next, hnext, hrest⟩ := Option.bind_eq_some_iff.mp hdone
            exact ih next (hstart.decodeField hnodup hread hnext) hrest
      exact hfold fields [] (typed_nil known) h
  | bool b => cases h
  | number literal => cases h
  | str text => cases h
  | list items => cases h

end Decode

/-! ### Structs of strings -/

theorem holds_readScalar {type : FieldType} {value : Value} {old new : Json} (hold : type.Holds old)
    (h : readScalar type value old = some new) (hscalar : ∀ names, type ≠ .slice names) :
    type.Holds new := by
  cases type with
  | string =>
      cases value <;> simp only [readScalar, reduceCtorEq, Option.some.injEq] at h
      · rw [← h]
        exact hold
      · exact ⟨_, h.symm⟩
  | intPointer =>
      cases value <;> simp only [readScalar, reduceCtorEq, Option.some.injEq] at h
      · exact Or.inl h.symm
      · obtain ⟨n, -, hn⟩ := Option.map_eq_some_iff.mp h
        exact Or.inr ⟨n, hn.symm⟩
  | stringPointer =>
      cases value <;> simp only [readScalar, reduceCtorEq, Option.some.injEq] at h
      · exact Or.inl h.symm
      · exact Or.inr ⟨_, h.symm⟩
  | slice names => exact absurd rfl (hscalar names)

theorem names_stringFields (names : List String) : (stringFields names).map (·.name) = names := by
  unfold stringFields
  rw [List.map_map]
  exact List.map_id names

/-- A struct of strings is written as an object of strings. -/
theorem marshal_stringFields {names : List String} (h : s.Typed (stringFields names)) :
    ∃ text, marshal (stringFields names) s = textObject names text := by
  have hstr : ∀ name ∈ names, ∃ text, s.value { name, type := .string } = .str text := by
    intro name hname
    exact h.holds _ (List.mem_map_of_mem hname)
  choose! text htext using hstr
  refine ⟨text, ?_⟩
  unfold marshal textObject stringFields Struct.fields
  rw [List.filterMap_map, ← List.filterMap_eq_map]
  refine congrArg Json.object (List.filterMap_congr fun name hname => ?_)
  simp only [Function.comp_apply, Struct.written, htext name hname, Option.map_some]

theorem holds_readField {type : FieldType} {value : Value} {old new : Json}
    (hnodup : ∀ names, type = .slice names → names.Nodup) (hold : type.Holds old)
    (h : readField strict type value old = some new) : type.Holds new := by
  cases type with
  | slice names =>
      cases value with
      | null => exact Or.inl (Option.some.inj h).symm
      | list items =>
          obtain ⟨written, hwritten, rfl⟩ := Option.map_eq_some_iff.mp h
          have hobjects : ∀ (items : List Value) (written : List Json),
              (items.mapM fun item => (decodeInto readScalar strict (stringFields names) item).map
                (marshal (stringFields names))) = some written →
              ∃ texts : List (String → String), written = texts.map (textObject names) := by
            intro items
            induction items with
            | nil =>
                intro written hdone
                exact ⟨[], (Option.some.inj hdone).symm⟩
            | cons item rest ih =>
                intro written hdone
                rw [List.mapM_cons] at hdone
                obtain ⟨first, hfirst, hdone⟩ := Option.bind_eq_some_iff.mp hdone
                obtain ⟨more, hmore, hdone⟩ := Option.bind_eq_some_iff.mp hdone
                obtain rfl := Option.some.inj hdone
                obtain ⟨d, hd, rfl⟩ := Option.map_eq_some_iff.mp hfirst
                have htyped : d.Typed (stringFields names) := by
                  refine typed_decodeInto ?_ ?_ hd
                  · rw [names_stringFields]
                    exact hnodup names rfl
                  · intro f hf value old new hold hread
                    obtain ⟨name, -, rfl⟩ := List.mem_map.mp hf
                    exact holds_readScalar hold hread (by simp)
                obtain ⟨text, htext⟩ := marshal_stringFields htyped
                obtain ⟨texts, rfl⟩ := ih more hmore
                exact ⟨text :: texts, by rw [List.map_cons, htext]⟩
          obtain ⟨texts, rfl⟩ := hobjects items written hwritten
          exact Or.inr ⟨texts, rfl⟩
      | bool b => cases h
      | number literal => cases h
      | str text => cases h
      | object fields => cases h
  | string | intPointer | stringPointer => exact holds_readScalar hold h (by simp)

/-- **What a struct holds after decoding has the types of its fields.** -/
theorem typed_decodeStruct {value : Value} (hnodup : (known.map (·.name)).Nodup)
    (hslices : ∀ f ∈ known, ∀ names, f.type = .slice names → names.Nodup)
    (h : decodeStruct strict known value = some s) : s.Typed known :=
  typed_decodeInto hnodup
    (fun f hf _ _ _ hold hread => holds_readField (hslices f hf) hold hread) h

/-! ### What a struct is written as -/

theorem written_of_plain {f : Field} (h : f.omitEmpty = false) : s.written f = some (s.value f) := by
  unfold Struct.written
  rw [h]

theorem written_of_ne_null {f : Field} (h : s.value f ≠ .null) : s.written f = some (s.value f) := by
  unfold Struct.written
  split
  · next hnull => exact absurd hnull h
  · rfl

theorem written_cases (s : Struct) (f : Field) :
    s.written f = some (s.value f) ∨ s.written f = none ∧ s.value f = .null := by
  unfold Struct.written
  split
  · next hnull => exact Or.inr ⟨rfl, hnull⟩
  · exact Or.inl rfl

theorem mem_fields {field : String × Json} (h : field ∈ s.fields known) :
    ∃ f ∈ known, f.name = field.1 := by
  obtain ⟨f, hf, hfield⟩ := List.mem_filterMap.mp h
  obtain ⟨value, -, rfl⟩ := Option.map_eq_some_iff.mp hfield
  exact ⟨f, hf, rfl⟩

theorem lookup_eq_none {fields : List (String × Json)} (h : ∀ field ∈ fields, field.1 ≠ key) :
    fields.lookup key = none := by
  rw [List.lookup_eq_none_iff]
  intro field hfield
  exact bne_iff_ne.mpr (h field hfield).symm

/-- A name the struct does not have is not written. -/
theorem lookup_unknown (h : ∀ f ∈ known, f.name ≠ key) : (s.fields known).lookup key = none := by
  refine lookup_eq_none fun field hfield hkey => ?_
  obtain ⟨f, hf, hname⟩ := mem_fields hfield
  exact h f hf (hname.trans hkey)

/-- A field is found under its name. -/
theorem lookup_fields {f : Field} (hf : f ∈ known) (hnodup : (known.map (·.name)).Nodup) :
    (s.fields known).lookup f.name = s.written f := by
  induction known with
  | nil => cases hf
  | cons g rest ih =>
      rw [List.map_cons, List.nodup_cons] at hnodup
      have hcons : s.fields (g :: rest) =
          ((s.written g).map fun value => (g.name, value)).toList ++ s.fields rest := by
        unfold Struct.fields
        rw [List.filterMap_cons]
        cases s.written g <;> rfl
      rw [hcons]
      by_cases hname : f.name = g.name
      · have hsame : f = g := by
          rcases List.mem_cons.mp hf with h | h
          · exact h
          · exact absurd (hname ▸ List.mem_map_of_mem h) hnodup.1
        subst hsame
        have hrest : (s.fields rest).lookup f.name = none :=
          lookup_unknown fun x hx hx' => hnodup.1 (hx' ▸ List.mem_map_of_mem hx)
        cases hw : s.written f with
        | none => exact hrest
        | some value => simp
      · have hmem : f ∈ rest := by
          rcases List.mem_cons.mp hf with h | h
          · exact absurd (congrArg Field.name h) hname
          · exact h
        rw [← ih hmem hnodup.2]
        cases hw : s.written g with
        | none => rfl
        | some value => simp [List.lookup_cons, beq_eq_false_iff_ne.mpr hname]

/-! ### Fields of each type -/

section Lookups

variable (h : s.Typed known) (hnodup : (known.map (·.name)).Nodup) (name : String)

include h hnodup

theorem Struct.Typed.lookup_string (hf : { name, type := .string } ∈ known) :
    ∃ text, (s.fields known).lookup name = some (.str text) := by
  obtain ⟨text, htext⟩ := h.holds _ hf
  have hlookup := lookup_fields (s := s) hf hnodup
  rw [written_of_plain rfl, htext] at hlookup
  exact ⟨text, hlookup⟩

theorem Struct.Typed.lookup_stringPointer
    (hf : { name, type := .stringPointer, omitEmpty := true } ∈ known) :
    (s.fields known).lookup name = none ∨
      ∃ text, (s.fields known).lookup name = some (.str text) := by
  have hlookup := lookup_fields (s := s) hf hnodup
  rcases h.holds _ hf with hnull | ⟨text, htext⟩
  · unfold Struct.written at hlookup
    rw [hnull] at hlookup
    exact Or.inl hlookup
  · rw [written_of_ne_null (by rw [htext]; exact Json.noConfusion), htext] at hlookup
    exact Or.inr ⟨text, hlookup⟩

theorem Struct.Typed.lookup_intPointer
    (hf : { name, type := .intPointer, omitEmpty := true } ∈ known) :
    (s.fields known).lookup name = none ∨ ∃ n, (s.fields known).lookup name = some (.int n) := by
  have hlookup := lookup_fields (s := s) hf hnodup
  rcases h.holds _ hf with hnull | ⟨n, hn⟩
  · unfold Struct.written at hlookup
    rw [hnull] at hlookup
    exact Or.inl hlookup
  · rw [written_of_ne_null (by rw [hn]; exact Json.noConfusion), hn] at hlookup
    exact Or.inr ⟨n, hlookup⟩

theorem Struct.Typed.lookup_slice {names : List String}
    (hf : { name, type := .slice names } ∈ known) :
    (s.fields known).lookup name = some .null ∨ ∃ texts : List (String → String),
      (s.fields known).lookup name = some (.list (texts.map (textObject names))) := by
  have hlookup := lookup_fields (s := s) hf hnodup
  rw [written_of_plain rfl] at hlookup
  rcases h.holds _ hf with hnull | ⟨texts, htexts⟩
  · exact Or.inl (hlookup.trans (congrArg some hnull))
  · exact Or.inr ⟨texts, hlookup.trans (congrArg some htexts)⟩

/-- What a struct holds under a name is what it is written with, or it holds the zero value. -/
theorem Struct.Typed.get_or_zero :
    s.get name = (s.fields known).lookup name ∨
      s.get name = some .null ∧ (s.fields known).lookup name = none ∨
      s.get name = none ∧ ((s.fields known).lookup name = some (.str "") ∨
        (s.fields known).lookup name = some .null) := by
  by_cases hmem : ∃ f ∈ known, f.name = name
  · obtain ⟨f, hf, rfl⟩ := hmem
    have hlookup := lookup_fields (s := s) hf hnodup
    cases hget : s.get f.name with
    | some v =>
        have hvalue : s.value f = v := by
          unfold Struct.value
          rw [hget]
          rfl
        rcases written_cases s f with hw | ⟨hw, hnull⟩
        · exact Or.inl (by rw [hlookup, hw, hvalue])
        · exact Or.inr (Or.inl ⟨by rw [← hvalue, hnull], by rw [hlookup, hw]⟩)
    | none =>
        have hvalue : s.value f = f.type.zero := by
          unfold Struct.value
          rw [hget]
          rfl
        rcases written_cases s f with hw | ⟨hw, -⟩
        · refine Or.inr (Or.inr ⟨rfl, ?_⟩)
          rw [hlookup, hw, hvalue]
          cases f.type with
          | string => exact Or.inl rfl
          | intPointer | stringPointer | slice _ => exact Or.inr rfl
        · exact Or.inl (by rw [hlookup, hw])
  · have hunknown : ∀ f ∈ known, f.name ≠ name := fun f hf hname => hmem ⟨f, hf, hname⟩
    exact Or.inl (by rw [h.known name hunknown, lookup_unknown hunknown])

end Lookups

end Go
