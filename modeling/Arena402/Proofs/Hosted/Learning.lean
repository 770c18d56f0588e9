/-
Consecutive games of learning.

Every game starts from the foundation, which no learned revision replaces, so the rendered text does
not grow from game to game and states the accepted profile only.  What a text states of a profile is
found at its labels: a label has no digits and stands in one place of the policy sentence.
-/
import Arena402.Hosted.Learning
import Arena402.Proofs.Lib.Json

namespace Arena402.Hosted.Learning

open Py

variable {archetype : StrategyArchetype} {profile : StrategyPolicyProfile}

/-! ### Values in digits -/

theorem StrategyPolicyProfile.value_nonneg (profile : StrategyPolicyProfile) (f : PolicyField) :
    0 ≤ profile.value f ∧ profile.value f ≤ 10000 := by
  have hrange := profile.inRange f
  cases f <;> simp only [PolicyField.range] at hrange <;> omega

theorem intText_digits {n : Int} (h : 0 ≤ n) :
    Json.intText n ≠ [] ∧ ∀ c ∈ Json.intText n, c.isDigit = true := by
  unfold Json.intText
  rw [if_neg (by omega)]
  exact ⟨Nat.toDigits_ne_nil, fun c hc => Nat.isDigit_of_mem_toDigits (by decide) (by decide) hc⟩

theorem intText_length {n : Int} (h : 0 ≤ n) (hlt : n ≤ 10000) : (Json.intText n).length ≤ 5 := by
  unfold Json.intText
  rw [if_neg (by omega), Nat.length_toDigits_le_iff (by decide) (by decide)]
  omega

/-! ### Where a label stands -/

/-- A text states the value of a field: its label, the value and the unit. -/
def Mentions (text : List Char) (f : PolicyField) (v : Int) : Prop :=
  f.label.toList ++ Json.intText v ++ " bps".toList <:+: text

/-- A part without digits lies before or after digits. -/
theorem split_at_digits {front part back left digits right : List Char}
    (hpart : ∀ c ∈ part, c.isDigit = false) (hne : part ≠ [])
    (hdigits : ∀ c ∈ digits, c.isDigit = true) (hsome : digits ≠ [])
    (h : front ++ (part ++ back) = left ++ (digits ++ right)) :
    (∃ rest, left = front ++ part ++ rest ∧ back = rest ++ (digits ++ right)) ∨
      ∃ rest, right = rest ++ (part ++ back) := by
  obtain ⟨x, part', rfl⟩ := List.exists_cons_of_ne_nil hne
  obtain ⟨d, digits', rfl⟩ := List.exists_cons_of_ne_nil hsome
  have hx : x.isDigit = false := hpart x List.mem_cons_self
  have hd : d.isDigit = true := hdigits d List.mem_cons_self
  rcases List.append_eq_append_iff.mp h with ⟨a, rfl, ha⟩ | ⟨b, rfl, hb⟩
  · rcases List.append_eq_append_iff.mp ha with ⟨c, rfl, hc⟩ | ⟨c, hac, hc⟩
    · exact Or.inl ⟨c, by rw [List.append_assoc], hc⟩
    · cases c with
      | nil => exact Or.inl ⟨[], by simp [hac], by simpa using hc.symm⟩
      | cons y c =>
          -- The first digit would be in the part.
          have hdy : d = y := by
            simp only [List.cons_append, List.cons.injEq] at hc
            exact hc.1
          have hy := hpart y (by rw [hac]; simp)
          rw [← hdy, hd] at hy
          cases hy
  · rcases List.append_eq_append_iff.mp hb with ⟨c, rfl, hc⟩ | ⟨c, hbc, hc⟩
    · exact Or.inr ⟨c, hc⟩
    · cases c with
      | nil => exact Or.inr ⟨[], by simpa using hc.symm⟩
      | cons y c =>
          have hxy : x = y := by
            simp only [List.cons_append, List.cons.injEq] at hc
            exact hc.1
          have hy := hdigits y (by rw [hbc]; simp)
          rw [← hxy, hx] at hy
          cases hy

/-- The text before the value of a field, since the value before it. -/
def segment (archetype : StrategyArchetype) : PolicyField → List Char
  | .riskBudgetBps => " Learned bounded policy; public archetype ".toList ++
      archetype.value.toList ++ "; catalog ".toList ++ strategyCatalogVersion.toList ++
      ": ".toList ++ PolicyField.riskBudgetBps.label.toList
  | f => " bps; ".toList ++ f.label.toList

theorem policyText_eq (archetype : StrategyArchetype) (profile : StrategyPolicyProfile) :
    policyText archetype profile =
      (PolicyField.all.map fun f => segment archetype f ++ Json.intText (profile.value f)).flatten ++
        " bps. ".toList := by
  unfold policyText PolicyField.all segment
  generalize " Learned bounded policy; public archetype ".toList = w1
  generalize "; catalog ".toList = w2
  generalize strategyCatalogVersion.toList = w3
  generalize ": ".toList = w4
  generalize " bps; ".toList = w5
  generalize " bps. ".toList = w6
  simp only [List.map_cons, List.map_nil, List.flatten_cons, List.flatten_nil, List.append_assoc,
    List.append_nil]

theorem label_nodigit (f : PolicyField) :
    f.label.toList ≠ [] ∧ ∀ c ∈ f.label.toList, c.isDigit = false := by
  have hall : (!f.label.toList.isEmpty && f.label.toList.all fun c => !c.isDigit) = true := by
    cases f <;> rfl
  simpa using hall

theorem segment_label (archetype : StrategyArchetype) (f g : PolicyField) :
    ((segment archetype g).tails.all fun t =>
      !f.label.toList.isPrefixOf t || (g = f && t.length = f.label.toList.length)) = true := by
  cases g with
  | riskBudgetBps => cases archetype <;> cases f <;> rfl
  | minExpectedEdgeBps =>
      have hsame : segment archetype .minExpectedEdgeBps =
          segment .custom .minExpectedEdgeBps := rfl
      rw [hsame]
      cases f <;> rfl
  | maxInventoryConcentrationBps =>
      have hsame : segment archetype .maxInventoryConcentrationBps =
          segment .custom .maxInventoryConcentrationBps := rfl
      rw [hsame]
      cases f <;> rfl
  | negotiationConcessionBps =>
      have hsame : segment archetype .negotiationConcessionBps =
          segment .custom .negotiationConcessionBps := rfl
      rw [hsame]
      cases f <;> rfl
  | explorationBps =>
      have hsame : segment archetype .explorationBps = segment .custom .explorationBps := rfl
      rw [hsame]
      cases f <;> rfl

/-- A label is in its own segment only, and at the end of it. -/
theorem segment_eq {f g : PolicyField} {before rest : List Char}
    (h : segment archetype g = before ++ f.label.toList ++ rest) : g = f ∧ rest = [] := by
  have hall := List.all_eq_true.mp (segment_label archetype f g) (f.label.toList ++ rest) (by
    rw [List.mem_tails, h, List.append_assoc]
    exact List.suffix_append _ _)
  have hstarts : f.label.toList.isPrefixOf (f.label.toList ++ rest) = true :=
    List.isPrefixOf_iff_prefix.mpr (List.prefix_append _ _)
  simpa [hstarts] using hall

theorem segment_ends (archetype : StrategyArchetype) (f : PolicyField) :
    ∃ lead, segment archetype f = lead ++ f.label.toList := by
  cases f
  all_goals exact ⟨_, rfl⟩

/-- After a value comes the unit. -/
theorem segments_start (archetype : StrategyArchetype) (profile : StrategyPolicyProfile)
    (fields : List PolicyField) (hrisk : .riskBudgetBps ∉ fields) : ∃ more, " bps".toList ++ more =
      (fields.map fun f => segment archetype f ++ Json.intText (profile.value f)).flatten ++
        " bps. ".toList := by
  cases fields with
  | nil => exact ⟨['.', ' '], rfl⟩
  | cons g rest =>
      have hg : g ≠ .riskBudgetBps := by
        rintro rfl
        exact hrisk List.mem_cons_self
      have hunit : ∃ more, segment archetype g = " bps".toList ++ more := by
        cases g with
        | riskBudgetBps => exact absurd rfl hg
        | minExpectedEdgeBps | maxInventoryConcentrationBps | negotiationConcessionBps
        | explorationBps => exact ⟨[';', ' '] ++ _, rfl⟩
      obtain ⟨more, hmore⟩ := hunit
      rw [List.map_cons, List.flatten_cons, hmore]
      simp only [List.append_assoc]
      exact ⟨_, rfl⟩

theorem tail_nolabel (f : PolicyField) {before rest : List Char} :
    " bps. ".toList ≠ before ++ (f.label.toList ++ rest) := by
  intro h
  have hlen := congrArg List.length h
  rw [List.length_append, List.length_append] at hlen
  have hlong : " bps. ".toList.length < f.label.toList.length := by
    cases f <;> exact of_decide_eq_true (Eq.refl true)
  omega

/-- A segment starts with a space. -/
theorem noDigit_segments (fields : List PolicyField) (profile : StrategyPolicyProfile) :
    Json.NoDigit ((fields.map fun f => segment archetype f ++ Json.intText (profile.value f)).flatten ++
      " bps. ".toList) := by
  cases fields with
  | nil => exact Json.noDigit_cons (by decide) _
  | cons g rest => cases g <;> exact Json.noDigit_cons (by decide) _

/-- A label in the sentence is the one before its value. -/
theorem label_in_segments {f : PolicyField} {back : List Char} : ∀ (fields : List PolicyField)
    {front : List Char}, front ++ (f.label.toList ++ back) =
      (fields.map fun g => segment archetype g ++ Json.intText (profile.value g)).flatten ++
        " bps. ".toList →
    ∃ rest, back = Json.intText (profile.value f) ++ rest ∧ Json.NoDigit rest := by
  intro fields
  induction fields with
  | nil =>
      intro front h
      exact absurd h.symm (tail_nolabel f)
  | cons g fields ih =>
      intro front h
      rw [List.map_cons, List.flatten_cons, List.append_assoc, List.append_assoc] at h
      have hdigits := intText_digits (profile.value_nonneg g).1
      rcases split_at_digits (label_nodigit f).2 (label_nodigit f).1 hdigits.2 hdigits.1 h with
        ⟨rest, hsegment, hback⟩ | ⟨rest, hlater⟩
      · obtain ⟨rfl, rfl⟩ := segment_eq hsegment
        exact ⟨_, hback, noDigit_segments fields profile⟩
      · exact ih hlater.symm

theorem all_split (f : PolicyField) :
    ∃ front behind, PolicyField.all = front ++ f :: behind ∧ .riskBudgetBps ∉ behind := by
  cases f with
  | riskBudgetBps => exact ⟨PolicyField.all.take 0, PolicyField.all.drop 1, rfl, by decide⟩
  | minExpectedEdgeBps => exact ⟨PolicyField.all.take 1, PolicyField.all.drop 2, rfl, by decide⟩
  | maxInventoryConcentrationBps =>
      exact ⟨PolicyField.all.take 2, PolicyField.all.drop 3, rfl, by decide⟩
  | negotiationConcessionBps =>
      exact ⟨PolicyField.all.take 3, PolicyField.all.drop 4, rfl, by decide⟩
  | explorationBps => exact ⟨PolicyField.all.take 4, PolicyField.all.drop 5, rfl, by decide⟩

/-- **The policy sentence states the values of the profile and no others.** -/
theorem mentions_policyText_iff (f : PolicyField) (v : Int) :
    Mentions (policyText archetype profile) f v ↔ v = profile.value f := by
  unfold Mentions
  rw [policyText_eq]
  constructor
  · rintro ⟨front, after, h⟩
    have hlabel : front ++ (f.label.toList ++ (Json.intText v ++ (" bps".toList ++ after))) =
        (PolicyField.all.map fun g =>
          segment archetype g ++ Json.intText (profile.value g)).flatten ++ " bps. ".toList := by
      rw [← h]
      simp only [List.append_assoc]
    obtain ⟨rest, hback, hrest⟩ := label_in_segments PolicyField.all hlabel
    exact (Json.intText_append (Json.noDigit_cons (by decide) _) hrest hback).1
  · rintro rfl
    obtain ⟨front, behind, hsplit, hrisk⟩ := all_split f
    obtain ⟨lead, hlead⟩ := segment_ends archetype f
    obtain ⟨more, hmore⟩ := segments_start archetype profile behind hrisk
    refine ⟨(front.map fun g => segment archetype g ++ Json.intText (profile.value g)).flatten ++ lead,
      more, ?_⟩
    rw [hsplit, List.map_append, List.flatten_append, List.map_cons, List.flatten_cons, hlead]
    simp only [List.append_assoc]
    rw [hmore]

theorem guardText_silent (f : PolicyField) (v : Int) : ¬ Mentions guardText f v := by
  intro h
  -- The unit of a value is not in the guard.
  obtain ⟨front, back, hunit⟩ := List.IsInfix.trans (List.suffix_append _ _).isInfix h
  have habsent : (guardText.tails.all fun t => !" bps".toList.isPrefixOf t) = true := by
    decide +kernel
  have hfound := List.all_eq_true.mp habsent (" bps".toList ++ back) (by
    rw [List.mem_tails, ← hunit, List.append_assoc]
    exact List.suffix_append _ _)
  have hstarts : " bps".toList.isPrefixOf (" bps".toList ++ back) = true :=
    List.isPrefixOf_iff_prefix.mpr (List.prefix_append _ _)
  rw [hstarts] at hfound
  cases hfound

/-! ### The length of the text -/

theorem policyText_length (archetype : StrategyArchetype) (profile : StrategyPolicyProfile) :
    (policyText archetype profile).length ≤ 400 := by
  have hvalue : ∀ f, (Json.intText (profile.value f)).length ≤ 5 := fun f =>
    intText_length (profile.value_nonneg f).1 (profile.value_nonneg f).2
  have hsegment : ∀ f, (segment archetype f).length ≤ if f = .riskBudgetBps then 110 else 50 := by
    intro f
    cases f with
    | riskBudgetBps => cases archetype <;> exact of_decide_eq_true (Eq.refl true)
    | minExpectedEdgeBps | maxInventoryConcentrationBps | negotiationConcessionBps
    | explorationBps => exact of_decide_eq_true (Eq.refl true)
  have hunit : " bps. ".toList.length = 6 := by decide
  rw [policyText_eq]
  simp only [PolicyField.all, List.map_cons, List.map_nil, List.flatten_cons, List.flatten_nil,
    List.length_append, List.length_nil, hunit]
  have h1 := hsegment .riskBudgetBps
  have h2 := hsegment .minExpectedEdgeBps
  have h3 := hsegment .maxInventoryConcentrationBps
  have h4 := hsegment .negotiationConcessionBps
  have h5 := hsegment .explorationBps
  have v1 := hvalue .riskBudgetBps
  have v2 := hvalue .minExpectedEdgeBps
  have v3 := hvalue .maxInventoryConcentrationBps
  have v4 := hvalue .negotiationConcessionBps
  have v5 := hvalue .explorationBps
  simp only [reduceCtorEq, if_true, if_false] at h1 h2 h3 h4 h5
  omega

theorem guardText_length : guardText.length ≤ 200 := by decide +kernel

/-! ### The lessons -/

theorem selectLessons_append (header : List Char) : ∀ (values : List String) (index : Nat)
    (selected : List (List Char)), ∃ kept, kept <+: values ∧
      selectLessons header index values selected =
        selected ++ kept.mapIdx fun i value => lessonText (index + i) value := by
  intro values
  induction values with
  | nil =>
      intro index selected
      exact ⟨[], List.nil_prefix, by simp [selectLessons]⟩
  | cons value rest ih =>
      intro index selected
      unfold selectLessons
      dsimp only
      by_cases hlong : 4000 < (assembled header (selected ++ [lessonText index value])).length
      · rw [if_pos hlong]
        exact ⟨[], List.nil_prefix, by simp⟩
      · rw [if_neg hlong]
        obtain ⟨kept, hkept, heq⟩ := ih (index + 1) (selected ++ [lessonText index value])
        refine ⟨value :: kept, (List.prefix_cons_inj value).mpr hkept, ?_⟩
        rw [heq, List.mapIdx_cons, List.append_assoc]
        simp only [List.singleton_append, Nat.add_zero, Nat.add_assoc, Nat.add_comm 1]

theorem selectLessons_fits (header : List Char) : ∀ (values : List String) (index : Nat)
    (selected : List (List Char)), (selected ≠ [] → (assembled header selected).length ≤ 4000) →
      selectLessons header index values selected ≠ [] →
      (assembled header (selectLessons header index values selected)).length ≤ 4000 := by
  intro values
  induction values with
  | nil =>
      intro index selected hfits hne
      exact hfits hne
  | cons value rest ih =>
      intro index selected hfits hne
      unfold selectLessons at hne ⊢
      dsimp only at hne ⊢
      by_cases hlong : 4000 < (assembled header (selected ++ [lessonText index value])).length
      · rw [if_pos hlong] at hne ⊢
        exact hfits hne
      · rw [if_neg hlong] at hne ⊢
        exact ih (index + 1) _ (fun _ => not_lt.mp hlong) hne

/-- The first lesson stays when it fits. -/
theorem selectLessons_ne_nil {header : List Char} {value : String} (rest : List String)
    (h : (assembled header [lessonText 1 value]).length ≤ 4000) :
    selectLessons header 1 (value :: rest) [] ≠ [] := by
  unfold selectLessons
  rw [List.nil_append, if_neg (not_lt.mpr h)]
  obtain ⟨kept, -, heq⟩ := selectLessons_append header rest 2 [lessonText 1 value]
  rw [heq]
  simp

theorem trim_length (space : Char → Bool) (cs : List Char) :
    (trim space cs).length ≤ cs.length := by
  unfold trim
  rw [List.length_reverse]
  calc _ ≤ (cs.dropWhile space).reverse.length := (List.dropWhile_suffix space).length_le
    _ ≤ cs.length := by
      rw [List.length_reverse]
      exact (List.dropWhile_suffix space).length_le

/-- A short foundation leaves room for the first lesson. -/
theorem first_lesson_fits (archetype : StrategyArchetype) (profile : StrategyPolicyProfile)
    {foundation : List Char} {value : String}
    (hfoundation : foundation.length ≤ 1000) (hvalue : value.length ≤ 180) :
    (assembled (foundation ++ policyText archetype profile) [lessonText 1 value]).length ≤ 4000 := by
  have hpolicy := policyText_length archetype profile
  have hguard := guardText_length
  have hstrip : (strip value.toList).length ≤ value.toList.length := trim_length _ _
  rw [String.length_toList] at hstrip
  have hindex : (Json.intText ((1 : Nat) : Int)).length = 1 := by decide
  have hwords : "Lesson ".toList.length = 7 ∧ ": ".toList.length = 2 := by decide
  unfold assembled joined lessonText
  rw [List.intercalate_singleton]
  simp only [List.length_append, hwords.1, hwords.2, hindex, List.length_singleton]
  omega

/-- **What is rendered for a short foundation.**  The foundation, the policy sentence, lessons of the
    proposal in their order and the guard. -/
theorem render_short (archetype : StrategyArchetype) (profile : StrategyPolicyProfile)
    (foundation : String) {adjustments : List String}
    (hgiven : strip foundation.toList ≠ []) (hshort : foundation.length ≤ 1000)
    (hadjustments : adjustments ≠ []) (hvalues : ∀ value ∈ adjustments, value.length ≤ 180) :
    ∃ text kept, renderLearnedStrategyInstructions archetype foundation profile adjustments =
        .ok text ∧ text.length ≤ 4000 ∧ kept ≠ [] ∧ kept <+: adjustments ∧
      text.toList = strip foundation.toList ++ policyText archetype profile ++
        joined (kept.mapIdx fun i value => lessonText (i + 1) value) ++ [' '] ++ guardText := by
  obtain ⟨value, rest, rfl⟩ := List.exists_cons_of_ne_nil hadjustments
  have hfoundation : (strip foundation.toList).length ≤ 1000 :=
    (trim_length _ _).trans (by rwa [String.length_toList])
  have hne := selectLessons_ne_nil rest
    (first_lesson_fits archetype profile hfoundation (hvalues value List.mem_cons_self))
  have hfits := selectLessons_fits (strip foundation.toList ++ policyText archetype profile)
    (value :: rest) 1 [] (fun h => absurd rfl h) hne
  obtain ⟨kept, hkept, heq⟩ := selectLessons_append
    (strip foundation.toList ++ policyText archetype profile) (value :: rest) 1 []
  rw [List.nil_append] at heq
  refine ⟨String.ofList (assembled (strip foundation.toList ++ policyText archetype profile)
    (selectLessons (strip foundation.toList ++ policyText archetype profile) 1 (value :: rest) [])),
    kept, ?_, ?_, ?_, hkept, ?_⟩
  · unfold renderLearnedStrategyInstructions
    dsimp only
    rw [if_neg (by simpa using hgiven), if_neg (by simp), if_neg (by simpa using hne)]
  · rwa [String.length_ofList]
  · rintro rfl
    exact hne (by rw [heq, List.mapIdx_nil])
  · rw [String.toList_ofList, heq]
    unfold assembled
    simp only [Nat.add_comm 1]

/-! ### Consecutive games -/

variable {first : StrategyRevision} {lineage : List StrategyRevision} {g : LearningGame}

/-- A game played on the newest revision of a lineage, whose evidence the database loaded and whose
    proposal passed the gate. -/
structure LearningGame.Follows (g : LearningGame) (archetype : StrategyArchetype)
    (lineage : List StrategyRevision) : Prop where
  archetype_eq : g.evidence.archetype = archetype
  foundation : ∃ text ∈ foundationInstructions lineage,
    g.evidence.baseStrategyInstructions.text.toList = trim isWhiteSpace text.toList
  baseline : lineage.head?.map (·.policyProfile) = some g.evidence.basePolicyProfile
  passed : (evaluateLearningProposal g.evidence g.proposal).passed = true

/-- The lineages of an agent after any number of games, each learned from in turn. -/
inductive Played (archetype : StrategyArchetype) (first : StrategyRevision) :
    List StrategyRevision → Prop
  | start : Played archetype first [first]
  | learned {lineage : List StrategyRevision} {g : LearningGame} {text : String}
      (hplayed : Played archetype first lineage) (hgame : g.Follows archetype lineage)
      (htext : g.instructions = .ok text) : Played archetype first (g.revision text :: lineage)

theorem Played.lineage_eq (h : Played archetype first lineage) :
    ∃ learned, lineage = learned ++ [first] ∧ ∀ r ∈ learned, r.source = .learned := by
  induction h with
  | start => exact ⟨[], rfl, by simp⟩
  | learned hplayed hgame htext ih =>
      obtain ⟨learned, rfl, hlearned⟩ := ih
      refine ⟨_ :: learned, rfl, ?_⟩
      intro r hr
      rcases List.mem_cons.mp hr with rfl | hr
      · rfl
      · exact hlearned r hr

/-- The foundation is the first text, however many games were played. -/
theorem Played.foundation_eq (h : Played archetype first lineage) {text : String}
    (htext : text ∈ foundationInstructions lineage) : text = first.instructions := by
  obtain ⟨learned, rfl, hlearned⟩ := h.lineage_eq
  unfold foundationInstructions at htext
  cases hfound : ((learned ++ [first]).take 101).find? fun r => r.source ≠ .learned with
  | none =>
      rw [hfound] at htext
      cases htext
  | some r =>
      have hsource : r.source ≠ .learned := by
        simpa using List.find?_some hfound
      have hr : r = first := by
        rcases List.mem_append.mp (List.mem_of_mem_take (List.mem_of_find?_eq_some hfound)) with
          hmem | hmem
        · exact absurd (hlearned r hmem) hsource
        · exact List.mem_singleton.mp hmem
      rw [hfound, hr] at htext
      dsimp only at htext
      split at htext
      · cases htext
      · exact (Option.some.inj htext).symm

theorem envelope_of_passed {evidence : HostedLearningEvidence} {proposal : StrategyLearningProposal}
    (h : (evaluateLearningProposal evidence proposal).passed = true) (f : PolicyField) :
    ((archetypeEnvelope evidence.archetype f).1 ≤ proposal.policyProfile.value f ∧
      proposal.policyProfile.value f ≤ (archetypeEnvelope evidence.archetype f).2) ∧
      |proposal.policyProfile.value f - evidence.basePolicyProfile.value f| ≤ 1000 := by
  have hmember : f ∈ PolicyField.all := by
    cases f <;> decide
  have hchecks := List.all_eq_true.mp h
  have henvelope := hchecks ("archetypeEnvelopePassed", _)
    (List.mem_append_left _ (List.mem_append_right _ List.mem_cons_self))
  have hdelta := hchecks ("boundedDeltaPassed", _)
    (List.mem_append_left _ (List.mem_append_right _ (List.mem_cons_of_mem _ List.mem_cons_self)))
  have hf := List.all_eq_true.mp henvelope f hmember
  rw [Bool.and_eq_true, decide_eq_true_eq, decide_eq_true_eq] at hf
  exact ⟨hf, of_decide_eq_true (List.all_eq_true.mp hdelta f hmember)⟩

/-- What a rendered text of a game is. -/
structure LearningGame.RenderedWell (g : LearningGame) (foundation text : String) : Prop where
  short : text.length ≤ 4000
  current : ∀ f, Mentions text.toList f (g.proposal.policyProfile.value f)
  /-- Apart from the foundation and the lessons, no other value is stated. -/
  written : ∃ kept, kept ≠ [] ∧ kept <+: g.proposal.adjustments.map (·.text) ∧
    text.toList = strip foundation.toList ++
      policyText g.evidence.archetype g.proposal.policyProfile ++
      joined (kept.mapIdx fun i value => lessonText (i + 1) value) ++ [' '] ++ guardText
  silent : ∀ f v, v ≠ g.proposal.policyProfile.value f →
    ¬ Mentions (policyText g.evidence.archetype g.proposal.policyProfile) f v ∧
      ¬ Mentions guardText f v

/-- **Learning from game to game.**  After any number of games on an initial text of up to 1000
    characters that is not blank, the next accepted proposal is rendered. -/
theorem learned_strategy_rendered (hfirst : first.instructions.length ≤ 1000)
    (hvisible : strip first.instructions.toList ≠ [])
    (hplayed : Played archetype first lineage) (hgame : g.Follows archetype lineage) :
    (∃ text, g.instructions = .ok text ∧ g.RenderedWell first.instructions text) ∧
      ∀ f, ((archetypeEnvelope archetype f).1 ≤ g.proposal.policyProfile.value f ∧
          g.proposal.policyProfile.value f ≤ (archetypeEnvelope archetype f).2) ∧
        ∀ previous ∈ lineage.head?,
          |g.proposal.policyProfile.value f - previous.policyProfile.value f| ≤ 1000 := by
  have hgate := envelope_of_passed hgame.passed
  refine ⟨?_, ?_⟩
  · obtain ⟨foundation, hloaded, hbase⟩ := hgame.foundation
    rw [hplayed.foundation_eq hloaded] at hbase
    have hstripped : strip g.evidence.baseStrategyInstructions.text.toList =
        strip first.instructions.toList := by
      rw [hbase]
      exact trim_trim isSpace_of_isWhiteSpace _
    have hgiven : strip g.evidence.baseStrategyInstructions.text.toList ≠ [] := by
      rw [hstripped]
      exact hvisible
    have hshort : g.evidence.baseStrategyInstructions.text.length ≤ 1000 := by
      rw [← String.length_toList, hbase]
      exact (trim_length _ _).trans (by rwa [String.length_toList])
    have hadjustments : g.proposal.adjustments.map (·.text) ≠ [] := by
      simpa using g.proposal.adjustments_given
    have hvalues : ∀ value ∈ g.proposal.adjustments.map (·.text), value.length ≤ 180 := by
      intro value hvalue
      obtain ⟨adjustment, -, rfl⟩ := List.mem_map.mp hvalue
      exact adjustment.short
    obtain ⟨text, kept, hrender, hlength, hne, hkept, htext⟩ := render_short
      g.evidence.archetype g.proposal.policyProfile g.evidence.baseStrategyInstructions.text
      hgiven hshort hadjustments hvalues
    rw [hstripped] at htext
    refine ⟨text, hrender, hlength, ?_, ⟨kept, hne, hkept, htext⟩, ?_⟩
    · intro f
      have hpolicy : policyText g.evidence.archetype g.proposal.policyProfile <:+: text.toList := by
        rw [htext]
        exact ⟨strip first.instructions.toList,
          joined (kept.mapIdx fun i value => lessonText (i + 1) value) ++ [' '] ++ guardText, by
            simp only [List.append_assoc]⟩
      exact ((mentions_policyText_iff f _).mpr rfl).trans hpolicy
    · intro f v hv
      exact ⟨fun h => hv ((mentions_policyText_iff f v).mp h), guardText_silent f v⟩
  · intro f
    rw [← hgame.archetype_eq]
    refine ⟨(hgate f).1, ?_⟩
    intro previous hprevious
    have hbaseline := hgame.baseline
    rw [Option.mem_def.mp hprevious, Option.map_some, Option.some.injEq] at hbaseline
    rw [hbaseline]
    exact (hgate f).2

/-! ### A first and a second game -/

theorem trim_eq_of_ends {space : Char → Bool} {a z : Char} (mid : List Char)
    (ha : space a = false) (hz : space z = false) :
    trim space (a :: (mid ++ [z])) = a :: (mid ++ [z]) := by
  unfold trim
  rw [List.dropWhile_cons_of_neg (by simp [ha]), List.reverse_cons, List.reverse_append,
    List.reverse_singleton, List.singleton_append, List.cons_append,
    List.dropWhile_cons_of_neg (by simp [hz])]
  simp

/-- A profile of the balanced archetype with a risk budget. -/
def balancedProfile (risk : Int) (h : 1000 ≤ risk ∧ risk ≤ 9000) : StrategyPolicyProfile where
  value
    | .riskBudgetBps => risk
    | .minExpectedEdgeBps => 900
    | .maxInventoryConcentrationBps => 7500
    | .negotiationConcessionBps => 1200
    | .explorationBps => 1200
  inRange f := by
    cases f with
    | riskBudgetBps => exact h
    | minExpectedEdgeBps | maxInventoryConcentrationBps | negotiationConcessionBps
    | explorationBps => simp [PolicyField.range]

theorem buyGrain_stripped : trim isWhiteSpace "Buy grain.".toList = "Buy grain.".toList := by decide

theorem buyGrain_given : "Buy grain.".toList ≠ [] := by decide

def buyGrain (more : Nat) : LearningText (10 + more) where
  text := "Buy grain."
  stripped := buyGrain_stripped
  given := buyGrain_given
  short := Nat.le_add_right 10 more

/-- A game of two tasks and a settled trade, after which the profile changes. -/
def gameOn (base : LearningText 4000) (before after : StrategyPolicyProfile) : LearningGame where
  evidence :=
    { gameId := buyGrain 490
      gameAgentId := buyGrain 490
      baseStrategyRevisionId := buyGrain 490
      archetype := .balanced
      baseStrategyInstructions := base
      basePolicyProfile := before
      outcome :=
        { rank := 1
          participantCount := 2
          netWorthAtomic := "21000000"
          averageNetWorthAtomic := "20000000"
          outcomeScoreBps := 500 }
      behavior :=
        { taskCount := 2
          candidateActionCount := 1
          defaultedTaskCount := 0
          settledTradeCount := 1
          appliedActionCounts := [("buy", 1)] }
      finalPricesAtomic := [("grain", "2000000"), ("iron", "5000000"), ("warhorse", "8000000"),
        ("gems", "3000000")] }
  proposal :=
    { policyProfile := after
      lessonSummary := buyGrain 490
      adjustments := [buyGrain 170]
      adjustments_given := List.cons_ne_nil _ _
      adjustments_count := Nat.le_add_left 1 3
      expectedEffect := buyGrain 490
      confidenceBps := 5000 }

theorem risks_inRange : (1000 ≤ (5000 : Int) ∧ (5000 : Int) ≤ 9000) ∧
    (1000 ≤ (5300 : Int) ∧ (5300 : Int) ≤ 9000) ∧ (1000 ≤ (5400 : Int) ∧ (5400 : Int) ≤ 9000) := by
  decide

/-- The profiles before the first game, after it and after the second. -/
def risk5000 : StrategyPolicyProfile := balancedProfile 5000 risks_inRange.1
def risk5300 : StrategyPolicyProfile := balancedProfile 5300 risks_inRange.2.1
def risk5400 : StrategyPolicyProfile := balancedProfile 5400 risks_inRange.2.2

def ownersRevision : StrategyRevision where
  source := .owner
  instructions := "Buy grain."
  policyProfile := risk5000

def firstGame : LearningGame := gameOn (buyGrain 3990) risk5000 risk5300

/-- The next game, on the initial text and the profile of the first one. -/
def secondGame : LearningGame := gameOn (buyGrain 3990) risk5300 risk5400

theorem first_follows : firstGame.Follows .balanced [ownersRevision] where
  archetype_eq := rfl
  foundation := ⟨"Buy grain.", rfl, by decide⟩
  baseline := rfl
  passed := by decide

theorem second_follows (text : String) :
    secondGame.Follows .balanced [firstGame.revision text, ownersRevision] where
  archetype_eq := rfl
  foundation := ⟨"Buy grain.", rfl, by decide⟩
  baseline := rfl
  passed := by decide

/-- The text of the first game makes a revision, and the second game is rendered on the lineage with
    it. -/
theorem learned_strategy_rendered_second :
    ∃ text text', firstGame.instructions = .ok text ∧ secondGame.instructions = .ok text' ∧
      firstGame.RenderedWell "Buy grain." text ∧ secondGame.RenderedWell "Buy grain." text' := by
  obtain ⟨⟨text, hrender, hwell⟩, -⟩ := @learned_strategy_rendered .balanced ownersRevision
    [ownersRevision] firstGame (by decide) (by decide) .start first_follows
  obtain ⟨⟨text', hrender', hwell'⟩, -⟩ := @learned_strategy_rendered .balanced ownersRevision
    [firstGame.revision text, ownersRevision] secondGame (by decide) (by decide)
    (.learned .start first_follows hrender) (second_follows text)
  exact ⟨text, text', hrender, hrender', hwell, hwell'⟩

/-- When the second game is based on the text that the first one rendered, the risk budget of the
    first is still in the text that the second renders. -/
theorem rendered_base_keeps_old_values :
    ∃ (text text' : String) (base : LearningText 4000),
      (evaluateLearningProposal firstGame.evidence firstGame.proposal).passed = true ∧
      firstGame.instructions = .ok text ∧ base.text = text ∧
      (evaluateLearningProposal (gameOn base risk5300 risk5400).evidence
        (gameOn base risk5300 risk5400).proposal).passed = true ∧
      (gameOn base risk5300 risk5400).instructions = .ok text' ∧
      Mentions text'.toList .riskBudgetBps (risk5300.value .riskBudgetBps) ∧
      risk5400.value .riskBudgetBps ≠ risk5300.value .riskBudgetBps := by
  have hvalues : ∀ value ∈ ["Buy grain."], value.length ≤ 180 := by decide
  obtain ⟨text, kept, hrender, hlength, hne, hkept, htext⟩ :=
    render_short .balanced risk5300 "Buy grain." (by decide) (by decide)
      (List.cons_ne_nil _ _) hvalues
  have hkept' : kept = ["Buy grain."] := by
    rcases List.prefix_cons_iff.mp hkept with h | ⟨rest, rfl, hrest⟩
    · exact absurd h hne
    · rw [List.prefix_nil.mp hrest]
  have hbuyGrain : strip "Buy grain.".toList = "Buy grain.".toList := by decide
  rw [hbuyGrain, hkept'] at htext
  have hguard : guardText = guardText.dropLast ++ ['.'] := by decide +kernel
  have hends : text.toList = 'B' :: (("uy grain.".toList ++ policyText .balanced risk5300 ++
      joined (["Buy grain."].mapIdx fun i value => lessonText (i + 1) value) ++ [' '] ++
      guardText.dropLast) ++ ['.']) := by
    rw [htext]
    conv_lhs => rw [hguard]
    simp only [List.append_assoc]
    rfl
  have hstripped : strip text.toList = text.toList := by
    rw [hends]
    exact trim_eq_of_ends _ (by decide) (by decide)
  have htrimmed : trim isWhiteSpace text.toList = text.toList := by
    rw [hends]
    exact trim_eq_of_ends _ (by decide) (by decide)
  have hshort : text.length ≤ 1000 := by
    have hpolicy := policyText_length .balanced risk5300
    have hlesson : (joined (["Buy grain."].mapIdx fun i value =>
        lessonText (i + 1) value)).length = 20 := by decide
    have hbuy : "Buy grain.".toList.length = 10 := by decide
    have hguardLength := guardText_length
    rw [← String.length_toList, htext]
    simp only [List.length_append, hlesson, hbuy, List.length_singleton]
    omega
  have hgiven : text.toList ≠ [] := by
    rw [hends]
    exact List.cons_ne_nil _ _
  obtain ⟨text', kept', hrender', -, -, -, htext'⟩ :=
    render_short .balanced risk5400 text (by rwa [hstripped]) hshort
      (List.cons_ne_nil _ _) hvalues
  refine ⟨text, text', ⟨text, htrimmed, hgiven, hlength⟩, by decide, hrender, rfl, rfl, hrender',
    ?_, by decide⟩
  have hpolicy : policyText .balanced risk5300 <:+: text'.toList := by
    rw [htext', hstripped, htext]
    simp only [List.append_assoc]
    exact ⟨"Buy grain.".toList, _, by rw [List.append_assoc]⟩
  exact ((mentions_policyText_iff .riskBudgetBps _).mpr rfl).trans hpolicy

end Arena402.Hosted.Learning
