import FactGuard.Proofs.Fact.Merge
import FactGuard.Proofs.Guard.Composition

/-!
# Proofs/Guard/Domain — checked comparisons and the values that are published

What a fact may be compared with is decided by its type, and published as a list of values. In a
registry that is built up of entries as they are made (`Registry.Built`), the two are one domain
(`Meta.Made.accepts_iff`), so the list tells of every comparison whether its check lets it pass, and
how it fails if not (`follows_check`).
-/

namespace FactGuard.Fact

/-! ## Entries -/

/-- **Entries as they are made**: of booleans, of texts, and of facts that an agent defines. -/
inductive Meta.Made : Meta → Prop
  | boolean (label description : String) : Made (.boolean label description)
  | text (label : String) (texts : List String) (description : String) :
      Made (.text label texts description)
  | custom (definition : Definition) : Made (.custom definition)

/-- The entry is of a text that is enumerated: it lists one text at least. -/
def Meta.Enumerates (info : Meta) : Prop := info.kind = .text ∧ ∃ text, .text text ∈ info.values

/-- **The published domain** of a fact: the values that its entry lists, and any text if the fact is a
text that is not enumerated. -/
def Meta.Publishes (info : Meta) (value : Value) : Prop :=
  value ∈ info.values ∨ info.kind = .text ∧ ¬info.Enumerates ∧ ∃ text, value = .text text

/-- The value is a text outside the enumeration of the fact. -/
def Meta.Excludes (info : Meta) (value : Value) : Prop :=
  info.Enumerates ∧ value ∉ info.values ∧ ∃ text, value = .text text

section Meta

variable {info : Meta} {value : Value}

/-- An entry lists both flags and null, or some texts and null. -/
theorem Meta.Made.cases_kind (made : info.Made) :
    info.kind = .boolean ∧ info.values = [.bool true, .bool false, .null] ∨
      info.kind = .text ∧ ∃ texts : List String, info.values = texts.map .text ++ [.null] := by
  cases made with
  | boolean => exact .inl ⟨rfl, rfl⟩
  | text _ texts => exact .inr ⟨rfl, texts, rfl⟩
  | custom => exact .inl ⟨rfl, rfl⟩

theorem Meta.Made.null_mem (made : info.Made) : Value.null ∈ info.values := by
  obtain ⟨-, hvalues⟩ | ⟨-, texts, hvalues⟩ := made.cases_kind <;> simp [hvalues]

/-- **The published domain is what the checks go by**, although they do not look it up. -/
theorem Meta.Made.accepts_iff (made : info.Made) : info.accepts value = true ↔ info.Publishes value := by
  rw [Publishes, Enumerates]
  obtain ⟨hkind, hvalues⟩ | ⟨hkind, texts, hvalues⟩ := made.cases_kind
  · cases value with
    | null => simp [accepts, hvalues]
    | bool flag => cases flag <;> simp [accepts, hkind, hvalues]
    | text content => simp [accepts, hkind, hvalues]
  · cases value with
    | null => simp [accepts, hvalues]
    | bool flag => simp [accepts, hkind, hvalues]
    | text content => cases texts <;> simp [accepts, hkind, hvalues, Value.isNull]

/-- No value is published and excluded at once. -/
theorem Meta.Publishes.not_excludes (h : info.Publishes value) : ¬info.Excludes value := by
  rintro ⟨enumerates, unlisted, -⟩
  obtain hlisted | ⟨-, hopen, -⟩ := h
  · exact unlisted hlisted
  · exact hopen enumerates

/-- A text that an entry does not publish is outside of its enumeration, if it is one of texts. -/
theorem Meta.excludes_iff_of_not_publishes (h : ¬info.Publishes value) :
    info.Excludes value ↔ info.kind = .text ∧ ∃ text, value = .text text := by
  obtain ⟨unlisted, hopen⟩ := not_or.mp h
  constructor
  · rintro ⟨⟨hkind, -⟩, -, htext⟩
    exact ⟨hkind, htext⟩
  · rintro ⟨hkind, htext⟩
    exact ⟨not_not.mp fun hnone => hopen ⟨hkind, hnone, htext⟩, unlisted, htext⟩

end Meta

/-! ## Registries -/

/-- **Registries as they are built up**: from nothing, from the core facts or from those of an agent,
by entering further facts. -/
inductive Registry.Built : Registry → Prop
  | empty : Built .empty
  | core : Built .core
  | ofDefinitions (definitions : List Definition) : Built (.ofDefinitions definitions)
  | insert {registry : Registry} {fact : String} {info : Meta} (built : Built registry)
      (made : info.Made) : Built (registry.insert fact info)

section Registry

variable {registry : Registry} {fact : String} {info : Meta}

/-- Every published entry is one that the constructors of entries make. -/
theorem made_of_mem_coreFacts : ∀ pair ∈ coreFacts, pair.2.Made := by
  simp [coreFacts, Meta.Made.boolean, Meta.Made.text]

theorem Registry.made_of_get?_core (h : core.get? fact = some info) : info.Made :=
  made_of_mem_coreFacts _ (mem_coreFacts_of_get? h)

/-- **All entries of a registry are as they are made**, also those that replace others. -/
theorem Registry.Built.made_of_get? (built : registry.Built) (h : registry.get? fact = some info) :
    info.Made := by
  induction built with
  | empty => simp [get?, Registry.empty] at h
  | core => exact made_of_get?_core h
  | ofDefinitions definitions =>
    by_cases hname : fact ∈ definitions.map Definition.name
    · obtain ⟨definition, -, -, hentry⟩ := exists_get?_foldl_define .core hname
      obtain rfl := Option.some.inj (hentry.symm.trans h)
      exact .custom definition
    · exact made_of_get?_core ((get?_foldl_define_of_notMem hname).symm.trans h)
  | insert built made ih =>
    rw [get?_insert] at h
    split at h
    · obtain rfl := Option.some.inj h
      exact made
    · exact ih h

end Registry

end FactGuard.Fact

namespace FactGuard.Guard

/-! ## Checks -/

/-- **The outcome of a check follows the published domain.** -/
structure Follows (registry : Fact.Registry) (fact : String) (value : Fact.Value) (made : Guard)
    (outcome : Except Misfit Guard) : Prop where
  /-- It succeeds exactly within the domain of a known fact. -/
  passes : (∃ guard, outcome = .ok guard) ↔
    ∃ info, registry.get? fact = some info ∧ info.Publishes value
  /-- What it gives is the condition asked for. -/
  condition : ∀ guard, outcome = .ok guard → guard = made
  unknown : (∃ name, outcome = .error (.unknownFact name)) ↔ registry.contains fact = false
  outside : (∃ name found, outcome = .error (.outOfDomain name found)) ↔
    ∃ info, registry.get? fact = some info ∧ info.Excludes value
  mistyped : (∃ name kind found, outcome = .error (.wrongType name kind found)) ↔
    ∃ info, registry.get? fact = some info ∧ ¬info.Publishes value ∧ ¬info.Excludes value
  /-- An error names the fact, its type and the value. -/
  told : ∀ misfit, outcome = .error misfit →
    misfit = .unknownFact fact ∨ misfit = .outOfDomain fact value ∨
      ∃ info, registry.get? fact = some info ∧ misfit = .wrongType fact info.kind value

section

variable {registry : Fact.Registry} {fact : String} {value : Fact.Value}

/-- A value that is not accepted although it is of the fact's type is a text outside an enumeration. -/
theorem hasType_iff_excludes {info : Fact.Meta} (made : info.Made) (h : info.accepts value = false) :
    hasType info.kind value = true ↔ info.Excludes value := by
  have unpublished : ¬info.Publishes value := mt made.accepts_iff.mpr (Bool.eq_false_iff.mp h)
  rw [Fact.Meta.excludes_iff_of_not_publishes unpublished]
  cases hkind : info.kind <;> cases value <;> simp_all [hasType, Fact.Meta.accepts]

/-- A check finds the fact unknown, or the value in its domain, outside its enumeration, or of another
type. -/
theorem checkComparison_cases (built : registry.Built) (fact : String) (value : Fact.Value) :
    registry.get? fact = none ∧ checkComparison registry fact value = .error (.unknownFact fact) ∨
      ∃ info, registry.get? fact = some info ∧
        (info.Publishes value ∧ ¬info.Excludes value ∧ checkComparison registry fact value = .ok () ∨
          ¬info.Publishes value ∧ info.Excludes value ∧
            checkComparison registry fact value = .error (.outOfDomain fact value) ∨
          ¬info.Publishes value ∧ ¬info.Excludes value ∧
            checkComparison registry fact value = .error (.wrongType fact info.kind value)) := by
  rw [checkComparison]
  cases hinfo : registry.get? fact with
  | none => exact .inl ⟨rfl, rfl⟩
  | some info =>
    have made := built.made_of_get? hinfo
    refine .inr ⟨info, rfl, ?_⟩
    dsimp only
    cases haccepts : info.accepts value with
    | true =>
      have published := made.accepts_iff.mp haccepts
      exact .inl ⟨published, published.not_excludes, rfl⟩
    | false =>
      have unpublished : ¬info.Publishes value :=
        mt made.accepts_iff.mpr (Bool.eq_false_iff.mp haccepts)
      rw [← hasType_iff_excludes made haccepts]
      cases htype : hasType info.kind value with
      | true => exact .inr (.inl ⟨unpublished, rfl, rfl⟩)
      | false => exact .inr (.inr ⟨unpublished, Bool.false_ne_true, rfl⟩)

/-- **A check goes by what is published**, whatever condition is made after it. -/
theorem follows_check (built : registry.Built) (made : Guard) :
    Follows registry fact value made (do checkComparison registry fact value; return made) := by
  obtain ⟨hnone, hcheck⟩ | ⟨info, hinfo, h⟩ := checkComparison_cases built fact value
  · rw [hcheck]
    constructor <;> simp [bind, Except.bind, Fact.Registry.contains_eq_isSome, hnone]
  · obtain ⟨published, included, hcheck⟩ | ⟨unpublished, excluded, hcheck⟩ |
      ⟨unpublished, included, hcheck⟩ := h
    all_goals
      rw [hcheck]
      constructor <;>
        simp [bind, Except.bind, pure, Except.pure, Fact.Registry.contains_eq_isSome, *]

/-- A fact that is a flag has no outside, so no comparison with it is refused for that. -/
theorem Follows.ne_outOfDomain {made : Guard} {outcome : Except Misfit Guard} {info : Fact.Meta}
    (follows : Follows registry fact value made outcome) (hinfo : registry.get? fact = some info)
    (hkind : info.kind = .boolean) (name : String) (found : Fact.Value) :
    outcome ≠ .error (.outOfDomain name found) := by
  intro houtcome
  obtain ⟨other, hother, ⟨htext, -⟩, -⟩ := follows.outside.mp ⟨name, found, houtcome⟩
  obtain rfl := Option.some.inj (hinfo.symm.trans hother)
  rw [hkind] at htext
  cases htext

/-- Null fits every known fact. -/
theorem checkComparison_null (built : registry.Built) (known : registry.contains fact = true) :
    checkComparison registry fact .null = .ok () := by
  rw [Fact.Registry.contains_eq_isSome] at known
  obtain ⟨info, hinfo⟩ := Option.isSome_iff_exists.mp known
  have made := built.made_of_get? hinfo
  exact checkComparison_eq_ok_iff.mpr ⟨info, hinfo, made.accepts_iff.mpr (.inl made.null_mem)⟩

end

/-- **Checked comparisons enforce the published domain.** In a registry that is built up of entries as
they are made, a comparison passes exactly if the fact is known and publishes the value; otherwise the
error says whether the fact is unknown, the value is a text outside the enumeration of the fact, or it
is of another type than the fact. So null passes for every known fact, and a boolean has no outside. -/
theorem comparisons_follow_published_domain {registry : Fact.Registry} (built : registry.Built)
    (fact : String) (value : Fact.Value) :
    Follows registry fact value (.equals fact value) (checkedEquals registry fact value) ∧
    Follows registry fact value (.differs fact value) (checkedDiffers registry fact value) ∧
    (registry.contains fact = true →
      checkedEquals registry fact .null = .ok (.equals fact .null) ∧
      checkedDiffers registry fact .null = .ok (.differs fact .null)) ∧
    ∀ info, registry.get? fact = some info → info.kind = .boolean →
      ∀ name found, checkedEquals registry fact value ≠ .error (.outOfDomain name found) ∧
        checkedDiffers registry fact value ≠ .error (.outOfDomain name found) := by
  have hequals : Follows registry fact value (.equals fact value) (checkedEquals registry fact value) :=
    follows_check built _
  have hdiffers :
      Follows registry fact value (.differs fact value) (checkedDiffers registry fact value) :=
    follows_check built _
  refine ⟨hequals, hdiffers, fun known => ?_, fun info hinfo hkind name found => ?_⟩
  · have hnull := checkComparison_null built known
    exact ⟨checkedEquals_eq_ok_iff.mpr ⟨hnull, rfl⟩, checkedDiffers_eq_ok_iff.mpr ⟨hnull, rfl⟩⟩
  · exact ⟨hequals.ne_outOfDomain hinfo hkind name found,
      hdiffers.ne_outOfDomain hinfo hkind name found⟩

/-- Takes the type of an operation for a flag. -/
def operationFlag : Fact.Definition :=
  { name := "operation_type", derivation := .present, field := some "search" }

/-- The facts of an agent with that definition, and a text that may be anything. -/
def channelRegistry : Fact.Registry :=
  .insert (.ofDefinitions [operationFlag]) "channel" (.text "Canal" [] "")

/-- The registry of the example is built by definitions over the core. -/
theorem built_channelRegistry : channelRegistry.Built :=
  .insert (.ofDefinitions _) (.text _ _ _)

/-- A core fact is compared as the definition has it that replaces it, one that is kept as it was, and
a text without enumeration with any text. -/
theorem comparisons_follow_published_domain_channelRegistry :
    channelRegistry.Built ∧
    (∃ name kind found, checkedEquals channelRegistry "operation_type" (.text "RENT") =
      .error (.wrongType name kind found)) ∧
    (∃ name found, checkedDiffers channelRegistry "property_type" (.text "BOAT") =
      .error (.outOfDomain name found)) ∧
    (∃ guard, checkedEquals channelRegistry "channel" (.text "web") = .ok guard) ∧
    ∃ name, checkedDiffers channelRegistry "vip" .null = .error (.unknownFact name) := by
  have hoperation : channelRegistry.get? "operation_type" = some (.custom operationFlag) := by
    decide +kernel
  have hproperty : channelRegistry.get? "property_type" =
      some (.text "Tipo de propiedad" ["HOUSE", "APARTMENT", "LAND", "COMMERCIAL"]
        "Tipo de inmueble que busca el lead") := by
    decide +kernel
  have hchannel : channelRegistry.get? "channel" = some (.text "Canal" [] "") := by decide +kernel
  have follows := comparisons_follow_published_domain built_channelRegistry
  refine ⟨built_channelRegistry, ?_, ?_, ?_, ?_⟩
  · refine (follows _ _).1.mistyped.mpr ⟨_, hoperation, ?_, ?_⟩ <;>
      simp [Fact.Meta.Publishes, Fact.Meta.Excludes, Fact.Meta.Enumerates, Fact.Meta.custom,
        Fact.Meta.boolean]
  · refine (follows _ _).2.1.outside.mpr ⟨_, hproperty, ?_⟩
    simp [Fact.Meta.Excludes, Fact.Meta.Enumerates, Fact.Meta.text]
  · refine (follows _ _).1.passes.mpr ⟨_, hchannel, ?_⟩
    simp [Fact.Meta.Publishes, Fact.Meta.Enumerates, Fact.Meta.text]
  · exact (follows _ _).2.1.unknown.mpr (by decide +kernel)

end FactGuard.Guard
