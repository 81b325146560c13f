import Mathlib.Data.List.Basic
import Mathlib.Data.List.Induction
import Telemetry.Proofs.Settings.Fields
import Telemetry.Proofs.Text.Ends
import Telemetry.Proofs.Text.Numeral
import Telemetry.Settings.Variables

/-! The layer that variables set. Of the variables with the name of a field, those with blank values
do not count, and the last one that counts decides; a value that cannot be read is a fault, and the
first such fault is reported. -/

namespace Telemetry

open Telemetry.Text

/-! ### Fields and their variables -/

inductive FieldKind : Type → Type where
  | text : FieldKind String
  | flag : FieldKind Bool
  | word : FieldKind Nat

inductive Layer.Part where
  | identity
  | delivery
  deriving DecidableEq

variable {α β : Type}

namespace Field

def kind : Field α → FieldKind α
  | .trackingId => .text
  | .appName => .text
  | .appVersion => .text
  | .appId => .text
  | .anonymizeIp => .flag
  | .baseUrl => .text
  | .batchSize => .word
  | .flushIntervalMs => .word
  | .maxQueueSize => .word
  | .requestTimeoutMs => .word
  | .dryRun => .flag

def part : Field α → Layer.Part
  | .trackingId => .identity
  | .appName => .identity
  | .appVersion => .identity
  | .appId => .identity
  | .anonymizeIp => .identity
  | .baseUrl => .delivery
  | .batchSize => .delivery
  | .flushIntervalMs => .delivery
  | .maxQueueSize => .delivery
  | .requestTimeoutMs => .delivery
  | .dryRun => .delivery

def name : Field α → String
  | .trackingId => "TRACKING_ID"
  | .appName => "APP_NAME"
  | .appVersion => "APP_VERSION"
  | .appId => "APP_ID"
  | .anonymizeIp => "ANONYMIZE_IP"
  | .baseUrl => "BASE_URL"
  | .batchSize => "BATCH_SIZE"
  | .flushIntervalMs => "FLUSH_INTERVAL_MS"
  | .maxQueueSize => "MAX_QUEUE_SIZE"
  | .requestTimeoutMs => "REQUEST_TIMEOUT_MS"
  | .dryRun => "DRY_RUN"

def variableName (field : Field α) : String := variablePrefix ++ field.name

end Field

def FieldKind.Writes : FieldKind α → String → α → Prop
  | .text => fun written value => written = value
  | .flag => IsFlag
  | .word => IsWord

def FieldKind.read? : FieldKind α → String → Option α
  | .text => some
  | .flag => readBool?
  | .word => readWord?

theorem FieldKind.read?_eq_some {kind : FieldKind α} {written : String} {value : α} :
    kind.read? written = some value ↔ kind.Writes written value := by
  cases kind with
  | text => exact Option.some_inj
  | flag => exact readBool?_eq_some
  | word => exact readWord?_eq_some

/-! ### Setting a field -/

namespace Layer

def has (layer : Layer) : Part → Bool
  | .identity => layer.identity.isSome
  | .delivery => layer.delivery.isSome

def set (layer : Layer) : Field α → α → Layer
  | .trackingId, value => layer.changeIdentity fun part => { part with trackingId := some value }
  | .appName, value => layer.changeIdentity fun part => { part with appName := some value }
  | .appVersion, value => layer.changeIdentity fun part => { part with appVersion := some value }
  | .appId, value => layer.changeIdentity fun part => { part with appId := some value }
  | .anonymizeIp, value => layer.changeIdentity fun part => { part with anonymizeIp := some value }
  | .baseUrl, value => layer.changeDelivery fun part => { part with baseUrl := some value }
  | .batchSize, value => layer.changeDelivery fun part => { part with batchSize := some value }
  | .flushIntervalMs, value =>
      layer.changeDelivery fun part => { part with flushIntervalMs := some value }
  | .maxQueueSize, value =>
      layer.changeDelivery fun part => { part with maxQueueSize := some value }
  | .requestTimeoutMs, value =>
      layer.changeDelivery fun part => { part with requestTimeoutMs := some value }
  | .dryRun, value => layer.changeDelivery fun part => { part with dryRun := some value }

variable {layer : Layer}

theorem get_set_own (field : Field α) (value : α) :
    (layer.set field value).get field = some value := by
  cases field <;> rfl

theorem get_set_other {field : Field α} {other : Field β}
    (apart : field.variableName ≠ other.variableName) (value : α) :
    (layer.set field value).get other = layer.get other := by
  obtain ⟨identity, delivery⟩ := layer
  cases identity <;> cases delivery <;> cases field <;> cases other <;>
    first
      | rfl
      | exact absurd rfl apart

theorem has_set (field : Field α) (value : α) (part : Part) :
    (layer.set field value).has part = (decide (field.part = part) || layer.has part) := by
  cases field <;> cases part <;> rfl

theorem ext_get {first second : Layer}
    (fields : ∀ {α : Type} (field : Field α), first.get field = second.get field)
    (parts : ∀ part, first.has part = second.has part) : first = second := by
  have identities := identity_congr fields
  have deliveries := delivery_congr fields
  have identityPart := parts .identity
  have deliveryPart := parts .delivery
  obtain ⟨firstIdentity, firstDelivery⟩ := first
  obtain ⟨secondIdentity, secondDelivery⟩ := second
  congr
  · cases firstIdentity with
    | none => cases secondIdentity with
      | none => rfl
      | some other => cases identityPart
    | some one => cases secondIdentity with
      | none => cases identityPart
      | some other => exact congrArg some identities
  · cases firstDelivery with
    | none => cases secondDelivery with
      | none => rfl
      | some other => cases deliveryPart
    | some one => cases secondDelivery with
      | none => cases deliveryPart
      | some other => exact congrArg some deliveries

/-! ### One variable -/

theorem setField_name (layer : Layer) (field : Field α) (name value : String) :
    layer.setField name field.name value =
      (readVariable field.kind.read? name value).map (layer.set field) := by
  cases field <;> rfl

theorem setField_unknown {name field : String}
    (unknown : ∀ {α : Type} (known : Field α), field ≠ known.name) (value : String) :
    layer.setField name field value = .ok layer := by
  unfold setField
  split
  · exact absurd rfl (unknown .trackingId)
  · exact absurd rfl (unknown .appName)
  · exact absurd rfl (unknown .appVersion)
  · exact absurd rfl (unknown .appId)
  · exact absurd rfl (unknown .anonymizeIp)
  · exact absurd rfl (unknown .baseUrl)
  · exact absurd rfl (unknown .batchSize)
  · exact absurd rfl (unknown .flushIntervalMs)
  · exact absurd rfl (unknown .maxQueueSize)
  · exact absurd rfl (unknown .requestTimeoutMs)
  · exact absurd rfl (unknown .dryRun)
  · rfl

variable {text : String}

theorem applyVariable_blank (name : String) (blank : IsBlankText text) :
    layer.applyVariable (name, text) = .ok layer := by
  unfold applyVariable
  split
  · rfl
  · exact if_pos (trim_eq_empty.mpr blank)

theorem applyVariable_unknown {name : String}
    (unknown : ∀ {α : Type} (field : Field α), name ≠ field.variableName) (text : String) :
    layer.applyVariable (name, text) = .ok layer := by
  unfold applyVariable
  split
  · rfl
  · rename_i field found
    dsimp only
    split
    · rfl
    · apply setField_unknown
      intro α known same
      apply unknown known
      rw [← String.toList_inj, eq_append_of_dropStart? found, Field.variableName, ← same,
        String.toList_append, String.toList_ofList]

theorem applyVariable_field (layer : Layer) (field : Field α) (written : ¬IsBlankText text) :
    layer.applyVariable (field.variableName, text) =
      (readVariable field.kind.read? field.variableName (trim text)).map (layer.set field) := by
  have start : dropStart? variablePrefix.toList field.variableName.toList =
      some field.name.toList := by
    rw [Field.variableName, String.toList_append]
    exact dropStart?_append _ _
  unfold applyVariable
  rw [start]
  dsimp only
  rw [if_neg (trim_eq_empty.not.mpr written), String.ofList_toList, setField_name]

end Layer

/-! ### What a variable says -/

/-- The variable does not count: it has a blank value or is not that of a field. -/
def IsIdleVariable (entry : String × String) : Prop :=
  IsBlankText entry.2 ∨ ∀ {α : Type} (field : Field α), entry.1 ≠ field.variableName

def IsMalformedVariable (entry : String × String) : Prop :=
  ¬IsBlankText entry.2 ∧ ∃ (α : Type) (field : Field α), entry.1 = field.variableName ∧
    ∀ value, ¬field.kind.Writes (trim entry.2) value

theorem Field.eq_of_variableName {field : Field α} {other : Field β}
    (same : field.variableName = other.variableName) :
    (⟨α, field⟩ : (α : Type) × Field α) = ⟨β, other⟩ := by
  cases field <;> cases other <;>
    first
      | rfl
      | exact absurd same (by decide)

theorem IsIdleVariable.not_malformed {entry : String × String} (idle : IsIdleVariable entry) :
    ¬IsMalformedVariable entry := by
  rintro ⟨written, α, field, named, _⟩
  rcases idle with blank | unknown
  · exact written blank
  · exact unknown field named

theorem variable_cases (entry : String × String) :
    IsIdleVariable entry ∨ IsMalformedVariable entry ∨
      ¬IsBlankText entry.2 ∧ ∃ (α : Type) (field : Field α),
        entry.1 = field.variableName ∧ ∃ value, field.kind.Writes (trim entry.2) value := by
  by_cases blank : IsBlankText entry.2
  · exact .inl (.inl blank)
  · by_cases known : ∃ (α : Type) (field : Field α), entry.1 = field.variableName
    · obtain ⟨α, field, named⟩ := known
      by_cases readable : ∃ value, field.kind.Writes (trim entry.2) value
      · exact .inr (.inr ⟨blank, α, field, named, readable⟩)
      · exact .inr (.inl ⟨blank, α, field, named, not_exists.mp readable⟩)
    · refine .inl (.inr ?_)
      intro α field named
      exact known ⟨α, field, named⟩

namespace Layer

theorem applyVariable_idle (layer : Layer) {entry : String × String} (idle : IsIdleVariable entry) :
    layer.applyVariable entry = .ok layer := by
  rcases idle with blank | unknown
  · exact applyVariable_blank entry.1 blank
  · exact applyVariable_unknown unknown entry.2

theorem applyVariable_malformed (layer : Layer) {entry : String × String}
    (malformed : IsMalformedVariable entry) :
    layer.applyVariable entry = .error (.environment (.value entry.1 (trim entry.2))) := by
  obtain ⟨name, text⟩ := entry
  obtain ⟨written, α, field, rfl, unreadable⟩ := malformed
  have unread : field.kind.read? (trim text) = none := by
    cases found : field.kind.read? (trim text) with
    | none => rfl
    | some value => exact absurd (FieldKind.read?_eq_some.mp found) (unreadable value)
  rw [applyVariable_field layer field written, readVariable, unread]
  rfl

theorem applyVariable_written (layer : Layer) {entry : String × String} {field : Field α}
    {value : α} (written : ¬IsBlankText entry.2) (named : entry.1 = field.variableName)
    (writes : field.kind.Writes (trim entry.2) value) :
    layer.applyVariable entry = .ok (layer.set field value) := by
  obtain ⟨name, text⟩ := entry
  have same : name = field.variableName := named
  rw [same, applyVariable_field layer field written, readVariable,
    FieldKind.read?_eq_some.mpr writes]
  rfl

end Layer

/-! ### What all variables say -/

def variableValues (name : String) (bindings : List (String × String)) : List String :=
  (bindings.filter fun entry => decide (entry.1 = name ∧ ¬IsBlankText entry.2)).map (trim ·.2)

/-- The value of a field is the one that is written, if there is one. -/
def Layer.Holds (layer : Layer) (field : Field α) : Option String → Prop
  | none => layer.get field = none
  | some written => ∃ value, field.kind.Writes written value ∧ layer.get field = some value

structure VariablesDescribe (bindings : List (String × String)) (layer : Layer) : Prop where
  readable : ∀ entry ∈ bindings, ¬IsMalformedVariable entry
  fields : ∀ {α : Type} (field : Field α),
    layer.Holds field (variableValues field.variableName bindings).getLast?
  parts : ∀ part, layer.has part = true ↔
    ∃ (α : Type) (field : Field α), field.part = part ∧ layer.get field ≠ none

def FirstMalformedVariable (bindings : List (String × String)) (entry : String × String) : Prop :=
  ∃ before after, bindings = before ++ entry :: after ∧ IsMalformedVariable entry ∧
    ∀ earlier ∈ before, ¬IsMalformedVariable earlier

variable {bindings : List (String × String)} {entry : String × String} {layer : Layer}

theorem variableValues_snoc (name : String) (bindings : List (String × String))
    (entry : String × String) :
    variableValues name (bindings ++ [entry]) = variableValues name bindings ++
      if entry.1 = name ∧ ¬IsBlankText entry.2 then [trim entry.2] else [] := by
  unfold variableValues
  rw [List.filter_append, List.map_append, List.filter_singleton]
  by_cases counts : entry.1 = name ∧ ¬IsBlankText entry.2
  · rw [if_pos counts, decide_eq_true counts]
    rfl
  · rw [if_neg counts, decide_eq_false counts]
    rfl

theorem variableValues_idle (field : Field α) (idle : IsIdleVariable entry) :
    variableValues field.variableName (bindings ++ [entry]) =
      variableValues field.variableName bindings := by
  rw [variableValues_snoc, if_neg, List.append_nil]
  rintro ⟨named, written⟩
  rcases idle with blank | unknown
  · exact written blank
  · exact unknown field named

theorem VariablesDescribe.snoc_idle (described : VariablesDescribe bindings layer)
    (idle : IsIdleVariable entry) : VariablesDescribe (bindings ++ [entry]) layer where
  readable := by
    rw [List.forall_mem_append]
    refine ⟨described.readable, ?_⟩
    rw [List.forall_mem_singleton]
    exact idle.not_malformed
  fields field := by
    rw [variableValues_idle field idle]
    exact described.fields field
  parts := described.parts

theorem Layer.get_set_ne_none {field : Field α} {value : α} {other : Field β} :
    (layer.set field value).get other ≠ none ↔
      field.variableName = other.variableName ∨ layer.get other ≠ none := by
  by_cases same : field.variableName = other.variableName
  · cases Field.eq_of_variableName same
    rw [Layer.get_set_own]
    exact iff_of_true (Option.some_ne_none _) (.inl rfl)
  · rw [Layer.get_set_other same, or_iff_right same]

theorem VariablesDescribe.snoc_written (described : VariablesDescribe bindings layer)
    {field : Field α} {value : α} (written : ¬IsBlankText entry.2)
    (named : entry.1 = field.variableName) (writes : field.kind.Writes (trim entry.2) value) :
    VariablesDescribe (bindings ++ [entry]) (layer.set field value) where
  readable := by
    rw [List.forall_mem_append]
    refine ⟨described.readable, ?_⟩
    rw [List.forall_mem_singleton]
    rintro ⟨_, β, other, same, unreadable⟩
    cases Field.eq_of_variableName (named.symm.trans same)
    exact unreadable value writes
  fields other := by
    rw [variableValues_snoc]
    by_cases same : field.variableName = other.variableName
    · rw [if_pos ⟨named.trans same, written⟩, List.getLast?_concat]
      cases Field.eq_of_variableName same
      exact ⟨value, writes, Layer.get_set_own field value⟩
    · rw [if_neg (fun counts => same (named.symm.trans counts.1)), List.append_nil]
      unfold Layer.Holds
      rw [Layer.get_set_other same]
      exact described.fields other
  parts part := by
    rw [Layer.has_set, Bool.or_eq_true, decide_eq_true_eq, described.parts]
    constructor
    · rintro (own | ⟨β, other, inside, holds⟩)
      · exact ⟨α, field, own, Layer.get_set_ne_none.mpr (.inl rfl)⟩
      · exact ⟨β, other, inside, Layer.get_set_ne_none.mpr (.inr holds)⟩
    · rintro ⟨β, other, inside, holds⟩
      rcases Layer.get_set_ne_none.mp holds with same | before
      · cases Field.eq_of_variableName same
        exact .inl inside
      · exact .inr ⟨β, other, inside, before⟩

theorem VariablesDescribe.unique {other : Layer} (first : VariablesDescribe bindings layer)
    (second : VariablesDescribe bindings other) : layer = other := by
  have fields {α : Type} (field : Field α) : layer.get field = other.get field := by
    have one := first.fields field
    have another := second.fields field
    cases last : (variableValues field.variableName bindings).getLast? with
    | none =>
        rw [last] at one another
        exact one.trans another.symm
    | some written =>
        rw [last] at one another
        obtain ⟨value, writes, holds⟩ := one
        obtain ⟨same, writesSame, holdsSame⟩ := another
        have read := FieldKind.read?_eq_some.mpr writes
        rw [FieldKind.read?_eq_some.mpr writesSame] at read
        rw [holds, holdsSame, read]
  apply Layer.ext_get fields
  intro part
  rw [Bool.eq_iff_iff, first.parts part, second.parts part]
  simp only [fields]

/-! ### Loading -/

/-- What comes of variables: the layer that they set, or the fault of the first malformed one. -/
inductive VariablesOutcome (bindings : List (String × String)) :
    Except SettingsFault Layer → Prop where
  | described {layer : Layer} (described : VariablesDescribe bindings layer) :
      VariablesOutcome bindings (.ok layer)
  | refused {entry : String × String} (first : FirstMalformedVariable bindings entry) :
      VariablesOutcome bindings (.error (.environment (.value entry.1 (trim entry.2))))

namespace Layer

theorem ofVariables_snoc (bindings : List (String × String)) (entry : String × String) :
    ofVariables (bindings ++ [entry]) =
      (ofVariables bindings).bind (·.applyVariable entry) := by
  unfold ofVariables
  rw [List.foldlM_append]
  apply bind_congr
  intro layer
  rw [List.foldlM_cons]
  exact bind_pure _

theorem outcome_ofVariables (bindings : List (String × String)) :
    VariablesOutcome bindings (ofVariables bindings) := by
  induction bindings using List.reverseRecOn with
  | nil =>
      refine .described ⟨List.forall_mem_nil _, ?_, ?_⟩
      · intro α field
        exact get_empty field
      · intro part
        have vacant : Layer.empty.has part = false := by cases part <;> rfl
        rw [vacant]
        refine iff_of_false Bool.false_ne_true ?_
        rintro ⟨α, field, _, holds⟩
        exact holds (get_empty field)
  | append_singleton front entry ih =>
      rw [ofVariables_snoc]
      generalize ofVariables front = result at ih ⊢
      cases ih with
      | @refused earlier first =>
          obtain ⟨before, after, split, malformed, readable⟩ := first
          refine .refused ⟨before, after ++ [entry], ?_, malformed, readable⟩
          rw [split, List.append_assoc, List.cons_append]
      | @described layer described =>
          show VariablesOutcome (front ++ [entry]) (layer.applyVariable entry)
          rcases variable_cases entry with idle | malformed | ⟨written, α, field, named, readable⟩
          · rw [applyVariable_idle layer idle]
            exact .described (described.snoc_idle idle)
          · rw [applyVariable_malformed layer malformed]
            exact .refused ⟨front, [], rfl, malformed, described.readable⟩
          · obtain ⟨value, writes⟩ := readable
            rw [applyVariable_written layer written named writes]
            exact .described (described.snoc_written written named writes)

theorem ofVariables_ok : ofVariables bindings = .ok layer ↔ VariablesDescribe bindings layer := by
  have outcome := outcome_ofVariables bindings
  generalize ofVariables bindings = result at outcome
  cases outcome with
  | @described other described =>
      constructor
      · rintro ⟨⟩
        exact described
      · intro another
        rw [described.unique another]
  | @refused entry first =>
      obtain ⟨before, after, split, malformed, _⟩ := first
      refine iff_of_false (by rintro ⟨⟩) ?_
      intro described
      refine described.readable entry ?_ malformed
      rw [split]
      exact List.mem_append_right _ List.mem_cons_self

theorem ofVariables_malformed {before after : List (String × String)}
    (malformed : IsMalformedVariable entry)
    (readable : ∀ earlier ∈ before, ¬IsMalformedVariable earlier) :
    ofVariables (before ++ entry :: after) =
      .error (.environment (.value entry.1 (trim entry.2))) := by
  have front := outcome_ofVariables before
  unfold ofVariables at front ⊢
  rw [List.foldlM_append]
  generalize List.foldlM applyVariable Layer.empty before = result at front
  cases front with
  | refused first =>
      obtain ⟨earlier, later, split, bad, _⟩ := first
      refine absurd bad (readable _ ?_)
      rw [split]
      exact List.mem_append_right _ List.mem_cons_self
  | @described layer described =>
      show List.foldlM applyVariable layer (entry :: after) = _
      rw [List.foldlM_cons, applyVariable_malformed layer malformed]
      rfl

theorem ofVariables_error {fault : SettingsFault} :
    ofVariables bindings = .error fault ↔ ∃ entry, FirstMalformedVariable bindings entry ∧
      fault = .environment (.value entry.1 (trim entry.2)) := by
  constructor
  · intro failed
    have outcome := outcome_ofVariables bindings
    rw [failed] at outcome
    cases outcome with
    | refused first => exact ⟨_, first, rfl⟩
  · rintro ⟨entry, ⟨before, after, split, malformed, readable⟩, same⟩
    rw [split, same]
    exact ofVariables_malformed malformed readable

theorem ofVariables_idle {before after : List (String × String)} (idle : IsIdleVariable entry) :
    ofVariables (before ++ entry :: after) = ofVariables (before ++ after) := by
  unfold ofVariables
  rw [List.foldlM_append, List.foldlM_append]
  apply bind_congr
  intro layer
  rw [List.foldlM_cons, applyVariable_idle layer idle]
  rfl

end Layer

def SameByName (first second : List (String × String)) : Prop :=
  ∀ name, first.filter (·.1 = name) = second.filter (·.1 = name)

variable {others : List (String × String)}

theorem SameByName.mem_iff (same : SameByName bindings others) (entry : String × String) :
    entry ∈ bindings ↔ entry ∈ others := by
  have grouped (entries : List (String × String)) :
      entry ∈ entries ↔ entry ∈ entries.filter (·.1 = entry.1) := by
    rw [List.mem_filter, and_iff_left (decide_eq_true rfl)]
  rw [grouped bindings, same entry.1, ← grouped others]

theorem variableValues_filter (name : String) (bindings : List (String × String)) :
    variableValues name (bindings.filter (·.1 = name)) = variableValues name bindings := by
  unfold variableValues
  rw [List.filter_filter]
  congr 1
  apply List.filter_congr
  intro entry _
  by_cases named : entry.1 = name <;> simp [named]

theorem SameByName.describes (same : SameByName bindings others)
    (described : VariablesDescribe bindings layer) : VariablesDescribe others layer where
  readable entry member := described.readable entry ((same.mem_iff entry).mpr member)
  fields field := by
    rw [← variableValues_filter, ← same field.variableName, variableValues_filter]
    exact described.fields field
  parts := described.parts

theorem sameByName_swap (before after : List (String × String)) (one other : String × String)
    (apart : one.1 ≠ other.1) :
    SameByName (before ++ one :: other :: after) (before ++ other :: one :: after) := by
  intro name
  rw [List.filter_append, List.filter_append]
  congr 1
  by_cases first : one.1 = name
  · have second : other.1 ≠ name := fun same => apart (first.trans same.symm)
    simp only [List.filter_cons, first, second, decide_true, decide_false, if_true,
      Bool.false_eq_true, if_false]
  · simp only [List.filter_cons, first, decide_false, Bool.false_eq_true, if_false]

/-- Loading fails just when a variable of a field has a value that the field cannot have, and then
the fault names the first such variable; otherwise every field has the value of the last variable
with its name that is not blank, and there are the sections in which a field is set. So variables
that are blank or that no field has are as good as none, and variables of different names may
change places. -/
theorem Layer.ofVariables_reference (bindings : List (String × String)) :
    (∀ fault, ofVariables bindings = .error fault ↔ ∃ entry, FirstMalformedVariable bindings entry ∧
        fault = .environment (.value entry.1 (trim entry.2))) ∧
      (∀ layer, ofVariables bindings = .ok layer ↔ VariablesDescribe bindings layer) ∧
      (∀ before entry after, bindings = before ++ entry :: after → IsIdleVariable entry →
        ofVariables (before ++ after) = ofVariables bindings) ∧
      ∀ others, SameByName bindings others → ∀ layer, ofVariables bindings = .ok layer →
        ofVariables others = .ok layer := by
  refine ⟨fun _ => ofVariables_error, fun _ => ofVariables_ok, ?_, ?_⟩
  · intro before entry after split idle
    rw [split]
    exact (ofVariables_idle idle).symm
  · intro others same layer loaded
    exact ofVariables_ok.mpr (same.describes (ofVariables_ok.mp loaded))

/-- Variables of which some are blank, some are of no field, and one is given twice. -/
def crowdedVariables : List (String × String) :=
  [("PATH", "/bin"), ("USAGE_ANALYTICS_BATCH_SIZE", " +07 "), ("USAGE_ANALYTICS_APP_NAME", "Cards"),
    ("USAGE_ANALYTICS_APP_NAME", "  "), ("USAGE_ANALYTICS_BATCH_SIZE", "12\n"),
    ("USAGE_ANALYTICS_COLOUR", "red")]

theorem Layer.ofVariables_reference_crowded :
    let layer : Layer := {
      identity := some { appName := some "Cards" }
      delivery := some { batchSize := some 12 } }
    VariablesDescribe crowdedVariables layer ∧ ofVariables (crowdedVariables.drop 1) = .ok layer ∧
      ofVariables (crowdedVariables.take 4 ++ (crowdedVariables.drop 4).reverse) = .ok layer ∧
      ∃ entry, FirstMalformedVariable
          (("USAGE_ANALYTICS_DRY_RUN", "yes ") :: crowdedVariables) entry ∧
        entry.1 = "USAGE_ANALYTICS_DRY_RUN" := by
  intro layer
  obtain ⟨_, means, idle, moves⟩ := ofVariables_reference crowdedVariables
  obtain ⟨fails, _⟩ :=
    ofVariables_reference (("USAGE_ANALYTICS_DRY_RUN", "yes ") :: crowdedVariables)
  have loaded : ofVariables crowdedVariables = .ok layer := by decide +kernel
  refine ⟨(means layer).mp loaded, ?_, ?_, ?_⟩
  · rw [← loaded]
    refine idle [] ("PATH", "/bin") _ rfl (.inr ?_)
    intro α field
    cases field <;> decide
  · have swapped := sameByName_swap (crowdedVariables.take 4) []
      ("USAGE_ANALYTICS_BATCH_SIZE", "12\n") ("USAGE_ANALYTICS_COLOUR", "red") (by decide)
    exact moves _ swapped layer loaded
  · obtain ⟨entry, first, same⟩ :=
      (fails (.environment (.value "USAGE_ANALYTICS_DRY_RUN" "yes"))).mp (by decide +kernel)
    obtain ⟨named, _⟩ := BadEnvironment.value.inj (SettingsFault.environment.inj same)
    exact ⟨entry, first, named.symm⟩

end Telemetry
