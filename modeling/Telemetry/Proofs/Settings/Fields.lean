import Telemetry.Settings.Basic

/-! The fields of a layer. A layer counts for nothing but the values of its fields: merging works
field by field, and a section that sets nothing is as good as none. -/

namespace Telemetry

inductive Field : Type → Type where
  | trackingId : Field String
  | appName : Field String
  | appVersion : Field String
  | appId : Field String
  | anonymizeIp : Field Bool
  | baseUrl : Field String
  | batchSize : Field Nat
  | flushIntervalMs : Field Nat
  | maxQueueSize : Field Nat
  | requestTimeoutMs : Field Nat
  | dryRun : Field Bool

variable {α : Type}

namespace Layer

/-- The value of a field, if the layer sets it. -/
def get (layer : Layer) : Field α → Option α
  | .trackingId => layer.identity.bind (·.trackingId)
  | .appName => layer.identity.bind (·.appName)
  | .appVersion => layer.identity.bind (·.appVersion)
  | .appId => layer.identity.bind (·.appId)
  | .anonymizeIp => layer.identity.bind (·.anonymizeIp)
  | .baseUrl => layer.delivery.bind (·.baseUrl)
  | .batchSize => layer.delivery.bind (·.batchSize)
  | .flushIntervalMs => layer.delivery.bind (·.flushIntervalMs)
  | .maxQueueSize => layer.delivery.bind (·.maxQueueSize)
  | .requestTimeoutMs => layer.delivery.bind (·.requestTimeoutMs)
  | .dryRun => layer.delivery.bind (·.dryRun)

theorem get_empty (field : Field α) : Layer.empty.get field = none := by
  cases field <;> rfl

theorem bind_mergeSection {σ : Type} {merge : σ → σ → σ} {value : σ → Option α}
    (fieldwise : ∀ earlier later, value (merge earlier later) = (value later).or (value earlier))
    (earlier later : Option σ) :
    (mergeSection merge earlier later).bind value =
      (later.bind value).or (earlier.bind value) := by
  cases earlier with
  | none => cases later <;> simp [mergeSection]
  | some first =>
      cases later with
      | none => rfl
      | some second => exact fieldwise first second

theorem get_merge (earlier later : Layer) (field : Field α) :
    (earlier.merge later).get field = (later.get field).or (earlier.get field) := by
  cases field <;> exact bind_mergeSection (fun _ _ => rfl) _ _

variable {first second : Layer}

theorem identity_congr (same : ∀ {α : Type} (field : Field α), first.get field = second.get field) :
    first.identity.getD {} = second.identity.getD {} := by
  have fields (layer : Layer) : layer.identity.getD {} =
      { trackingId := layer.get .trackingId
        appName := layer.get .appName
        appVersion := layer.get .appVersion
        appId := layer.get .appId
        anonymizeIp := layer.get .anonymizeIp } := by
    unfold get
    cases layer.identity <;> rfl
  simp only [fields, same]

theorem delivery_congr (same : ∀ {α : Type} (field : Field α), first.get field = second.get field) :
    first.delivery.getD {} = second.delivery.getD {} := by
  have fields (layer : Layer) : layer.delivery.getD {} =
      { baseUrl := layer.get .baseUrl
        batchSize := layer.get .batchSize
        flushIntervalMs := layer.get .flushIntervalMs
        maxQueueSize := layer.get .maxQueueSize
        requestTimeoutMs := layer.get .requestTimeoutMs
        dryRun := layer.get .dryRun } := by
    unfold get
    cases layer.delivery <;> rfl
  simp only [fields, same]

end Layer

theorem Settings.ofLayer_congr {first second : Layer}
    (same : ∀ {α : Type} (field : Field α), first.get field = second.get field) (paths : Paths) :
    Settings.ofLayer first paths = Settings.ofLayer second paths := by
  unfold Settings.ofLayer
  rw [Layer.identity_congr same, Layer.delivery_congr same]

end Telemetry
