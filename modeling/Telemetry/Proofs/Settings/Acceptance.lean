import Telemetry.Client.Basic
import Telemetry.Proofs.Settings.Precedence
import Telemetry.Proofs.Text.Ends

/-! Settings that have been loaded can be used. They are checked when they are loaded and once more
when a client is built from them; what passes the first check passes the second one, whatever is
taken for a URL. -/

namespace Telemetry

open Telemetry.Text

theorem DeliveryLayer.resolve_ends (layer : DeliveryLayer) :
    layer.resolve.baseUrl.toList.getLast? ≠ some '/' := by
  unfold resolve
  cases layer.baseUrl with
  | none =>
      change ({} : DeliverySettings).baseUrl.toList.getLast? ≠ some '/'
      decide
  | some url => exact trimEndOf_ends '/' url

theorem Settings.ofLayer_ends {layer : Layer} {paths : Paths} {settings : Settings}
    (resolved : Settings.ofLayer layer paths = .ok settings) :
    settings.delivery.baseUrl.toList.getLast? ≠ some '/' := by
  unfold Settings.ofLayer at resolved
  cases identified : (layer.identity.getD {}).resolve with
  | error fault =>
      rw [identified] at resolved
      cases resolved
  | ok identity =>
      rw [identified] at resolved
      cases resolved
      exact DeliveryLayer.resolve_ends _

variable {parseUrl : String → Except Url.Fault Url}

structure Settings.Accepted (parseUrl : String → Except Url.Fault Url) (settings : Settings) :
    Prop where
  trackingId : settings.identity.hasTrackingId = true
  appName : ¬IsBlankText settings.identity.appName
  baseUrl : ∃ url, parseUrl settings.delivery.baseUrl = .ok url
  batchSize : 1 ≤ settings.delivery.batchSize ∧ settings.delivery.batchSize ≤ maxHitsPerRequest
  maxQueueSize : settings.delivery.batchSize ≤ settings.delivery.maxQueueSize
  flushInterval : settings.delivery.flushInterval.isZero = false

theorem unless_ok {ε β : Type} {refused : Prop} [Decidable refused] {fault : ε}
    {rest : Except ε β} {value : β} :
    (if refused then .error fault else rest) = .ok value ↔ ¬refused ∧ rest = .ok value := by
  split
  · rename_i yes
    refine ⟨fun impossible => ?_, fun passed => absurd yes passed.1⟩
    cases impossible
  · rename_i no
    exact ⟨fun passed => ⟨no, passed⟩, And.right⟩

theorem unless_error {ε β : Type} {refused : Prop} [Decidable refused] {fault error : ε}
    {rest : Except ε β} :
    (if refused then .error fault else rest) = .error error ↔
      refused ∧ fault = error ∨ ¬refused ∧ rest = .error error := by
  split
  · rename_i yes
    rw [Except.error.injEq]
    exact ⟨fun same => .inl ⟨yes, same⟩, Or.rec And.right fun other => absurd yes other.1⟩
  · rename_i no
    exact ⟨fun later => .inr ⟨no, later⟩, Or.rec (fun other => absurd other.1 no) And.right⟩

theorem Settings.check_iff {settings : Settings} :
    settings.check parseUrl = .ok () ↔ settings.Accepted parseUrl := by
  unfold check
  simp only [bind, Except.bind, pure, Except.pure, unless_ok, Bool.not_eq_true', Bool.not_eq_false]
  constructor
  · rintro ⟨tracked, named, rest⟩
    cases parsed : parseUrl settings.delivery.baseUrl with
    | error fault =>
        rw [parsed] at rest
        cases rest
    | ok url =>
        simp only [parsed, unless_ok, not_or, Nat.not_lt, Bool.not_eq_true] at rest
        obtain ⟨sized, queued, timed, _⟩ := rest
        exact ⟨tracked, named, ⟨url, parsed⟩, sized, queued, timed⟩
  · rintro ⟨tracked, named, ⟨url, parsed⟩, sized, queued, timed⟩
    simp only [parsed, unless_ok, not_or, Nat.not_lt, Bool.not_eq_true]
    exact ⟨tracked, named, sized, queued, timed, trivial⟩

def Settings.Lacks (parseUrl : String → Except Url.Fault Url) (settings : Settings) :
    Invalid → Prop
  | .trackingId found =>
      settings.identity.hasTrackingId = false ∧ settings.identity.trackingId = found
  | .blankAppName => IsBlankText settings.identity.appName
  | .baseUrl fault => parseUrl settings.delivery.baseUrl = .error fault
  | .batchSize most =>
      most = maxHitsPerRequest ∧
        (settings.delivery.batchSize < 1 ∨ most < settings.delivery.batchSize)
  | .queueBelowBatch => settings.delivery.maxQueueSize < settings.delivery.batchSize
  | .noFlushInterval => settings.delivery.flushInterval.isZero = true
  | .stated _ => False

theorem Settings.check_error {settings : Settings} {reason : Invalid}
    (refused : settings.check parseUrl = .error reason) : settings.Lacks parseUrl reason := by
  unfold check at refused
  simp only [bind, Except.bind, pure, Except.pure, unless_error, Bool.not_eq_true'] at refused
  rcases refused with ⟨untracked, rfl⟩ | ⟨_, ⟨blank, rfl⟩ | ⟨_, refused⟩⟩
  · exact ⟨untracked, rfl⟩
  · exact blank
  · cases parsed : parseUrl settings.delivery.baseUrl with
    | error fault =>
        rw [parsed] at refused
        cases refused
        exact parsed
    | ok url =>
        simp only [parsed, unless_error] at refused
        rcases refused with ⟨sized, rfl⟩ | ⟨_, ⟨narrow, rfl⟩ | ⟨_, ⟨timeless, rfl⟩ | ⟨_, passed⟩⟩⟩
        · exact ⟨rfl, sized⟩
        · exact narrow
        · exact timeless
        · cases passed

theorem Settings.check_trackingId {settings : Settings} {found : String} :
    settings.check parseUrl = .error (.trackingId found) ↔
      settings.identity.hasTrackingId = false ∧ settings.identity.trackingId = found := by
  refine ⟨Settings.check_error, ?_⟩
  rintro ⟨untracked, rfl⟩
  unfold check
  rw [untracked]
  rfl

theorem QueueConfig.validate_iff {config : QueueConfig} :
    config.validate = .ok () ↔
      config.maxBatchSize ≠ 0 ∧ config.maxQueueSize ≠ 0 ∧ config.flushInterval.isZero = false := by
  unfold validate
  simp only [unless_ok, Bool.not_eq_true, and_true, ne_eq]

/-- What the configuration of a client is checked for, together with what the client is built
from. -/
structure ClientConfig.Accepted (parseUrl : String → Except Url.Fault Url) (config : ClientConfig)
    (identity : AppIdentity) (hasRuntime hasSender : Bool) : Prop where
  trackingId : identity.hasTrackingId = true
  baseUrl : ∃ url, parseUrl config.trimmedBaseUrl = .ok url
  queue : config.queue.validate = .ok ()
  runtime : hasRuntime = true
  sender : config.lacksSender hasSender = false

theorem ClientConfig.check_iff {config : ClientConfig} {identity : AppIdentity}
    {hasRuntime hasSender : Bool} :
    config.check parseUrl identity hasRuntime hasSender = .ok () ↔
      config.Accepted parseUrl identity hasRuntime hasSender := by
  unfold check
  simp only [bind, Except.bind, pure, Except.pure, unless_ok, Bool.not_eq_true', Bool.not_eq_false]
  constructor
  · rintro ⟨tracked, rest⟩
    cases parsed : parseUrl config.trimmedBaseUrl with
    | error fault =>
        rw [parsed] at rest
        cases rest
    | ok url =>
        cases valid : config.queue.validate with
        | error fault =>
            simp only [parsed, valid] at rest
            cases rest
        | ok done =>
            simp only [parsed, valid, Except.mapError, unless_ok, Bool.not_eq_true] at rest
            obtain ⟨running, supplied, _⟩ := rest
            rw [Bool.not_eq_false] at running
            exact ⟨tracked, ⟨url, parsed⟩, valid, running, supplied⟩
  · rintro ⟨tracked, ⟨url, parsed⟩, valid, running, supplied⟩
    simp only [parsed, valid, Except.mapError, unless_ok, running, supplied, Bool.true_eq_false,
      Bool.false_eq_true, not_false_eq_true, and_self, tracked]

def ClientConfig.Lacks (parseUrl : String → Except Url.Fault Url) (config : ClientConfig)
    (identity : AppIdentity) (hasRuntime hasSender : Bool) : ServiceError → Prop
  | .badTrackingId => identity.hasTrackingId = false
  | .badBaseUrl => ∃ fault, parseUrl config.trimmedBaseUrl = .error fault
  | .badQueue fault => config.queue.validate = .error fault
  | .noRuntime => hasRuntime = false
  | .requestFailed failure => failure = .unsendable ∧ config.lacksSender hasSender = true
  | _ => False

theorem ClientConfig.check_error {config : ClientConfig} {identity : AppIdentity}
    {hasRuntime hasSender : Bool} {error : ServiceError}
    (refused : config.check parseUrl identity hasRuntime hasSender = .error error) :
    config.Lacks parseUrl identity hasRuntime hasSender error := by
  unfold check at refused
  simp only [bind, Except.bind, pure, Except.pure, unless_error, Bool.not_eq_true'] at refused
  rcases refused with ⟨untracked, rfl⟩ | ⟨_, refused⟩
  · exact untracked
  · cases parsed : parseUrl config.trimmedBaseUrl with
    | error fault =>
        rw [parsed] at refused
        cases refused
        exact ⟨fault, parsed⟩
    | ok url =>
        simp only [parsed] at refused
        cases valid : config.queue.validate with
        | error fault =>
            rw [valid] at refused
            cases refused
            exact valid
        | ok done =>
            simp only [valid, Except.mapError, unless_error] at refused
            rcases refused with ⟨stopped, rfl⟩ | ⟨_, ⟨lacks, rfl⟩ | ⟨_, passed⟩⟩
            · exact stopped
            · exact ⟨rfl, lacks⟩
            · cases passed

theorem ClientConfig.check_badTrackingId {config : ClientConfig} {identity : AppIdentity}
    {hasRuntime hasSender : Bool} :
    config.check parseUrl identity hasRuntime hasSender = .error .badTrackingId ↔
      identity.hasTrackingId = false := by
  refine ⟨ClientConfig.check_error, ?_⟩
  intro untracked
  unfold check
  rw [untracked]
  rfl

/-- A client with these settings, for the given policy and the given choice about sending. -/
def Settings.clientConfig (settings : Settings) (policy : RetryPolicy) (dryRun : Bool) :
    ClientConfig :=
  { ClientConfig.ofDelivery settings.delivery with policy, dryRun }

/-- Checked settings pass the second check, too: there is no slash left to be trimmed from the base
URL. -/
theorem Settings.check_clientConfig {settings : Settings} (accepted : settings.Accepted parseUrl)
    (ends : settings.delivery.baseUrl.toList.getLast? ≠ some '/') (policy : RetryPolicy)
    (dryRun hasSender : Bool) :
    (settings.clientConfig policy dryRun).check parseUrl settings.identity true hasSender =
      .ok () := by
  obtain ⟨url, parsed⟩ := accepted.baseUrl
  have trimmed : parseUrl (settings.clientConfig policy dryRun).trimmedBaseUrl = .ok url := by
    change parseUrl (trimEndOf '/' settings.delivery.baseUrl) = .ok url
    rw [trimEndOf_eq_self ends]
    exact parsed
  have batches : settings.delivery.batchSize ≠ 0 := Nat.ne_of_gt accepted.batchSize.1
  have room : settings.delivery.maxQueueSize ≠ 0 :=
    Nat.ne_of_gt (Nat.le_trans accepted.batchSize.1 accepted.maxQueueSize)
  have valid : (settings.clientConfig policy dryRun).queue.validate = .ok () :=
    QueueConfig.validate_iff.mpr ⟨batches, room, accepted.flushInterval⟩
  have sendable : isHeaderText (productUserAgent "linux-x86_64") = true := by decide
  have supplied : (settings.clientConfig policy dryRun).lacksSender hasSender = false := by
    change (!hasSender && !isHeaderText (productUserAgent "linux-x86_64")) = false
    rw [sendable, Bool.not_true, Bool.and_false]
  exact ClientConfig.check_iff.mpr ⟨accepted.trackingId, ⟨url, trimmed⟩, valid, rfl, supplied⟩

theorem SourceList.loadBy_ok {list : SourceList} {disk : Disk} {paths : Paths}
    {settings : Settings} (loaded : (list.loadBy parseUrl disk paths).1 = .ok settings) :
    settings.Accepted parseUrl ∧ settings.delivery.baseUrl.toList.getLast? ≠ some '/' := by
  unfold loadBy at loaded
  dsimp only at loaded
  cases resolved : Settings.ofLayer (list.layer disk).1 paths with
  | error fault =>
      rw [resolved] at loaded
      cases loaded
  | ok found =>
      rw [resolved] at loaded
      cases checked : found.check parseUrl with
      | error fault =>
          simp only [bind, Except.bind, checked, Except.mapError] at loaded
          cases loaded
      | ok done =>
          simp only [bind, Except.bind, checked, Except.mapError] at loaded
          cases loaded
          exact ⟨Settings.check_iff.mp checked, Settings.ofLayer_ends resolved⟩

/-- What is true of all settings that have been loaded, apart from the tracking id and the URL. -/
structure Settings.Sound (settings : Settings) : Prop where
  batchSize : 1 ≤ settings.delivery.batchSize ∧ settings.delivery.batchSize ≤ 20
  maxQueueSize : settings.delivery.batchSize ≤ settings.delivery.maxQueueSize
  flushInterval : Duration.zero < settings.delivery.flushInterval
  appName : ¬IsBlankText settings.identity.appName
  baseUrl : settings.delivery.baseUrl.toList.getLast? ≠ some '/'

theorem Settings.Accepted.sound {settings : Settings} (accepted : settings.Accepted parseUrl)
    (ends : settings.delivery.baseUrl.toList.getLast? ≠ some '/') : settings.Sound where
  batchSize := accepted.batchSize
  maxQueueSize := accepted.maxQueueSize
  flushInterval := Nat.pos_of_ne_zero (beq_eq_false_iff_ne.mp accepted.flushInterval)
  appName := accepted.appName
  baseUrl := ends

/-- Whatever list of sources gives settings, and whatever counts as a URL: a client can be built
from the settings, for any installation, policy and choice about sending, as long as there are a
runtime and something that takes the batches. -/
theorem loaded_settings_build (list : SourceList) (disk : Disk) (paths : Paths) :
    (∀ parseUrl settings, (list.loadBy parseUrl disk paths).1 = .ok settings →
      settings.Sound ∧ ∀ (clients : Clients) clientId policy dryRun courier,
        ∃ after, clients.buildBy parseUrl ⟨settings.identity, clientId⟩
          (settings.clientConfig policy dryRun) (some courier) true =
            (.ok clients.tasks.length, after)) ∧
      ∀ settings, (list.load disk paths).1 = .ok settings →
        settings.Sound ∧ ∀ (clients : Clients) clientId policy dryRun courier,
          ∃ after, clients.build ⟨settings.identity, clientId⟩
            (settings.clientConfig policy dryRun) (some courier) true =
              (.ok clients.tasks.length, after) := by
  have anyway (parseUrl : String → Except Url.Fault Url) (settings : Settings)
      (loaded : (list.loadBy parseUrl disk paths).1 = .ok settings) :
      settings.Sound ∧ ∀ (clients : Clients) clientId policy dryRun courier,
        ∃ after, clients.buildBy parseUrl ⟨settings.identity, clientId⟩
          (settings.clientConfig policy dryRun) (some courier) true =
            (.ok clients.tasks.length, after) := by
    obtain ⟨accepted, ends⟩ := SourceList.loadBy_ok loaded
    refine ⟨accepted.sound ends, ?_⟩
    intro clients clientId policy dryRun courier
    have passes := Settings.check_clientConfig accepted ends policy dryRun true
    unfold Clients.buildBy
    rw [Option.isSome_some, passes]
    exact ⟨_, rfl⟩
  exact ⟨anyway, anyway Url.parse⟩

/-- A batch as large as it may be, in a queue that holds no more, and a URL with slashes at its
end. -/
def tightSources : SourceList where
  sources := [.given "machine" .systemFile (.ok {
    identity := some {
      trackingId := some "UA-1-1", appName := some "Cards", appVersion := some "3" }
    delivery := some {
      baseUrl := some "http://a//", batchSize := some 20, maxQueueSize := some 20,
      flushIntervalMs := some 1 } })]

theorem loaded_settings_build_tight :
    ∃ settings, (tightSources.load {} .standard).1 = .ok settings ∧
      settings.delivery.baseUrl = "http://a" ∧ settings.Sound ∧
      ∃ after, Clients.build {} ⟨settings.identity, "id"⟩ (settings.clientConfig {} true) (some 0)
        true = (.ok 0, after) := by
  have loads : (tightSources.load {} .standard).1.toOption.map (·.delivery.baseUrl) =
      some "http://a" := by
    unfold SourceList.load SourceList.loadBy SourceList.layer
    rw [SourceList.sorted_eq]
    decide +kernel
  cases loaded : (tightSources.load {} .standard).1 with
  | error fault =>
      rw [loaded] at loads
      cases loads
  | ok settings =>
      rw [loaded] at loads
      obtain ⟨_, means⟩ := loaded_settings_build tightSources {} .standard
      obtain ⟨sound, builds⟩ := means settings loaded
      exact ⟨settings, rfl, Option.some.inj loads, sound, builds {} "id" {} true 0⟩

end Telemetry
