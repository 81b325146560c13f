import Telemetry.Payload
import Telemetry.Proofs.Delivery.Form
import Telemetry.Proofs.Text.Numeral

/-! A payload is read back as its parameters, in their order. Every parameter has a name of its
own, so that the installation, the hit and the milliseconds in the queue can be looked up in them;
nothing else goes into a payload. -/

namespace Telemetry

/-! ### Whole numbers -/

/-- The number that is written in decimal digits, maybe behind a minus sign. -/
def writtenNumber (written : String) : Int :=
  match written.toList with
  | '-' :: digits => -Nat.ofDigitChars 10 digits 0
  | digits => Nat.ofDigitChars 10 digits 0

theorem writtenNumber_toString (number : Int) : writtenNumber (toString number) = number := by
  cases number with
  | ofNat size =>
      unfold writtenNumber
      rw [Text.toList_toString_ofNat]
      split
      · rename_i digits found
        have sign : '-' ∈ Nat.toDigits 10 size := found ▸ List.mem_cons_self
        exact absurd (Nat.isDigit_of_mem_toDigits (by decide) (by decide) sign) (by decide)
      · exact congrArg Int.ofNat Nat.ofDigitChars_ten_toDigits
  | negSucc size =>
      unfold writtenNumber
      rw [Text.toList_toString_negSucc]
      exact congrArg (fun number => -Int.ofNat number) Nat.ofDigitChars_ten_toDigits

/-! ### Looking parameters up -/

def originOf? (pairs : List Form.Pair) : Option Origin := do
  let trackingId ← pairs.lookup "tid"
  let clientId ← pairs.lookup "cid"
  let appName ← pairs.lookup "an"
  let appVersion ← pairs.lookup "av"
  let appId ← pairs.lookup "aid"
  let anonymizeIp := (pairs.lookup "aip").isSome
  return ⟨{ trackingId, appName, appVersion, appId, anonymizeIp }, clientId⟩

def screenOf? (pairs : List Form.Pair) : Option ScreenView := do
  return ⟨← pairs.lookup "cd"⟩

def eventOf? (pairs : List Form.Pair) : Option Event := do
  let category ← pairs.lookup "ec"
  let action ← pairs.lookup "ea"
  let label := pairs.lookup "el"
  let value := (pairs.lookup "ev").map fun written => Int64.ofInt (writtenNumber written)
  return { category, action, label, value }

def failureOf? (pairs : List Form.Pair) : Option Failure := do
  let description ← pairs.lookup "exd"
  let fatal ← pairs.lookup "exf"
  return ⟨description, fatal == "1"⟩

def hitOf? (pairs : List Form.Pair) : Option Hit := do
  let kind ← pairs.lookup "t"
  if kind = HitKind.screenView.name then .screenView <$> screenOf? pairs
  else if kind = HitKind.event.name then .event <$> eventOf? pairs
  else if kind = HitKind.exception.name then .exception <$> failureOf? pairs
  else none

/-! ### Names -/

def originNames : List String := ["v", "tid", "cid", "t", "an", "av", "aid", "aip"]

def hitNames : List String := ["cd", "ec", "ea", "el", "ev", "exd", "exf"]

variable (origin : Origin) (hit : Hit) (queueTime : Duration)

theorem originNames_complete (kind : HitKind) :
    ∀ name ∈ (origin.parameters kind).map Prod.fst, name ∈ originNames := by
  unfold Origin.parameters
  cases origin.identity.anonymizeIp with
  | true =>
      show ∀ name ∈ ["v", "tid", "cid", "t", "an", "av", "aid", "aip"], name ∈ originNames
      decide
  | false =>
      show ∀ name ∈ ["v", "tid", "cid", "t", "an", "av", "aid"], name ∈ originNames
      decide

theorem hitNames_complete : ∀ name ∈ hit.parameters.map Prod.fst, name ∈ hitNames := by
  have optional (key : String) (text : Option String) :
      ∀ name ∈ (optionalPair key text).map Prod.fst, name = key := by
    cases text with
    | none => exact List.forall_mem_nil _
    | some text => exact List.forall_mem_singleton.mpr rfl
  cases hit with
  | screenView contents =>
      show ∀ name ∈ ["cd"], name ∈ hitNames
      decide
  | event contents =>
      intro name among
      rw [Hit.parameters, List.map_append, List.map_append, List.mem_append,
        List.mem_append] at among
      rcases among with (fixed | label) | value
      · have first : ∀ name ∈ ["ec", "ea"], name ∈ hitNames := by decide
        exact first name fixed
      · rw [optional "el" _ name label]
        decide
      · rw [optional "ev" _ name value]
        decide
  | exception contents =>
      show ∀ name ∈ ["exd", "exf"], name ∈ hitNames
      decide

theorem lookup_absent {pairs : List Form.Pair} {name : String}
    (absent : name ∉ pairs.map Prod.fst) : pairs.lookup name = none := by
  rw [List.lookup_eq_none_iff]
  intro pair among
  rw [bne_iff_ne]
  rintro rfl
  exact absent (List.mem_map_of_mem among)

theorem lookup_origin_other {name : String} (other : name ∉ originNames) (kind : HitKind) :
    (origin.parameters kind).lookup name = none :=
  lookup_absent fun among => other (originNames_complete origin kind name among)

theorem lookup_hit_other {name : String} (other : name ∉ hitNames) :
    hit.parameters.lookup name = none :=
  lookup_absent fun among => other (hitNames_complete hit name among)

theorem lookup_queue_other {name : String} (other : name ≠ "qt") :
    (queueParameters queueTime).lookup name = none := by
  refine lookup_absent fun among => other ?_
  unfold queueParameters at among
  split at among
  · cases among
  · exact List.mem_singleton.mp among

theorem lookup_kind : (parameters origin hit queueTime).lookup "t" = some hit.kind.name :=
  rfl

theorem lookup_hit {name : String} (own : name ∈ hitNames) :
    (parameters origin hit queueTime).lookup name = hit.parameters.lookup name := by
  have apart : ∀ name ∈ hitNames, name ∉ originNames ∧ name ≠ "qt" := by decide
  obtain ⟨before, after⟩ := apart name own
  rw [parameters, List.lookup_append, List.lookup_append, lookup_origin_other origin before,
    lookup_queue_other queueTime after, Option.none_or, Option.or_none]

theorem lookup_queueTime :
    (parameters origin hit queueTime).lookup "qt" =
      if queueTime.isZero then none else some (toString queueTime.milliseconds) := by
  rw [parameters, List.lookup_append, List.lookup_append,
    lookup_origin_other origin (by decide), lookup_hit_other hit (by decide), Option.none_or,
    Option.none_or, queueParameters]
  cases queueTime.isZero with
  | true => rfl
  | false => rfl

/-! ### Reading back -/

theorem originOf?_parameters : originOf? (parameters origin hit queueTime) = some origin := by
  rcases origin with ⟨⟨trackingId, appName, appVersion, appId, anonymizeIp⟩, clientId⟩
  cases anonymizeIp with
  | true => rfl
  | false =>
      have absent : (hit.parameters ++ queueParameters queueTime).lookup "aip" = none := by
        rw [List.lookup_append, lookup_hit_other hit (by decide),
          lookup_queue_other queueTime (by decide), Option.none_or]
      simp [originOf?, parameters, Origin.parameters, List.lookup_cons, absent]

theorem screenOf?_parameters (contents : ScreenView) :
    screenOf? (parameters origin (.screenView contents) queueTime) = some contents := by
  unfold screenOf?
  rw [lookup_hit origin _ queueTime (by decide)]
  rfl

theorem eventOf?_parameters (contents : Event) :
    eventOf? (parameters origin (.event contents) queueTime) = some contents := by
  rcases contents with ⟨category, action, label, value⟩
  have found {name : String} (own : name ∈ hitNames) :=
    lookup_hit origin (.event ⟨category, action, label, value⟩) queueTime own
  have names : "ec" ∈ hitNames ∧ "ea" ∈ hitNames ∧ "el" ∈ hitNames ∧ "ev" ∈ hitNames := by decide
  obtain ⟨ec, ea, el, ev⟩ := names
  unfold eventOf?
  rw [found ec, found ea, found el, found ev]
  cases value with
  | none =>
      cases label with
      | none => rfl
      | some label => rfl
  | some value =>
      have kept : Int64.ofInt (writtenNumber (toString value.toInt)) = value := by
        rw [writtenNumber_toString, Int64.ofInt_toInt]
      cases label with
      | none => exact congrArg (fun read => some (Event.mk category action none (some read))) kept
      | some label =>
          exact congrArg (fun read => some (Event.mk category action label (some read))) kept

theorem failureOf?_parameters (contents : Failure) :
    failureOf? (parameters origin (.exception contents) queueTime) = some contents := by
  rcases contents with ⟨description, fatal⟩
  have found {name : String} (own : name ∈ hitNames) :=
    lookup_hit origin (.exception ⟨description, fatal⟩) queueTime own
  have names : "exd" ∈ hitNames ∧ "exf" ∈ hitNames := by decide
  unfold failureOf?
  rw [found names.1, found names.2]
  cases fatal with
  | true => rfl
  | false => rfl

theorem hitOf?_parameters : hitOf? (parameters origin hit queueTime) = some hit := by
  unfold hitOf?
  rw [lookup_kind]
  cases hit with
  | screenView contents => simp [Hit.kind, screenOf?_parameters]
  | event contents => simp [Hit.kind, HitKind.name, eventOf?_parameters]
  | exception contents => simp [Hit.kind, HitKind.name, failureOf?_parameters]

/-! ### Payloads -/

theorem decode_payload :
    Form.decode (payload origin hit queueTime) = parameters origin hit queueTime :=
  Form.decode_encode _

theorem payload_ne_empty : payload origin hit queueTime ≠ "" :=
  Form.encode_ne_empty (List.cons_ne_nil ("v", protocolVersion) _)

theorem isZero_iff {time : Duration} : time.isZero = true ↔ time = .zero := by
  rcases time with ⟨nanoseconds⟩
  simp only [Duration.isZero, Duration.zero, beq_iff_eq, Duration.mk.injEq]

/-- Of the time in the queue a payload holds whether there was any, and its whole milliseconds. -/
def SameWait (first second : Duration) : Prop :=
  first = .zero ∧ second = .zero ∨
    first ≠ .zero ∧ second ≠ .zero ∧ first.milliseconds = second.milliseconds

theorem queueParameters_congr {first second : Duration} (same : SameWait first second) :
    queueParameters first = queueParameters second := by
  rcases same with ⟨rfl, rfl⟩ | ⟨waited, otherWaited, same⟩
  · rfl
  · unfold queueParameters
    rw [if_neg ((not_congr isZero_iff).mpr waited),
      if_neg ((not_congr isZero_iff).mpr otherWaited), same]

theorem sameWait_of_lookup {first second : Duration}
    (same : (if first.isZero then none else some (toString first.milliseconds)) =
      (if second.isZero then none else some (toString second.milliseconds))) :
    SameWait first second := by
  by_cases empty : first = .zero
  · by_cases otherEmpty : second = .zero
    · exact .inl ⟨empty, otherEmpty⟩
    · rw [if_pos (isZero_iff.mpr empty), if_neg ((not_congr isZero_iff).mpr otherEmpty)] at same
      cases same
  · by_cases otherEmpty : second = .zero
    · rw [if_neg ((not_congr isZero_iff).mpr empty), if_pos (isZero_iff.mpr otherEmpty)] at same
      cases same
    · rw [if_neg ((not_congr isZero_iff).mpr empty),
        if_neg ((not_congr isZero_iff).mpr otherEmpty)] at same
      have numbers : ((first.milliseconds : Nat) : Int) = second.milliseconds := by
        have written : toString (Int.ofNat first.milliseconds) =
          toString (Int.ofNat second.milliseconds) := Option.some.inj same
        have read := congrArg writtenNumber written
        rwa [writtenNumber_toString, writtenNumber_toString] at read
      exact .inr ⟨empty, otherEmpty, Int.ofNat.inj numbers⟩

variable {origin hit queueTime} {otherOrigin : Origin} {otherHit : Hit} {otherTime : Duration}

theorem payload_congr (same : SameWait queueTime otherTime) :
    payload origin hit queueTime = payload origin hit otherTime := by
  unfold payload parameters
  rw [queueParameters_congr same]

theorem payload_injective
    (same : payload origin hit queueTime = payload otherOrigin otherHit otherTime) :
    origin = otherOrigin ∧ hit = otherHit ∧ SameWait queueTime otherTime := by
  have pairs : parameters origin hit queueTime = parameters otherOrigin otherHit otherTime :=
    Form.encode_injective same
  have origins := congrArg originOf? pairs
  have hits := congrArg hitOf? pairs
  have waits := congrArg (List.lookup "qt") pairs
  rw [originOf?_parameters, originOf?_parameters] at origins
  rw [hitOf?_parameters, hitOf?_parameters] at hits
  rw [lookup_queueTime, lookup_queueTime] at waits
  exact ⟨Option.some.inj origins, Option.some.inj hits, sameWait_of_lookup waits⟩

/-- Reading a payload as a form gives the parameters of the installation, the hit and the queue in
their order, each exactly when there is something to tell. So two payloads are the same exactly when
everything that is told is the same. -/
theorem payload_lossless (origin : Origin) (hit : Hit) (queueTime : Duration) :
    Form.decode (payload origin hit queueTime) =
      [("v", "1"), ("tid", origin.identity.trackingId), ("cid", origin.clientId),
        ("t",
          match hit with
          | .screenView _ => "screenview"
          | .event _ => "event"
          | .exception _ => "exception"),
        ("an", origin.identity.appName), ("av", origin.identity.appVersion),
        ("aid", origin.identity.appId)] ++
      (if origin.identity.anonymizeIp then [("aip", "1")] else []) ++
      (match hit with
        | .screenView contents => [("cd", contents.screenName)]
        | .event contents =>
            [("ec", contents.category), ("ea", contents.action)] ++
              (match contents.label with
                | some label => [("el", label)]
                | none => []) ++
              (match contents.value with
                | some value => [("ev", toString value.toInt)]
                | none => [])
        | .exception contents =>
            [("exd", contents.description), ("exf", if contents.fatal then "1" else "0")]) ++
      (if queueTime = .zero then [] else [("qt", toString (queueTime.nanoseconds / 1000000))]) ∧
    ∀ (otherOrigin : Origin) (otherHit : Hit) (otherTime : Duration),
      payload origin hit queueTime = payload otherOrigin otherHit otherTime ↔
        origin.identity.trackingId = otherOrigin.identity.trackingId ∧
          origin.clientId = otherOrigin.clientId ∧
          origin.identity.appName = otherOrigin.identity.appName ∧
          origin.identity.appVersion = otherOrigin.identity.appVersion ∧
          origin.identity.appId = otherOrigin.identity.appId ∧
          origin.identity.anonymizeIp = otherOrigin.identity.anonymizeIp ∧ hit = otherHit ∧
          (queueTime = .zero ∧ otherTime = .zero ∨
            queueTime ≠ .zero ∧ otherTime ≠ .zero ∧
              queueTime.milliseconds = otherTime.milliseconds) := by
  constructor
  · have wait : queueParameters queueTime = if queueTime = .zero then [] else
        [("qt", toString (queueTime.nanoseconds / 1000000))] := by
      simp only [queueParameters, isZero_iff, Duration.milliseconds]
    rw [decode_payload, parameters, wait]
    rcases hit with contents | ⟨category, action, label, value⟩ | contents
    · rfl
    · cases label with
      | none =>
          cases value with
          | none => rfl
          | some value => rfl
      | some label =>
          cases value with
          | none => rfl
          | some value => rfl
    · rfl
  · intro otherOrigin otherHit otherTime
    constructor
    · intro same
      obtain ⟨rfl, rfl, wait⟩ := payload_injective same
      exact ⟨rfl, rfl, rfl, rfl, rfl, rfl, rfl, wait⟩
    · rcases origin with ⟨⟨_, _, _, _, _⟩, _⟩
      rcases otherOrigin with ⟨⟨_, _, _, _, _⟩, _⟩
      rintro ⟨rfl, rfl, rfl, rfl, rfl, rfl, rfl, wait⟩
      exact payload_congr wait

example :
    payload ⟨⟨"UA-1-1", "Deck & Co", "1.0", "deck", true⟩, "id"⟩
        (.event { category := "a=b\n", action := "+%", value := some (-5) }) ⟨1999999⟩ =
      "v=1&tid=UA-1-1&cid=id&t=event&an=Deck+%26+Co&av=1.0&aid=deck&aip=1&ec=a%3Db%0A&ea=%2B%25" ++
        "&ev=-5&qt=1" := by
  decide +kernel

end Telemetry
