import Telemetry.Hit
import Telemetry.Identity
import Telemetry.Preferences.Basic
import Telemetry.Proofs.Json.Records

/-! The JSON forms of hits, kinds of hits, identities, origins and preferences. Each of them is read
back from its form, whatever the order of the members is, and from the text of its form. -/

namespace Telemetry

open Json (DecodeError Rearranged IsExact Understands FitsWord)
open Number

/-! ### Integers of events -/

theorem fitsWord_toInt (value : Int64) : FitsWord value.toInt := by
  have least := value.le_toInt
  have most := value.toInt_lt
  unfold FitsWord signedLimit wordLimit
  omega

theorem decodeSigned_toInt (value : Int64) : Json.decodeSigned (.integer value.toInt) = .ok value := by
  have least := value.le_toInt
  have most := value.toInt_lt
  have inside : -(signedLimit : Int) ≤ value.toInt ∧ value.toInt ≤ (signedLimit : Int) - 1 := by
    unfold signedLimit
    omega
  unfold Json.decodeSigned Json.decodeInteger
  dsimp only
  rw [if_pos inside]
  exact congrArg Except.ok (Int64.ofInt_toInt value)

/-! ### Flat records -/

theorem valueUnder_label (event : Event) :
    valueUnder event.entries "label" = event.label.map Json.text := by
  obtain ⟨category, action, _ | label, _ | value⟩ := event
  all_goals rfl

theorem valueUnder_value (event : Event) :
    valueUnder event.entries "value" = event.value.map fun value => .integer value.toInt := by
  obtain ⟨category, action, _ | label, _ | value⟩ := event
  all_goals rfl

theorem untagged_event (event : Event) : valueUnder event.entries "type" = none := by
  obtain ⟨category, action, _ | label, _ | value⟩ := event
  all_goals rfl

theorem understands_screenView : Understands ScreenView.reader ScreenView.entries where
  fair := (RecordReader.isFair_constant _).combine (RecordReader.isFair_required _ _)
  differ _ := by
    show ["screen_name"].Nodup
    decide
  plain _ := List.forall_mem_singleton.mpr (Json.isPlain_text _)
  built _ := rfl

theorem understands_event : Understands Event.reader Event.entries where
  fair := ((((RecordReader.isFair_constant _).combine (RecordReader.isFair_required _ _)).combine
    (RecordReader.isFair_required _ _)).combine (RecordReader.isFair_optional _ _)).combine
    (RecordReader.isFair_optional _ _)
  differ event := by
    obtain ⟨category, action, _ | label, _ | value⟩ := event
    all_goals simp [NamesDiffer, Event.entries]
  plain event := by
    intro member among
    unfold Event.entries at among
    simp only [List.mem_append, List.mem_cons, List.not_mem_nil, or_false, Option.mem_toList,
      Option.map_eq_some_iff] at among
    rcases among with ((rfl | rfl) | ⟨label, _, rfl⟩) | ⟨value, _, rfl⟩
    · exact Json.isPlain_text _
    · exact Json.isPlain_text _
    · exact Json.isPlain_text label
    · exact Json.isPlain_integer (fitsWord_toInt value)
  built event := by
    let found : Entries Json DecodeError := ⟨valueUnder event.entries, .missingField⟩
    have label : (RecordReader.optional "label" (Json.format.nullable Json.decodeText)).build found =
        .ok event.label :=
      RecordReader.optional_build_map (valueUnder_label event) fun _ => rfl
    have value : (RecordReader.optional "value" (Json.format.nullable Json.decodeSigned)).build
        found = .ok event.value := by
      refine RecordReader.optional_build_map (valueUnder_value event) fun value => ?_
      show (Json.decodeSigned (.integer value.toInt)).map some = _
      rw [decodeSigned_toInt]
      rfl
    have front : (Event.mk <$> RecordReader.required "category" Json.decodeText <*>
        RecordReader.required "action" Json.decodeText).build found =
          .ok (Event.mk event.category event.action) := rfl
    exact RecordReader.combine_build (RecordReader.combine_build front label) value

theorem understands_failure : Understands Failure.reader Failure.entries where
  fair := ((RecordReader.isFair_constant _).combine (RecordReader.isFair_required _ _)).combine
    (RecordReader.isFair_required _ _)
  differ _ := by
    show ["description", "fatal"].Nodup
    decide
  plain _ := List.forall_mem_cons.mpr ⟨Json.isPlain_text _,
    List.forall_mem_singleton.mpr (Json.isPlain_boolean _)⟩
  built _ := rfl

def AppIdentity.members (identity : AppIdentity) : List (String × Json) :=
  [("tracking_id", .text identity.trackingId), ("app_name", .text identity.appName),
    ("app_version", .text identity.appVersion), ("app_id", .text identity.appId),
    ("anonymize_ip", .boolean identity.anonymizeIp)]

theorem understands_identity : Understands AppIdentity.reader AppIdentity.members where
  fair := (((((RecordReader.isFair_constant _).combine (RecordReader.isFair_required _ _)).combine
    (RecordReader.isFair_required _ _)).combine (RecordReader.isFair_required _ _)).combine
    (RecordReader.isFair_required _ _)).combine (RecordReader.isFair_required _ _)
  differ _ := by
    show ["tracking_id", "app_name", "app_version", "app_id", "anonymize_ip"].Nodup
    decide
  plain identity := by
    intro member among
    simp only [AppIdentity.members, List.mem_cons, List.not_mem_nil, or_false] at among
    rcases among with rfl | rfl | rfl | rfl | rfl
    · exact Json.isPlain_text _
    · exact Json.isPlain_text _
    · exact Json.isPlain_text _
    · exact Json.isPlain_text _
    · exact Json.isPlain_boolean _
  built _ := rfl

/-! ### Reading back -/

/-- A value is read from its form with the members in any order, and from the text of its form. -/
structure IsReadBack {α : Type} [ToJson α] (decode : Json → Except DecodeError α) (value : α) :
    Prop where
  fromForm : ∀ form, Rearranged (toJson value) form → decode form = .ok value
  fromText : (Json.read? (Json.write (toJson value))).map decode = some (.ok value)

section

variable {α : Type} [ToJson α] {decode : Json → Except DecodeError α} {value : α}

theorem isReadBack_of_exact (exactness : IsExact (toJson value))
    (fromForm : ∀ form, Rearranged (toJson value) form → decode form = .ok value) :
    IsReadBack decode value where
  fromForm := fromForm
  fromText := by
    rw [Json.read?_write exactness, Option.map_some,
      fromForm _ (Json.rearranged_arranged exactness)]

theorem isReadBack_scalar (scalar : (toJson value).IsScalar) (exactness : IsExact (toJson value))
    (decoded : decode (toJson value) = .ok value) : IsReadBack decode value := by
  refine isReadBack_of_exact exactness ?_
  intro form rearranged
  rw [rearranged.of_scalar scalar, decoded]

/-- Values of which every one is read back differ in their forms and in the texts of these. -/
theorem form_injective (readBack : ∀ value, IsReadBack decode value) (first second : α) :
    (Rearranged (toJson first) (toJson second) ↔ first = second) ∧
      (Json.write (toJson first) = Json.write (toJson second) ↔ first = second) := by
  refine ⟨⟨?_, ?_⟩, ?_, congrArg fun value => Json.write (toJson value)⟩
  · intro rearranged
    have read := (readBack first).fromForm _ rearranged
    rw [(readBack second).fromForm _ (.same _)] at read
    exact (Except.ok.inj read).symm
  · rintro rfl
    exact .same _
  · intro sameText
    have read := (readBack first).fromText
    rw [sameText, (readBack second).fromText] at read
    exact (Except.ok.inj (Option.some.inj read)).symm

end

theorem isReadBack_kind (kind : HitKind) : IsReadBack HitKind.ofJson kind := by
  refine isReadBack_scalar trivial (.text kind.name) ?_
  cases kind with
  | screenView => rfl
  | event => rfl
  | exception => rfl

theorem isReadBack_preference (preference : Preference) :
    IsReadBack Preference.ofJson preference := by
  cases preference with
  | boolean value => exact isReadBack_scalar trivial (.boolean value) rfl
  | text value => exact isReadBack_scalar trivial (.text value) rfl

theorem decode_identity {identity : AppIdentity} {form : Json}
    (rearranged : Rearranged identity.toJson form) : AppIdentity.ofJson form = .ok identity := by
  unfold AppIdentity.ofJson Json.decodeRecord
  exact understands_identity.decode rearranged _ _

theorem isReadBack_identity (identity : AppIdentity) : IsReadBack AppIdentity.ofJson identity :=
  isReadBack_of_exact (understands_identity.isExact identity) fun _ rearranged =>
    decode_identity rearranged

theorem isReadBack_origin (origin : Origin) : IsReadBack Origin.ofJson origin := by
  have differ : NamesDiffer
      [("identity", origin.identity.toJson), ("client_id", .text origin.clientId)] := by
    show ["identity", "client_id"].Nodup
    decide
  refine isReadBack_of_exact (.object differ ?_) ?_
  · exact List.forall_mem_cons.mpr ⟨understands_identity.isExact origin.identity,
      List.forall_mem_singleton.mpr (.text origin.clientId)⟩
  · intro form rearranged
    obtain ⟨others, rfl, othersDiffer, _, present⟩ := rearranged.of_object differ
    obtain ⟨identity, foundIdentity, changed⟩ := present "identity" _ rfl
    obtain ⟨clientId, foundId, sameId⟩ := present "client_id" (.text origin.clientId) rfl
    obtain rfl := sameId.of_scalar trivial
    let found : Entries Json DecodeError := ⟨valueUnder others, .missingField⟩
    have identityRead : (RecordReader.required "identity" AppIdentity.ofJson).build found =
        .ok origin.identity :=
      (RecordReader.required_build foundIdentity).trans (decode_identity changed)
    have idRead : (RecordReader.required "client_id" Json.decodeText).build found =
        .ok origin.clientId := (RecordReader.required_build foundId).trans rfl
    have fair : Origin.reader.IsFair :=
      ((RecordReader.isFair_constant _).combine (RecordReader.isFair_required _ _)).combine
        (RecordReader.isFair_required _ _)
    refine fair.readEntries othersDiffer ?_
    have make : (RecordReader.constant Origin.mk).build found = .ok Origin.mk := rfl
    exact RecordReader.combine_build (RecordReader.combine_build make identityRead) idRead

/-! ### Hits -/

theorem isReadBack_hit (hit : Hit) : IsReadBack Hit.ofJson hit := by
  cases hit with
  | screenView contents =>
      have known : Json.decodeVariant Hit.variants "screen_view" = .ok HitKind.screenView := rfl
      refine isReadBack_of_exact (understands_screenView.isExact_tagged rfl "screen_view") ?_
      intro form rearranged
      exact understands_screenView.decodeTagged rfl known (fun _ => rfl) rearranged "Hit"
  | event contents =>
      have known : Json.decodeVariant Hit.variants "event" = .ok HitKind.event := rfl
      have untagged := untagged_event contents
      refine isReadBack_of_exact (understands_event.isExact_tagged untagged "event") ?_
      intro form rearranged
      exact understands_event.decodeTagged untagged known (fun _ => rfl) rearranged "Hit"
  | exception contents =>
      have known : Json.decodeVariant Hit.variants "exception" = .ok HitKind.exception := rfl
      refine isReadBack_of_exact (understands_failure.isExact_tagged rfl "exception") ?_
      intro form rearranged
      exact understands_failure.decodeTagged rfl known (fun _ => rfl) rearranged "Hit"

theorem field?_event {event : Event} {name : String} (noTag : "type" ≠ name) :
    (toJson (Hit.event event)).field? name = valueUnder event.entries name := by
  show valueUnder (("type", .text "event") :: event.entries) name = _
  rw [valueUnder_cons, if_neg noTag]

/-- Everything that is written in JSON is read back from its form and from the text of its form. The
form of an event has a label and a value exactly if these are set, and no two hits have the same
form. -/
theorem forms_read_back (hit other : Hit) (kind : HitKind) (identity : AppIdentity)
    (origin : Origin) (preference : Preference) (event : Event) :
    IsReadBack Hit.ofJson hit ∧ IsReadBack HitKind.ofJson kind ∧
      IsReadBack AppIdentity.ofJson identity ∧ IsReadBack Origin.ofJson origin ∧
      IsReadBack Preference.ofJson preference ∧
      ((toJson (Hit.event event)).field? "label" = event.label.map Json.text ∧
        (toJson (Hit.event event)).field? "value" =
          event.value.map fun value => .integer value.toInt) ∧
      (Rearranged (toJson hit) (toJson other) ↔ hit = other) ∧
      (Json.write (toJson hit) = Json.write (toJson other) ↔ hit = other) := by
  refine ⟨isReadBack_hit hit, isReadBack_kind kind, isReadBack_identity identity,
    isReadBack_origin origin, isReadBack_preference preference, ⟨?_, ?_⟩,
    form_injective isReadBack_hit hit other⟩
  · rw [field?_event (by decide), valueUnder_label]
  · rw [field?_event (by decide), valueUnder_value]

end Telemetry
