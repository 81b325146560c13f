import Telemetry.Json.Decode
/-!
Hits: the records that are sent to the collector.

A hit reports a screen that was shown, an action of the user, or an error.  Descriptions of
errors are cut when a hit is made from a description; a hit that is read from JSON is kept as
it is.
-/

namespace Telemetry

def maxDescriptionLength : Nat := 100

structure ScreenView where
  screenName : String
  deriving DecidableEq, Repr, Inhabited

structure Event where
  category : String
  action : String
  label : Option String := none
  value : Option Int64 := none
  deriving DecidableEq, Repr, Inhabited

structure Failure where
  description : String
  fatal : Bool
  deriving DecidableEq, Repr, Inhabited

inductive Hit where
  | screenView (contents : ScreenView)
  | event (contents : Event)
  | exception (contents : Failure)
  deriving DecidableEq, Repr, Inhabited

inductive HitKind where
  | screenView
  | event
  | exception
  deriving DecidableEq, Repr, Inhabited

def HitKind.name : HitKind → String
  | .screenView => "screenview"
  | .event => "event"
  | .exception => "exception"

def Failure.cut (description : String) (fatal : Bool) : Failure :=
  ⟨String.ofList (description.toList.take maxDescriptionLength), fatal⟩

namespace Hit

def ofScreen (screenName : String) : Hit := .screenView ⟨screenName⟩

def ofFailure (description : String) (fatal : Bool) : Hit :=
  .exception (Failure.cut description fatal)

def kind : Hit → HitKind
  | .screenView _ => .screenView
  | .event _ => .event
  | .exception _ => .exception

end Hit

open Json (DecodeError)

def HitKind.toJson (kind : HitKind) : Json := .text kind.name

instance : ToJson HitKind := ⟨HitKind.toJson⟩

def HitKind.named : List (String × HitKind) :=
  [HitKind.screenView, .event, .exception].map fun kind => (kind.name, kind)

def HitKind.ofJson : Json → Except DecodeError HitKind := Json.decodeUnitVariant HitKind.named

def ScreenView.reader : RecordReader Json DecodeError ScreenView :=
  ScreenView.mk <$> .required "screen_name" Json.decodeText

def Event.reader : RecordReader Json DecodeError Event :=
  Event.mk <$> .required "category" Json.decodeText
    <*> .required "action" Json.decodeText
    <*> .optional "label" (Json.format.nullable Json.decodeText)
    <*> .optional "value" (Json.format.nullable Json.decodeSigned)

def Failure.reader : RecordReader Json DecodeError Failure :=
  Failure.mk <$> .required "description" Json.decodeText <*> .required "fatal" Json.decodeBoolean

def ScreenView.ofJson : Json → Except DecodeError ScreenView :=
  Json.decodeRecord "ScreenViewHit" ScreenView.reader

def Event.ofJson : Json → Except DecodeError Event := Json.decodeRecord "EventHit" Event.reader

def Failure.ofJson : Json → Except DecodeError Failure :=
  Json.decodeRecord "ExceptionHit" Failure.reader

def ScreenView.entries (contents : ScreenView) : List (String × Json) :=
  [("screen_name", .text contents.screenName)]

instance : ToJson ScreenView := ⟨fun contents => .object contents.entries⟩

def Event.entries (contents : Event) : List (String × Json) :=
  [("category", .text contents.category), ("action", .text contents.action)] ++
    (contents.label.map fun label => ("label", Json.text label)).toList ++
    (contents.value.map fun value => ("value", Json.integer value.toInt)).toList

instance : ToJson Event := ⟨fun contents => .object contents.entries⟩

def Failure.entries (contents : Failure) : List (String × Json) :=
  [("description", .text contents.description), ("fatal", .boolean contents.fatal)]

instance : ToJson Failure := ⟨fun contents => .object contents.entries⟩

def Hit.variants : List (String × HitKind) :=
  [("screen_view", .screenView), ("event", .event), ("exception", .exception)]

def Hit.toJson : Hit → Json
  | .screenView contents => .object (("type", .text "screen_view") :: contents.entries)
  | .event contents => .object (("type", .text "event") :: contents.entries)
  | .exception contents => .object (("type", .text "exception") :: contents.entries)

instance : ToJson Hit := ⟨Hit.toJson⟩

def Hit.ofJson : Json → Except DecodeError Hit :=
  Json.decodeTagged "Hit" Hit.variants fun kind contents =>
    match kind with
    | .screenView =>
        .screenView <$> Json.decodeTaggedRecord "ScreenViewHit" ScreenView.reader contents
    | .event => .event <$> Json.decodeTaggedRecord "EventHit" Event.reader contents
    | .exception =>
        .exception <$> Json.decodeTaggedRecord "ExceptionHit" Failure.reader contents

end Telemetry
