import Telemetry.Json.Decode
import Telemetry.Proofs.Json.Document

/-! Records in JSON. A record is read from its members in whatever order they stand: the checks
that are made member by member refuse nothing of which the record can be built. -/

namespace Telemetry

namespace RecordReader

variable {ν ε α β : Type}

/-- A reader that checks no more than it needs: where it can build the record, every value under
the name of a field passes the check of this field. -/
def IsFair (reader : RecordReader ν ε α) : Prop :=
  ∀ (entries : Entries ν ε) (record : α), reader.build entries = .ok record →
    ∀ field ∈ reader.fields, ∀ value, entries.find? field.1 = some value → field.2 value = .ok ()

theorem isFair_constant (record : α) : (constant record : RecordReader ν ε α).IsFair := by
  intro _ _ _ field among
  cases among

theorem IsFair.combine {first : RecordReader ν ε (α → β)} {second : RecordReader ν ε α}
    (fairFirst : first.IsFair) (fairSecond : second.IsFair) : (combine first second).IsFair := by
  intro entries record built field among value found
  change ((first.build entries).bind fun make => (second.build entries).bind fun part =>
    .ok (make part)) = .ok record at built
  cases madeFirst : first.build entries with
  | error fault =>
      rw [madeFirst] at built
      cases built
  | ok make =>
      cases madeSecond : second.build entries with
      | error fault =>
          rw [madeFirst, madeSecond] at built
          cases built
      | ok part =>
          rcases List.mem_append.mp among with inFirst | inSecond
          · exact fairFirst entries make madeFirst field inFirst value found
          · exact fairSecond entries part madeSecond field inSecond value found

theorem combine_build {first : RecordReader ν ε (α → β)} {second : RecordReader ν ε α}
    {entries : Entries ν ε} {make : α → β} {part : α} (madeFirst : first.build entries = .ok make)
    (madeSecond : second.build entries = .ok part) :
    (combine first second).build entries = .ok (make part) := by
  show (first.build entries).bind (fun make => (second.build entries).bind fun part =>
    .ok (make part)) = .ok (make part)
  rw [madeFirst, madeSecond]
  rfl

theorem required_build {name : String} {decode : ν → Except ε α} {entries : Entries ν ε} {value : ν}
    (found : entries.find? name = some value) :
    (required name decode).build entries = decode value := by
  unfold required
  simp only [found]

theorem optional_build {name : String} {decode : ν → Except ε (Option α)} {entries : Entries ν ε}
    {value : ν} (found : entries.find? name = some value) :
    (optional name decode).build entries = decode value := by
  unfold optional
  simp only [found]

theorem optional_build_map {name : String} {decode : ν → Except ε (Option α)} {encode : α → ν}
    {entries : Entries ν ε} {value : Option α} (found : entries.find? name = value.map encode)
    (reads : ∀ value, decode (encode value) = .ok (some value)) :
    (optional name decode).build entries = .ok value := by
  cases value with
  | none =>
      rw [Option.map_none] at found
      unfold optional
      simp only [found]
  | some value =>
      rw [Option.map_some] at found
      rw [optional_build found, reads value]

theorem isFair_required (name : String) (decode : ν → Except ε α) :
    (required name decode).IsFair := by
  intro entries record built field among value found
  obtain rfl := List.mem_singleton.mp among
  rw [required_build found] at built
  show (decode value).map _ = .ok ()
  rw [built]
  rfl

theorem isFair_optional (name : String) (decode : ν → Except ε (Option α)) :
    (optional name decode).IsFair := by
  intro entries record built field among value found
  obtain rfl := List.mem_singleton.mp among
  rw [optional_build found] at built
  show (decode value).map _ = .ok ()
  rw [built]
  rfl

theorem forM_eq_ok {α : Type} {items : List α} {check : α → Except ε Unit}
    (each : ∀ item ∈ items, check item = .ok ()) : items.forM check = .ok () := by
  induction items with
  | nil => rfl
  | cons item rest ih =>
      rw [List.forall_mem_cons] at each
      show (check item).bind (fun _ => rest.forM check) = .ok ()
      rw [each.1]
      exact ih each.2

theorem IsFair.readEntries {reader : RecordReader ν ε α} (fair : reader.IsFair)
    {entries : List (String × ν)} {missing : String → ε} {record : α}
    (differ : NamesDiffer entries)
    (built : reader.build ⟨valueUnder entries, missing⟩ = .ok record) :
    reader.readEntries missing entries = .ok record := by
  have checked : entries.forM reader.checkEntry = .ok () := by
    refine forM_eq_ok ?_
    intro entry among
    unfold checkEntry
    cases found : reader.fields.find? (·.1 == entry.1) with
    | none => rfl
    | some field =>
        have named := List.find?_some found
        refine fair _ record built field (List.mem_of_find?_eq_some found) entry.2 ?_
        show valueUnder entries field.1 = some entry.2
        rw [beq_iff_eq.mp named]
        exact valueUnder_of_mem differ among
  show (entries.forM reader.checkEntry).bind _ = _
  rw [checked]
  exact built

end RecordReader

namespace Json

variable {α β : Type}

structure IsPlain (value : Json) : Prop where
  scalar : value.IsScalar
  exactness : IsExact value

theorem isPlain_text (value : String) : IsPlain (.text value) := ⟨trivial, .text value⟩

theorem isPlain_boolean (value : Bool) : IsPlain (.boolean value) := ⟨trivial, .boolean value⟩

theorem isPlain_integer {value : Int} (fits : FitsWord value) : IsPlain (.integer value) :=
  ⟨trivial, .integer fits⟩

/-- A reader that understands the members which a record is written as. -/
structure Understands (reader : RecordReader Json DecodeError α)
    (members : α → List (String × Json)) : Prop where
  fair : reader.IsFair
  differ : ∀ record, NamesDiffer (members record)
  plain : ∀ record, ∀ member ∈ members record, member.2.IsPlain
  built : ∀ record, reader.build ⟨valueUnder (members record), .missingField⟩ = .ok record

namespace Understands

variable {reader : RecordReader Json DecodeError α} {members : α → List (String × Json)}
  (understands : Understands reader members)
include understands

theorem read {record : α} {others : List (String × Json)} (differ : NamesDiffer others)
    (same : valueUnder others = valueUnder (members record))
    (leftover : Nat → Nat → DecodeError) (name : String) :
    decodeRecordWith leftover name reader (.object others) = .ok record := by
  have built := understands.built record
  rw [← same] at built
  exact understands.fair.readEntries differ built

theorem decode {record : α} {form : Json} (rearranged : Rearranged (.object (members record)) form)
    (leftover : Nat → Nat → DecodeError) (name : String) :
    decodeRecordWith leftover name reader form = .ok record := by
  obtain ⟨others, rfl, differ, same⟩ := rearranged.of_scalars (understands.differ record)
    fun member among => (understands.plain record member among).scalar
  exact understands.read differ same leftover name

theorem isExact (record : α) : IsExact (.object (members record)) :=
  .object (understands.differ record) fun member among =>
    (understands.plain record member among).exactness

theorem plain_tagged (record : α) (tag : String) :
    ∀ member ∈ ("type", Json.text tag) :: members record, member.2.IsPlain :=
  List.forall_mem_cons.mpr ⟨isPlain_text tag, understands.plain record⟩

/-! A tag stands in front of the members, none of which has its name. -/

variable {record : α} (untagged : valueUnder (members record) "type" = none)
include untagged

theorem differ_tagged (tag : String) : NamesDiffer (("type", Json.text tag) :: members record) :=
  List.nodup_cons.mpr ⟨valueUnder_eq_none.mp untagged, understands.differ record⟩

theorem isExact_tagged (tag : String) : IsExact (.object (("type", .text tag) :: members record)) :=
  .object (understands.differ_tagged untagged tag) fun member among =>
    (understands.plain_tagged record tag member among).exactness

theorem decodeTagged {γ : Type} {known : List (String × γ)} {variant : γ} {tag : String}
    {contents : γ → Json → Except DecodeError β} {make : α → β} {form : Json}
    {leftover : Nat → Nat → DecodeError} {typeName : String}
    (isKnown : decodeVariant known tag = .ok variant)
    (reads : ∀ value, contents variant value =
      make <$> decodeRecordWith leftover typeName reader value)
    (rearranged : Rearranged (.object (("type", .text tag) :: members record)) form)
    (name : String) :
    decodeTagged name known contents form = .ok (make record) := by
  obtain ⟨others, rfl, othersDiffer, same⟩ := rearranged.of_scalars
    (understands.differ_tagged untagged tag)
    fun member among => (understands.plain_tagged record tag member among).scalar
  have rest : valueUnder (others.filter (·.1 != "type")) = valueUnder (members record) := by
    funext name
    by_cases isTag : name = "type"
    · rw [isTag, untagged, valueUnder_filter_self]
    · rw [valueUnder_filter isTag, same, valueUnder_cons, if_neg (Ne.symm isTag)]
  have tagged : valueUnder others "type" = some (.text tag) := by
    rw [same, valueUnder_cons, if_pos rfl]
  obtain ⟨⟨tagName, tagValue⟩, found, isText⟩ := Option.map_eq_some_iff.mp tagged
  change tagValue = .text tag at isText
  unfold Json.decodeTagged
  simp only [found, isText, isKnown]
  show contents variant _ = _
  rw [reads, understands.read (othersDiffer.filter _) rest leftover typeName]
  rfl

end Understands

end Json

end Telemetry
