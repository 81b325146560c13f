import Telemetry.Proofs.Client.Descriptions
import Telemetry.Proofs.Service.Moves
import Telemetry.Proofs.Settings.Acceptance
import Telemetry.Proofs.Text.Ends
import Telemetry.Proofs.Text.Split

/-! Tracking ids. A text is taken for one if and only if it is `UA-`, a number, a dash and another
number, and then the numbers are no others. Neither settings nor clients are made for another text,
so that no client ever sends in the name of one. -/

namespace Telemetry

open Telemetry.Text

/-! ### Numbers -/

structure IsNumeral (text : String) : Prop where
  nonempty : text ≠ ""
  digits : ∀ digit ∈ text.toList, digit.isDigit = true

theorem isDigits_iff {characters : List Char} :
    isDigits characters = true ↔ IsNumeral (String.ofList characters) := by
  have blank : String.ofList characters = "" ↔ characters = [] := by
    rw [← String.toList_inj, String.toList_ofList]
    rfl
  unfold isDigits
  rw [Bool.and_eq_true, Bool.not_eq_true', List.isEmpty_eq_false_iff, List.all_eq_true]
  constructor
  · rintro ⟨some_digits, plain⟩
    refine ⟨mt blank.mp some_digits, ?_⟩
    rw [String.toList_ofList]
    exact plain
  · rintro ⟨nonempty, digits⟩
    rw [String.toList_ofList] at digits
    exact ⟨mt blank.mpr nonempty, digits⟩

theorem IsNumeral.dashless {text : String} (numeral : IsNumeral text) : '-' ∉ text.toList := by
  intro dash
  have digit := numeral.digits '-' dash
  cases digit

/-! ### The form of a tracking id -/

structure IsTrackingForm (account property text : String) : Prop where
  accountNumber : IsNumeral account
  propertyNumber : IsNumeral property
  written : text = "UA-" ++ account ++ "-" ++ property

variable {account property text : String}

theorem IsTrackingForm.toList (form : IsTrackingForm account property text) :
    text.toList = ['U', 'A', '-'] ++ (account.toList ++ '-' :: property.toList) := by
  rw [form.written, String.toList_append, String.toList_append, String.toList_append,
    List.append_assoc, List.append_assoc]
  rfl

/-- The first dash after the beginning is the one between the numbers: there is none in a number. -/
theorem IsTrackingForm.split (form : IsTrackingForm account property text) :
    (dropStart? ['U', 'A', '-'] text.toList).bind (splitFirst? '-') =
      some (account.toList, property.toList) := by
  rw [form.toList, dropStart?_append, Option.bind_some,
    splitFirst?_append form.accountNumber.dashless]

/-- The numbers of a tracking id are what the same way of taking it apart leads to. -/
theorem IsTrackingForm.unique {other another : String}
    (form : IsTrackingForm account property text) (again : IsTrackingForm other another text) :
    other = account ∧ another = property := by
  have same := again.split.symm.trans form.split
  rw [Option.some.injEq, Prod.mk.injEq, String.toList_inj, String.toList_inj] at same
  exact same

theorem isTrackingId_iff :
    isTrackingId text = true ↔ ∃ account property, IsTrackingForm account property text := by
  constructor
  · intro tracked
    unfold isTrackingId at tracked
    cases started : dropStart? ['U', 'A', '-'] text.toList with
    | none =>
        rw [started] at tracked
        cases tracked
    | some rest =>
        cases split : splitFirst? '-' rest with
        | none =>
            simp only [started, split] at tracked
            cases tracked
        | some parts =>
            simp only [started, split, Bool.and_eq_true, isDigits_iff] at tracked
            -- A further dash would stand in the second part, where there are only digits.
            refine ⟨_, _, tracked.1, tracked.2, ?_⟩
            rw [← String.toList_inj, eq_append_of_dropStart? started, splitFirst?_eq_some split]
            simp only [String.toList_append, String.toList_ofList, List.append_assoc]
            rfl
  · rintro ⟨account, property, form⟩
    have numbers : isDigits account.toList = true ∧ isDigits property.toList = true := by
      rw [isDigits_iff, isDigits_iff, String.ofList_toList, String.ofList_toList]
      exact ⟨form.accountNumber, form.propertyNumber⟩
    unfold isTrackingId
    simp only [form.toList, dropStart?_append, splitFirst?_append form.accountNumber.dashless,
      numbers, Bool.and_self]

/-! ### Bytes -/

def IsDigitBytes (bytes : List UInt8) : Prop :=
  bytes ≠ [] ∧ ∀ byte ∈ bytes, 0x30 ≤ byte.toNat ∧ byte.toNat ≤ 0x39

theorem isDigit_iff_bytes {character : Char} :
    character.isDigit = true ↔
      ∀ byte ∈ encodeScalar character, 0x30 ≤ byte.toNat ∧ byte.toNat ≤ 0x39 := by
  have digit : character.isDigit = true ↔ 0x30 ≤ character.toNat ∧ character.toNat ≤ 0x39 :=
    Char.isDigit_iff_toNat
  rw [digit]
  by_cases ascii : character.toNat < 0x80
  · have written : (UInt8.ofNat character.toNat).toNat = character.toNat := toNat_ofNat (by omega)
    rw [encodeScalar_ascii ascii, List.forall_mem_singleton, written]
  · obtain ⟨lead, rest, written, wide⟩ := encodeScalar_wide (Nat.le_of_not_lt ascii)
    rw [written, List.forall_mem_cons]
    omega

/-- It makes no difference whether the characters of a text are looked at or its bytes. -/
theorem isNumeral_iff_bytes : IsNumeral text ↔ IsDigitBytes (encodeUtf8 text) := by
  have blank : encodeUtf8 text = [] ↔ text = "" := encodeUtf8_injective.eq_iff' rfl
  have each : (∀ byte ∈ encodeUtf8 text, 0x30 ≤ byte.toNat ∧ byte.toNat ≤ 0x39) ↔
      ∀ digit ∈ text.toList, digit.isDigit = true := by
    unfold encodeUtf8
    rw [List.forall_mem_flatMap]
    exact forall₂_congr fun digit _ => isDigit_iff_bytes.symm
  unfold IsDigitBytes
  rw [each, Ne, blank]
  exact ⟨fun numeral => ⟨numeral.nonempty, numeral.digits⟩, fun both => ⟨both.1, both.2⟩⟩

theorem encodeScalar_digit :
    ∀ value < 10, encodeScalar (Char.ofNat (0x30 + value)) = [UInt8.ofNat (0x30 + value)] := by
  decide

theorem IsDigitBytes.exists_numeral {bytes : List UInt8} (digits : IsDigitBytes bytes) :
    ∃ number, IsNumeral number ∧ encodeUtf8 number = bytes := by
  have single : ∀ byte ∈ bytes, encodeScalar (Char.ofNat byte.toNat) = [byte] := by
    intro byte member
    obtain ⟨below, above⟩ := digits.2 byte member
    have written := encodeScalar_digit (byte.toNat - 0x30) (by omega)
    rw [Nat.add_sub_cancel' below, UInt8.ofNat_toNat] at written
    exact written
  have encoded : encodeUtf8 (String.ofList (bytes.map fun byte => Char.ofNat byte.toNat)) =
      bytes := by
    unfold encodeUtf8
    rw [String.toList_ofList, List.flatMap_map, List.flatMap_congr single,
      List.flatMap_singleton']
  refine ⟨_, isNumeral_iff_bytes.mpr ?_, encoded⟩
  rw [encoded]
  exact digits

theorem isTrackingId_iff_bytes :
    isTrackingId text = true ↔ ∃ account property, IsDigitBytes account ∧ IsDigitBytes property ∧
      encodeUtf8 text = encodeUtf8 "UA-" ++ account ++ encodeUtf8 "-" ++ property := by
  rw [isTrackingId_iff]
  constructor
  · rintro ⟨account, property, form⟩
    refine ⟨encodeUtf8 account, encodeUtf8 property, isNumeral_iff_bytes.mp form.accountNumber,
      isNumeral_iff_bytes.mp form.propertyNumber, ?_⟩
    rw [form.written, encodeUtf8_append, encodeUtf8_append, encodeUtf8_append]
  · rintro ⟨_, _, accountDigits, propertyDigits, written⟩
    obtain ⟨account, countable, rfl⟩ := accountDigits.exists_numeral
    obtain ⟨property, numbered, rfl⟩ := propertyDigits.exists_numeral
    refine ⟨account, property, countable, numbered, encodeUtf8_injective ?_⟩
    rw [written, encodeUtf8_append, encodeUtf8_append, encodeUtf8_append]

/-! ### Refusals -/

theorem Settings.validate_trackingId {settings : Settings} :
    settings.validate = .error (.invalid (.trackingId settings.identity.trackingId)) ↔
      isTrackingId settings.identity.trackingId = false := by
  have checked : settings.validate =
        .error (.invalid (.trackingId settings.identity.trackingId)) ↔
      settings.check Url.parse = .error (.trackingId settings.identity.trackingId) := by
    unfold validate
    cases settings.check Url.parse with
    | ok done => simp only [Except.mapError, reduceCtorEq]
    | error reason =>
        rw [Except.mapError, Except.error.injEq, Except.error.injEq, SettingsFault.invalid.injEq]
  rw [checked, Settings.check_trackingId]
  exact and_iff_left rfl

theorem SourceList.load_tracked {list : SourceList} {disk : Disk} {paths : Paths}
    {settings : Settings} (loaded : (list.load disk paths).1 = .ok settings) :
    isTrackingId settings.identity.trackingId = true := by
  exact (SourceList.loadBy_ok loaded).1.trackingId

namespace Clients

variable {before after clients : Clients} {origin : Origin} {config : ClientConfig}
  {courier : Option Nat} {hasRuntime : Bool}

theorem build_untracked :
    clients.build origin config courier hasRuntime = (.error .badTrackingId, clients) ↔
      isTrackingId origin.identity.trackingId = false := by
  have checked : clients.build origin config courier hasRuntime =
        (.error .badTrackingId, clients) ↔
      config.check Url.parse origin.identity hasRuntime courier.isSome =
        .error .badTrackingId := by
    unfold build buildBy
    cases config.check Url.parse origin.identity hasRuntime courier.isSome with
    | ok done => simp only [Prod.mk.injEq, reduceCtorEq, false_and]
    | error error => rw [Prod.mk.injEq, Except.error.injEq, Except.error.injEq, and_iff_left rfl]
  rw [checked, ClientConfig.check_badTrackingId]
  rfl

/-! ### All clients that there are -/

def AllTracked (clients : Clients) : Prop :=
  ∀ index client, clients.client? index = some client →
    isTrackingId client.origin.identity.trackingId = true

theorem AllTracked.leadsTo {shut : Nat → Prop} (tracked : before.AllTracked)
    (leads : Engine.LeadsTo (QueueEvent.Lasting shut) before after) : after.AllTracked := by
  intro index client found
  obtain ⟨former, there, lasts⟩ := lasts_former leads found
  rw [lasts.origin]
  exact tracked index former there

theorem AllTracked.build (tracked : clients.AllTracked) :
    (clients.build origin config courier hasRuntime).2.AllTracked := by
  unfold Clients.build buildBy
  cases checked : config.check Url.parse origin.identity hasRuntime courier.isSome with
  | error error => exact tracked
  | ok done =>
      intro index client found
      rw [client_launch] at found
      by_cases last : index = clients.tasks.length
      · rw [if_pos last] at found
        cases found
        exact (ClientConfig.check_iff.mp checked).trackingId
      · rw [if_neg last] at found
        exact tracked index client found

theorem AllTracked.happen (tracked : clients.AllTracked) (step : ClientStep) :
    (clients.happen step).AllTracked := by
  -- A build alone brings a client; with all other steps the origins stay as they are.
  have kept {after : Clients}
      (leads : Engine.LeadsTo (QueueEvent.Lasting fun _ => False) clients after) :
      after.AllTracked := tracked.leadsTo leads
  cases step with
  | build origin config courier hasRuntime => exact tracked.build
  | supply courier blank => exact tracked
  | call index operation =>
      exact tracked.leadsTo ((clients.leadsTo_perform index operation).weaken
        fun _ told => told.2.2)
  | release index => exact kept (clients.leadsTo_release index trivial)
  | go index place => exact kept (.single clients (.go index place) trivial)
  | tick milliseconds => exact kept (.single clients (.tick milliseconds) trivial)
  | sleep milliseconds =>
      exact kept
        (Engine.leadsTo_sleep (fun _ _ => trivial) (fun _ => trivial) clients milliseconds)
  | lend witness => exact kept (.single clients (.lend witness) trivial)

theorem allTracked_history (world : World) (steps : List ClientStep) :
    (history world steps).AllTracked := by
  refine history_preserves AllTracked ?_ (fun _ step tracked => tracked.happen step) steps
  intro index client found
  cases found

end Clients

/-- A text is a tracking id if and only if it has the form of one, and then its numbers are no
others; its bytes tell the same. Settings and clients are refused for it if and only if it is none,
so that neither settings that have been loaded nor clients ever have anything else in its place. -/
theorem trackingIds_exact :
    (∀ text, (isTrackingId text = true ↔ ∃ account property, IsTrackingForm account property text) ∧
      ∀ account property other another, IsTrackingForm account property text →
        IsTrackingForm other another text → other = account ∧ another = property) ∧
      (∀ text, isTrackingId text = true ↔ ∃ account property, IsDigitBytes account ∧
        IsDigitBytes property ∧
          encodeUtf8 text = encodeUtf8 "UA-" ++ account ++ encodeUtf8 "-" ++ property) ∧
      (∀ settings : Settings,
        settings.validate = .error (.invalid (.trackingId settings.identity.trackingId)) ↔
          isTrackingId settings.identity.trackingId = false) ∧
      (∀ (clients : Clients) origin config courier hasRuntime,
        clients.build origin config courier hasRuntime = (.error .badTrackingId, clients) ↔
          isTrackingId origin.identity.trackingId = false) ∧
      (∀ (list : SourceList) disk paths settings, (list.load disk paths).1 = .ok settings →
        isTrackingId settings.identity.trackingId = true) ∧
      ∀ world steps index client, (Clients.history world steps).client? index = some client →
        isTrackingId client.origin.identity.trackingId = true := by
  refine ⟨fun text => ⟨isTrackingId_iff, ?_⟩, fun text => isTrackingId_iff_bytes,
    fun settings => Settings.validate_trackingId, ?_, ?_, Clients.allTracked_history⟩
  · intro account property other another form again
    exact form.unique again
  · intro clients origin config courier hasRuntime
    exact Clients.build_untracked
  · intro list disk paths settings loaded
    exact SourceList.load_tracked loaded

/-- The numbers of a tracking id, a text with one dash too many and one with a digit of another
script. The settings and the client that are there have tracking ids. -/
theorem trackingIds_exact_lookalikes :
    IsTrackingForm "90740156" "1" "UA-90740156-1" ∧ isTrackingId "UA-90740156-1" = true ∧
      (∀ account property, IsTrackingForm account property "UA-90740156-1" →
        account = "90740156" ∧ property = "1") ∧
      (¬∃ account property, IsTrackingForm account property "UA-1-1-1") ∧
      (¬∃ account property, IsTrackingForm account property "UA-1-１") ∧
      Clients.build {} ⟨{ Origin.cards.identity with trackingId := "UA-1-１" }, "cid-1"⟩ .cards none
        true = (.error .badTrackingId, {}) ∧
      (∃ settings, (tightSources.load {} .standard).1 = .ok settings ∧
        isTrackingId settings.identity.trackingId = true) ∧
      ∃ client, (Clients.history {} Clients.soleClient).client? 0 = some client ∧
        isTrackingId client.origin.identity.trackingId = true := by
  obtain ⟨recognised, _, _, refused, loads, builds⟩ := trackingIds_exact
  have account : IsNumeral "90740156" := ⟨by decide, List.all_eq_true.mp (by decide)⟩
  have property : IsNumeral "1" := ⟨by decide, List.all_eq_true.mp (by decide)⟩
  have form : IsTrackingForm "90740156" "1" "UA-90740156-1" := ⟨account, property, by decide⟩
  have wide : isTrackingId "UA-1-１" = false := by decide
  have formless {text : String} (other : isTrackingId text = false) :
      ¬∃ account property, IsTrackingForm account property text := by
    rw [← (recognised text).1, other]
    exact Bool.false_ne_true
  refine ⟨form, (recognised _).1.mpr ⟨_, _, form⟩, fun account property again =>
    (recognised _).2 _ _ account property form again, formless (by decide), formless wide,
    (refused _ _ _ _ _).mpr wide, ?_, ?_⟩
  · have loaded : (tightSources.load {} .standard).1.toOption.isSome = true := by
      unfold SourceList.load SourceList.loadBy SourceList.layer
      rw [SourceList.sorted_eq]
      decide +kernel
    cases outcome : (tightSources.load {} .standard).1 with
    | error fault =>
        rw [outcome] at loaded
        cases loaded
    | ok settings => exact ⟨settings, rfl, loads tightSources {} .standard settings outcome⟩
  · have there : (Clients.history {} Clients.soleClient).client? 0 =
        some { origin := .cards, dryRun := false } := by
      rw [Clients.history_soleClient]
      rfl
    exact ⟨_, there, builds {} Clients.soleClient 0 _ there⟩

end Telemetry
