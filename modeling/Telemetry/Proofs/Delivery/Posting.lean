import Telemetry.Delivery.Sender

/-! How hits are grouped and posted. Groups written one after the other are the hits, none is empty
or too long, and there are no more of them than needed. The payloads are made one after the other,
each at a look at the calendar. A collector that answers notes every request and answers the requests
in their order. -/

namespace Telemetry

open Telemetry.Text

/-! ### Groups -/

section Groups

variable {α : Type} {size : Nat}

theorem flatten_groupsOf (items : List α) : (groupsOf size items).flatten = items := by
  fun_induction groupsOf size items with
  | case1 => rfl
  | case2 item rest inductionHypothesis =>
      rw [List.flatten_cons, inductionHypothesis, List.cons_append, List.take_append_drop]

theorem ne_nil_of_mem_groupsOf {items group : List α} (among : group ∈ groupsOf size items) :
    group ≠ [] := by
  fun_induction groupsOf size items with
  | case1 => cases among
  | case2 item rest inductionHypothesis =>
      rcases List.mem_cons.mp among with rfl | later
      · exact List.cons_ne_nil _ _
      · exact inductionHypothesis later

theorem length_le_of_mem_groupsOf (positive : 0 < size) {items group : List α}
    (among : group ∈ groupsOf size items) : group.length ≤ size := by
  fun_induction groupsOf size items with
  | case1 => cases among
  | case2 item rest inductionHypothesis =>
      rcases List.mem_cons.mp among with rfl | later
      · rw [List.length_cons, List.length_take]
        omega
      · exact inductionHypothesis later

theorem length_groupsOf (positive : 0 < size) (items : List α) :
    (groupsOf size items).length = (items.length + size - 1) / size := by
  fun_induction groupsOf size items with
  | case1 =>
      rw [List.length_nil, List.length_nil, Nat.div_eq_of_lt (by omega)]
  | case2 item rest inductionHypothesis =>
      rw [List.length_cons, inductionHypothesis, List.length_cons, List.length_drop]
      by_cases short : rest.length ≤ size - 1
      · have last : rest.length - (size - 1) + size - 1 < size := by omega
        have first : rest.length + 1 + size - 1 = rest.length + size := by omega
        rw [Nat.div_eq_of_lt last, first, Nat.add_div_right _ positive,
          Nat.div_eq_of_lt (by omega)]
      · have first : rest.length + 1 + size - 1 = rest.length - (size - 1) + size - 1 + size := by
          omega
        rw [first, Nat.add_div_right _ positive]

end Groups

/-! ### The calendar -/

namespace Calendar

def after (calendar : Calendar) (count : Nat) : Calendar :=
  { calendar with looks := calendar.looks + count }

def coming (calendar : Calendar) (count : Nat) : List Instant :=
  (List.range count).map fun index => calendar.shows (calendar.looks + index)

theorem length_coming (calendar : Calendar) (count : Nat) :
    (calendar.coming count).length = count := by
  rw [coming, List.length_map, List.length_range]

theorem coming_add (calendar : Calendar) (count more : Nat) :
    calendar.coming (count + more) =
      calendar.coming count ++ (calendar.after count).coming more := by
  rw [coming, coming, coming, List.range_add, List.map_append, List.map_map]
  refine congrArg _ (List.map_congr_left fun index _ => ?_)
  exact congrArg calendar.shows (Nat.add_assoc _ _ _).symm

theorem coming_succ (calendar : Calendar) (count : Nat) :
    calendar.coming (count + 1) = calendar.read.1 :: calendar.read.2.coming count := by
  rw [Nat.add_comm, coming_add]
  rfl

theorem after_after (calendar : Calendar) (count more : Nat) :
    (calendar.after count).after more = calendar.after (count + more) := by
  simp only [after, Nat.add_assoc]

theorem after_read (calendar : Calendar) (count : Nat) :
    calendar.read.2.after count = calendar.after (count + 1) := by
  rw [Nat.add_comm, ← after_after]
  rfl

end Calendar

/-! ### Answers -/

def redirectStatuses : List Nat := [301, 302, 303, 307, 308]

/-- The whole of it arrives, and it sends nobody elsewhere. -/
def Response.IsComplete : Response → Prop
  | .answer status headers body =>
      status ∉ redirectStatuses ∧ (arrival? status headers body).isSome = true
  | _ => False

instance : DecidablePred Response.IsComplete
  | .answer _ _ _ => inferInstanceAs (Decidable (_ ∧ _))
  | .dropped => .isFalse id
  | .hanging => .isFalse id
  | .refused => .isFalse id

def Response.acknowledges : Response → Bool
  | .answer status _ _ => isSuccess status
  | _ => false

/-- The error that is told of an answer with a status that reports a failure. -/
def Response.Reports : Response → ServiceError → Prop
  | .answer status headers body, error =>
      isSuccess status = false ∧ ∃ arrival, arrival? status headers body = some arrival ∧
        error = if status = 429 then .rateLimited (retryAfterSeconds? arrival.headers)
          else .serverError status (decodeUtf8Lenient arrival.body)
  | _, _ => False

theorem Response.Reports.not_acknowledges {response : Response} {error : ServiceError}
    (reports : response.Reports error) : response.acknowledges = false := by
  cases response with
  | answer status headers body => exact reports.1
  | _ => rfl

theorem Response.outcome_arrived {status : Nat} {headers : List (String × String)}
    {body : List UInt8} {arrival : Arrival} (arrived : arrival? status headers body = some arrival) :
    (Response.answer status headers body).outcome =
      if status = 429 then .error (.rateLimited (retryAfterSeconds? arrival.headers))
      else if isSuccess status then .ok ()
      else .error (.serverError status (decodeUtf8Lenient arrival.body)) := by
  unfold Response.outcome
  dsimp only
  rw [arrived]
  rfl

theorem Response.IsComplete.outcome {response : Response} (complete : response.IsComplete) :
    response.acknowledges = true ∧ response.outcome = .ok () ∨
      ∃ error, response.Reports error ∧ response.outcome = .error error := by
  cases response with
  | answer status headers body =>
      obtain ⟨arrival, arrived⟩ := Option.isSome_iff_exists.mp complete.2
      rw [outcome_arrived arrived]
      by_cases many : status = 429
      · have success : isSuccess status = false := by
          rw [many]
          decide
        rw [if_pos many]
        exact .inr ⟨_, ⟨success, arrival, arrived, (if_pos many).symm⟩, rfl⟩
      · rw [if_neg many]
        cases success : isSuccess status with
        | true => exact .inl ⟨success, rfl⟩
        | false => exact .inr ⟨_, ⟨success, arrival, arrived, (if_neg many).symm⟩, rfl⟩
  | dropped => exact complete.elim
  | hanging => exact complete.elim
  | refused => exact complete.elim

namespace Collector

def responseTo (collector : Collector) (index : Nat) : Response :=
  collector.script[index]?.getD collector.habit

def answers (collector : Collector) (count : Nat) : List Response :=
  (List.range count).map collector.responseTo

def after (collector : Collector) (posted : List Request) : Collector :=
  { collector with
    script := collector.script.drop posted.length
    requests := collector.requests ++ posted }

def IsComplete (collector : Collector) : Prop :=
  ∀ response ∈ collector.habit :: collector.script, response.IsComplete

instance (collector : Collector) : Decidable collector.IsComplete :=
  inferInstanceAs (Decidable (∀ response ∈ _, Response.IsComplete response))

variable {collector : Collector}

theorem after_nil : collector.after [] = collector := by
  simp only [after, List.length_nil, List.drop_zero, List.append_nil]

theorem after_after (posted more : List Request) :
    (collector.after posted).after more = collector.after (posted ++ more) := by
  simp only [after, List.length_append, List.drop_drop, List.append_assoc]

theorem responseTo_mem (collector : Collector) (index : Nat) :
    collector.responseTo index ∈ collector.habit :: collector.script := by
  unfold responseTo
  cases found : collector.script[index]? with
  | none => exact List.mem_cons_self
  | some response => exact List.mem_cons_of_mem _ (List.mem_of_getElem? found)

theorem mem_of_after {posted : List Request} {response : Response}
    (among : response ∈ (collector.after posted).habit :: (collector.after posted).script) :
    response ∈ collector.habit :: collector.script := by
  rcases List.mem_cons.mp among with rfl | scripted
  · exact List.mem_cons_self
  · exact List.mem_cons_of_mem _ (List.mem_of_mem_drop scripted)

theorem IsComplete.responseTo (complete : collector.IsComplete) (index : Nat) :
    (collector.responseTo index).IsComplete :=
  complete _ (collector.responseTo_mem index)

theorem IsComplete.after (complete : collector.IsComplete) (posted : List Request) :
    (collector.after posted).IsComplete :=
  fun response among => complete response (mem_of_after among)

theorem IsComplete.answers (complete : collector.IsComplete) (count : Nat) :
    ∀ response ∈ collector.answers count, response.IsComplete := by
  intro response among
  obtain ⟨index, _, rfl⟩ := List.mem_map.mp among
  exact complete.responseTo index

theorem receive_complete (complete : collector.IsComplete) (request : Request) :
    collector.receive request =
      (collector.responseTo 0,
        collector.after [{ request with userAgent := trim request.userAgent }]) := by
  have answered : collector.script.head?.getD collector.habit = collector.responseTo 0 := by
    rw [responseTo, List.head?_eq_getElem?]
  have heard : collector.responseTo 0 ≠ .refused := by
    intro refused
    have whole := complete.responseTo 0
    rw [refused] at whole
    exact whole
  unfold receive
  dsimp only
  rw [answered, if_neg heard]
  rfl

end Collector

/-! ### Requests -/

def RetryEnd.answer (breakdown : String) : RetryEnd ServiceError Unit → Answer
  | .succeeded () => .delivered
  | .failed error => .failed error
  | .brokeDown => .panicked breakdown

namespace HttpSender

/-- With either path the base URL is an address to which a request can be sent. -/
def HasAddress (sender : HttpSender) : Prop :=
  ∀ path ∈ ["/collect", "/batch"],
    (Url.parse (sender.baseUrl ++ path)).toOption.any Url.isSendable = true

instance (sender : HttpSender) : Decidable sender.HasAddress :=
  inferInstanceAs (Decidable (∀ path ∈ ["/collect", "/batch"], _ = true))

def targetOf (sender : HttpSender) (path : String) : String :=
  match Url.parse (sender.baseUrl ++ path) with
  | .ok url => url.target
  | .error _ => ""

def requestTo (sender : HttpSender) (path body : String) : Request where
  method := "POST"
  target := sender.targetOf path
  contentType := formContentType
  userAgent := trim sender.userAgent
  body := body

def payloadAt (sender : HttpSender) (queued : QueuedHit) (now : Instant) : String :=
  payload sender.origin queued.hit (queued.queueTime now)

/-- The payloads of hits, if the calendar is this one when their turn comes. -/
def payloads (sender : HttpSender) (calendar : Calendar) (group : List QueuedHit) : List String :=
  (sender.encode group calendar).1

def requestFor (sender : HttpSender) (calendar : Calendar) (group : List QueuedHit) : Request :=
  let parts := requestParts (sender.payloads calendar group)
  sender.requestTo parts.1 parts.2

variable {sender : HttpSender} {collector : Collector}

theorem encode_eq (sender : HttpSender) (hits : List QueuedHit) (calendar : Calendar) :
    sender.encode hits calendar =
      (List.zipWith sender.payloadAt hits (calendar.coming hits.length),
        calendar.after hits.length) := by
  induction hits generalizing calendar with
  | nil => rfl
  | cons queued rest inductionHypothesis =>
      rw [encode, inductionHypothesis, List.length_cons, Calendar.coming_succ,
        List.zipWith_cons_cons, ← Calendar.after_read]
      rfl

theorem payloads_eq (sender : HttpSender) (calendar : Calendar) (hits : List QueuedHit) :
    sender.payloads calendar hits =
      List.zipWith sender.payloadAt hits (calendar.coming hits.length) := by
  rw [payloads, encode_eq]

theorem length_payloads (sender : HttpSender) (calendar : Calendar) (hits : List QueuedHit) :
    (sender.payloads calendar hits).length = hits.length := by
  rw [payloads_eq, List.length_zipWith, Calendar.length_coming, Nat.min_self]

theorem payloads_append (sender : HttpSender) (calendar : Calendar) (early late : List QueuedHit) :
    sender.payloads calendar (early ++ late) =
      sender.payloads calendar early ++ sender.payloads (calendar.after early.length) late := by
  rw [payloads_eq, payloads_eq, payloads_eq, List.length_append, Calendar.coming_add,
    List.zipWith_append (Calendar.length_coming _ _).symm]

theorem payloads_made {calendar : Calendar} {hits : List QueuedHit} {text : String}
    (among : text ∈ sender.payloads calendar hits) :
    ∃ queued ∈ hits, ∃ now, text = sender.payloadAt queued now := by
  rw [payloads_eq] at among
  obtain ⟨place, within, rfl⟩ := List.getElem_of_mem among
  rw [List.getElem_zipWith]
  exact ⟨_, List.getElem_mem _, _, rfl⟩

theorem payloadAt_mem {hits : List QueuedHit} {queued : QueuedHit} (among : queued ∈ hits)
    (calendar : Calendar) : ∃ now, sender.payloadAt queued now ∈ sender.payloads calendar hits := by
  rw [payloads_eq]
  obtain ⟨place, within, rfl⟩ := List.getElem_of_mem among
  have shown : place < (calendar.coming hits.length).length := by
    rw [Calendar.length_coming]
    exact within
  have paired : place <
      (List.zipWith sender.payloadAt hits (calendar.coming hits.length)).length := by
    rw [List.length_zipWith]
    exact Nat.lt_min.mpr ⟨within, shown⟩
  refine ⟨(calendar.coming hits.length)[place], ?_⟩
  have present := List.getElem_mem paired
  rw [List.getElem_zipWith] at present
  exact present

theorem requestParts_known (payloads : List String) :
    (requestParts payloads).1 ∈ ["/collect", "/batch"] := by
  unfold requestParts
  split
  · exact List.mem_cons_self
  · exact List.mem_cons_of_mem _ List.mem_cons_self

theorem HasAddress.post_eq (addressed : sender.HasAddress) {path : String}
    (known : path ∈ ["/collect", "/batch"]) (body : String) :
    sender.post path body collector =
      let received := collector.receive
        { method := "POST", target := sender.targetOf path, contentType := formContentType,
          userAgent := sender.userAgent, body }
      (received.1.outcome, received.2) := by
  have sendable := addressed path known
  unfold post targetOf
  rcases parsed : Url.parse (sender.baseUrl ++ path) with _ | url
  · rw [parsed] at sendable
    cases sendable
  rw [parsed, Except.toOption, Option.any_some] at sendable
  dsimp only
  rw [sendable]
  rfl

theorem post_complete (addressed : sender.HasAddress) (complete : collector.IsComplete)
    {path : String} (known : path ∈ ["/collect", "/batch"]) (body : String) :
    sender.post path body collector =
      ((collector.responseTo 0).outcome, collector.after [sender.requestTo path body]) := by
  rw [addressed.post_eq known, Collector.receive_complete complete]
  rfl

theorem sendGroup_eq (sender : HttpSender) (collector : Collector) (calendar : Calendar)
    (group : List QueuedHit) :
    sender.sendGroup calendar group collector =
      let parts := requestParts (sender.payloads calendar group)
      let run := sender.policy.run (sender.post parts.1 parts.2) collector
      ⟨run.result.answer (sender.policy.breakdownMessage (run.calls - 1)), run.state,
        calendar.after group.length, run.log⟩ := by
  unfold sendGroup payloads
  rw [encode_eq]
  dsimp only
  generalize sender.policy.run (sender.post _ _) collector = run
  rfl

end HttpSender

end Telemetry
