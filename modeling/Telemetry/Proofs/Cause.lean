import Telemetry.Cause

/-! The cause of an error and its deepest source. They are the same unless an error on the way holds
its source in place: the two have one address, and the search takes the first for its own source. -/

namespace Telemetry.ErrorChain

def links : ErrorChain → List ErrorChain
  | root message => [root message]
  | selfCaused message => [selfCaused message]
  | causedBy message placement source => causedBy message placement source :: source.links

def isSelfCaused : ErrorChain → Bool
  | selfCaused _ => true
  | _ => false

def holdsInPlace : ErrorChain → Bool
  | causedBy _ .inPlace _ => true
  | _ => false

/-- The first error that is its own source, or the last one if there is none. -/
def deepest (error : ErrorChain) : ErrorChain :=
  (error.links.find? isSelfCaused).getD (error.links.getLastD error)

variable {error : ErrorChain}

theorem links_eq_cons (error : ErrorChain) : ∃ others, error.links = error :: others := by
  cases error with
  | root message => exact ⟨[], rfl⟩
  | selfCaused message => exact ⟨[], rfl⟩
  | causedBy message placement source => exact ⟨source.links, rfl⟩

theorem deepest_causedBy (message : String) (placement : Placement) (source : ErrorChain) :
    (causedBy message placement source).deepest = source.deepest := by
  obtain ⟨others, split⟩ := links_eq_cons source
  have last : (causedBy message placement source).links.getLastD
      (causedBy message placement source) = source.links.getLastD source := by
    rw [links, split, List.getLastD_cons, List.getLastD_cons, List.getLastD_cons]
  unfold deepest
  rw [last, links, List.find?_cons_of_neg (by exact Bool.false_ne_true)]

theorem holdsInPlace_deepest (error : ErrorChain) : error.deepest.holdsInPlace = false := by
  induction error with
  | root message => rfl
  | selfCaused message => rfl
  | causedBy message placement source ih => rw [deepest_causedBy, ih]

/-- The addresses of an error and its sources. An error that is its own source has one address. -/
inductive IsLayout : ErrorChain → List Nat → Prop where
  | root (message : String) (address : Nat) : IsLayout (.root message) [address]
  | selfCaused (message : String) (address : Nat) : IsLayout (.selfCaused message) [address]
  | apart (message : String) {own next : Nat} {rest : List Nat} {source : ErrorChain}
      (elsewhere : next ≠ own) (laid : IsLayout source (next :: rest)) :
      IsLayout (.causedBy message .apart source) (own :: next :: rest)
  | inPlace (message : String) {own : Nat} {rest : List Nat} {source : ErrorChain}
      (laid : IsLayout source (own :: rest)) :
      IsLayout (.causedBy message .inPlace source) (own :: own :: rest)

def walk : ErrorChain → List Nat → ErrorChain
  | causedBy message placement source, own :: next :: rest =>
      if next = own then causedBy message placement source else source.walk (next :: rest)
  | error, _ => error

theorem rootCause_eq_walk {addresses : List Nat} (laid : IsLayout error addresses) :
    error.rootCause = error.walk addresses := by
  induction laid with
  | root message address => rfl
  | selfCaused message address => rfl
  | apart message elsewhere laid ih => rw [walk, if_neg elsewhere, ← ih, rootCause]
  | inPlace message laid ih => rw [walk, if_pos rfl, rootCause]

/-- The search ends at the first error that holds its source in place, or at the deepest source. -/
theorem rootCause_eq (error : ErrorChain) :
    error.rootCause = (error.links.find? holdsInPlace).getD error.deepest := by
  induction error with
  | root message => rfl
  | selfCaused message => rfl
  | causedBy message placement source ih =>
      cases placement with
      | apart =>
          rw [rootCause, ih, deepest_causedBy, links,
            List.find?_cons_of_neg (by exact Bool.false_ne_true)]
      | inPlace => rfl

theorem rootCause_eq_deepest :
    error.rootCause = error.deepest ↔ ∀ link ∈ error.links, link.holdsInPlace = false := by
  rw [rootCause_eq]
  cases found : error.links.find? holdsInPlace with
  | none =>
      refine iff_of_true rfl ?_
      intro link among
      exact Bool.eq_false_iff.mpr (List.find?_eq_none.mp found link among)
  | some holder =>
      have holds : holder.holdsInPlace = true := List.find?_some found
      refine iff_of_false ?_ ?_
      · intro same
        have impossible := holdsInPlace_deepest error
        rw [← same, Option.getD_some, holds] at impossible
        cases impossible
      · intro nowhere
        rw [nowhere holder (List.mem_of_find?_eq_some found)] at holds
        cases holds

/-- However an error and its sources are laid out, the search compares addresses. It comes to the
deepest source just when no error on the way holds its source in place; otherwise it ends at the
first that does, and the description is right only if both have the same message. -/
theorem describe_deepest_iff (error : ErrorChain) :
    (∀ addresses, IsLayout error addresses → error.rootCause = error.walk addresses) ∧
      (error.rootCause = error.deepest ↔ ∀ link ∈ error.links, link.holdsInPlace = false) ∧
      (error.describe = error.deepest.message ↔
        ∀ holder, error.links.find? holdsInPlace = some holder →
          holder.message = error.deepest.message) ∧
      ∀ holder, error.links.find? holdsInPlace = some holder → error.describe = holder.message := by
  unfold describe
  refine ⟨fun _ => rootCause_eq_walk, rootCause_eq_deepest, ?_, ?_⟩
  · rw [rootCause_eq]
    cases error.links.find? holdsInPlace with
    | none => exact iff_of_true rfl fun _ impossible => absurd impossible.symm (Option.some_ne_none _)
    | some first =>
        constructor
        · intro same holder found
          rw [← Option.some.inj found]
          exact same
        · intro same
          exact same first rfl
  · intro holder found
    rw [rootCause_eq, found, Option.getD_some]

/-- An error whose source lies elsewhere, and holds its own source in place. -/
def wrappedError : ErrorChain :=
  .causedBy "sync failed" .apart
    (.causedBy "request failed" .inPlace (.selfCaused "connection reset"))

theorem describe_deepest_iff_wrapped :
    wrappedError.walk [5, 9, 9] = .causedBy "request failed" .inPlace
        (.selfCaused "connection reset") ∧
      wrappedError.rootCause = wrappedError.walk [5, 9, 9] ∧
      wrappedError.describe = "request failed" ∧
      wrappedError.describe ≠ wrappedError.deepest.message := by
  obtain ⟨walks, _, right, first⟩ := describe_deepest_iff wrappedError
  refine ⟨rfl, ?_, first _ rfl, ?_⟩
  · exact walks _ (.apart _ (by decide) (.inPlace _ (.selfCaused _ 9)))
  · intro same
    exact absurd (right.mp same _ rfl) (by decide)

theorem inPlace_source_missed :
    (causedBy "request failed" .inPlace (root "connection reset")).describe = "request failed" ∧
      (causedBy "request failed" .inPlace (root "connection reset")).deepest.message =
        "connection reset" :=
  ⟨rfl, rfl⟩

end Telemetry.ErrorChain
