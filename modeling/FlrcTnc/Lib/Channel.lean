import Mathlib.Data.List.Basic

/-! Channels that hold what was sent and did not arrive yet, oldest first.  Neither kind corrupts or
invents anything. -/

/-- What a channel may do to the messages in it. -/
inductive Channel
  /-- Messages arrive at most once and in order; any of them may be lost. -/
  | fifo
  /-- Any message may arrive at any time, any number of times, or never. -/
  | any
  deriving DecidableEq, Repr

namespace Channel

variable {α : Type*}

/-- A message arrives, with what is in the channel then; `k` chooses it where there is a choice. -/
def take : Channel → List α → Nat → Option (α × List α)
  | fifo, [], _ => none
  | fifo, message :: rest, _ => some (message, rest)
  | any, messages, k => messages[k]?.map fun message => (message, messages)

/-- Message `k` is lost. -/
def lose (messages : List α) (k : Nat) : List α := messages.eraseIdx k

theorem take_sound {channel : Channel} {messages rest : List α} {k : Nat} {message : α}
    (h : channel.take messages k = some (message, rest)) :
    message ∈ messages ∧ rest.Sublist messages := by
  cases channel with
  | fifo =>
    cases messages with
    | nil => cases h
    | cons head tail =>
      cases h
      exact ⟨List.mem_cons_self .., List.sublist_cons_self ..⟩
  | any =>
    obtain ⟨found, hfound, heq⟩ := Option.map_eq_some_iff.mp h
    cases heq
    exact ⟨List.mem_of_getElem? hfound, List.Sublist.refl _⟩

theorem lose_sublist (messages : List α) (k : Nat) : (lose messages k).Sublist messages :=
  List.eraseIdx_sublist ..

end Channel
