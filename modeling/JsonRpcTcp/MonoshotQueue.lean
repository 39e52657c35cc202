import JsonRpcTcp.Lib.Reach

namespace JsonRpcTcp
open Function

/-- Program points of a thread that calls `chain_put` and then `wakeup_thread`. -/
inductive ProducerPc where
  | outside
  | waking
  deriving DecidableEq, Repr

/-- Program points of a thread of type `THREAD_TYPE_MONOSHOT` whose callback begins
with `chain_get`. -/
inductive ConsumerPc where
  | waiting
  | woken
  | working
  deriving DecidableEq, Repr

/-- A chain with the thread that empties it, one element for each wakeup, and the
threads `ι` that fill it. -/
structure MonoshotQueue (ι α : Type) where
  producers : ι → ProducerPc
  consumer : ConsumerPc
  chain : List α
  sema : Nat

inductive QueueAction (ι α : Type) where
  | chainPut (producer : ι) (element : α)
  | wakeup (producer : ι)
  | semWait
  | interrupted
  | chainGet
  | callbackReturns

/-- The token that the consumer took from the semaphore for an element that is
still in the chain. -/
def ConsumerPc.token : ConsumerPc → Nat
  | .woken => 1
  | _ => 0

namespace MonoshotQueue
variable {ι α : Type}

def start : MonoshotQueue ι α where
  producers := fun _ => .outside
  consumer := .waiting
  chain := []
  sema := 0

/-- `chain_put` and `wakeup_thread` of a producer, and `my_thread_func` with a
callback that takes one element. There is no request to stop. -/
def step [DecidableEq ι] (q : MonoshotQueue ι α) : QueueAction ι α → Option (MonoshotQueue ι α)
  | .chainPut producer element => onlyIf (q.producers producer = .outside)
      { q with producers := update q.producers producer .waking, chain := q.chain ++ [element] }
  | .wakeup producer => onlyIf (q.producers producer = .waking)
      { q with producers := update q.producers producer .outside, sema := q.sema + 1 }
  | .semWait => onlyIf (q.consumer = .waiting ∧ 0 < q.sema) { q with consumer := .woken, sema := q.sema - 1 }
  | .interrupted => onlyIf (q.consumer = .waiting) q
  | .chainGet =>
    match q.chain with
    -- the callback returns at once
    | [] => onlyIf (q.consumer = .woken) { q with consumer := .waiting }
    | _ :: rest => onlyIf (q.consumer = .woken) { q with consumer := .working, chain := rest }
  | .callbackReturns => onlyIf (q.consumer = .working) { q with consumer := .waiting }

/-- The producers between their `chain_put` and their `wakeup_thread`. -/
def between [Fintype ι] (q : MonoshotQueue ι α) : Finset ι := {producer | q.producers producer = .waking}

/-- Every element has its token: in the semaphore, on its way there, or in the
hands of the consumer. -/
structure Balanced [Fintype ι] (q : MonoshotQueue ι α) : Prop where
  length : q.chain.length = q.sema + q.between.card + q.consumer.token
  found : q.consumer = .woken → q.chain ≠ []
  drained : q.consumer = .waiting → q.sema = 0 → q.between = ∅ → q.chain = []

variable [Fintype ι]

/-- The counting equation is the whole of it. -/
theorem Balanced.of_length {q : MonoshotQueue ι α}
    (length : q.chain.length = q.sema + q.between.card + q.consumer.token) : q.Balanced where
  length := length
  found := by
    intro here
    rw [here] at length
    have positive : 0 < q.chain.length := by
      simp only [ConsumerPc.token] at length
      omega
    exact List.ne_nil_of_length_pos positive
  drained := by
    intro here none nobody
    rw [here, none, nobody] at length
    exact List.length_eq_zero_iff.mp length

variable [DecidableEq ι]

theorem between_wait {q : MonoshotQueue ι α} {producer : ι} (here : q.producers producer = .outside) :
    (Finset.univ.filter fun other => update q.producers producer .waking other = .waking).card = q.between.card + 1 := by
  have added : (Finset.univ.filter fun other => update q.producers producer .waking other = .waking) =
      insert producer q.between := by
    ext other
    rcases eq_or_ne other producer with rfl | different
    · simp
    · simp [between, different]
  have absent : producer ∉ q.between := by simp [between, here]
  rw [added, Finset.card_insert_of_notMem absent]

theorem between_wake {q : MonoshotQueue ι α} {producer : ι} (here : q.producers producer = .waking) :
    (Finset.univ.filter fun other => update q.producers producer .outside other = .waking).card + 1 =
      q.between.card := by
  have removed : (Finset.univ.filter fun other => update q.producers producer .outside other = .waking) =
      q.between.erase producer := by
    ext other
    rcases eq_or_ne other producer with rfl | different
    · simp
    · simp [between, different]
  have present : producer ∈ q.between := by simp [between, here]
  rw [removed, Finset.card_erase_add_one present]

theorem balanced_step {q r : MonoshotQueue ι α} {action : QueueAction ι α} (balanced : q.Balanced)
    (run : q.step action = some r) : r.Balanced := by
  have length := balanced.length
  apply Balanced.of_length
  cases action with
  | chainPut producer element =>
    obtain ⟨here, rfl⟩ := onlyIf_eq_some.mp run
    have more := between_wait here
    simp only [between, List.length_append, List.length_singleton] at more length ⊢
    omega
  | wakeup producer =>
    obtain ⟨here, rfl⟩ := onlyIf_eq_some.mp run
    have fewer := between_wake here
    simp only [between] at fewer length ⊢
    omega
  | semWait =>
    obtain ⟨⟨here, posted⟩, rfl⟩ := onlyIf_eq_some.mp run
    simp only [between, here, ConsumerPc.token] at length ⊢
    omega
  | interrupted =>
    obtain ⟨_, rfl⟩ := onlyIf_eq_some.mp run
    exact length
  | chainGet =>
    simp only [step] at run
    split at run
    case h_1 empty =>
      -- a woken consumer finds an element
      obtain ⟨here, rfl⟩ := onlyIf_eq_some.mp run
      exact absurd empty (balanced.found here)
    case h_2 element rest queue =>
      obtain ⟨here, rfl⟩ := onlyIf_eq_some.mp run
      simp only [between, here, queue, ConsumerPc.token, List.length_cons] at length ⊢
      omega
  | callbackReturns =>
    obtain ⟨here, rfl⟩ := onlyIf_eq_some.mp run
    simp only [between, here, ConsumerPc.token] at length ⊢
    exact length

theorem reach_balanced {q : MonoshotQueue ι α} {allow : MonoshotQueue ι α → QueueAction ι α → Prop}
    (reach : Reach step allow start q) : q.Balanced := by
  have initial : (start : MonoshotQueue ι α).Balanced :=
    Balanced.of_length (by simp [start, between, ConsumerPc.token])
  exact reach.invariant initial fun _ _ _ balanced _ run => balanced_step balanced run

end MonoshotQueue
end JsonRpcTcp
